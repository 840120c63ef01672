import Admission.Daemon.LogFilter
import Admission.Daemon.Options

/-!
# Starting the daemon

The daemon reads its options, sets up its log, checks its configuration, says in the log what it is
about to do, and binds its address.  All but the last is decided here, and `outcome` tells what
comes of it, given which addresses can be bound.

A log filter can break the program off, which then says where in its own text it was.  What it says
is not known here, save that it is of the text of the filter.
-/

namespace Admission.Daemon

open Admission.Cli Admission.Net

/-- What the start comes to, up to the binding of the address. -/
inductive StartUp where
  | stopped (stop : Stop)
  /-- The text of a log filter breaks the program off. -/
  | brokenOff (filter : String)
  /-- The configuration is refused; first come remarks on the log filter. -/
  | refused (remarks : List String) (error : ConfigError)
  /-- The address is to be bound, after remarks on the log filter and with entries in the log. -/
  | ready (remarks log : List String) (config : Config)
  deriving DecidableEq, Repr

/-- The log filter: a good one from the environment, else what is good of the one in the options,
with remarks on what is not; or else the text that there is no going on with. -/
def logFilter (env : Environment) (log : String) : Except String (LogFilter × List String) :=
  let fromOptions :=
    match LogFilter.ofTextLossy? log with
    | some found => .ok found
    | none => .error log
  match env "RUST_LOG" with
  | none => fromOptions
  | some text =>
    match LogFilter.ofText text with
    | .ok f => .ok (f, [])
    | .error .torn => .error text
    | .error _ => fromOptions

/-- What the daemon says before it binds its address. -/
def announcements (config : Config) : List String :=
  ("INFO starting control plane with config: " ++ config.text) ::
    if config.authToken.isNone then ["INFO no auth token configured; /jobs and /sessions are open"]
    else []

/-- Start with a command line and an environment. -/
def startUp (args : List String) (env : Environment) : StartUp :=
  match Options.ofArgs args env with
  | .error stop => .stopped stop
  | .ok options =>
    match logFilter env options.log with
    | .error filter => .brokenOff filter
    | .ok (f, remarks) =>
      match options.config.validate with
      | .error e => .refused remarks e
      | .ok () =>
        .ready remarks (if f.admitsStart then announcements options.config else []) options.config

/-- What a program leaves behind. -/
structure Outcome where
  /-- The exit code; `none` while the program keeps running. -/
  exitCode : Option Nat
  /-- What it says of errors, without the cause. -/
  errors : List String
  cause : Option String
  log : List String
  deriving DecidableEq, Repr

/-- What comes of a start where some addresses can be bound, and a program that is broken off has
some last words. -/
def StartUp.outcome (canBind : SocketAddress → Bool) (lastWords : String → List String) :
    StartUp → Outcome
  | .stopped stop => ⟨some stop.exitCode, stop.line?.toList, none, []⟩
  | .brokenOff filter => ⟨some 101, lastWords filter, none, []⟩
  | .refused remarks e => ⟨some 1, remarks ++ ["Error: invalid configuration"], some e.message, []⟩
  | .ready remarks log config =>
    if canBind config.listen then ⟨none, remarks, none, log⟩
    else ⟨some 1, remarks ++ ["Error: binding " ++ config.listen.text], none, log⟩

end Admission.Daemon
