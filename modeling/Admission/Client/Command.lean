import Admission.Cli.Options
import Admission.Principal
import Admission.Text.Decimal

/-!
# The command line of the client

The client takes an address and a token, then the name of a command and what the command takes.

* `submit-job` takes a principal, a language, and code or a file that holds it.
* `create-session` takes a principal and a lifetime.
* `get-job` and `get-session` take an id.

The first two take an id too, if the caller wants to choose it.
-/

namespace Admission.Client

open Admission.Cli Admission.Text

/-- Where the code of a job is. -/
inductive Source where
  | inline (code : String)
  | file (path : String)
  deriving DecidableEq, Repr

/-- What the client is to do. -/
inductive Command where
  | submitJob (id : Option String) (principal : Principal) (language : String) (source : Source)
  | createSession (id : Option String) (principal : Principal) (ttlSeconds : Int64)
  | getJob (id : String)
  | getSession (id : String)
  deriving DecidableEq, Repr

/-- What the client is to do, where, and with which token. -/
structure Invocation where
  base : String
  token : Option String
  command : Command
  deriving DecidableEq, Repr

/-! ## Options -/

/-- The address of the service. -/
def urlParam : Param String := ⟨"url", some "CONTROL_PLANE_URL", .ok⟩

/-- The address of a service that was started with no option. -/
def defaultUrl : String := "http://127.0.0.1:8080"

/-- The token, if the service was started with one. -/
def tokenParam : Param String := ⟨"token", some "CONTROL_PLANE_TOKEN", .ok⟩

/-- The id of a job or a session. -/
def idParam : Param String := textParam "id"

/-- The tenant of a principal. -/
def tenantParam : Param String := textParam "tenant"

/-- The agent of a principal. -/
def agentParam : Param String := textParam "agent"

/-- The policy of a principal. -/
def policyParam : Param String := textParam "policy"

/-- The language of a job. -/
def languageParam : Param String := textParam "language"

/-- The code of a job. -/
def codeParam : Param String := textParam "code"

/-- A file with the code of a job. -/
def fileParam : Param String := textParam "file"

/-- A signed number of 64 bits. -/
def readSigned (s : String) : Except String Int64 :=
  (readBounded (-0x8000000000000000) 0x7FFFFFFFFFFFFFFF s).map Int64.ofInt

/-- The lifetime of a session in seconds. -/
def ttlParam : Param Int64 := ⟨"ttl-seconds", none, readSigned⟩

/-! ## Commands -/

/-- The principal that is given. -/
def givenPrincipal (env : Environment) (given : Given) : Except Stop Principal := do
  return ⟨← tenantParam.required env given, ← agentParam.required env given,
    ← policyParam.required env given⟩

/-- Code and a file with it exclude each other. -/
def excludeSources (given : Given) : Except Stop Unit :=
  match (given.lookup codeParam.name).isSome, (given.lookup fileParam.name).isSome with
  | true, true =>
    let first := given.reverse.find? fun g => g.1 = codeParam.name ∨ g.1 = fileParam.name
    if first.any fun g => g.1 = codeParam.name then
      .error (.usage (.conflict codeParam.opt.text fileParam.opt.text))
    else .error (.usage (.conflict fileParam.opt.text codeParam.opt.text))
  | _, _ => .ok ()

/-- The one source that is given. -/
def givenSource (env : Environment) (given : Given) : Except Stop Source := do
  match ← codeParam.value env given with
  | some code => return .inline code
  | none => return .file (← fileParam.required env given)

/-- The names of the commands. -/
inductive CommandName where
  | submitJob
  | createSession
  | getJob
  | getSession
  deriving DecidableEq, Repr

namespace CommandName

/-- Every name. -/
def all : List CommandName := [.submitJob, .createSession, .getJob, .getSession]

/-- The written form. -/
def text : CommandName → String
  | .submitJob => "submit-job"
  | .createSession => "create-session"
  | .getJob => "get-job"
  | .getSession => "get-session"

/-- The name with a written form. -/
def ofText? (s : String) : Option CommandName := all.find? fun n => n.text == s

/-- What a command takes. -/
def spec : CommandName → Spec
  | .submitJob => ⟨[tenantParam.opt, agentParam.opt, policyParam.opt, languageParam.opt,
      codeParam.opt, fileParam.opt, idParam.opt, helpOpt], []⟩
  | .createSession => ⟨[tenantParam.opt, agentParam.opt, policyParam.opt, ttlParam.opt,
      idParam.opt, helpOpt], []⟩
  | .getJob => ⟨[idParam.opt, helpOpt], []⟩
  | .getSession => ⟨[idParam.opt, helpOpt], []⟩

/-- The command with the options that are given. -/
def command (env : Environment) (given : Given) : CommandName → Except Stop Command
  | .submitJob => do
    excludeSources given
    return .submitJob (← idParam.value env given) (← givenPrincipal env given)
      (← languageParam.required env given) (← givenSource env given)
  | .createSession => do
    return .createSession (← idParam.value env given) (← givenPrincipal env given)
      (← ttlParam.required env given)
  | .getJob => do return .getJob (← idParam.required env given)
  | .getSession => do return .getSession (← idParam.required env given)

end CommandName

/-- The name of the client. -/
def programName : String := "controlplanectl"

/-- What stands before the name of a command. -/
def spec : Spec where
  options := [urlParam.opt, tokenParam.opt, helpOpt]
  commands := CommandName.all.map CommandName.text ++ ["help"]

/-- The answer to `help` with the names after it: help on the client, on a command, or on help.  No
command has commands of its own. -/
def stopAtHelp : List String → Stop
  | [] => .told
  | name :: names =>
    if name ∈ spec.commands then
      match names with
      | [] => .told
      | name :: _ => .usage (.unknownCommand name)
    else .usage (.unknownCommand name)

/-- The command of a command line, from its name on; `none` if nothing is left. -/
def Command.ofArgs (env : Environment) : List String → Except Stop (Option Command)
  | [] => .ok none
  | name :: args =>
    match CommandName.ofText? name with
    | none => .error (stopAtHelp args)
    | some name => do
      let (reading, _) ← name.spec.read .start args
      return some (← name.command env (← reading.settle))

/-- What a command line asks for. -/
def Invocation.ofArgs (args : List String) (env : Environment) : Except Stop Invocation := do
  let (reading, rest) ← spec.read .start args
  let command ← Command.ofArgs env rest
  let given ← reading.settle
  let base ← urlParam.value env given
  let token ← tokenParam.value env given
  match command with
  | some command => return ⟨base.getD defaultUrl, token, command⟩
  | none => throw (if base = none ∧ token = none then .idle else .usage (.noCommand programName))

end Admission.Client
