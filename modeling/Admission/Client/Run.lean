import Admission.Client.Call
import Admission.Client.Command
import Admission.Client.Reply
import Admission.Wire.Answer

/-!
# Running the client

The client reads its command line, reads the file if the code is in one, sends one message and shows
what comes back.  How files are read and how messages are sent is left open, so that the same client
runs over a network and against a control plane at hand.
-/

namespace Admission.Client

open Admission.Cli Admission.Text

variable {m : Type → Type} [Monad m]

/-- The request for a job. -/
def jobForm (id : Option String) (principal : Principal) (language code : String) : JobForm :=
  ⟨id, some principal.tenantId, some principal.agentId, some principal.policyId, some language,
    some code⟩

/-- The request for a session. -/
def sessionForm (id : Option String) (principal : Principal) (ttlSeconds : Int64) : SessionForm :=
  ⟨id, some principal.tenantId, some principal.agentId, some principal.policyId, some ttlSeconds⟩

/-- The code of a job; a file must hold a text. -/
def Source.load (readFile : String → m (Option (List UInt8))) : Source → m (Except Failure String)
  | .inline code => return .ok code
  | .file path => do
    match (← readFile path).bind text? with
    | some code => return .ok code
    | none => return .error (.unreadable path)

namespace Command

/-- The call that carries out a command. -/
def call (readFile : String → m (Option (List UInt8))) : Command → m (Except Failure Call)
  | .submitJob id principal language source => do
    return (← source.load readFile).map fun code =>
      .admitJob (jobForm id principal language code)
  | .createSession id principal ttlSeconds =>
    return .ok (.admitSession (sessionForm id principal ttlSeconds))
  | .getJob id => return .ok (.job id)
  | .getSession id => return .ok (.session id)

/-- What is shown of the reply to a command. -/
def shown (r : Reply) : Command → Except Failure String
  | .submitJob .. => r.show? JobAccepted.codec
  | .createSession .. => r.show? SessionCreated.codec
  | .getJob _ => r.show? JobView.codec
  | .getSession _ => r.show? SessionView.codec

end Command

/-- Do what is asked for: what is shown in the end. -/
def Invocation.run (readFile : String → m (Option (List UInt8)))
    (send : Message → m (Option Reply)) (i : Invocation) : m (Except Failure String) := do
  match ← i.command.call readFile with
  | .error f => return .error f
  | .ok call =>
    match Message.ofCall i.base i.token call with
    | .error f => return .error f
    | .ok message =>
      match ← send message with
      | none => return .error (.unsent message.url.text)
      | some reply => return i.command.shown reply

/-- What a run of the client comes to. -/
inductive Outcome where
  | stopped (stop : Stop)
  | failed (failure : Failure)
  | printed (text : String)
  deriving DecidableEq, Repr

/-- The exit code. -/
def Outcome.exitCode : Outcome → Nat
  | .stopped stop => stop.exitCode
  | .failed _ => 1
  | .printed _ => 0

/-- Run the client with a command line and an environment. -/
def run (readFile : String → m (Option (List UInt8))) (send : Message → m (Option Reply))
    (args : List String) (env : Environment) : m Outcome := do
  match Invocation.ofArgs args env with
  | .error stop => return .stopped stop
  | .ok i =>
    match ← i.run readFile send with
    | .error f => return .failed f
    | .ok text => return .printed text

end Admission.Client
