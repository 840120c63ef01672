import Admission.Client.Loopback

/-!
# Runs of the client

A run of the client whose command comes to a call goes through three steps more: the call is put to
the address, the message is sent as a request, and what is answered is shown.  Each of the first two
can fail, and then no store was touched.

## Main results

* `run_of_call`: what a run comes to, step by step.
-/

namespace Admission.Client

open Admission.Cli Admission.Http Admission.Time

variable {config : Config} {now : Instant} {fresh : String} {p : Plane}
  {readFile : String → StateM Plane (Option (List UInt8))}

/-- What a command comes to that has been given a reply. -/
def Command.outcomeOf (c : Command) (reply : Reply) : Outcome :=
  match c.shown reply with
  | .ok shown => .printed shown
  | .error f => .failed f

/-- Steps in a row, given what the first one comes to. -/
theorem bind_of_eq {σ α β : Type} {x : StateM σ α} {s s' : σ} {a : α} (h : x s = (a, s'))
    (f : α → StateM σ β) : (x >>= f) s = f a s' := by
  show f (x s).1 (x s).2 = f a s'
  rw [h]

/-- What is delivered of a message that no request can be made of, and of one that can. -/
theorem deliver_eq (config : Config) (now : Instant) (fresh : String) (message : Message)
    (p : Plane) :
    deliver config now fresh message p =
      match message.request? with
      | none => (none, p)
      | some r => (some (.ofResponse (answer config now fresh r p).1),
          (answer config now fresh r p).2) := rfl

/-- A run of the client whose command comes to a call: a message that may not be built, a request
that may not be sent, and the answer to it. -/
theorem run_of_call {args : List String} {env : Environment} {i : Invocation} {call : Call}
    (hArgs : Invocation.ofArgs args env = .ok i)
    (hCall : i.command.call readFile = pure (.ok call)) :
    run readFile (deliver config now fresh) args env p =
      match Message.ofCall i.base i.token call with
      | .error f => (.failed f, p)
      | .ok message =>
          match message.request? with
          | none => (.failed (.unsent message.url.text), p)
          | some r =>
              (i.command.outcomeOf (.ofResponse (answer config now fresh r p).1),
                (answer config now fresh r p).2) := by
  rw [run, hArgs]
  simp only [Invocation.run, hCall, pure_bind]
  cases hMessage : Message.ofCall i.base i.token call with
  | error f => rfl
  | ok message =>
      simp only [bind_assoc]
      have hSend := deliver_eq config now fresh message p
      cases hRequest : message.request? with
      | none =>
          rw [hRequest] at hSend
          rw [bind_of_eq hSend]
          rfl
      | some r =>
          rw [hRequest] at hSend
          rw [bind_of_eq hSend]
          simp only [pure_bind, Command.outcomeOf]
          cases i.command.shown (.ofResponse (answer config now fresh r p).1) with
          | error f => rfl
          | ok shown => rfl

end Admission.Client
