import Admission.Client.Reply
import Admission.Proofs.Http.Layers
import Admission.Proofs.Wire

/-!
# What the client makes of an answer

Every answer of the service to a command is one value as JSON, under a status of success, or a
refusal, whose body is JSON too.  The client reads both by the codecs that the service writes them
with, so nothing in a text, a number or a time can get in between: a value is read as itself, and a
refusal as its status, its message and its field, never as a body that is shown because it could not
be read.

## Main results

* `read_json`, `read_refuse`: the two kinds of answers, with any codec.
* `client_reads_every_answer`: what is told of each refusal, and what is read of each value.
-/

namespace Admission

/-- The status that a refusal is answered with, and what it is called. -/
def Refusal.statusLine : Refusal → String
  | .form _ => "400 Bad Request"
  | .unauthorized _ => "401 Unauthorized"
  | .notFound _ => "404 Not Found"
  | .conflict _ => "409 Conflict"
  | .tooLarge _ => "413 Payload Too Large"
  | .internal _ => "500 Internal Server Error"

/-- The field that is told behind a refusal: there is one only for a fault of a form, and only if
the fault is that of a field. -/
def Refusal.fieldMark : Refusal → String
  | .form e =>
    match e.field? with
    | some field => " (" ++ field ++ ")"
    | none => ""
  | _ => ""

namespace Client

open Admission.Http Admission.Json Admission.Text

variable {α : Type} {c : Codec α} {config : Config}

/-- A value in an answer of success is read as itself. -/
theorem read_json (hc : c.IsLawful) {status : Nat} (hSuccess : isSuccess status = true) (a : α) :
    Reply.read c (.ofResponse ((Response.json status c a).shown config)) = .ok a := by
  rw [Reply.read, Reply.ofResponse]
  simp only [status_shown, body_shown]
  show (if isSuccess status then (c.decodeBytes (utf8 (c.encode a))).mapError _ else _) = _
  rw [if_pos hSuccess, hc.decodeBytes_encode]
  rfl

theorem not_isSuccess_refusal (refusal : Refusal) : isSuccess refusal.status = false := by
  cases refusal <;> rfl

/-- A refusal is read as its status and its body, whatever the client asked for. -/
theorem read_refuse (c : Codec α) (refusal : Refusal) :
    Reply.read c (.ofResponse ((Response.refuse refusal).shown config)) =
      .error (.refused refusal.status refusal.body) := by
  have hBody : ErrorBody.codec.decodeBytes (utf8 (Response.refuse refusal).body) =
      .ok refusal.body :=
    ErrorBody.isLawful_codec.decodeBytes_encode _
  simp only [Reply.read, Reply.failure, Reply.ofResponse, status_shown, body_shown, status_refuse,
    not_isSuccess_refusal, hBody, Bool.false_eq_true, if_false]

theorem statusText_refusal (refusal : Refusal) :
    statusText refusal.status = refusal.statusLine := by
  have hForm : statusText 400 = "400 Bad Request" := by decide +kernel
  have hUnauthorized : statusText 401 = "401 Unauthorized" := by decide +kernel
  have hNotFound : statusText 404 = "404 Not Found" := by decide +kernel
  have hConflict : statusText 409 = "409 Conflict" := by decide +kernel
  have hTooLarge : statusText 413 = "413 Payload Too Large" := by decide +kernel
  have hInternal : statusText 500 = "500 Internal Server Error" := by decide +kernel
  cases refusal with
  | form _ => exact hForm
  | unauthorized _ => exact hUnauthorized
  | notFound _ => exact hNotFound
  | conflict _ => exact hConflict
  | tooLarge _ => exact hTooLarge
  | internal _ => exact hInternal

theorem message_eq_of_refused (status : Nat) (body : ErrorBody) :
    (Failure.refused status body).message =
      statusText status ++ ": " ++ body.message ++ (match body.field with
        | none => ""
        | some field => " (" ++ field ++ ")") := rfl

/-- What the client tells of a refusal. -/
theorem message_refused (refusal : Refusal) :
    (Failure.refused refusal.status refusal.body).message =
      refusal.statusLine ++ ": " ++ refusal.message ++ refusal.fieldMark := by
  have hMark : (match refusal.field? with
      | none => ""
      | some field => " (" ++ field ++ ")") = refusal.fieldMark := by
    cases refusal with
    | form e =>
        simp only [Refusal.field?, Refusal.fieldMark]
        cases e.field? <;> rfl
    | _ => rfl
  rw [message_eq_of_refused, statusText_refusal]
  exact congrArg (refusal.statusLine ++ ": " ++ refusal.message ++ ·) hMark

/-- **The client reads every answer.**  Whatever the configuration of the service: of each refusal,
with any texts and numbers in it, the client tells the status with its name, the message, and the
field in brackets if a field of a form is at fault, and it understands the body whatever it hoped to
read there.  Each answer to an admission and each view, with any texts and times in it, is read as
the value that it is. -/
theorem client_reads_every_answer (config : Config) :
    (∀ (α : Type) (c : Codec α) (refusal : Refusal), ∃ failure,
      Reply.read c (.ofResponse ((Response.refuse refusal).shown config)) = .error failure ∧
      (∀ status text, failure ≠ .refusedWith status text) ∧
      failure.message = refusal.statusLine ++ ": " ++ refusal.message ++ refusal.fieldMark) ∧
    (∀ accepted : JobAccepted, Reply.read JobAccepted.codec (.ofResponse
      ((Response.json 202 JobAccepted.codec accepted).shown config)) = .ok accepted) ∧
    (∀ view : JobView, Reply.read JobView.codec (.ofResponse
      ((Response.json 200 JobView.codec view).shown config)) = .ok view) ∧
    (∀ created : SessionCreated, Reply.read SessionCreated.codec (.ofResponse
      ((Response.json 201 SessionCreated.codec created).shown config)) = .ok created) ∧
    ∀ view : SessionView, Reply.read SessionView.codec (.ofResponse
      ((Response.json 200 SessionView.codec view).shown config)) = .ok view := by
  refine ⟨?_, ?_, ?_, ?_, ?_⟩
  · intro α c refusal
    refine ⟨_, read_refuse c refusal, ?_, message_refused refusal⟩
    intro status text h
    cases h
  · exact read_json JobAccepted.isLawful_codec rfl
  · exact read_json JobView.isLawful_codec rfl
  · exact read_json SessionCreated.isLawful_codec rfl
  · exact read_json SessionView.isLawful_codec rfl

end Client

end Admission
