import Admission.Form.Error
import Admission.Job.Queue
import Admission.Session.Registry

/-!
# Refusals

A refused request is answered with a status, an error code for programs, a message for people, and
the field at fault if there is one.
-/

namespace Admission

/-- The error codes that programs see. -/
inductive ErrorCode where
  | invalidInput
  | unauthorized
  | notFound
  | conflict
  | internal
  deriving DecidableEq, Repr

namespace ErrorCode

/-- Every code. -/
def all : List ErrorCode := [.invalidInput, .unauthorized, .notFound, .conflict, .internal]

/-- The name in records. -/
def name : ErrorCode → String
  | .invalidInput => "invalid_input"
  | .unauthorized => "unauthorized"
  | .notFound => "not_found"
  | .conflict => "conflict"
  | .internal => "internal"

end ErrorCode

/-- The body of an answer that refuses. -/
structure ErrorBody where
  error : ErrorCode
  message : String
  field : Option String
  deriving DecidableEq, Repr

/-- Why a request is refused. -/
inductive Refusal where
  | form (error : FormError)
  | unauthorized (reason : String)
  | notFound (what : String)
  | conflict (what : String)
  | tooLarge (reason : String)
  | internal (reason : String)
  deriving DecidableEq, Repr

namespace Refusal

/-- The status of the answer. -/
def status : Refusal → Nat
  | .form _ => 400
  | .unauthorized _ => 401
  | .notFound _ => 404
  | .conflict _ => 409
  | .tooLarge _ => 413
  | .internal _ => 500

/-- The error code of the answer. -/
def code : Refusal → ErrorCode
  | .form _ => .invalidInput
  | .unauthorized _ => .unauthorized
  | .notFound _ => .notFound
  | .conflict _ => .conflict
  | .tooLarge _ => .invalidInput
  | .internal _ => .internal

/-- The wording. -/
def message : Refusal → String
  | .form error => error.message
  | .unauthorized reason => "unauthorized: " ++ reason
  | .notFound what => "not found: " ++ what
  | .conflict what => "conflict: " ++ what
  | .tooLarge reason => "request body too large: " ++ reason
  | .internal reason => "internal error: " ++ reason

/-- The field at fault. -/
def field? : Refusal → Option String
  | .form error => error.field?
  | _ => none

/-- The body of the answer. -/
def body (r : Refusal) : ErrorBody := ⟨r.code, r.message, r.field?⟩

/-- A refusal by the queue. -/
def ofQueueError (e : QueueError) : Refusal :=
  match e with
  | .duplicateId _ => .conflict e.message
  | .notFound _ => .notFound e.message
  | .invalidTransition _ _ _ => .internal e.message

/-- A refusal by the registry. -/
def ofRegistryError (e : RegistryError) : Refusal := .conflict e.message

end Refusal

end Admission
