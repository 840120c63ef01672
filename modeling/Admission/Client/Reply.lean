import Admission.Client.Failure
import Admission.Http.Response
import Admission.Text.Repaired

/-!
# Replies

A reply that tells of success holds a value.  Any other holds the reason of the refusal, or else is
shown as it is.
-/

namespace Admission.Client

open Admission.Http Admission.Json Admission.Text

/-- What comes back from the service. -/
structure Reply where
  status : Nat
  body : List UInt8
  deriving DecidableEq, Repr

namespace Reply

/-- A response as it comes back. -/
def ofResponse (r : Response) : Reply := ⟨r.status, utf8 r.body⟩

/-- Why a reply without success was given. -/
def failure (r : Reply) : Failure :=
  match ErrorBody.codec.decodeBytes r.body with
  | .ok body => .refused r.status body
  | .error _ => .refusedWith r.status (repaired r.body)

/-- The value in a reply. -/
def read {α : Type} (c : Codec α) (r : Reply) : Except Failure α :=
  if isSuccess r.status then (c.decodeBytes r.body).mapError fun _ => .undecodable
  else .error r.failure

/-- The value in a reply, as it is shown. -/
def show? {α : Type} (c : Codec α) (r : Reply) : Except Failure String :=
  (r.read c).map fun a => c.encodePretty a ++ "\n"

end Reply

end Admission.Client
