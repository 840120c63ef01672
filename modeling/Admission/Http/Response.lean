import Admission.Wire.Answer

/-!
# Responses

A response has a status, headers and a text for its body.  Its length is no header here: the server
adds one that tells how long the body is, or was where an answer to `HEAD` goes without it.
-/

namespace Admission.Http

open Admission.Json

/-- A response. -/
structure Response where
  status : Nat
  headers : List (String × String)
  body : String
  deriving DecidableEq, Repr

namespace Response

/-- A response without a body. -/
def empty (status : Nat) : Response := ⟨status, [], ""⟩

/-- A response with a text. -/
def plain (status : Nat) (body : String) : Response :=
  ⟨status, [("content-type", "text/plain; charset=utf-8")], body⟩

/-- A response with a value as JSON. -/
def json {α : Type} (status : Nat) (c : Codec α) (a : α) : Response :=
  ⟨status, [("content-type", "application/json")], c.encode a⟩

/-- The response that refuses. -/
def refuse (r : Refusal) : Response := json r.status ErrorBody.codec r.body

/-- A response with one more header. -/
def addHeader (name value : String) (r : Response) : Response :=
  { r with headers := r.headers ++ [(name, value)] }

/-- A response without its body. -/
def dropBody (r : Response) : Response := { r with body := "" }

end Response

end Admission.Http
