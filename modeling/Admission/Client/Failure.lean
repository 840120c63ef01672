import Admission.Http.Status
import Admission.Service.Refusal

/-!
# Why the client fails

A file may not be readable, a request may not be built or not be sent, and the service may refuse or
send back what cannot be understood.
-/

namespace Admission.Client

open Admission.Http

/-- Why a command fails. -/
inductive Failure where
  | unreadable (path : String)
  /-- The request cannot be built; the address is known if it is one. -/
  | unbuildable (url : Option String)
  | unsent (url : String)
  | refused (status : Nat) (body : ErrorBody)
  /-- The service refuses, and does not say why in a way that can be understood. -/
  | refusedWith (status : Nat) (text : String)
  | undecodable
  deriving DecidableEq, Repr

/-- The address at the end of a message. -/
def forUrl (url : String) : String := " for url (" ++ url ++ ")"

/-- The wording of a failure. -/
def Failure.message : Failure → String
  | .unreadable path => "read " ++ path
  | .unbuildable none => "builder error"
  | .unbuildable (some url) => "builder error" ++ forUrl url
  | .unsent url => "error sending request" ++ forUrl url
  | .refused status body =>
    statusText status ++ ": " ++ body.message ++ (match body.field with
      | none => ""
      | some field => " (" ++ field ++ ")")
  | .refusedWith status text => statusText status ++ ": " ++ text
  | .undecodable => "decode response"

end Admission.Client
