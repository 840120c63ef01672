import Admission.Http.Request
import Admission.Text.Blank

/-!
# The bearer gate

Where a token is configured, callers present it in an `Authorization` header: `Bearer ` and the
token, which may have blanks around it.
-/

namespace Admission.Http

open Admission.Text

/-- Why the gate turns a caller away. -/
inductive GateError where
  | missingHeader
  | notAscii
  | notBearer
  | emptyToken
  | wrongToken
  deriving DecidableEq, Repr

/-- The reason as callers see it. -/
def GateError.reason : GateError → String
  | .missingHeader => "missing authorization header"
  | .notAscii => "authorization header is not valid ascii"
  | .notBearer => "missing bearer prefix"
  | .emptyToken => "empty bearer token"
  | .wrongToken => "invalid bearer token"

/-- What stands before a token, with the blank that parts the two. -/
def bearerScheme : List Char := ['B', 'e', 'a', 'r', 'e', 'r', ' ']

/-- The token of a header. -/
def bearerToken : Option String → Except GateError String
  | none => .error .missingHeader
  | some header =>
    if bearerScheme.isPrefixOf header.toList then
      let token := trim (String.ofList (header.toList.drop bearerScheme.length))
      if token.isEmpty then .error .emptyToken else .ok token
    else .error .notBearer

/-- The text of a header value, which must be ASCII. -/
def authorizationText : Option (List UInt8) → Except GateError (Option String)
  | none => .ok none
  | some value =>
    match asciiChars? value with
    | some cs => .ok (some (String.ofList cs))
    | none => .error .notAscii

/-- Let a caller through who presents the expected token. -/
def authorize (expected : String) (header : Option (List UInt8)) : Except GateError Unit := do
  let token ← bearerToken (← authorizationText header)
  if token = expected then return else throw .wrongToken

/-- The gate; it stands open if no token is expected. -/
def passGate (expected : Option String) (r : Request) : Except GateError Unit :=
  match expected with
  | none => .ok ()
  | some token => authorize token (r.header? "authorization")

end Admission.Http
