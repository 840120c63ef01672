import Admission.Client.Failure
import Admission.Http.Request
import Admission.Net.Url
import Admission.Wire.Request

/-!
# Calls

A call says what is asked of the service, whatever its address.  Put to an address it becomes a
message, or fails: the address must be a URL with a host, the token must be one that a header can
carry, and only HTTP will do.
-/

namespace Admission.Client

open Admission.Http Admission.Net Admission.Text

/-- What is asked of the service. -/
structure Call where
  method : String
  path : String
  body : Option String
  deriving DecidableEq, Repr

namespace Call

/-- Admit a job. -/
def admitJob (form : JobForm) : Call := ⟨"POST", "/jobs", some (JobForm.codec.encode form)⟩

/-- Admit a session. -/
def admitSession (form : SessionForm) : Call :=
  ⟨"POST", "/sessions", some (SessionForm.codec.encode form)⟩

/-- Look up a job; the id goes into the path as it is. -/
def job (id : String) : Call := ⟨"GET", "/jobs/" ++ id, none⟩

/-- Look up a session; the id goes into the path as it is. -/
def session (id : String) : Call := ⟨"GET", "/sessions/" ++ id, none⟩

end Call

/-- A call with its address, and with the token as a header. -/
structure Message where
  method : String
  url : Url
  authorization : Option String
  body : Option String
  deriving DecidableEq, Repr

/-- The address without the slashes at its end. -/
def withoutSlashes (base : String) : String :=
  String.ofList (base.toList.reverse.dropWhile (· == '/')).reverse

/-- The header for a token, if one can carry it. -/
def authorization? (token : String) : Option String :=
  if (utf8 token).all isValueByte then some ("Bearer " ++ token) else none

namespace Message

/-- A call put to an address. -/
def ofCall (base : String) (token : Option String) (call : Call) : Except Failure Message := do
  match Url.ofText? (withoutSlashes base ++ call.path) with
  | none => throw (.unbuildable none)
  | some url =>
    if !url.hasHost then throw (.unbuildable (some url.text))
    let url := url.withoutUser
    let authorization ← match token with
      | none => pure none
      | some token =>
        match authorization? token with
        | some value => pure (some value)
        | none => throw (.unbuildable none)
    if !url.isHttp || (targetPath? url.text).isNone then throw (.unbuildable (some url.text))
    return ⟨call.method, url, authorization, call.body⟩

/-- The target of a message as the service sees it. -/
def target (m : Message) : String := String.ofList m.url.targetChars

/-- The type of the body, if there is one. -/
def contentType (m : Message) : Option String := m.body.map fun _ => "application/json"

/-- The value of a header as the service sees it, without the blanks around it. -/
def headerBytes (value : String) : List UInt8 :=
  let isPad := fun (b : UInt8) => b == 0x20 || b == 0x09
  (((utf8 value).dropWhile isPad).reverse.dropWhile isPad).reverse

/-- The request that the service sees. -/
def request? (m : Message) : Option Request :=
  let header := fun (name : String) (value : Option String) =>
    value.toList.map fun v => (name, headerBytes v)
  Request.ofParts? m.method m.target
    (header "authorization" m.authorization ++ header "content-type" m.contentType)
    (utf8 (m.body.getD ""))

end Message

end Admission.Client
