import Admission.Http.Api
import Admission.Proofs.Client.Address

/-!
# Messages that arrive

A message is built if its address is that of a service, with a host and over HTTP, and its token can
stand in a header.  It arrives as a request with the path of the call, the body of the call letter
for letter, the token if there is one, and the type of the body.

## Main results

* `exists_request`: a call put to an address that leads to its path arrives.
* `leadsTo_local`: the address of a service on this machine does.
-/

namespace Admission.Client

open Admission.Http Admission.Net Admission.Net.Url Admission.Text

/-! ## Addresses -/

/-- The address with a path behind it is one that requests can be sent to over HTTP, and they arrive
with the path as it is. -/
def LeadsTo (base path : String) : Prop :=
  ∃ url, Url.ofText? (withoutSlashes base ++ path) = some url ∧ url.hasHost = true ∧
    url.withoutUser.isHttp = true ∧ (targetPath? url.withoutUser.text).isSome = true ∧
    targetPath? (String.ofList url.withoutUser.targetChars) = some (utf8 path)

/-- The token, if there is one, can stand in a header. -/
def IsCarried (token : Option String) : Prop :=
  ∀ t ∈ token, (authorization? t).isSome = true

/-- A message whose address is that of a service, and whose token can be carried, is built if its
address is the target of a request. -/
theorem ofCall_eq {base : String} {token : Option String} {call : Call} {url : Url}
    (hUrl : Url.ofText? (withoutSlashes base ++ call.path) = some url) (hHost : url.hasHost = true)
    (hToken : IsCarried token) :
    Message.ofCall base token call =
      if !url.withoutUser.isHttp || (targetPath? url.withoutUser.text).isNone then
        .error (.unbuildable (some url.withoutUser.text))
      else .ok ⟨call.method, url.withoutUser, token.bind authorization?, call.body⟩ := by
  rw [Message.ofCall, hUrl]
  simp only [hHost, Bool.not_true, Bool.false_eq_true, if_false]
  cases token with
  | none => rfl
  | some t =>
      obtain ⟨value, hValue⟩ := Option.isSome_iff_exists.1 (hToken t rfl)
      simp only [hValue, Option.bind_some]
      rfl

/-! ## Headers -/

namespace Message

/-- The header of a name with a value that a message may have. -/
def header (name : String) (value : Option String) : List Header :=
  (value.map fun v => ⟨name, headerBytes v⟩).toList

/-- The headers of a message as the service sees them. -/
def headers (m : Message) : List Header :=
  header "authorization" m.authorization ++ header "content-type" m.contentType

/-- Without the blanks around it, a value has no byte that it did not have before. -/
theorem mem_utf8_of_mem_headerBytes {value : String} {b : UInt8} (h : b ∈ headerBytes value) :
    b ∈ utf8 value := by
  rw [headerBytes, List.mem_reverse] at h
  have hBack := (List.dropWhile_sublist _).subset h
  rw [List.mem_reverse] at hBack
  exact (List.dropWhile_sublist _).subset hBack

theorem mapM_ofParts? (name : String) {value : Option String}
    (hName : isToken name = true ∧ name.length ≤ maxNameLength ∧ asciiLower name = name)
    (hValue : ∀ v ∈ value, (utf8 v).all isValueByte = true) :
    ((value.toList.map fun v => (name, headerBytes v)).mapM fun (name, value) =>
      Header.ofParts? name value) = some (header name value) := by
  cases value with
  | none => rfl
  | some v =>
      have hBytes : (headerBytes v).all isValueByte = true := by
        rw [List.all_eq_true]
        intro b hb
        exact List.all_eq_true.1 (hValue v rfl) b (mem_utf8_of_mem_headerBytes hb)
      have hHeader : Header.ofParts? name (headerBytes v) = some ⟨name, headerBytes v⟩ := by
        simp [Header.ofParts?, hName, hBytes]
      simp [header, hHeader]

end Message

theorem isValueByte_authorization {token value : String} (h : authorization? token = some value) :
    (utf8 value).all isValueByte = true := by
  rw [authorization?] at h
  split at h
  · next hToken =>
    cases h
    rw [utf8, String.toList_append, utf8Chars_append, List.all_append]
    exact Bool.and_eq_true_iff.2 ⟨by decide, hToken⟩
  · cases h

/-! ## Requests -/

/-- The request that arrives of a message. -/
theorem request?_eq {m : Message} {path : List UInt8} (hMethod : isToken m.method = true)
    (hTarget : targetPath? m.target = some path)
    (hToken : ∀ v ∈ m.authorization, (utf8 v).all isValueByte = true) :
    m.request? = some ⟨m.method, path, m.headers, utf8 (m.body.getD "")⟩ := by
  have hType : ∀ v ∈ m.contentType, (utf8 v).all isValueByte = true := by
    intro v hv
    obtain ⟨_, _, rfl⟩ := Option.map_eq_some_iff.1 hv
    decide +kernel
  have hAuthorization := Message.mapM_ofParts? "authorization" (by decide +kernel) hToken
  have hContentType := Message.mapM_ofParts? "content-type" (by decide +kernel) hType
  rw [Message.request?, Request.ofParts?, if_pos hMethod, hTarget]
  simp only [Option.bind_eq_bind, Option.bind_some, List.mapM_append, hAuthorization, hContentType]
  rfl

/-- A message with a body says that it is JSON. -/
theorem hasJsonBody_of_body {r : Request} {m : Message} (hHeaders : r.headers = m.headers)
    (hBody : m.body.isSome = true) : hasJsonBody r = true := by
  have hJson : (asciiChars? (Message.headerBytes "application/json")).map isJsonMediaType =
      some true := by
    decide +kernel
  obtain ⟨cs, hChars, hType⟩ := Option.map_eq_some_iff.1 hJson
  have hValue : r.header? "content-type" = some (Message.headerBytes "application/json") := by
    obtain ⟨text, hText⟩ := Option.isSome_iff_exists.1 hBody
    rw [Request.header?, hHeaders, Message.headers, Message.contentType, hText]
    cases m.authorization <;> simp [Message.header]
  simp only [hasJsonBody, hValue, Option.bind_some, hChars, hType]

/-- A call with a body, put to an address that leads to its path, arrives as a request with this
path and body, which says that it is JSON. -/
theorem exists_request {base : String} {token : Option String} {call : Call} {body : String}
    (hBase : LeadsTo base call.path) (hToken : IsCarried token)
    (hMethod : isToken call.method = true) (hBody : call.body = some body) :
    ∃ message r, Message.ofCall base token call = .ok message ∧ message.request? = some r ∧
      r.method = call.method ∧ r.path = utf8 call.path ∧ r.body = utf8 body ∧
      hasJsonBody r = true := by
  obtain ⟨url, hUrl, hHost, hHttp, hText, hTarget⟩ := hBase
  have hIsNone : (targetPath? url.withoutUser.text).isNone = false := by
    rw [← Option.not_isSome, hText]
    rfl
  let message : Message := ⟨call.method, url.withoutUser, token.bind authorization?, call.body⟩
  have hMessage : Message.ofCall base token call = .ok message := by
    rw [ofCall_eq hUrl hHost hToken, hHttp, hIsNone]
    rfl
  have hCarried : ∀ v ∈ message.authorization, (utf8 v).all isValueByte = true := by
    intro v hv
    obtain ⟨t, _, hValue⟩ := Option.bind_eq_some_iff.1 hv
    exact isValueByte_authorization hValue
  refine ⟨message, _, hMessage, request?_eq hMethod hTarget hCarried, rfl, rfl, ?_, ?_⟩
  · show utf8 (call.body.getD "") = utf8 body
    rw [hBody]
    rfl
  · refine hasJsonBody_of_body (m := message) rfl ?_
    show call.body.isSome = true
    rw [hBody]
    rfl

/-! ## This machine -/

theorem withoutUser_localUrl (port : Nat) (ss : List (List Char))
    (query fragment : Option (List Char)) :
    (localUrl port ss query fragment).withoutUser = localUrl port ss query fragment := by
  have hName : text? (percentDecode (utf8Chars [])) = some "" := by decide +kernel
  simp only [Url.withoutUser, localUrl, hName]

theorem isHttp_localUrl (port : Nat) (ss : List (List Char))
    (query fragment : Option (List Char)) :
    (localUrl port ss query fragment).isHttp = true := by
  simp [Url.isHttp, localUrl]

theorem length_localAuthority_le {port : Nat} (hPort : port < 0x10000) :
    (localAuthority port).length ≤ 60 := by
  have hDigits : (Nat.toDigits 10 port).length ≤ 5 :=
    (Nat.length_toDigits_le_iff (by decide) (by decide)).2 (by omega)
  have hPortChars : (portChars port).length ≤ 6 := by
    rw [portChars]
    split
    · decide
    · rw [List.length_cons]
      omega
  have hHost : localHost4.length = 9 := by decide
  have hBytes := length_utf8Chars_le (localHost4 ++ portChars port)
  rw [List.length_append] at hBytes
  rw [localAuthority]
  omega

/-- The address of a service on this machine leads to each path of one short segment in which
nothing is coded and nothing is dropped. -/
theorem leadsTo_local {base : String} {port : Nat} (hPort : port < 0x10000)
    (hBase : withoutSlashes base = localBase port) {cs : List Char}
    (hSegments : readSegments true (pathPart cs) = [cs])
    (hParts : queryPart cs = none ∧ fragmentPart cs = none) (hShort : cs.length ≤ 100) :
    LeadsTo base (String.ofList ('/' :: cs)) := by
  have hUrl : Url.ofText? (withoutSlashes base ++ String.ofList ('/' :: cs)) =
      some (localUrl port [cs] none none) := by
    rw [hBase, ofText?_local hPort, hSegments, hParts.1, hParts.2]
  have hCoded : AreCoded [cs] := hSegments ▸ areCoded_readSegments (pathPart cs)
  have hPath : pathBytes [cs] = utf8 (String.ofList ('/' :: cs)) := by
    rw [utf8_ofList, utf8Chars_cons, utf8EncodeChar_of_lt (by decide), pathBytes_cons]
    exact List.append_nil _
  have hPathLength : (pathBytes [cs]).length ≤ 404 := by
    have hBytes := length_utf8Chars_le ('/' :: cs)
    rw [List.length_cons] at hBytes
    rw [hPath, utf8_ofList]
    omega
  have hTextLength : (utf8 (localUrl port [cs] none none).text).length ≤ maxTargetLength := by
    have hAuthority := length_localAuthority_le hPort
    have hFront : (utf8 "http://").length = 7 := by decide
    rw [utf8_text_localUrl, List.length_append, List.length_append, maxTargetLength]
    omega
  refine ⟨_, hUrl, rfl, ?_⟩
  rw [withoutUser_localUrl, targetPath?_text (List.cons_ne_nil _ _) hCoded hTextLength,
    targetPath?_target (List.cons_ne_nil _ _) hCoded (by rw [maxTargetLength]; omega), hPath]
  exact ⟨isHttp_localUrl _ _ _ _, rfl, rfl⟩

end Admission.Client
