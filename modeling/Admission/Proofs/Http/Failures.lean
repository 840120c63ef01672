import Admission.Proofs.Http.Endpoints
import Admission.Proofs.Wire

/-!
# How failures are told

A failure at one of the four endpoints for jobs and sessions is to be told by a body of its own
kind: JSON, with an error code that goes with the status.  Each refusal is told like that.  The one
failure that is no refusal is a path whose segment does not stand for a text: it is told in plain
text.

## Main results

* `isDocumented_refuse`: a refusal is told as documented.
* `failure_isDocumented_iff`: which failures are.
* `undecodable_segment_is_told_in_plain_text`: one that is not.
-/

namespace Admission.Http

open Admission.Json Admission.Text Admission.Time

/-! ## What is documented -/

/-- The error code that goes with a status. -/
def documentedCode? : Nat → Option ErrorCode
  | 400 => some .invalidInput
  | 401 => some .unauthorized
  | 404 => some .notFound
  | 409 => some .conflict
  | 413 => some .invalidInput
  | 500 => some .internal
  | _ => none

/-- The body is that of an error, with the code that goes with the status. -/
def IsDocumented (response : Response) : Prop :=
  ∃ body : ErrorBody, ErrorBody.codec.decodeText response.body = .ok body ∧
    documentedCode? response.status = some body.error

/-- If the response tells of a failure, it is documented. -/
def TellsFailures (response : Response) : Prop := 400 ≤ response.status → IsDocumented response

/-- The methods at the endpoints for jobs and sessions. -/
def Endpoint.isCalledBy : Endpoint → String → Prop
  | .health, _ => False
  | .jobs, method => method = "POST"
  | .job _, method => method = "GET"
  | .sessions, method => method = "POST"
  | .session _, method => method = "GET"

/-- A request to one of these endpoints, by its path and its method. -/
structure Calls (r : Request) (e : Endpoint) : Prop where
  addressable : e.Addressable
  path_eq : r.path = e.path
  method : e.isCalledBy r.method

/-- The id in the path, if there is to be one, is a text. -/
def Endpoint.HasReadableId : Endpoint → Prop
  | .job segment => (segmentId? segment).isSome = true
  | .session segment => (segmentId? segment).isSome = true
  | _ => True

/-! ## Refusals -/

variable {config : Config} {now : Instant} {fresh : String} {r : Request} {p : Plane} {e : Endpoint}
  {response : Response} {α : Type} {c : Codec α}

theorem isDocumented_shown : IsDocumented (response.shown config) ↔ IsDocumented response := by
  rw [IsDocumented, IsDocumented, body_shown, status_shown]

theorem tellsFailures_shown : TellsFailures (response.shown config) ↔ TellsFailures response := by
  rw [TellsFailures, TellsFailures, isDocumented_shown, status_shown]

theorem tellsFailures_of_lt (h : response.status < 400) : TellsFailures response :=
  fun hFailure => absurd hFailure (Nat.not_le.2 h)

theorem documentedCode?_status (refusal : Refusal) :
    documentedCode? refusal.status = some refusal.code := by
  cases refusal <;> rfl

/-- A refusal is told as documented. -/
theorem isDocumented_refuse (refusal : Refusal) : IsDocumented (.refuse refusal) :=
  ⟨refusal.body, ErrorBody.isLawful_codec.decodeText_encode refusal.body,
    documentedCode?_status refusal⟩

/-! ## Endpoints -/

theorem tellsFailures_respond {status : Nat} (h : status < 400) (result : Except Refusal α) :
    TellsFailures (respond status c result) := by
  cases result with
  | ok a => exact tellsFailures_of_lt h
  | error refusal => exact fun _ => isDocumented_refuse refusal

theorem tellsFailures_respondWith {status : Nat} (h : status < 400)
    (change : Except Refusal (α × Plane)) :
    TellsFailures (respondWith status c p change).1 := by
  cases change with
  | ok result => exact tellsFailures_of_lt h
  | error refusal => exact fun _ => isDocumented_refuse refusal

/-- What is told in plain text is no error body. -/
theorem not_tellsFailures_unreadable :
    ¬TellsFailures (.plain 400 "Invalid URL: Invalid UTF-8 in `id`") := by
  have hBody : (ErrorBody.codec.decodeText "Invalid URL: Invalid UTF-8 in `id`").isOk =
      false := by
    decide +kernel
  intro hTells
  obtain ⟨body, hDecode, _⟩ := hTells (Nat.le_refl 400)
  have hOk : ErrorBody.codec.decodeText "Invalid URL: Invalid UTF-8 in `id`" = .ok body :=
    hDecode
  rw [hOk] at hBody
  cases hBody

/-- A look-up tells its failures as documented if the segment stands for a text, and not
otherwise. -/
theorem tellsFailures_lookUp (find : String → Except Refusal α) (segment : List UInt8) :
    TellsFailures (lookUp c find segment) ↔ (segmentId? segment).isSome = true := by
  rw [lookUp]
  cases segmentId? segment with
  | none => simp [not_tellsFailures_unreadable]
  | some id => simp [tellsFailures_respond]

theorem tellsFailures_serve (hMethod : e.isCalledBy r.method) :
    TellsFailures (serve config now fresh r p e).1 ↔ e.HasReadableId := by
  cases e with
  | health => exact absurd hMethod id
  | jobs => exact iff_of_true (tellsFailures_respondWith (by decide) _) trivial
  | sessions => exact iff_of_true (tellsFailures_respondWith (by decide) _) trivial
  | job segment => exact tellsFailures_lookUp _ _
  | session segment => exact tellsFailures_lookUp _ _

/-! ## Requests -/

/-- Such a request uses a method that the endpoint takes, which is not `HEAD`. -/
theorem Calls.takes (h : Calls r e) :
    e.methods.contains r.method = true ∧ r.method ≠ "HEAD" := by
  have hPost : r.method = "POST" → ["POST"].contains r.method = true ∧ r.method ≠ "HEAD" := by
    intro hEq
    rw [hEq]
    decide
  have hGet : r.method = "GET" → ["GET", "HEAD"].contains r.method = true ∧ r.method ≠ "HEAD" := by
    intro hEq
    rw [hEq]
    decide
  have hMethod := h.method
  cases e with
  | health => exact absurd hMethod id
  | jobs => exact hPost hMethod
  | sessions => exact hPost hMethod
  | job segment => exact hGet hMethod
  | session segment => exact hGet hMethod

theorem Calls.isGated (h : Calls r e) : e.isGated = true := by
  cases e with
  | health => exact absurd h.method id
  | _ => rfl

/-- **Which failures are told as documented.**  Take any request that is posted to `/jobs` or
`/sessions` or gets a path below one of them, and any configuration, clock and stores.  If it fails,
it is told so by an error body with the code that goes with the status; the only exception is a
look-up that passes the gate and whose segment does not stand for a text. -/
theorem failure_isDocumented_iff (hCalls : Calls r e) (config : Config) (now : Instant)
    (fresh : String) (p : Plane) :
    (400 ≤ (answer config now fresh r p).1.status →
        IsDocumented (answer config now fresh r p).1) ↔
      (passGate config.authToken r = .ok () → e.HasReadableId) := by
  obtain ⟨hTakes, hHead⟩ := hCalls.takes
  have hPath : Endpoint.ofPath? r.path = some e := by
    rw [hCalls.path_eq]
    exact Endpoint.ofPath?_path hCalls.addressable
  show TellsFailures _ ↔ _
  cases hGate : passGate config.authToken r with
  | error reason =>
      rw [answer_of_passGate hGate hCalls.isGated hPath hTakes hHead, tellsFailures_shown]
      exact iff_of_true (fun _ => isDocumented_refuse _) nofun
  | ok =>
      rw [answer_eq_serve hGate hPath hTakes hHead, tellsFailures_shown,
        tellsFailures_serve hCalls.method]
      exact ⟨fun h _ => h, fun h => h rfl⟩

/-- Of a job that is not there it is told that it was not found. -/
theorem missing_job_is_told :
    let r : Request := ⟨"GET", utf8 "/jobs/%41", [], []⟩
    let response := (answer .default .epoch "x" r .empty).1
    Calls r (.job (utf8 "%41")) ∧ response.status = 404 ∧ IsDocumented response := by
  intro r response
  have hCalls : Calls r (.job (utf8 "%41")) := ⟨⟨by decide, by decide⟩, rfl, rfl⟩
  have hStatus : response.status = 404 := by decide +kernel
  have hReadable : (segmentId? (utf8 "%41")).isSome = true := by decide +kernel
  have hFailure : 400 ≤ response.status := by
    rw [hStatus]
    decide
  exact ⟨hCalls, hStatus,
    (failure_isDocumented_iff hCalls .default .epoch "x" .empty).2 (fun _ => hReadable) hFailure⟩

/-- The byte FF is no text: a look-up of it is a bad request, and is told so in plain text. -/
theorem undecodable_segment_is_told_in_plain_text :
    let r : Request := ⟨"GET", utf8 "/jobs/%FF", [], []⟩
    let response := (answer .default .epoch "x" r .empty).1
    Calls r (.job (utf8 "%FF")) ∧ response.status = 400 ∧ ¬IsDocumented response := by
  intro r response
  have hCalls : Calls r (.job (utf8 "%FF")) := ⟨⟨by decide, by decide⟩, rfl, rfl⟩
  have hResponse : response = .plain 400 "Invalid URL: Invalid UTF-8 in `id`" := by
    decide +kernel
  refine ⟨hCalls, by rw [hResponse]; rfl, ?_⟩
  intro hDocumented
  rw [hResponse] at hDocumented
  exact not_tellsFailures_unreadable fun _ => hDocumented

end Admission.Http
