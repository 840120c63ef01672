import Admission.Proofs.Http.Gate
import Admission.Proofs.Http.Presenting

/-!
# The gate as a filter

The gate looks at the `Authorization` header and at nothing else, and nothing else looks at that
header.  So a control plane with a token answers a request that passes the gate just as it would
without a token, and a control plane without a token answers a request just as it would without its
`Authorization` headers.

Agreement at the endpoint is agreement at the router, because the layers in between look at the
method, the path and the answer only; both results are cases of that.

What the gate turns away is answered 401 with the reason.  Two layers around the gate have their own
say: that for other origins answers a preflight request before the gate is asked, and the answer to
a `HEAD` request goes without its body.

## Main results

* `gate_filters_exactly`: what passes the gate, what becomes of it, and what the others are told.
-/

namespace Admission

open Admission.Http Admission.Json Admission.Text Admission.Time

/-- The configuration without a token. -/
def Config.opened (config : Config) : Config := { config with authToken := none }

namespace Http

/-! ## Requests without credentials -/

/-- The request without its `Authorization` headers. -/
def Request.withoutCredentials (r : Request) : Request :=
  { r with headers := r.headers.filter fun h => h.name != "authorization" }

/-- The other headers stay. -/
theorem header?_withoutCredentials (r : Request) {name : String} (hName : name ≠ "authorization") :
    r.withoutCredentials.header? name = r.header? name := by
  have hSame : ∀ h : Header,
      decide ((h.name != "authorization") = true ∧ (h.name == name) = true) = (h.name == name) := by
    intro h
    by_cases hThis : h.name = name
    · simp [hThis, hName]
    · simp [hThis]
  simp only [Request.header?, Request.withoutCredentials, List.find?_filter, hSame]

theorem hasJsonBody_withoutCredentials (r : Request) :
    hasJsonBody r.withoutCredentials = hasJsonBody r := by
  rw [hasJsonBody, hasJsonBody, header?_withoutCredentials r (by decide)]

theorem readBody_withoutCredentials {α : Type} (maxBytes : Nat) (c : Codec α) (r : Request) :
    readBody maxBytes c r.withoutCredentials = readBody maxBytes c r := by
  rw [readBody, readBody, hasJsonBody_withoutCredentials]
  rfl

/-! ## From the endpoint to the router -/

variable {config config' : Config} {token : String} {now : Instant}
  {fresh : String} {r r' : Request} {p : Plane}

/-- Two requests of one method and path are answered alike if the endpoint answers them alike. -/
theorem answer_congr (hCors : config.corsPermissive = config'.corsPermissive)
    (hMethod : r.method = r'.method) (hPath : r.path = r'.path)
    (hAt : ∀ e, answerAt config now fresh r p e = answerAt config' now fresh r' p e) :
    answer config now fresh r p = answer config' now fresh r' p := by
  obtain ⟨hResponse, hStores⟩ := answer_rel Eq hCors hMethod hPath (Eq.refl p)
    fun e _ => ⟨congrArg Prod.fst (hAt e), congrArg Prod.snd (hAt e)⟩
  exact Prod.ext hResponse hStores

theorem answer_of_isPreflight (h : IsPreflight config r) :
    answer config now fresh r p = (preflight r, p) := by
  rw [answer, if_pos h.1, if_pos h.2]

/-- Past the gate, there is no token. -/
theorem answer_of_passGate_ok (hGate : passGate config.authToken r = .ok ()) :
    answer config now fresh r p = answer config.opened now fresh r p := by
  refine answer_congr rfl rfl rfl fun e => ?_
  have hOpened : passGate config.opened.authToken r = .ok () := rfl
  have hServe : serve config now fresh r p e =
      serve config.opened now fresh r p e := by
    cases e <;> rfl
  rw [answerAt, answerAt, hGate, hOpened, hServe]

/-- Without a token, `Authorization` headers do not count. -/
theorem answer_withoutCredentials (hOpen : config.authToken = none) :
    answer config now fresh r.withoutCredentials p = answer config now fresh r p := by
  refine answer_congr rfl rfl rfl fun e => ?_
  have hServe : serve config now fresh r.withoutCredentials p e =
      serve config now fresh r p e := by
    cases e with
    | jobs => rw [serve, serve, createJob, createJob, readBody_withoutCredentials]
    | sessions =>
        rw [serve, serve, createSession, createSession, readBody_withoutCredentials]
    | _ => rfl
  rw [answerAt, answerAt, hOpen, hServe]
  rfl

/-! ## Turned away -/

/-- A caller is turned away for a reason: the status is 401, and the body, which goes missing for
`HEAD`, tells the reason. -/
structure TurnsAway (r : Request) (reason : GateError) (response : Response) :
    Prop where
  status_eq : response.status = 401
  body_eq : r.method ≠ "HEAD" → response.body = ErrorBody.codec.encode
    ⟨.unauthorized, "unauthorized: " ++ reason.reason, none⟩
  head : r.method = "HEAD" → response.body = ""

theorem turnsAway_of_passGate {reason : GateError}
    (hGate : passGate config.authToken r = .error reason)
    (hPath : IsGatedPath r.path) (hNot : ¬IsPreflight config r) :
    TurnsAway r reason (answer config now fresh r p).1 ∧ (answer config now fresh r p).2 = p := by
  obtain ⟨e, hEndpoint, hGated⟩ := isGatedPath_iff.1 hPath
  let told := tellMethods e r.method (.refuse (.unauthorized reason.reason))
  have hRoute : route config now fresh r p =
      (if r.method = "HEAD" then told.dropBody else told, p) := by
    simp only [route, hEndpoint, answerAt_of_passGate hGated hGate, told]
  have hAnswer : answer config now fresh r p =
      ((if r.method = "HEAD" then told.dropBody else told).shown config, p) := by
    rw [answer, hRoute, Response.shown]
    by_cases hCors : config.corsPermissive = true
    · have hOptions : r.method ≠ "OPTIONS" := fun h => hNot ⟨hCors, h⟩
      rw [if_pos hCors, if_neg hOptions, if_pos hCors]
    · rw [if_neg hCors, if_neg hCors]
  rw [hAnswer]
  refine ⟨⟨?_, ?_, ?_⟩, rfl⟩
  · rw [status_shown, apply_ite Response.status, status_dropBody, ite_self,
      status_tellMethods, status_refuse]
    rfl
  · intro hHead
    rw [body_shown, if_neg hHead, body_tellMethods]
    rfl
  · intro hHead
    rw [body_shown, if_pos hHead]
    rfl

/-! ## The filter -/

/-- **The gate is an exact filter.**  With a token configured, take any request to a path behind the
gate.  It passes exactly if its first `Authorization` header presents the token, and is refused
exactly for the first check that fails.  What passes is answered as if no token were configured, and
so are preflight requests, which the gate does not see.  Whatever else does not pass is turned away
with the reason and leaves the stores as they were.  And where no token is configured, requests that
differ in their `Authorization` headers only are answered alike. -/
theorem gate_filters_exactly (hToken : config.authToken = some token)
    (hPath : IsGatedPath r.path) (now : Instant) (fresh : String) (p : Plane) :
    let gate := passGate config.authToken r
    let here := answer config now fresh r p
    let ungated := answer config.opened now fresh r p
    (gate = .ok () ↔ ∃ value, r.header? "authorization" = some value ∧ Presents token value) ∧
    (∀ reason, gate = .error reason ↔
      firstFailure? token (r.header? "authorization") = some reason) ∧
    (gate = .ok () ∨ IsPreflight config r → here = ungated) ∧
    (∀ reason, gate = .error reason → ¬IsPreflight config r →
      TurnsAway r reason here.1 ∧ here.2 = p) ∧
    ∀ r' : Request, r'.withoutCredentials = r.withoutCredentials →
      answer config.opened now fresh r' p = ungated := by
  intro gate here ungated
  have hGate : gate = authorize token (r.header? "authorization") := by
    show passGate config.authToken r = _
    rw [hToken]
    rfl
  refine ⟨?_, ?_, ?_, ?_, ?_⟩
  · rw [hGate]
    exact authorize_eq_ok_iff
  · intro reason
    rw [hGate]
    exact authorize_eq_error_iff
  · rintro (hPass | hPreflight)
    · exact answer_of_passGate_ok hPass
    · have hOpened : IsPreflight config.opened r := hPreflight
      exact (answer_of_isPreflight hPreflight).trans (answer_of_isPreflight hOpened).symm
  · intro reason hRefused hNot
    exact turnsAway_of_passGate hRefused hPath hNot
  · intro r' hSame
    rw [← answer_withoutCredentials (r := r') rfl, hSame, answer_withoutCredentials rfl]

/-- Of two `Authorization` headers the first counts: a token between a tab and blanks passes, and
asks for a job as if there were no gate.  A token with one more letter does not pass. -/
theorem padded_token_passes :
    let config := { Config.default with authToken := some "tok" }
    let request := fun value => (⟨"GET", utf8 "/jobs/a",
      [⟨"authorization", utf8 value⟩, ⟨"authorization", utf8 "Bearer tok"⟩], []⟩ : Request)
    let padded := request "Bearer \ttok  "
    let longer := request "Bearer tokk"
    let answered := fun r => answer config .epoch "x" r .empty
    config.authToken = some "tok" ∧ IsGatedPath padded.path ∧
      Presents "tok" (utf8 "Bearer \ttok  ") ∧
      answered padded = answer config.opened .epoch "x" padded .empty ∧
      TurnsAway longer .wrongToken (answered longer).1 := by
  intro config request padded longer answered
  have hToken : config.authToken = some "tok" := rfl
  have hSegment : IsSegment (utf8 "a") := ⟨by decide, by decide⟩
  have hPath : IsGatedPath padded.path := .inr (.inl ⟨utf8 "a", hSegment, rfl⟩)
  have hPresents : Presents "tok" (utf8 "Bearer \ttok  ") :=
    ⟨by decide +kernel, by decide, by decide, by decide⟩
  have hPadded := gate_filters_exactly (r := padded) hToken hPath .epoch "x" .empty
  have hLonger := gate_filters_exactly (r := longer) hToken hPath .epoch "x" .empty
  refine ⟨hToken, hPath, hPresents, ?_, ?_⟩
  · exact hPadded.2.2.1 (.inl (hPadded.1.2 ⟨_, rfl, hPresents⟩))
  · have hReason : firstFailure? "tok" (longer.header? "authorization") =
        some .wrongToken := by
      decide +kernel
    have hNot : ¬IsPreflight config longer := fun h => absurd h.1 (by decide)
    exact (hLonger.2.2.2.1 _ ((hLonger.2.1 _).2 hReason) hNot).1

/-- Two requests to `/jobs` without credentials that are not told so: a preflight request is
answered 200 where other origins may call, and a `HEAD` request 401 without a body. -/
theorem preflight_and_head_are_told_no_reason :
    let config := { Config.default with
      authToken := some "tok", corsPermissive := true }
    let request := fun method => (⟨method, utf8 "/jobs", [], []⟩ : Request)
    let answered := fun method =>
      (answer config .epoch "x" (request method) .empty).1
    IsGatedPath (utf8 "/jobs") ∧
      passGate config.authToken (request "OPTIONS") = .error .missingHeader ∧
      (answered "OPTIONS").status = 200 ∧
      passGate config.authToken (request "HEAD") = .error .missingHeader ∧
      (answered "HEAD").status = 401 ∧ (answered "HEAD").body = "" := by
  intro config request answered
  exact ⟨.inl rfl, rfl, by decide +kernel, rfl, by decide +kernel, by decide +kernel⟩

end Http

end Admission
