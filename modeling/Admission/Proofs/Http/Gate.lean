import Admission.Proofs.Http.Layers
import Admission.Proofs.Http.Path

/-!
# Callers without the token

Where a token is configured, a caller who does not present it is turned away at every path that has
to do with jobs or sessions, before its method is looked at and before its body is read.  The rest
of what such a caller can reach, the health check, unknown paths and preflight requests, has nothing
to do with the stores.

Stage by stage, from an endpoint out to the router, there is one answer that fits every clock,
generated id, body and pair of stores, and the stores come back as they were.  Two runs that differ
in these are both given that answer.

## Main results

* `outsider_learns_nothing`: the answer is the same in both runs, it is 401 exactly at the gated
  paths, and neither run changes a store.
-/

namespace Admission.Http

open Admission.Text Admission.Time

/-- The caller does not present the token: the first `Authorization` header, if there is one, is not
accepted by the gate. -/
def Outsider (token : String) (r : Request) : Prop :=
  ∀ value, r.header? "authorization" = some value → authorize token (some value) ≠ .ok ()

/-- The gate turns an outsider away, with or without a header. -/
theorem Outsider.turned_away {token : String} {r : Request}
    (hOut : Outsider token r) :
    ∃ reason, passGate (some token) r = .error reason := by
  have hGate : passGate (some token) r = authorize token (r.header? "authorization") := rfl
  cases hHeader : r.header? "authorization" with
  | none =>
      refine ⟨.missingHeader, ?_⟩
      rw [hGate, hHeader]
      rfl
  | some value =>
      cases hAuth : authorize token (some value) with
      | error reason =>
          refine ⟨reason, ?_⟩
          rw [hGate, hHeader, hAuth]
      | ok u => exact absurd hAuth (hOut value hHeader)

/-! ## One answer, stage by stage -/

variable {config : Config} {token : String} {r : Request}

/-- At an endpoint: the refusal behind the gate, and elsewhere the health check or that it does not
take the method. -/
theorem Outsider.at_endpoint (hToken : config.authToken = some token)
    (hOut : Outsider token r) (e : Endpoint) :
    ∃ response, (response.status = 401 ↔ e.isGated = true) ∧
      ∀ now fresh body p,
        answerAt config now fresh { r with body := body } p e = (response, p) := by
  cases hGated : e.isGated with
  | true =>
      obtain ⟨reason, hGate⟩ := hOut.turned_away
      refine ⟨.refuse (.unauthorized reason.reason), by simp [Response.refuse,
        Response.json, Refusal.status], ?_⟩
      intro now fresh body p
      -- the gate looks at the headers only
      have hHere : passGate (some token) { r with body := body } = .error reason := hGate
      rw [answerAt, hGated, if_pos rfl, hToken, hHere]
  | false =>
      obtain rfl : e = .health := by cases e <;> first | rfl | cases hGated
      by_cases hMethod : Endpoint.health.methods.contains r.method = true
      · refine ⟨.plain 200 "ok", by simp [Response.plain], ?_⟩
        intro now fresh body p
        rw [answerAt, hGated, if_neg Bool.false_ne_true]
        exact if_pos hMethod
      · refine ⟨.empty 405, by simp [Response.empty], ?_⟩
        intro now fresh body p
        rw [answerAt, hGated, if_neg Bool.false_ne_true]
        exact if_neg hMethod

/-- At a path: the answer of its endpoint, or that there is none. -/
theorem Outsider.at_path (hToken : config.authToken = some token)
    (hOut : Outsider token r) :
    ∃ response, (response.status = 401 ↔ IsGatedPath r.path) ∧
      ∀ now fresh body p, route config now fresh { r with body := body } p = (response, p) := by
  cases hPath : Endpoint.ofPath? r.path with
  | none =>
      refine ⟨.empty 404, ?_, ?_⟩
      · simp [isGatedPath_iff, hPath, Response.empty]
      · intro now fresh body p
        simp only [route, hPath]
  | some e =>
      obtain ⟨response, hStatus, hAnswer⟩ := hOut.at_endpoint hToken e
      let told := tellMethods e r.method response
      refine ⟨if r.method = "HEAD" then told.dropBody else told, ?_, ?_⟩
      · rw [apply_ite Response.status, status_dropBody, ite_self,
          status_tellMethods, hStatus, isGatedPath_iff, hPath]
        simp
      · intro now fresh body p
        simp only [route, hPath, hAnswer, told]

/-- Whether the layer for other origins answers a request itself. -/
def IsPreflight (config : Config) (r : Request) : Prop :=
  config.corsPermissive = true ∧ r.method = "OPTIONS"

/-- At the router. -/
theorem Outsider.at_router (hToken : config.authToken = some token) (hOut : Outsider token r) :
    ∃ response, (response.status = 401 ↔ IsGatedPath r.path ∧ ¬IsPreflight config r) ∧
      ∀ now fresh body p, answer config now fresh { r with body := body } p = (response, p) := by
  obtain ⟨response, hStatus, hRoute⟩ := hOut.at_path hToken
  by_cases hCors : config.corsPermissive = true
  · by_cases hOptions : r.method = "OPTIONS"
    · refine ⟨preflight r, ?_, ?_⟩
      · simp [status_preflight, IsPreflight, hCors, hOptions]
      · intro now fresh body p
        rw [answer, if_pos hCors]
        exact if_pos hOptions
    · refine ⟨expose response, ?_, ?_⟩
      · simp [hStatus, IsPreflight, hOptions]
      · intro now fresh body p
        simp only [answer, hCors, hOptions, hRoute, if_true, if_false]
  · refine ⟨response, ?_, ?_⟩
    · simp [hStatus, IsPreflight, hCors]
    · intro now fresh body p
      rw [answer, if_neg hCors, hRoute]

/-- **The gate cannot be passed by, and tells nothing.**  With a token configured, take a caller who
does not present it, any method, path and headers, and two runs with any two bodies, clocks,
generated ids and pairs of stores.  Both runs give the same answer; it is 401 exactly at the gated
paths, preflight requests apart; and neither run changes a store. -/
theorem outsider_learns_nothing (hToken : config.authToken = some token)
    (hOut : Outsider token r) (body body' : List UInt8) (now now' : Instant)
    (fresh fresh' : String) (p p' : Plane) :
    let here := answer config now fresh { r with body := body } p
    let there := answer config now' fresh' { r with body := body' } p'
    here.1 = there.1 ∧
      (here.1.status = 401 ↔ IsGatedPath r.path ∧ ¬IsPreflight config r) ∧
      here.2 = p ∧ there.2 = p' := by
  intro here there
  obtain ⟨response, hStatus, hAnswer⟩ := hOut.at_router hToken
  have hHere : here = (response, p) := hAnswer now fresh body p
  have hThere : there = (response, p') := hAnswer now' fresh' body' p'
  rw [hHere, hThere]
  exact ⟨rfl, hStatus, rfl, rfl⟩

/-- A caller with the wrong token asks for the job `a`: where there is none, and where there is one,
a day later. -/
theorem wrong_token_asks_for_job :
    let config := { Config.default with authToken := some "secret" }
    let r : Request := ⟨"GET", utf8 "/jobs/a", [⟨"authorization", utf8 "Bearer guess"⟩], []⟩
    let job : Job := ⟨"a", ⟨"t", "a", "p"⟩, .python, "", .done, Instant.epoch⟩
    let later : Instant := ⟨86400 * nsPerSecond, by decide, by decide⟩
    let here := answer config .epoch "x" { r with body := utf8 "x" } .empty
    let there := answer config later "y" { r with body := [] } ⟨⟨[], .put .empty "a" job⟩, .empty⟩
    here.1 = there.1 ∧ here.1.status = 401 ∧ here.2.jobs.waiting = [] := by
  intro config r job later here there
  have hOut : Outsider "secret" r := by
    intro value hValue
    cases hValue
    have hWrong : authorize "secret" (some (utf8 "Bearer guess")) = .error .wrongToken := by rfl
    intro hRight
    rw [hWrong] at hRight
    cases hRight
  have hSegment : IsSegment (utf8 "a") := ⟨by decide, by decide⟩
  have hGated : IsGatedPath r.path := .inr (.inl ⟨utf8 "a", hSegment, rfl⟩)
  have hToken : config.authToken = some "secret" := rfl
  have hAll := outsider_learns_nothing hToken hOut (utf8 "x") [] .epoch later
    "x" "y" .empty ⟨⟨[], .put .empty "a" job⟩, .empty⟩
  refine ⟨hAll.1, hAll.2.1.2 ⟨hGated, ?_⟩, by rw [hAll.2.2.1]; rfl⟩
  intro hPreflight
  exact absurd hPreflight.1 (by decide)

end Admission.Http
