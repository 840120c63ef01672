import Admission.Proofs.Checks
import Admission.Proofs.Http.Layers
import Admission.Proofs.Http.Path
import Admission.Proofs.Text.Bytes

/-!
# The answer at each endpoint

Past the gate, the router leads a request to the endpoint that has its path, and what the endpoint
answers is shown to other origins if any may see it.  This file says so for the endpoints that deal
with jobs and sessions, so that nothing after it looks at paths and layers.

## Main results

* `readBody_eq_ok_iff`: which bodies are read.
* `answer_eq_createJob`, `answer_eq_createSession`: what a post comes to.
* `LooksUp.answer_job`, `LooksUp.answer_session`: what a look-up comes to.
* `Garbles.answer_eq`: what a look-up comes to if its id is no text.
-/

namespace Admission.Http

open Admission.Json Admission.Text Admission.Time

variable {config : Config} {now : Instant} {fresh : String} {r : Request} {p : Plane}

/-! ## Posts -/

/-- A body is read exactly if it says that it is JSON, is not too long, and decodes. -/
theorem readBody_eq_ok_iff {α : Type} {maxBytes : Nat} {c : Codec α} {a : α} :
    readBody maxBytes c r = .ok a ↔
      hasJsonBody r = true ∧ r.body.length ≤ maxBytes ∧ c.decodeBytes r.body = .ok a := by
  unfold readBody
  split
  · next hJson =>
      rw [Bool.not_eq_true'] at hJson
      simp [hJson]
  · next hJson =>
      rw [Bool.not_eq_true', Bool.not_eq_false] at hJson
      split
      · next hLong => simp [Nat.not_le.2 hLong]
      · next hLong => simp [hJson, Nat.not_lt.1 hLong, mapError_eq_ok_iff]

/-- What is read from a body is admitted. -/
theorem createJob_of_readBody {form : JobForm}
    (h : readBody config.maxBodyBytes JobForm.codec r = .ok form) :
    createJob config now fresh r p =
      respondWith 202 JobAccepted.codec p (p.admitJob now fresh form) := by
  rw [createJob, h]
  rfl

theorem createSession_of_readBody {form : SessionForm}
    (h : readBody config.maxBodyBytes SessionForm.codec r = .ok form) :
    createSession config now fresh r p =
      respondWith 201 SessionCreated.codec p (p.admitSession now fresh form) := by
  rw [createSession, h]
  rfl

theorem answer_eq_createJob (hMethod : r.method = "POST") (hPath : r.path = utf8 "/jobs")
    (hGate : passGate config.authToken r = .ok ()) :
    answer config now fresh r p =
      ((createJob config now fresh r p).1.shown config, (createJob config now fresh r p).2) := by
  have hEndpoint : Endpoint.ofPath? r.path = some .jobs := by
    rw [hPath]
    exact Endpoint.ofPath?_path (e := .jobs) trivial
  exact answer_eq_serve hGate hEndpoint (by rw [hMethod]; decide) (by rw [hMethod]; decide)

theorem answer_eq_createSession (hMethod : r.method = "POST") (hPath : r.path = utf8 "/sessions")
    (hGate : passGate config.authToken r = .ok ()) :
    answer config now fresh r p =
      ((createSession config now fresh r p).1.shown config,
        (createSession config now fresh r p).2) := by
  have hEndpoint : Endpoint.ofPath? r.path = some .sessions := by
    rw [hPath]
    exact Endpoint.ofPath?_path (e := .sessions) trivial
  exact answer_eq_serve hGate hEndpoint (by rw [hMethod]; decide) (by rw [hMethod]; decide)

/-! ## Look-ups -/

/-- A look-up of a job by any segment. -/
theorem answer_eq_lookUp_job {segment : List UInt8} (hMethod : r.method = "GET")
    (hSegment : IsSegment segment) (hPath : r.path = utf8 "/jobs/" ++ segment)
    (hGate : passGate config.authToken r = .ok ()) :
    answer config now fresh r p = ((lookUp JobView.codec p.job segment).shown config, p) := by
  have hEndpoint : Endpoint.ofPath? r.path = some (.job segment) := by
    rw [hPath]
    exact Endpoint.ofPath?_path (e := .job segment) hSegment
  rw [answer_eq_serve hGate hEndpoint
    (by rw [hMethod]; exact List.contains_iff_mem.2 (List.mem_cons_self ..))
    (by rw [hMethod]; decide)]
  rfl

/-- A look-up of a session by any segment. -/
theorem answer_eq_lookUp_session {segment : List UInt8} (hMethod : r.method = "GET")
    (hSegment : IsSegment segment) (hPath : r.path = utf8 "/sessions/" ++ segment)
    (hGate : passGate config.authToken r = .ok ()) :
    answer config now fresh r p =
      ((lookUp SessionView.codec (p.session · now) segment).shown config, p) := by
  have hEndpoint : Endpoint.ofPath? r.path = some (.session segment) := by
    rw [hPath]
    exact Endpoint.ofPath?_path (e := .session segment) hSegment
  rw [answer_eq_serve hGate hEndpoint
    (by rw [hMethod]; exact List.contains_iff_mem.2 (List.mem_cons_self ..))
    (by rw [hMethod]; decide)]
  rfl

/-- A caller who may looks up what has an id, at a path made of a stem and any segment that stands
for the id. -/
structure LooksUp (config : Config) (r : Request) (stem id : String) :
    Prop where
  method_eq : r.method = "GET"
  path_eq : ∃ segment, IsSegment segment ∧ segmentId? segment = some id ∧
    r.path = utf8 stem ++ segment
  gate : passGate config.authToken r = .ok ()

theorem LooksUp.answer_job {id : String} (h : LooksUp config r "/jobs/" id) :
    answer config now fresh r p = ((respond 200 JobView.codec (p.job id)).shown config, p) := by
  obtain ⟨segment, hSegment, hId, hPath⟩ := h.path_eq
  rw [answer_eq_lookUp_job h.method_eq hSegment hPath h.gate]
  simp only [lookUp, hId]

theorem LooksUp.answer_session {id : String} (h : LooksUp config r "/sessions/" id) :
    answer config now fresh r p =
      ((respond 200 SessionView.codec (p.session id now)).shown config, p) := by
  obtain ⟨segment, hSegment, hId, hPath⟩ := h.path_eq
  rw [answer_eq_lookUp_session h.method_eq hSegment hPath h.gate]
  simp only [lookUp, hId]

/-- A look-up by a segment that is not decoded to a text. -/
structure Garbles (config : Config) (r : Request) (stem : String) : Prop where
  method_eq : r.method = "GET"
  path_eq : ∃ segment, IsSegment segment ∧
    (∀ id, percentDecode segment ≠ utf8 id) ∧ r.path = utf8 stem ++ segment
  gate : passGate config.authToken r = .ok ()

/-- It is answered without a look at the stores. -/
theorem Garbles.answer_eq {stem : String}
    (hStem : stem = "/jobs/" ∨ stem = "/sessions/") (h : Garbles config r stem) :
    answer config now fresh r p =
      ((Response.plain 400 "Invalid URL: Invalid UTF-8 in `id`").shown config, p) := by
  obtain ⟨segment, hSegment, hGarbled, hPath⟩ := h.path_eq
  have hNone : segmentId? segment = none := by
    rw [Option.eq_none_iff_forall_ne_some]
    intro id hId
    exact hGarbled id (text?_eq_some_iff.1 hId)
  rcases hStem with rfl | rfl
  · rw [answer_eq_lookUp_job h.method_eq hSegment hPath h.gate]
    simp only [lookUp, hNone]
  · rw [answer_eq_lookUp_session h.method_eq hSegment hPath h.gate]
    simp only [lookUp, hNone]

end Admission.Http
