import Admission.Proofs.Http.Endpoints
import Admission.Proofs.Service.Storing

/-!
# All or nothing

A request passes through many stages, and each of them can fail: the path, the gate, the method, the
body, the fields, the time, the id.  Whatever happens, a request either admits one job, or admits
one session, or leaves both stores as they were, and the status tells which.  What is stored is what
the body asks for and what the answer says.

The three outcomes are stated of a request, its answer and the stores before and after.  An endpoint
has one of them, and each layer around it keeps it, because none changes the status or, for `POST`,
the body.  In the other direction, a request that no stage can fault goes through all of them.

## Main results

* `admits_or_keeps`: every request has exactly one of the three outcomes, and the first two are
  those of the requests that no stage can fault.
-/

namespace Admission.Http

open Admission.Json Admission.Text Admission.Time

/-! ## Outcomes -/

/-- A caller who may pass posts JSON of a length that is read. -/
structure Posts (config : Config) (r : Request) (path : String) : Prop where
  method_eq : r.method = "POST"
  path_eq : r.path = utf8 path
  gate : passGate config.authToken r = .ok ()
  json : hasJsonBody r = true
  fits : r.body.length ≤ config.maxBodyBytes

/-- No stage can fault the request for a job. -/
def AsksForJob (config : Config) (fresh : String) (r : Request) (p : Plane) :
    Prop :=
  Posts config r "/jobs" ∧
    ∃ form, JobForm.codec.decodeBytes r.body = .ok form ∧ form.Acceptable ∧
      p.jobs.get? ((form.id.map trim).getD fresh) = none

/-- No stage can fault the request for a session. -/
def AsksForSession (config : Config) (now : Instant) (fresh : String)
    (r : Request) (p : Plane) : Prop :=
  Posts config r "/sessions" ∧
    ∃ form, SessionForm.codec.decodeBytes r.body = .ok form ∧
      form.AcceptableAt now ∧
      p.sessions.get? ((form.id.map trim).getD fresh) now = none

/-- `POST /jobs` is answered 202: the job that the body asks for is appended to the queue, and the
answer has its id. -/
structure AdmitsJob (config : Config) (now : Instant) (fresh : String)
    (r : Request) (p : Plane) (response : Response) (p' : Plane) : Prop where
  asked : AsksForJob config fresh r p
  status_eq : response.status = 202
  stored : ∃ form job, JobForm.codec.decodeBytes r.body = .ok form ∧
    form.AsksFor now fresh job ∧
    response.body = JobAccepted.codec.encode ⟨job.id, .pending⟩ ∧
    p.JobAppended job p'

/-- `POST /sessions` is answered 201: the session that the body asks for is held in the registry,
and the answer has its id and its expiry. -/
structure AdmitsSession (config : Config) (now : Instant) (fresh : String)
    (r : Request) (p : Plane) (response : Response) (p' : Plane) : Prop where
  asked : AsksForSession config now fresh r p
  status_eq : response.status = 201
  stored : ∃ form session, SessionForm.codec.decodeBytes r.body = .ok form ∧
    form.AsksFor now fresh session ∧
    response.body = SessionCreated.codec.encode ⟨session.id, session.expiresAt, .active⟩ ∧
    p.SessionHeld now session p'

/-- The answer has any other status, and both stores are as they were. -/
structure KeepsStores (p : Plane) (response : Response) (p' : Plane) :
    Prop where
  not_accepted : response.status ≠ 202
  not_created : response.status ≠ 201
  stores_eq : p' = p

/-- One of the three outcomes. -/
def Outcome (config : Config) (now : Instant) (fresh : String) (r : Request)
    (p : Plane) (result : Response × Plane) : Prop :=
  AdmitsJob config now fresh r p result.1 result.2 ∨
    AdmitsSession config now fresh r p result.1 result.2 ∨
    KeepsStores p result.1 result.2

variable {config : Config} {now : Instant} {fresh : String} {r : Request}
  {p p' : Plane} {response : Response}

/-- An answer with any other status, given without touching a store. -/
theorem Outcome.keeps (hAccepted : response.status ≠ 202) (hCreated : response.status ≠ 201) :
    Outcome config now fresh r p (response, p) :=
  .inr (.inr ⟨hAccepted, hCreated, rfl⟩)

theorem Outcome.refused (refusal : Refusal) :
    Outcome config now fresh r p (.refuse refusal, p) := by
  have hStatus := refusal.le_status
  apply Outcome.keeps
  · rw [status_refuse]
    omega
  · rw [status_refuse]
    omega

/-- A layer keeps the outcome if it keeps the status and, for `POST`, the body. -/
theorem Outcome.layer (h : Outcome config now fresh r p (response, p'))
    {response' : Response} (hStatus : response'.status = response.status)
    (hBody : r.method = "POST" → response'.body = response.body) :
    Outcome config now fresh r p (response', p') := by
  rcases h with hJob | hSession | hKeeps
  · left
    obtain ⟨hAsked, hAccepted, hStored⟩ := hJob
    have hSame := hBody hAsked.1.method_eq
    exact ⟨hAsked, hStatus.trans hAccepted, by rwa [hSame]⟩
  · right; left
    obtain ⟨hAsked, hCreated, hStored⟩ := hSession
    have hSame := hBody hAsked.1.method_eq
    exact ⟨hAsked, hStatus.trans hCreated, by rwa [hSame]⟩
  · right; right
    obtain ⟨hAccepted, hCreated, hSame⟩ := hKeeps
    exact ⟨hStatus ▸ hAccepted, hStatus ▸ hCreated, hSame⟩

/-! ## Endpoints -/

/-- A change that is refused keeps the stores, so only one that succeeds is to be looked at. -/
theorem respondWith_outcome {α : Type} {status : Nat} {c : Codec α}
    {change : Except Refusal (α × Plane)}
    (hChange : ∀ a p', change = .ok (a, p') → Outcome config now fresh r p (.json status c a, p')) :
    Outcome config now fresh r p (respondWith status c p change) := by
  cases hResult : change with
  | error refusal => exact .refused refusal
  | ok result => exact hChange result.1 result.2 hResult

theorem createJob_outcome (hMethod : r.method = "POST") (hPath : r.path = utf8 "/jobs")
    (hGate : passGate config.authToken r = .ok ()) :
    Outcome config now fresh r p (createJob config now fresh r p) := by
  apply respondWith_outcome
  intro accepted p' hChange
  obtain ⟨form, hRead, hAdmit⟩ := bind_eq_ok_iff.1 hChange
  obtain ⟨hJson, hFits, hForm⟩ := readBody_eq_ok_iff.1 hRead
  have hAccept := (Plane.admitJob_succeeds_iff now).1 ⟨_, hAdmit⟩
  obtain ⟨job, hJob, rfl, hStore⟩ := Plane.admitJob_eq_ok hAdmit
  exact .inl
    { asked := ⟨⟨hMethod, hPath, hGate, hJson, hFits⟩, form, hForm, hAccept⟩
      status_eq := rfl
      stored := ⟨form, job, hForm, hJob, rfl, hStore⟩ }

theorem createSession_outcome (hMethod : r.method = "POST") (hPath : r.path = utf8 "/sessions")
    (hGate : passGate config.authToken r = .ok ()) :
    Outcome config now fresh r p (createSession config now fresh r p) := by
  apply respondWith_outcome
  intro created p' hChange
  obtain ⟨form, hRead, hAdmit⟩ := bind_eq_ok_iff.1 hChange
  obtain ⟨hJson, hFits, hForm⟩ := readBody_eq_ok_iff.1 hRead
  have hAccept := Plane.admitSession_succeeds_iff.1 ⟨_, hAdmit⟩
  obtain ⟨session, hSession, rfl, hStore⟩ := Plane.admitSession_eq_ok hAdmit
  exact .inr (.inl
    { asked := ⟨⟨hMethod, hPath, hGate, hJson, hFits⟩, form, hForm, hAccept⟩
      status_eq := rfl
      stored := ⟨form, session, hForm, hSession, rfl, hStore⟩ })

/-- A look-up is answered 200, 400 or with a refusal. -/
theorem status_lookUp {α : Type} (c : Codec α)
    (find : String → Except Refusal α) (segment : List UInt8) :
    (lookUp c find segment).status = 200 ∨ 400 ≤ (lookUp c find segment).status := by
  unfold lookUp
  split
  · next id _ =>
      cases find id with
      | error refusal => exact .inr refusal.le_status
      | ok a => exact .inl rfl
  · exact .inr (Nat.le_refl 400)

/-- Every endpoint has one of the outcomes on the methods that it takes. -/
theorem serve_outcome {e : Endpoint} (hPath : r.path = e.path)
    (hGate : e.isGated = true → passGate config.authToken r = .ok ())
    (hMethod : e.methods.contains r.method = true) :
    Outcome config now fresh r p (serve config now fresh r p e) := by
  cases e with
  | health => exact .keeps (by decide) (by decide)
  | jobs =>
      have hPost : r.method = "POST" := by
        simpa [Endpoint.methods] using hMethod
      exact createJob_outcome hPost hPath (hGate rfl)
  | sessions =>
      have hPost : r.method = "POST" := by
        simpa [Endpoint.methods] using hMethod
      exact createSession_outcome hPost hPath (hGate rfl)
  | job segment =>
      have hStatus := status_lookUp JobView.codec p.job segment
      exact .keeps (by omega) (by omega)
  | session segment =>
      have hStatus := status_lookUp SessionView.codec (p.session · now) segment
      exact .keeps (by omega) (by omega)

/-! ## The layers around them -/

theorem answerAt_outcome {e : Endpoint} (hPath : r.path = e.path) :
    Outcome config now fresh r p (answerAt config now fresh r p e) := by
  unfold answerAt
  split
  · exact .refused _
  · next hPass =>
      split
      · next hMethod =>
          apply serve_outcome hPath ?_ hMethod
          intro hGated
          rwa [if_pos hGated] at hPass
      · exact .keeps (by decide) (by decide)

theorem route_outcome (config : Config) (now : Instant) (fresh : String) (r : Request) (p : Plane) :
    Outcome config now fresh r p (route config now fresh r p) := by
  unfold route
  split
  · exact .keeps (by decide) (by decide)
  · next e hEndpoint =>
      have hPath := (Endpoint.eq_path_of_ofPath? hEndpoint).2
      have hAt : Outcome config now fresh r p
          (answerAt config now fresh r p e) := answerAt_outcome hPath
      apply hAt.layer
      · rw [apply_ite Response.status, status_dropBody, ite_self, status_tellMethods]
      · intro hPost
        rw [if_neg (by rw [hPost]; decide), body_tellMethods]

theorem answer_outcome (config : Config) (now : Instant) (fresh : String)
    (r : Request) (p : Plane) :
    Outcome config now fresh r p (answer config now fresh r p) := by
  have hRoute := route_outcome config now fresh r p
  unfold answer
  split
  · split
    · exact .keeps (by simp) (by simp)
    · exact hRoute.layer (status_expose _) fun _ => body_expose _
  · exact hRoute

/-! ## Requests that no stage can fault -/

/-- A change that succeeds is answered with its status. -/
theorem status_respondWith {α : Type} {status : Nat} {c : Codec α}
    {change : Except Refusal (α × Plane)} (h : ∃ result, change = .ok result) :
    (respondWith status c p change).1.status = status := by
  obtain ⟨result, rfl⟩ := h
  rfl

theorem AsksForJob.status_eq (now : Instant) (h : AsksForJob config fresh r p) :
    (answer config now fresh r p).1.status = 202 := by
  obtain ⟨hPosts, form, hForm, hAccept⟩ := h
  rw [answer_eq_createJob hPosts.method_eq hPosts.path_eq hPosts.gate, status_shown]
  apply status_respondWith
  obtain ⟨result, hAdmit⟩ := (Plane.admitJob_succeeds_iff now).2 hAccept
  exact ⟨result, bind_eq_ok_iff.2 ⟨form,
    readBody_eq_ok_iff.2 ⟨hPosts.json, hPosts.fits, hForm⟩, hAdmit⟩⟩

theorem AsksForSession.status_eq (h : AsksForSession config now fresh r p) :
    (answer config now fresh r p).1.status = 201 := by
  obtain ⟨hPosts, form, hForm, hAccept⟩ := h
  rw [answer_eq_createSession hPosts.method_eq hPosts.path_eq hPosts.gate, status_shown]
  apply status_respondWith
  obtain ⟨result, hAdmit⟩ := Plane.admitSession_succeeds_iff.2 hAccept
  exact ⟨result, bind_eq_ok_iff.2 ⟨form,
    readBody_eq_ok_iff.2 ⟨hPosts.json, hPosts.fits, hForm⟩, hAdmit⟩⟩

/-- **All or nothing.**  Whatever the configuration, the clock, the generated id, the request and
the stores, exactly one of these happens: the answer is 202 and one job is appended to the queue,
the answer is 201 and one session is held in the registry, or the answer has another status and the
stores are as they were.  The first two happen to just those requests that no stage can fault. -/
theorem admits_or_keeps (config : Config) (now : Instant) (fresh : String)
    (r : Request) (p : Plane) :
    let response := (answer config now fresh r p).1
    let p' := (answer config now fresh r p).2
    ((AdmitsJob config now fresh r p response p' ∧
          ¬AdmitsSession config now fresh r p response p' ∧
          ¬KeepsStores p response p') ∨
        (¬AdmitsJob config now fresh r p response p' ∧
          AdmitsSession config now fresh r p response p' ∧
          ¬KeepsStores p response p') ∨
        (¬AdmitsJob config now fresh r p response p' ∧
          ¬AdmitsSession config now fresh r p response p' ∧
          KeepsStores p response p')) ∧
      (response.status = 202 ↔ AsksForJob config fresh r p) ∧
      (response.status = 201 ↔ AsksForSession config now fresh r p) := by
  intro response p'
  have hOutcome : Outcome config now fresh r p (response, p') := answer_outcome config now fresh r p
  -- the statuses tell the outcomes apart
  have hJobSession : AdmitsJob config now fresh r p response p' →
      ¬AdmitsSession config now fresh r p response p' := by
    intro hJob hSession
    have hStatus := hJob.status_eq.symm.trans hSession.status_eq
    omega
  have hJobKeeps : AdmitsJob config now fresh r p response p' →
      ¬KeepsStores p response p' := by
    intro hJob hKeeps
    exact hKeeps.not_accepted hJob.status_eq
  have hSessionKeeps : AdmitsSession config now fresh r p response p' →
      ¬KeepsStores p response p' := by
    intro hSession hKeeps
    exact hKeeps.not_created hSession.status_eq
  refine ⟨?_, ⟨?_, AsksForJob.status_eq now⟩, ⟨?_, AsksForSession.status_eq⟩⟩
  · rcases hOutcome with hJob | hSession | hKeeps
    · exact .inl ⟨hJob, hJobSession hJob, hJobKeeps hJob⟩
    · exact .inr (.inl ⟨fun hJob => hJobSession hJob hSession, hSession, hSessionKeeps hSession⟩)
    · exact .inr (.inr ⟨fun hJob => hJobKeeps hJob hKeeps,
        fun hSession => hSessionKeeps hSession hKeeps, hKeeps⟩)
  · intro hStatus
    rcases hOutcome with hJob | hSession | hKeeps
    · exact hJob.asked
    · have := hStatus.symm.trans hSession.status_eq
      omega
    · exact absurd hStatus hKeeps.not_accepted
  · intro hStatus
    rcases hOutcome with hJob | hSession | hKeeps
    · have := hStatus.symm.trans hJob.status_eq
      omega
    · exact hSession.asked
    · exact absurd hStatus hKeeps.not_created

end Admission.Http
