import Admission.Proofs.Http.Endpoints
import Admission.Proofs.Queue.Veiled
import Admission.Proofs.Service.Refusing

/-!
# Answers that do not tell of code

Two control planes may differ in the code of the jobs that wait, and two posts for a job in the code
that they give.  Each stage of an answer is then passed or failed by both, and by both for the same
reason: the checks ask of code only whether it is there and not blank, the queue does not look at
it, and no view, answer or message has it in it.  So the answers are the same, and afterwards the
planes differ, at most, as they did before.

## Main results

* `JobForm.SameButCode.check_eq`: such forms are checked alike.
* `looksAlike_of_sameRequest`, `Request.SameButCode.looksAlike`: such requests are answered alike.
-/

namespace Admission

open Admission.Http Admission.Json Admission.Text Admission.Time

/-! ## Forms -/

/-- Two forms that differ in code only, and either both give some that is not blank or both do
not. -/
structure JobForm.SameButCode (form form' : JobForm) : Prop where
  rest_eq : form' = { form with code := form'.code }
  given_iff : IsGiven form.code ↔ IsGiven form'.code

theorem JobForm.SameButCode.refl (form : JobForm) : form.SameButCode form := ⟨rfl, Iff.rfl⟩

/-- A draft with its code taken out. -/
def JobDraft.withoutCode (draft : JobDraft) : JobDraft := { draft with code := "" }

/-- Code is refused for one reason only. -/
theorem requiredCode_of_not_isGiven {v : Option String} (h : ¬IsGiven v) :
    requiredCode v = .error (.missingField "code") := by
  cases v with
  | none => rfl
  | some s =>
      have hBlank : isBlank s = true := by
        rw [← Bool.not_eq_false]
        exact fun hBlank => h ⟨s, rfl, hBlank⟩
      rw [requiredCode, if_pos hBlank]

namespace JobForm.SameButCode

variable {form form' : JobForm}

theorem requiredCode_eq (h : form.SameButCode form') :
    (requiredCode form.code).map (fun _ => "") = (requiredCode form'.code).map fun _ => "" := by
  by_cases hGiven : IsGiven form.code
  · obtain ⟨code, hCode⟩ := hGiven
    obtain ⟨code', hCode'⟩ := h.given_iff.1 ⟨code, hCode⟩
    rw [requiredCode_eq_ok_iff.2 hCode, requiredCode_eq_ok_iff.2 hCode']
    rfl
  · have hGiven' : ¬IsGiven form'.code := mt h.given_iff.2 hGiven
    rw [requiredCode_of_not_isGiven hGiven, requiredCode_of_not_isGiven hGiven']

/-- Such forms pass the same checks, and fail the same one first. -/
theorem check_eq (h : form.SameButCode form') :
    form.check.map JobDraft.withoutCode = form'.check.map JobDraft.withoutCode := by
  -- code is checked last, and what is left of it in a draft is nothing
  have hCheck : ∀ form : JobForm, form.check.map JobDraft.withoutCode = do
      let id ← callerId form.id
      let principal ← requiredPrincipal form.tenantId form.agentId form.policyId
      let language ← requiredLanguage form.language
      let code ← (requiredCode form.code).map fun _ => ""
      return ⟨id, principal, language, code⟩ := by
    intro form
    rw [check]
    cases callerId form.id with
    | error e => rfl
    | ok id =>
        cases requiredPrincipal form.tenantId form.agentId form.policyId with
        | error e => rfl
        | ok principal =>
            cases requiredLanguage form.language with
            | error e => rfl
            | ok language => cases requiredCode form.code <;> rfl
  rw [hCheck, hCheck, h.requiredCode_eq, h.rest_eq]

end JobForm.SameButCode

/-! ## Planes -/

namespace Plane

/-- The stores without the code of the jobs that wait. -/
def veiled (p : Plane) : Plane := { p with jobs := p.jobs.veiled }

variable {p p' : Plane}

theorem sessions_eq_of_veiled_eq (h : p.veiled = p'.veiled) : p.sessions = p'.sessions := by
  show p.veiled.sessions = p'.veiled.sessions
  rw [h]

theorem job_veiled (p : Plane) (id : String) : p.veiled.job id = p.job id := by
  have hGet : p.veiled.jobs.get? id = (p.jobs.get? id).map Job.veiled := p.jobs.get?_veiled id
  rw [job, job, hGet]
  cases p.jobs.get? id with
  | none => rfl
  | some job => exact congrArg Except.ok job.view_veiled

/-- A change without the code of the jobs that wait afterwards. -/
def veiledChange {α : Type} : Except Refusal (α × Plane) → Except Refusal (α × Plane) :=
  Except.map fun result => (result.1, result.2.veiled)

/-- Of an accepted form, and of the jobs that wait, no code has a part in what is answered. -/
theorem veiledChange_admitJob {form : JobForm} {draft bare : JobDraft}
    (hCheck : form.check = .ok draft) (hBare : draft.withoutCode = bare) (p : Plane) (now : Instant)
    (fresh : String) :
    veiledChange (p.admitJob now fresh form) =
      match p.veiled.jobs.enqueue (bare.toJob (bare.id.getD fresh) now) with
      | .ok jobs => .ok (⟨bare.id.getD fresh, .pending⟩, { p.veiled with jobs := jobs })
      | .error _ => .error (jobTaken bare.id fresh) := by
  subst hBare
  have hVeiled : p.veiled.jobs.enqueue
      (draft.withoutCode.toJob (draft.withoutCode.id.getD fresh) now) =
        (p.jobs.enqueue (draft.toJob (draft.id.getD fresh) now)).map Queue.veiled :=
    p.jobs.enqueue_veiled (draft.toJob (draft.id.getD fresh) now)
  rw [hVeiled]
  cases hEnqueue : p.jobs.enqueue (draft.toJob (draft.id.getD fresh) now) with
  | error e =>
      have hTaken := (Queue.enqueue_eq_error_iff.1 hEnqueue).1
      rw [admitJob_of_taken hCheck hTaken]
      rfl
  | ok jobs =>
      rw [admitJob_eq_ok_iff.2 ⟨draft, jobs, hCheck, hEnqueue, rfl, rfl⟩]
      rfl

/-- Forms that differ in code only are admitted or refused alike. -/
theorem admitJob_congr (hStores : p.veiled = p'.veiled) {form form' : JobForm}
    (hForm : form.SameButCode form') (now : Instant) (fresh : String) :
    veiledChange (p.admitJob now fresh form) = veiledChange (p'.admitJob now fresh form') := by
  rcases alike_of_map_eq hForm.check_eq with ⟨e, hError, hError'⟩ | ⟨draft, draft', hDraft, hDraft',
    hDrafts⟩
  · simp only [admitJob, hError, hError']
  · rw [veiledChange_admitJob hDraft hDrafts, veiledChange_admitJob hDraft' rfl, hStores]

/-- The admission of a session has nothing to do with jobs. -/
theorem admitSession_congr (hStores : p.veiled = p'.veiled) (now : Instant) (fresh : String)
    (form : SessionForm) :
    veiledChange (p.admitSession now fresh form) =
      veiledChange (p'.admitSession now fresh form) := by
  have hSessions := sessions_eq_of_veiled_eq hStores
  have hAfter : ∀ sessions, ({ p with sessions := sessions } : Plane).veiled =
      ({ p' with sessions := sessions } : Plane).veiled := by
    intro sessions
    show Plane.mk p.veiled.jobs sessions = Plane.mk p'.veiled.jobs sessions
    rw [hStores]
  rw [admitSession, admitSession, hSessions]
  cases form.check with
  | error e => rfl
  | ok draft =>
      cases hStamp : draft.stamp (draft.id.getD fresh) now with
      | error e => simp only [hStamp]
      | ok session =>
          cases hInsert : p'.sessions.insert session now with
          | ok sessions =>
              simp only [hStamp, hInsert]
              exact congrArg (fun after => Except.ok (_, after)) (hAfter sessions)
          | error e => simp only [hStamp, hInsert]

end Plane

/-! ## Answers -/

namespace Http

/-- The answers are the same, and the stores after them but for the code of the jobs that wait. -/
structure LooksAlike (result result' : Response × Plane) : Prop where
  response_eq : result.1 = result'.1
  stores_eq : result.2.veiled = result'.2.veiled

/-- Two posts for a job whose bodies can be read, and differ in the code that they give. -/
structure Request.SameButCode (maxBytes : Nat) (r r' : Request) : Prop where
  method_eq : r.method = "POST"
  path_eq : r.path = utf8 "/jobs"
  rest_eq : r' = { r with body := r'.body }
  fits : r.body.length ≤ maxBytes
  fits' : r'.body.length ≤ maxBytes
  forms : ∃ form form', JobForm.codec.decodeBytes r.body = .ok form ∧
    JobForm.codec.decodeBytes r'.body = .ok form' ∧ form.SameButCode form'

variable {config : Config} {now : Instant} {fresh : String} {r r' : Request} {p p' : Plane}
  {α : Type} {c : Codec α}

theorem looksAlike_respondWith (hStores : p.veiled = p'.veiled) (status : Nat)
    {change change' : Except Refusal (α × Plane)}
    (h : Plane.veiledChange change = Plane.veiledChange change') :
    LooksAlike (respondWith status c p change) (respondWith status c p' change') := by
  obtain ⟨hResponse, hAfter⟩ := respondWith_congr Plane.veiled hStores h
  exact ⟨hResponse, hAfter⟩

/-- One request, served from planes that differ in the code of waiting jobs only. -/
theorem looksAlike_serve (hStores : p.veiled = p'.veiled) (e : Endpoint) :
    LooksAlike (serve config now fresh r p e) (serve config now fresh r p' e) := by
  have hJob : p.job = p'.job := by
    funext id
    rw [← p.job_veiled, ← p'.job_veiled, hStores]
  have hSession : ∀ id, p.session id now = p'.session id now := by
    intro id
    rw [Plane.session, Plane.session, Plane.sessions_eq_of_veiled_eq hStores]
  cases e with
  | health => exact ⟨rfl, hStores⟩
  | jobs =>
      exact looksAlike_respondWith hStores 202 (map_bind_congr fun form =>
        Plane.admitJob_congr hStores (.refl form) now fresh)
  | sessions =>
      exact looksAlike_respondWith hStores 201 (map_bind_congr
        (Plane.admitSession_congr hStores now fresh))
  | job segment =>
      refine ⟨?_, hStores⟩
      simp only [serve, hJob]
  | session segment =>
      refine ⟨?_, hStores⟩
      simp only [serve, hSession]

/-- Two posts for a job that differ in code only, served from such planes. -/
theorem Request.SameButCode.looksAlike_createJob (h : r.SameButCode config.maxBodyBytes r')
    (hStores : p.veiled = p'.veiled) :
    LooksAlike (createJob config now fresh r p) (createJob config now fresh r' p') := by
  have hHeaders : hasJsonBody r = hasJsonBody r' := by
    rw [h.rest_eq]
    rfl
  obtain ⟨form, form', hForm, hForm', hSame⟩ := h.forms
  cases hJson : hasJsonBody r' with
  | false =>
      have hRead : ∀ r, hasJsonBody r = false →
          readBody config.maxBodyBytes JobForm.codec r = .error (.form (.malformedBody
            "Expected request with `Content-Type: application/json`")) := by
        intro r hNot
        rw [readBody, hNot]
        rfl
      rw [createJob, createJob, hRead r (hHeaders.trans hJson), hRead r' hJson]
      exact ⟨rfl, hStores⟩
  | true =>
      have hRead := readBody_eq_ok_iff.2 ⟨hHeaders.trans hJson, h.fits, hForm⟩
      have hRead' := readBody_eq_ok_iff.2 ⟨hJson, h.fits', hForm'⟩
      rw [createJob_of_readBody hRead, createJob_of_readBody hRead']
      exact looksAlike_respondWith hStores 202 (Plane.admitJob_congr hStores hSame now fresh)

/-- The gate and the method are passed or not alike, so what is served alike is answered alike. -/
theorem looksAlike_answerAt {e : Endpoint} (hStores : p.veiled = p'.veiled)
    (hGate : passGate config.authToken r = passGate config.authToken r')
    (hMethod : r.method = r'.method)
    (hServe : LooksAlike (serve config now fresh r p e) (serve config now fresh r' p' e)) :
    LooksAlike (answerAt config now fresh r p e) (answerAt config now fresh r' p' e) := by
  obtain ⟨hResponse, hAfter⟩ := answerAt_rel (fun p p' => p.veiled = p'.veiled) hGate hMethod
    hStores ⟨hServe.response_eq, hServe.stores_eq⟩
  exact ⟨hResponse, hAfter⟩

/-- What the endpoint at the path answers alike is answered alike. -/
theorem looksAlike_answer (hStores : p.veiled = p'.veiled) (hMethod : r.method = r'.method)
    (hPath : r.path = r'.path)
    (hAt : ∀ e, Endpoint.ofPath? r.path = some e →
      LooksAlike (answerAt config now fresh r p e) (answerAt config now fresh r' p' e)) :
    LooksAlike (answer config now fresh r p) (answer config now fresh r' p') := by
  obtain ⟨hResponse, hAfter⟩ := answer_rel (fun p p' => p.veiled = p'.veiled) rfl hMethod hPath
    hStores fun e he => ⟨(hAt e he).response_eq, (hAt e he).stores_eq⟩
  exact ⟨hResponse, hAfter⟩

/-- One request to planes that differ in the code of waiting jobs only. -/
theorem looksAlike_of_sameRequest (hStores : p.veiled = p'.veiled) :
    LooksAlike (answer config now fresh r p) (answer config now fresh r p') :=
  looksAlike_answer hStores rfl rfl fun e _ =>
    looksAlike_answerAt hStores rfl rfl (looksAlike_serve hStores e)

/-- Two posts for a job that differ in code only, to such planes. -/
theorem Request.SameButCode.looksAlike (h : r.SameButCode config.maxBodyBytes r')
    (hStores : p.veiled = p'.veiled) :
    LooksAlike (answer config now fresh r p) (answer config now fresh r' p') := by
  have hMethod : r.method = r'.method := by
    rw [h.rest_eq]
  have hPath : r.path = r'.path := by
    rw [h.rest_eq]
  have hGate : passGate config.authToken r = passGate config.authToken r' := by
    rw [h.rest_eq]
    rfl
  refine looksAlike_answer hStores hMethod hPath fun e he => ?_
  have hJobs : Endpoint.ofPath? r.path = some .jobs := by
    rw [h.path_eq]
    exact Endpoint.ofPath?_path (e := .jobs) trivial
  obtain rfl := Option.some.inj (hJobs.symm.trans he)
  exact looksAlike_answerAt hStores hGate hMethod (h.looksAlike_createJob hStores)

end Http

end Admission
