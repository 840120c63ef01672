import Admission.Proofs.Form.Acceptance
import Admission.Proofs.Queue.Transition
import Admission.Service.Plane

/-!
# What an admission stores

An admission that succeeds answers with what it stored, and stores what the form asked for: names
without the blanks around them, the language that its name stands for, the code letter for letter,
and the times by the clock.  One store changes at one id, and the other does not change.

## Main results

* `Plane.admitJob_succeeds_iff`, `Plane.admitSession_succeeds_iff`: which forms are admitted.
* `Plane.admitJob_eq_ok`: an admitted job is the one that the form asks for, and stands at the end
  of the queue.
* `Plane.admitSession_eq_ok`: an admitted session is the one that the form asks for, and stands in
  the registry under its id.
-/

namespace Admission

open Admission.Store Admission.Text Admission.Time

/-! ## What a form asks for -/

/-- The names that a form is made under, without the blanks around them. -/
structure Principal.NamedBy (principal : Principal)
    (tenantId agentId policyId : Option String) : Prop where
  tenantId_eq : tenantId.map trim = some principal.tenantId
  agentId_eq : agentId.map trim = some principal.agentId
  policyId_eq : policyId.map trim = some principal.policyId

/-- The job that a form asks for, at a time and with a generated id at hand. -/
structure JobForm.AsksFor (form : JobForm) (now : Instant) (fresh : String) (job : Job) : Prop where
  id_eq : job.id = (form.id.map trim).getD fresh
  named : job.principal.NamedBy form.tenantId form.agentId form.policyId
  language_mem : ∃ name, form.language = some name ∧ asciiLower (trim name) ∈ job.language.names
  code_eq : form.code = some job.code
  pending : job.status = .pending
  createdAt_eq : job.createdAt = now

/-- The session that a form asks for, at a time and with a generated id at hand. -/
structure SessionForm.AsksFor (form : SessionForm) (now : Instant)
    (fresh : String) (session : Session) : Prop where
  id_eq : session.id = (form.id.map trim).getD fresh
  named : session.principal.NamedBy form.tenantId form.agentId form.policyId
  ttl_eq : ∃ ttl, form.ttlSeconds = some ttl ∧ ttl.toInt = session.ttlSeconds.toNat
  ttl_pos : 0 < session.ttlSeconds.toNat
  createdAt_eq : session.createdAt = now
  expiresAt_eq : ∃ expiry : Instant, session.expiresAt = expiry ∧
    expiry.ns = now.ns + session.ttlSeconds.toNat * nsPerSecond

theorem namedBy_of_requiredPrincipal {tenantId agentId policyId : Option String}
    {principal : Principal} (h : requiredPrincipal tenantId agentId policyId = .ok principal) :
    principal.NamedBy tenantId agentId policyId := by
  have hName : ∀ {field v name}, requiredName field v = .ok name →
      v.map trim = some name := by
    intro field v name hRequired
    obtain ⟨s, rfl, _, rfl⟩ := requiredName_eq_ok_iff.1 hRequired
    rfl
  obtain ⟨hTenant, hAgent, hPolicy⟩ := requiredPrincipal_eq_ok_iff.1 h
  exact ⟨hName hTenant, hName hAgent, hName hPolicy⟩

/-- A draft is what its form asks for. -/
theorem JobForm.asksFor_of_check {form : JobForm} {draft : JobDraft}
    (h : form.check = .ok draft) (now : Instant) (fresh : String) :
    form.AsksFor now fresh (draft.toJob (draft.id.getD fresh) now) := by
  obtain ⟨hId, hPrincipal, hLanguage, hCode⟩ := JobForm.check_eq_ok_iff.1 h
  exact
    { id_eq := by rw [(callerId_eq_ok_iff.1 hId).2]; rfl
      named := namedBy_of_requiredPrincipal hPrincipal
      language_mem := requiredLanguage_eq_ok_iff.1 hLanguage
      code_eq := (requiredCode_eq_ok_iff.1 hCode).1
      pending := rfl
      createdAt_eq := rfl }

/-- A stamped draft is what its form asks for, and ends when its lifetime does. -/
theorem SessionForm.asksFor_of_check {form : SessionForm} {draft : SessionDraft}
    {now : Instant} {fresh : String} {session : Session} (h : form.check = .ok draft)
    (hStamp : draft.stamp (draft.id.getD fresh) now = .ok session) :
    form.AsksFor now fresh session := by
  obtain ⟨hId, hPrincipal, hTtl⟩ := SessionForm.check_eq_ok_iff.1 h
  obtain ⟨ttl, hSome, hPos, _, hUnsigned⟩ := requiredTtl_eq_ok_iff.1 hTtl
  obtain ⟨expiry, hExpiry, rfl⟩ := SessionDraft.stamp_eq_ok_iff.1 hStamp
  have hToInt : ttl.toInt = draft.ttlSeconds.toNat := by
    rw [hUnsigned, toNat_toUInt64_of_pos hPos]
  rw [hUnsigned, Int64.toInt64_toUInt64] at hExpiry
  have hSum := (SessionDraft.expiry?_eq_some_iff.1 hExpiry).2
  exact
    { id_eq := by rw [(callerId_eq_ok_iff.1 hId).2]
      named := namedBy_of_requiredPrincipal hPrincipal
      ttl_eq := ⟨ttl, hSome, hToInt⟩
      ttl_pos := by
        show 0 < draft.ttlSeconds.toNat
        omega
      createdAt_eq := rfl
      expiresAt_eq := ⟨expiry, rfl, by rw [hSum, hToInt]⟩ }

namespace Plane

/-! ## What changes in the stores -/

/-- One more job waits, at the end of the queue, under an id that was free; nothing else changed. -/
structure JobAppended (p : Plane) (job : Job) (p' : Plane) : Prop where
  new : p.jobs.get? job.id = none
  waiting_eq : p'.jobs.waiting = p.jobs.waiting ++ [job.id]
  get?_eq : ∀ id, p'.jobs.get? id =
    if id = job.id then some job else p.jobs.get? id
  size_eq : p'.jobs.size = p.jobs.size + 1
  sessions_eq : p'.sessions = p.sessions

/-- A session stands under its id, where none was live; nothing else changed. -/
structure SessionHeld (p : Plane) (now : Instant) (session : Session) (p' : Plane) : Prop where
  free : p.sessions.get? session.id now = none
  entry_eq : ∀ id, p'.sessions.sessions.get? id =
    if id = session.id then some session else p.sessions.sessions.get? id
  jobs_eq : p'.jobs = p.jobs

end Plane

/-- A session is held exactly if no live one has its id. -/
theorem Registry.insert_eq_ok_iff {r r' : Registry} {s : Session} {now : Instant} :
    r.insert s now = .ok r' ↔ r.get? s.id now = none ∧ r' = ⟨r.sessions.put s.id s⟩ := by
  have hFree : r.get? s.id now = none ↔
      (r.sessions.get? s.id).any (·.isLive now) = false := by
    rw [Registry.get?]
    cases r.sessions.get? s.id with
    | none => simp
    | some held => simp [Option.filter_eq_none_iff]
  rw [hFree]
  unfold Registry.insert
  split
  · next hTaken => simp [hTaken]
  · next hTaken =>
      rw [Bool.not_eq_true] at hTaken
      simp [hTaken, eq_comm]

namespace Plane

variable {p p' : Plane} {now : Instant} {fresh : String}

/-- An admission of a job, step by step: the form is accepted, and the queue takes in the draft
under its id or the generated one. -/
theorem admitJob_eq_ok_iff {form : JobForm} {accepted : JobAccepted} :
    p.admitJob now fresh form = .ok (accepted, p') ↔
      ∃ draft jobs, form.check = .ok draft ∧
        p.jobs.enqueue (draft.toJob (draft.id.getD fresh) now) = .ok jobs ∧
        accepted = ⟨draft.id.getD fresh, .pending⟩ ∧
        p' = { p with jobs := jobs } := by
  unfold admitJob
  constructor
  · intro h
    split at h
    · cases h
    · next draft hCheck =>
        dsimp only at h
        split at h
        · next jobs hEnqueue =>
            cases h
            exact ⟨draft, jobs, hCheck, hEnqueue, rfl, rfl⟩
        · split at h <;> cases h
  · rintro ⟨draft, jobs, hCheck, hEnqueue, rfl, rfl⟩
    simp only [hCheck, hEnqueue]

/-- An admission of a session, step by step: the form is accepted, the draft ends within the
calendar, and the registry holds it. -/
theorem admitSession_eq_ok_iff {form : SessionForm} {created : SessionCreated} :
    p.admitSession now fresh form = .ok (created, p') ↔
      ∃ draft session sessions, form.check = .ok draft ∧
        draft.stamp (draft.id.getD fresh) now = .ok session ∧
        p.sessions.insert session now = .ok sessions ∧
        created = ⟨session.id, session.expiresAt, .active⟩ ∧
        p' = { p with sessions := sessions } := by
  unfold admitSession
  constructor
  · intro h
    split at h
    · cases h
    · next draft hCheck =>
        split at h
        · cases h
        · next session hStamp =>
            split at h
            · next sessions hInsert =>
                cases h
                exact ⟨draft, session, sessions, hCheck, hStamp, hInsert, rfl, rfl⟩
            · split at h <;> cases h
  · rintro ⟨draft, session, sessions, hCheck, hStamp, hInsert, rfl, rfl⟩
    simp only [hCheck, hStamp, hInsert]

/-- An admission of a job that succeeds: the job is the one asked for, and is appended to the queue.
-/
theorem admitJob_eq_ok {form : JobForm} {accepted : JobAccepted}
    (h : p.admitJob now fresh form = .ok (accepted, p')) :
    ∃ job, form.AsksFor now fresh job ∧ accepted = ⟨job.id, .pending⟩ ∧ p.JobAppended job p' := by
  obtain ⟨draft, jobs, hCheck, hEnqueue, rfl, rfl⟩ := admitJob_eq_ok_iff.1 h
  obtain ⟨hNew, rfl⟩ := Queue.enqueue_eq_ok_iff.1 hEnqueue
  refine ⟨_, JobForm.asksFor_of_check hCheck now fresh, rfl,
    { new := hNew
      waiting_eq := rfl
      get?_eq := fun id => Queue.get?_put _ _ _ id _
      size_eq := ?_
      sessions_eq := rfl }⟩
  have hNone : p.jobs.jobs.get? (draft.toJob (draft.id.getD fresh) now).id = none := hNew
  show (p.jobs.jobs.put _ _).size = p.jobs.jobs.size + 1
  rw [Table.size_put, hNone]
  rfl

/-- An admission of a session that succeeds: the session is the one asked for, is held in the
registry, and the answer tells when it ends. -/
theorem admitSession_eq_ok {form : SessionForm} {created : SessionCreated}
    (h : p.admitSession now fresh form = .ok (created, p')) :
    ∃ session, form.AsksFor now fresh session ∧
      created = ⟨session.id, session.expiresAt, .active⟩ ∧
      p.SessionHeld now session p' := by
  obtain ⟨draft, session, sessions, hCheck, hStamp, hInsert, rfl, rfl⟩ := admitSession_eq_ok_iff.1 h
  obtain ⟨hFree, rfl⟩ := Registry.insert_eq_ok_iff.1 hInsert
  exact ⟨session, SessionForm.asksFor_of_check hCheck hStamp, rfl,
    { free := hFree
      entry_eq := fun id => Table.get?_put _ _ id _
      jobs_eq := rfl }⟩

/-- A form for a job is admitted exactly if it is acceptable and its id, or the generated one, is
new. -/
theorem admitJob_succeeds_iff (now : Instant) {form : JobForm} :
    (∃ result, p.admitJob now fresh form = .ok result) ↔
      form.Acceptable ∧ p.jobs.get? ((form.id.map trim).getD fresh) = none := by
  constructor
  · rintro ⟨⟨accepted, p'⟩, h⟩
    obtain ⟨draft, _, hCheck, _⟩ := admitJob_eq_ok_iff.1 h
    obtain ⟨job, hJob, _, hStore⟩ := admitJob_eq_ok h
    exact ⟨JobForm.acceptable_iff.2 ⟨draft, hCheck⟩, hJob.id_eq ▸ hStore.new⟩
  · rintro ⟨hForm, hNew⟩
    obtain ⟨draft, hCheck⟩ := JobForm.acceptable_iff.1 hForm
    rw [← (JobForm.asksFor_of_check hCheck now fresh).id_eq] at hNew
    exact ⟨_, admitJob_eq_ok_iff.2
      ⟨draft, _, hCheck, Queue.enqueue_eq_ok_iff.2 ⟨hNew, rfl⟩, rfl, rfl⟩⟩

/-- A form for a session is admitted exactly if it is acceptable at the time and no live session has
its id, or the generated one. -/
theorem admitSession_succeeds_iff {form : SessionForm} :
    (∃ result, p.admitSession now fresh form = .ok result) ↔
      form.AcceptableAt now ∧ p.sessions.get? ((form.id.map trim).getD fresh) now = none := by
  constructor
  · rintro ⟨⟨created, p'⟩, h⟩
    obtain ⟨draft, session, _, hCheck, hStamp, _⟩ := admitSession_eq_ok_iff.1 h
    obtain ⟨session', hSession, _, hStore⟩ := admitSession_eq_ok h
    exact ⟨(SessionForm.acceptableAt_iff fresh).2
      ⟨draft, session, hCheck, hStamp⟩, hSession.id_eq ▸ hStore.free⟩
  · rintro ⟨hForm, hFree⟩
    obtain ⟨draft, session, hCheck, hStamp⟩ := (SessionForm.acceptableAt_iff fresh).1 hForm
    rw [← (SessionForm.asksFor_of_check hCheck hStamp).id_eq] at hFree
    exact ⟨_, admitSession_eq_ok_iff.2 ⟨draft, session, _, hCheck, hStamp,
      Registry.insert_eq_ok_iff.2 ⟨hFree, rfl⟩, rfl, rfl⟩⟩

end Plane

end Admission
