import Admission.Proofs.Run.Lifetime
import Admission.Proofs.Run.Stores
import Admission.Service.Ulid

/-!
# What is stored along a run

Nothing is stored that was not checked.  Names and ids come from forms, which are accepted only if
they are not blank, and are trimmed before they are stored; code is kept as long as its job waits,
and no longer; and all times come from the clock, so that with a clock that never moves backwards
the jobs that wait are in the order of their times.

What a request stores is sound because its form was acceptable, and the one new job is the last and
the youngest of those that wait.  What an executor or a sweep does takes something away: code, a
place in the row, a session.  Moving the clock forward only makes everything older.

## Main results

* `Queue.IsSound.transition`: an executor leaves the queue sound.
* `Plane.IsSound.answer`: a request leaves the stores sound.
* `Ulid.isTidy_text`: ids that the service makes up may be stored.
* `everything_stored_is_sound`: the stores along a run.
-/

namespace Admission

open Admission.Http Admission.Store Admission.Text Admission.Time

/-! ## Sound records -/

/-- A name as it is stored: not empty, and without blanks at its ends. -/
structure Text.IsTidy (s : String) : Prop where
  ne_empty : s ≠ ""
  trimmed : Trimmed s.toList

/-- Three tidy names. -/
structure Principal.IsTidy (principal : Principal) : Prop where
  tenantId : Text.IsTidy principal.tenantId
  agentId : Text.IsTidy principal.agentId
  policyId : Text.IsTidy principal.policyId

/-- A job as it is stored: under tidy names, with code as long as it waits, and created by now. -/
structure Job.IsSound (job : Job) (now : Instant) : Prop where
  id : IsTidy job.id
  principal : job.principal.IsTidy
  code_given : job.status = .pending → isBlank job.code = false
  code_gone : job.status ≠ .pending → job.code = ""
  created : ∃ created : Instant, job.createdAt = created ∧ created ≤ now

/-- A session as it is stored: under tidy names, created by now, and with an expiry that lies past
its creation by just its lifetime. -/
structure Session.IsSound (session : Session) (now : Instant) : Prop where
  id : IsTidy session.id
  principal : session.principal.IsTidy
  ttl : 1 ≤ session.ttlSeconds.toNat
  times : ∃ created expiry : Instant, session.createdAt = created ∧
    session.expiresAt = expiry ∧ created ≤ now ∧ created < expiry ∧
    expiry.ns = created.ns + session.ttlSeconds.toNat * nsPerSecond

variable {now later : Instant}

theorem Job.IsSound.mono {job : Job} (h : job.IsSound now)
    (hNow : now ≤ later) : job.IsSound later := by
  obtain ⟨created, hCreated, hPast⟩ := h.created
  exact { h with created := ⟨created, hCreated, Int.le_trans hPast hNow⟩ }

/-- A claimed job has lost its code. -/
theorem Job.IsSound.claimed {job : Job} (h : job.IsSound now) :
    ({ job with status := .running, code := "" } : Job).IsSound now where
  id := h.id
  principal := h.principal
  code_given := nofun
  code_gone := fun _ => rfl
  created := h.created

/-- A job that ends had lost its code before. -/
theorem Job.IsSound.ended {job : Job} (h : job.IsSound now)
    (hRunning : job.status = .running) (succeeded : Bool) :
    ({ job with status := .ending succeeded } : Job).IsSound now where
  id := h.id
  principal := h.principal
  code_given := by cases succeeded <;> exact nofun
  code_gone := fun _ => h.code_gone (by rw [hRunning]; decide)
  created := h.created

theorem Session.IsSound.mono {session : Session} (h : session.IsSound now)
    (hNow : now ≤ later) : session.IsSound later := by
  obtain ⟨created, expiry, hCreated, hExpiry, hPast, hBefore, hSum⟩ := h.times
  exact { h with times := ⟨created, expiry, hCreated, hExpiry,
    Int.le_trans hPast hNow, hBefore, hSum⟩ }

/-! ### What forms ask for -/

theorem isTidy_trim {s : String} (h : isBlank s = false) : IsTidy (trim s) where
  ne_empty := by
    intro hEmpty
    rw [(trim_eq_empty_iff s).1 hEmpty] at h
    cases h
  trimmed := trimmed_trim s

theorem IsGiven.isTidy {v : Option String} {name : String} (h : IsGiven v)
    (hName : v.map trim = some name) : IsTidy name := by
  obtain ⟨s, rfl, hBlank⟩ := h
  rw [← Option.some.inj hName]
  exact isTidy_trim hBlank

/-- An id is chosen by a caller, and then not blank, or generated. -/
theorem isTidy_id {v : Option String} {fresh : String}
    (h : ∀ s, v = some s → isBlank s = false) (hFresh : IsTidy fresh) :
    IsTidy ((v.map trim).getD fresh) := by
  cases v with
  | none => exact hFresh
  | some s => exact isTidy_trim (h s rfl)

private theorem all_ulidDigits_not_blank :
    ulidDigits.all (fun c => !isBlankChar c) = true := by
  decide

/-- Ids of the form by which generated ones are known are tidy. -/
theorem isTidy_of_isUlid {s : String} (h : isUlid s = true) : IsTidy s := by
  simp only [isUlid, Bool.and_eq_true, beq_iff_eq] at h
  obtain ⟨⟨hLength, hDigits⟩, _⟩ := h
  have hNotBlank : ∀ c ∈ s.toList, isBlankChar c = false := by
    intro c hMem
    have hDigit := List.all_eq_true.1 hDigits c hMem
    have hNot := List.all_eq_true.1 all_ulidDigits_not_blank c (List.contains_iff_mem.1 hDigit)
    simpa using hNot
  constructor
  · rintro rfl
    cases hLength
  · exact ⟨fun c hHead => hNotBlank c (List.mem_of_head? hHead),
      fun c hLast => hNotBlank c (List.mem_of_getLast? hLast)⟩

/-- Ids that the service makes up are tidy. -/
theorem Ulid.isTidy_text (u : Ulid) : IsTidy u.text := isTidy_of_isUlid u.isUlid_text

theorem JobForm.AsksFor.isSound {form : JobForm} {fresh : String} {job : Job}
    (h : form.AsksFor now fresh job) (hForm : form.Acceptable)
    (hFresh : IsTidy fresh) : job.IsSound now where
  id := h.id_eq ▸ isTidy_id hForm.id hFresh
  principal := ⟨hForm.tenantId.isTidy h.named.tenantId_eq, hForm.agentId.isTidy h.named.agentId_eq,
    hForm.policyId.isTidy h.named.policyId_eq⟩
  code_given := by
    intro _
    obtain ⟨code, hCode, hBlank⟩ := hForm.code
    rw [h.code_eq] at hCode
    rwa [Option.some.inj hCode]
  code_gone := fun hNot => absurd h.pending hNot
  created := ⟨now, h.createdAt_eq, Int.le_refl _⟩

theorem SessionForm.AsksFor.isSound {form : SessionForm} {fresh : String}
    {session : Session} (h : form.AsksFor now fresh session)
    (hForm : form.AcceptableAt now) (hFresh : IsTidy fresh) :
    session.IsSound now where
  id := h.id_eq ▸ isTidy_id hForm.id hFresh
  principal := ⟨hForm.tenantId.isTidy h.named.tenantId_eq, hForm.agentId.isTidy h.named.agentId_eq,
    hForm.policyId.isTidy h.named.policyId_eq⟩
  ttl := h.ttl_pos
  times := by
    obtain ⟨expiry, hExpiry, hSum⟩ := h.expiresAt_eq
    refine ⟨now, expiry, h.createdAt_eq, hExpiry, Int.le_refl _, ?_, hSum⟩
    have hPos := h.ttl_pos
    unfold nsPerSecond at hSum
    show now.ns < expiry.ns
    omega

/-! ## Sound queues -/

namespace Queue

/-- The jobs that wait, from head to tail. -/
def pending (q : Queue) : List Job := q.waiting.filterMap q.get?

/-- A well-formed queue of sound jobs, in which those that wait are in the order of their times. -/
structure IsSound (q : Queue) (now : Instant) : Prop extends WellFormed q where
  jobs : ∀ id job, q.get? id = some job → job.IsSound now
  inOrder : q.pending.Pairwise fun a b => a.createdAt ≤ b.createdAt

variable {q q' : Queue}

theorem isSound_empty (now : Instant) : empty.IsSound now where
  toWellFormed := wellFormed_empty
  jobs := by simp
  inOrder := .nil

theorem IsSound.mono (hq : q.IsSound now) (hNow : now ≤ later) :
    q.IsSound later :=
  { hq with jobs := fun id job hJob => (hq.jobs id job hJob).mono hNow }

/-- Jobs that do not wait have no part in the row of those that do. -/
theorem pending_put_of_not_mem {waiting : List String} {id : String}
    (hNot : id ∉ waiting) (job : Job) :
    (Queue.mk waiting (q.jobs.put id job)).pending = (Queue.mk waiting q.jobs).pending := by
  apply List.filterMap_congr
  intro id' hMem
  have hOther : id' ≠ id := fun hEq => hNot (hEq ▸ hMem)
  rw [get?_put, if_neg hOther]

theorem IsSound.jobs_put (hq : q.IsSound now) {id : String} {job : Job}
    (hJob : job.IsSound now) (waiting : List String) :
    ∀ id' found, (Queue.mk waiting (q.jobs.put id job)).get? id' = some found →
      found.IsSound now := by
  intro id' found hFound
  rw [get?_put] at hFound
  split at hFound
  · rwa [← Option.some.inj hFound]
  · exact hq.jobs id' found hFound

/-- A claim takes the code of a job and its place in the row. -/
theorem IsSound.claim (hq : q.IsSound now) {job : Job} {rest : List String}
    (hWaiting : q.waiting = job.id :: rest) (hJob : q.get? job.id = some job)
    (hPending : job.status = .pending) :
    IsSound ⟨rest, q.jobs.put job.id
      { job with status := .running, code := "" }⟩ now where
  toWellFormed := hq.toWellFormed.transition (.claim hWaiting hJob hPending)
  jobs := hq.jobs_put (hq.jobs job.id job hJob).claimed rest
  inOrder := by
    have hNodup := hq.nodup
    rw [hWaiting, List.nodup_cons] at hNodup
    have hRow : q.pending = job :: (Queue.mk rest q.jobs).pending := by
      rw [pending, hWaiting, List.filterMap_cons_some hJob]
      rfl
    have hInOrder := hq.inOrder
    rw [hRow] at hInOrder
    rw [pending_put_of_not_mem hNodup.1]
    exact hInOrder.tail

/-- The end of a job changes its status only. -/
theorem IsSound.finish (hq : q.IsSound now) {job : Job} {succeeded : Bool}
    (hJob : q.get? job.id = some job) (hRunning : job.status = .running) :
    IsSound ⟨q.waiting, q.jobs.put job.id
      { job with status := .ending succeeded }⟩ now where
  toWellFormed := hq.toWellFormed.transition (.finish hJob hRunning)
  jobs := hq.jobs_put ((hq.jobs job.id job hJob).ended hRunning succeeded) q.waiting
  inOrder := by
    have hNot : job.id ∉ q.waiting := by
      rw [hq.mem_waiting_iff]
      rintro ⟨found, hFound, hPending⟩
      obtain rfl := Option.some.inj (hFound.symm.trans hJob)
      rw [hPending] at hRunning
      cases hRunning
    rw [pending_put_of_not_mem hNot]
    exact hq.inOrder

/-- What an executor does leaves the queue sound. -/
theorem IsSound.transition (hq : q.IsSound now) {op : Op} {answer : Answer}
    (hOp : ∀ job, op ≠ .enqueue job) (h : Transition q op answer q') :
    q'.IsSound now := by
  cases h with
  | accept _ => exact absurd rfl (hOp _)
  | claim hWaiting hJob hPending => exact hq.claim hWaiting hJob hPending
  | finish hJob hRunning => exact hq.finish hJob hRunning
  | duplicate _ => exact hq
  | idle _ => exact hq
  | unknown _ => exact hq
  | notRunning _ _ => exact hq
  | look => exact hq

end Queue

/-! ## Sound stores -/

/-- Sound sessions, live or not, each under its own id. -/
structure Registry.IsSound (g : Registry) (now : Instant) : Prop where
  keyed : g.Keyed
  sessions : ∀ id s, g.sessions.get? id = some s → s.IsSound now

theorem Registry.isSound_empty (now : Instant) : empty.IsSound now where
  keyed := keyed_empty
  sessions := by
    intro id s hHeld
    cases hHeld

namespace Plane

/-- A sound queue and a sound registry. -/
structure IsSound (p : Plane) (now : Instant) : Prop where
  jobs : p.jobs.IsSound now
  sessions : p.sessions.IsSound now

variable {p p' : Plane}

theorem isSound_empty (now : Instant) : empty.IsSound now where
  jobs := Queue.isSound_empty now
  sessions := Registry.isSound_empty now

theorem IsSound.wellFormed (hp : p.IsSound now) : p.WellFormed :=
  ⟨hp.jobs.toWellFormed, hp.sessions.keyed⟩

theorem IsSound.mono (hp : p.IsSound now) (hNow : now ≤ later) :
    p.IsSound later where
  jobs := hp.jobs.mono hNow
  sessions := ⟨hp.sessions.keyed, fun id s hHeld =>
    (hp.sessions.sessions id s hHeld).mono hNow⟩

/-- The job appended comes last in the row. -/
theorem JobAppended.pending_eq {job : Job} (h : p.JobAppended job p') (hq : p.jobs.WellFormed) :
    p'.jobs.pending = p.jobs.pending ++ [job] := by
  have hNot : job.id ∉ p.jobs.waiting := by
    rw [hq.mem_waiting_iff, h.new]
    simp
  have hSame : p.jobs.waiting.filterMap p'.jobs.get? = p.jobs.pending := by
    apply List.filterMap_congr
    intro id hMem
    have hOther : id ≠ job.id := fun hEq => hNot (hEq ▸ hMem)
    rw [h.get?_eq, if_neg hOther]
  have hLast : p'.jobs.get? job.id = some job := by
    rw [h.get?_eq, if_pos rfl]
  rw [Queue.pending, h.waiting_eq, List.filterMap_append, hSame,
    List.filterMap_cons_some hLast, List.filterMap_nil]

/-- A job that is appended is the youngest. -/
theorem IsSound.jobAppended (hp : p.IsSound now) {job : Job}
    (hJob : job.IsSound now) (hPending : job.status = .pending)
    (hCreated : job.createdAt = now) (hAppended : p.JobAppended job p') :
    p'.IsSound now where
  jobs :=
    { toWellFormed := (hp.wellFormed.jobAppended hPending hAppended).jobs
      jobs := by
        intro id found hFound
        rw [hAppended.get?_eq] at hFound
        split at hFound
        · rwa [← Option.some.inj hFound]
        · exact hp.jobs.jobs id found hFound
      inOrder := by
        rw [hAppended.pending_eq hp.jobs.toWellFormed, List.pairwise_append]
        refine ⟨hp.jobs.inOrder, List.pairwise_singleton .., ?_⟩
        intro earlier hMem last hLast
        obtain ⟨id, _, hHeld⟩ := List.mem_filterMap.1 hMem
        obtain ⟨created, hEarlier, hPast⟩ := (hp.jobs.jobs id earlier hHeld).created
        rw [List.mem_singleton.1 hLast, hEarlier, hCreated]
        exact Timestamp.ofInstant_le_ofInstant_iff.2 hPast }
  sessions := hAppended.sessions_eq ▸ hp.sessions

theorem IsSound.sessionHeld (hp : p.IsSound now) {session : Session}
    (hSession : session.IsSound now) (hHeld : p.SessionHeld now session p') :
    p'.IsSound now where
  jobs := hHeld.jobs_eq ▸ hp.jobs
  sessions :=
    { keyed := (hp.wellFormed.sessionHeld hHeld).sessions
      sessions := by
        intro id s hs
        rw [hHeld.entry_eq] at hs
        split at hs
        · rwa [← Option.some.inj hs]
        · exact hp.sessions.sessions id s hs }

/-- A request leaves the stores sound: the form that it stores was acceptable. -/
theorem IsSound.answer (hp : p.IsSound now) (config : Config) {fresh : String}
    (hFresh : IsTidy fresh) (r : Request) :
    (Http.answer config now fresh r p).2.IsSound now := by
  rcases answer_outcome config now fresh r p with hAdmits | hAdmits | hKeeps
  · obtain ⟨_, form, hForm, hAccept, _⟩ := hAdmits.asked
    obtain ⟨form', job, hForm', hAsks, _, hAppended⟩ := hAdmits.stored
    obtain rfl := Except.ok.inj (hForm'.symm.trans hForm)
    exact hp.jobAppended (hAsks.isSound hAccept hFresh) hAsks.pending hAsks.createdAt_eq hAppended
  · obtain ⟨_, form, hForm, hAccept, _⟩ := hAdmits.asked
    obtain ⟨form', session, hForm', hAsks, _, hHeld⟩ := hAdmits.stored
    obtain rfl := Except.ok.inj (hForm'.symm.trans hForm)
    exact hp.sessionHeld (hAsks.isSound hAccept hFresh) hHeld
  · rw [hKeeps.stores_eq]
    exact hp

/-- A sweep only takes sessions away. -/
theorem IsSound.sweep (hp : p.IsSound now) (time : Instant) :
    (p.sweep time).2.IsSound now where
  jobs := hp.jobs
  sessions :=
    { keyed := hp.sessions.keyed.step time .sweep
      sessions := by
        intro id s hHeld
        rw [Plane.sweep, Registry.sweep, Table.get?_keep, Option.filter_eq_some_iff] at hHeld
        exact hp.sessions.sessions id s hHeld.1 }

end Plane

/-! ## Along a run -/

namespace Run

variable {r : Run}

/-- The stores are sound by the clock of the run. -/
def IsSound (r : Run) : Prop := r.plane.IsSound r.now

theorem isSound_sweepDue {p : Plane} (hp : p.IsSound now)
    (sweepers : List Sweeper) (timer : Nat) (time : Instant) :
    (sweepDue sweepers timer p time).IsSound now := by
  rw [sweepDue_eq]
  split
  · exact hp.sweep time
  · exact hp

theorem IsSound.work (hr : r.IsSound) (op : Queue.Op)
    (hOp : ∀ job, op ≠ .enqueue job) : (r.work op).2.IsSound where
  jobs := hr.jobs.transition hOp (Queue.step_transition hr.jobs.toWellFormed op)
  sessions := hr.sessions

/-- An input leaves the stores sound, unless it moves the clock backwards or comes with a generated
id that is not tidy. -/
theorem IsSound.step (hr : r.IsSound) {input : Input}
    (hForward : ∀ ns, input = .advance ns → 0 ≤ ns)
    (hFresh : ∀ fresh request, input = .request fresh request → IsTidy fresh) :
    (r.step input).2.IsSound := by
  cases input with
  | request fresh request =>
      exact hr.answer r.config (hFresh fresh request rfl) request
  | claim => exact hr.work .claimNext (by simp)
  | complete id succeeded => exact hr.work (.complete id succeeded) (by simp)
  | peek id => exact hr.work (.get id) (by simp)
  | listSessions => exact hr
  | sweep => exact hr.sweep r.now
  | advance ns =>
      have hLater : r.now ≤ (r.step (.advance ns)).2.now := now_le_step hForward
      have hSame : (r.step (.advance ns)).2.plane = r.plane := by
        obtain ⟨now, hNow⟩ := r.exists_step_advance ns
        rw [hNow]
      rw [IsSound, hSame]
      exact hr.mono hLater
  | startSweeper => exact isSound_sweepDue hr _ _ _
  | tick seconds => exact isSound_sweepDue hr _ _ _

/-- The ids that are generated along a run are tidy. -/
def TidyIds (inputs : List Input) : Prop :=
  ∀ fresh request, .request fresh request ∈ inputs → IsTidy fresh

theorem IsSound.run {inputs : List Input} (hr : r.IsSound)
    (hForward : NeverBack inputs) (hFresh : TidyIds inputs) :
    (r.run inputs).2.IsSound := by
  induction inputs generalizing r with
  | nil => exact hr
  | cons input inputs ih =>
      have hHead : (r.step input).2.IsSound := by
        apply hr.step hForward.head
        intro fresh request hInput
        exact hFresh fresh request (hInput ▸ List.mem_cons_self)
      apply ih hHead hForward.tail
      intro fresh request hMem
      exact hFresh fresh request (List.mem_cons_of_mem input hMem)

/-- **Everything stored is sound.**  Start with nothing and do whatever callers, executors, sweepers
and a clock that never moves backwards may do.  Every job and every session stands under its own id;
its names and its id are not empty and have no blanks at their ends; a job has code that is not
blank as long as it waits, and none from then on; a session ends after its creation by just its
lifetime, of at least a second; nothing was created later than now; and the jobs that wait do so in
the order of their creation. -/
theorem everything_stored_is_sound (config : Config) (now : Instant)
    {inputs : List Input} (hForward : NeverBack inputs)
    (hFresh : TidyIds inputs) :
    let r := ((Run.start config now).run inputs).2
    r.plane.IsSound r.now := by
  have hStart : (Run.start config now).IsSound := Plane.isSound_empty now
  exact hStart.run hForward hFresh

/-- Two jobs, one under an id between blanks and one under a generated id, and a session.  An
executor takes the first job and ends it, a sweep falls due, and the second job is left waiting. -/
theorem two_jobs_and_a_session_stored :
    let post (path body : String) : Request :=
      ⟨"POST", utf8 path, [⟨"content-type", utf8 "application/json"⟩], utf8 body⟩
    let job (id : Option String) : Request :=
      post "/jobs" (JobForm.codec.encode
        ⟨id, some "t", some "a", some "p", some "python", some "1"⟩)
    let session : Request :=
      post "/sessions" (SessionForm.codec.encode ⟨none, some "t", some "a", some "p", some 10⟩)
    let fresh : String := (Ulid.ofParts 0 1).text
    let inputs : List Input :=
      [.request fresh (job (some " j ")), .advance 1, .request fresh (job none),
        .claim, .request fresh session, .complete "j" true, .startSweeper, .sweep]
    let r := ((Run.start .default .epoch).run inputs).2
    NeverBack inputs ∧ TidyIds inputs ∧ r.plane.jobs.size = 2 ∧
      r.plane.jobs.waiting = [fresh] ∧ r.plane.sessions.size = 1 ∧
      r.plane.IsSound r.now := by
  intro post job session fresh inputs r
  have hForward : NeverBack inputs := by
    intro ns hMem
    simp [inputs] at hMem
    omega
  have hFresh : TidyIds inputs := by
    intro id request hMem
    have hIs : id = fresh := by
      simp [inputs] at hMem
      rcases hMem with ⟨hIs, _⟩ | ⟨hIs, _⟩ | ⟨hIs, _⟩ <;> exact hIs
    exact hIs ▸ Ulid.isTidy_text _
  refine ⟨hForward, hFresh, ?_, ?_, ?_,
    everything_stored_is_sound .default .epoch hForward hFresh⟩
  · decide +kernel
  · decide +kernel
  · decide +kernel

end Run

end Admission
