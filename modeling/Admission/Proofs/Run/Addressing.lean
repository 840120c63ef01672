import Admission.Proofs.Http.Spelling
import Admission.Proofs.Queue.Lifecycle
import Admission.Proofs.Run.Lifetime
import Admission.Proofs.Run.Stores
import Admission.Proofs.Wire

/-!
# Every stored id can be looked up

Ids are chosen by callers, and may have slashes, percent signs, blanks and letters of any script.
Whichever way such an id is spelled in a path, a look-up finds what is stored under it, and finds
nothing that is stored under another id.

What is stored under it is told from the run.  The queue forgets no job: one that a request brought
in is there from then on, with all that it came with but its code, and with the status that it has
by now.  And it invents none: a job that is there was brought in by a request.  Both are stated of
one input first, as what it can do to the record under an id.

## Main results

* `jobStep`: what one input can do to the job under an id.
* `Admitted.stored`, `exists_admitted`: the jobs that were admitted are those that are there.
* `every_stored_id_is_addressable`: look-ups by any spelling, after any run.
-/

namespace Admission

open Admission.Http Admission.Store Admission.Text Admission.Time

/-! ## A job at a later time -/

/-- The second job is the first with another status, and perhaps without its code. -/
def Job.KeptAs (job job' : Job) : Prop := job'.view = { job.view with status := job'.status }

theorem Job.KeptAs.refl (job : Job) : job.KeptAs job := rfl

theorem Job.KeptAs.trans {job job' job'' : Job} (h : job.KeptAs job') (h' : job'.KeptAs job'') :
    job.KeptAs job'' := by
  rw [KeptAs] at h h' ⊢
  rw [h', h]

/-- A form asks for one job only. -/
theorem JobForm.AsksFor.unique {form : JobForm} {now : Instant} {fresh : String} {job job' : Job}
    (h : form.AsksFor now fresh job) (h' : form.AsksFor now fresh job') : job = job' := by
  have hLanguage : job.language = job'.language := by
    obtain ⟨name, hName, hMem⟩ := h.language_mem
    obtain ⟨name', hName', hMem'⟩ := h'.language_mem
    obtain rfl := Option.some.inj (hName.symm.trans hName')
    exact Option.some.inj ((Language.ofName?_eq_some_iff.2 hMem).symm.trans
      (Language.ofName?_eq_some_iff.2 hMem'))
  have hTenant := Option.some.inj (h.named.tenantId_eq.symm.trans h'.named.tenantId_eq)
  have hAgent := Option.some.inj (h.named.agentId_eq.symm.trans h'.named.agentId_eq)
  have hPolicy := Option.some.inj (h.named.policyId_eq.symm.trans h'.named.policyId_eq)
  have hCode := Option.some.inj (h.code_eq.symm.trans h'.code_eq)
  have hId := h.id_eq.trans h'.id_eq.symm
  have hStatus := h.pending.trans h'.pending.symm
  have hCreated := h.createdAt_eq.trans h'.createdAt_eq.symm
  obtain ⟨id, ⟨tenant, agent, policy⟩, language, code, status, created⟩ := job
  obtain ⟨id', ⟨tenant', agent', policy'⟩, language', code', status', created'⟩ := job'
  subst hId hTenant hAgent hPolicy hLanguage hCode hStatus hCreated
  rfl

namespace Run

variable {r : Run} {id : String} {job : Job} {input : Input}

/-! ## What one input can do to a job -/

/-- The input is a request that is answered 202, and the job is what its body asks for. -/
def Admits (r : Run) (job : Job) : Input → Prop
  | .request fresh request =>
    (answer r.config r.now fresh request r.plane).1.status = 202 ∧
      ∃ form, JobForm.codec.decodeBytes request.body = .ok form ∧ form.AsksFor r.now fresh job
  | _ => False

/-- The job was admitted by one of the inputs of a run. -/
def Admitted (r : Run) (job : Job) : List Input → Prop
  | [] => False
  | input :: inputs => r.Admits job input ∨ (r.step input).2.Admitted job inputs

/-- What one input can leave under an id: nothing where nothing was, the job that was there with
another status, or a job that the input admits where none was. -/
inductive JobStep (r : Run) (input : Input) (id : String) : Option Job → Prop where
  | absent (hNone : r.plane.jobs.get? id = none) : JobStep r input id none
  | kept {job job' : Job} (hJob : r.plane.jobs.get? id = some job) (hKept : job.KeptAs job') :
      JobStep r input id (some job')
  | admitted {job : Job} (hNew : r.plane.jobs.get? id = none) (hId : job.id = id)
      (hAdmits : r.Admits job input) : JobStep r input id (some job)

theorem JobStep.unchanged (r : Run) (input : Input) (id : String) :
    JobStep r input id (r.plane.jobs.get? id) := by
  cases hJob : r.plane.jobs.get? id with
  | none => exact .absent hJob
  | some job => exact .kept hJob (.refl job)

/-- A request that is answered 202 stores the job that its body asks for. -/
theorem Admits.stored {fresh : String} {request : Request}
    (h : r.Admits job (.request fresh request)) :
    r.plane.JobAppended job (answer r.config r.now fresh request r.plane).2 := by
  obtain ⟨hStatus, form, hForm, hAsks⟩ := h
  rcases answer_outcome r.config r.now fresh request r.plane with hJob | hSession | hKeeps
  · obtain ⟨form', job', hForm', hAsks', _, hAppended⟩ := hJob.stored
    obtain rfl := Except.ok.inj (hForm.symm.trans hForm')
    rwa [hAsks.unique hAsks']
  · have := hStatus.symm.trans hSession.status_eq
    omega
  · exact absurd hStatus hKeeps.not_accepted

/-- An executor can change the status and take the code. -/
private theorem jobStep_work (hr : r.plane.jobs.WellFormed) (op : Queue.Op)
    (hOp : ∀ job, op ≠ .enqueue job) (input : Input) (id : String) :
    JobStep r input id ((r.plane.jobs.step op).2.get? id) := by
  have hMove := (Queue.step_transition hr op).move id
  generalize (r.plane.jobs.step op).1 = answer at hMove
  generalize hBefore : r.plane.jobs.get? id = before at hMove
  generalize (r.plane.jobs.step op).2.get? id = after at hMove
  cases hMove with
  | submit => exact absurd rfl (hOp _)
  | claim => exact .kept hBefore rfl
  | finish => exact .kept hBefore rfl
  | stay =>
      rw [← hBefore]
      exact .unchanged r input id

/-- What one input can do to the job under an id. -/
theorem jobStep (hr : r.plane.WellFormed) (input : Input) (id : String) :
    JobStep r input id ((r.step input).2.plane.jobs.get? id) := by
  cases input with
  | request fresh request =>
      let result := answer r.config r.now fresh request r.plane
      show JobStep r _ id (result.2.jobs.get? id)
      rcases answer_outcome r.config r.now fresh request r.plane with hJob | hSession | hKeeps
      · obtain ⟨form, job, hForm, hAsks, _, hAppended⟩ := hJob.stored
        rw [hAppended.get?_eq id]
        split
        · next hId =>
            subst hId
            exact .admitted hAppended.new rfl ⟨hJob.status_eq, form, hForm, hAsks⟩
        · exact .unchanged r _ id
      · obtain ⟨_, _, _, _, _, hHeld⟩ := hSession.stored
        rw [hHeld.jobs_eq]
        exact .unchanged r _ id
      · rw [hKeeps.stores_eq]
        exact .unchanged r _ id
  | claim => exact jobStep_work hr.jobs .claimNext (by simp) _ id
  | complete id' succeeded => exact jobStep_work hr.jobs (.complete id' succeeded) (by simp) _ id
  | peek id' => exact jobStep_work hr.jobs (.get id') (by simp) _ id
  | listSessions => exact .unchanged r _ id
  | sweep => exact .unchanged r _ id
  | advance ns =>
      obtain ⟨now, hNow⟩ := r.exists_step_advance ns
      rw [hNow]
      exact .unchanged r _ id
  | startSweeper | tick =>
      show JobStep r _ id ((sweepDue _ _ r.plane r.now).jobs.get? id)
      rw [jobs_sweepDue]
      exact .unchanged r _ id

/-- The job under an id stays. -/
theorem exists_kept_step (hr : r.plane.WellFormed) (hJob : r.plane.jobs.get? id = some job)
    (input : Input) :
    ∃ job', (r.step input).2.plane.jobs.get? id = some job' ∧ job.KeptAs job' := by
  have hStep := jobStep hr input id
  generalize (r.step input).2.plane.jobs.get? id = after at hStep
  cases hStep with
  | absent hNone =>
      rw [hJob] at hNone
      cases hNone
  | kept hOld hKept =>
      obtain rfl := Option.some.inj (hOld.symm.trans hJob)
      exact ⟨_, rfl, hKept⟩
  | admitted hNew _ _ =>
      rw [hJob] at hNew
      cases hNew

/-- A job that an input admits is there after it, and no other was there before. -/
theorem Admits.new (h : r.Admits job input) :
    r.plane.jobs.get? job.id = none ∧
      (r.step input).2.plane.jobs.get? job.id = some job := by
  cases input with
  | request fresh request =>
      have hAppended := h.stored
      refine ⟨hAppended.new, ?_⟩
      rw [step_request]
      exact (hAppended.get?_eq job.id).trans (if_pos rfl)
  | _ => exact h.elim

/-! ## The jobs of a run -/

/-- The job under an id stays until the end. -/
theorem exists_kept_run (hr : r.plane.WellFormed) (hJob : r.plane.jobs.get? id = some job)
    (inputs : List Input) :
    ∃ job', (r.run inputs).2.plane.jobs.get? id = some job' ∧ job.KeptAs job' := by
  induction inputs generalizing r job with
  | nil => exact ⟨job, hJob, .refl job⟩
  | cons input inputs ih =>
      obtain ⟨job', hJob', hKept⟩ := exists_kept_step hr hJob input
      obtain ⟨job'', hEnd, hKept'⟩ := ih (wellFormed_step hr input) hJob'
      exact ⟨job'', hEnd, hKept.trans hKept'⟩

/-- A job that was admitted is there at the end, and no other was there at the start. -/
theorem Admitted.stored {inputs : List Input} (hr : r.plane.WellFormed)
    (h : r.Admitted job inputs) :
    r.plane.jobs.get? job.id = none ∧
      ∃ job', (r.run inputs).2.plane.jobs.get? job.id = some job' ∧ job.KeptAs job' := by
  induction inputs generalizing r with
  | nil => exact h.elim
  | cons input inputs ih =>
      rcases h with hHead | hTail
      · obtain ⟨hNew, hJob⟩ := hHead.new
        exact ⟨hNew, exists_kept_run (wellFormed_step hr input) hJob inputs⟩
      · obtain ⟨hNone, hEnd⟩ := ih (wellFormed_step hr input) hTail
        refine ⟨?_, hEnd⟩
        cases hBefore : r.plane.jobs.get? job.id with
        | none => rfl
        | some old =>
            obtain ⟨_, hOld, _⟩ := exists_kept_step hr hBefore input
            rw [hNone] at hOld
            cases hOld

/-- A job that is there at the end, and was not at the start, was admitted. -/
theorem exists_admitted {inputs : List Input} (hr : r.plane.WellFormed)
    (hNone : r.plane.jobs.get? id = none)
    (hEnd : (r.run inputs).2.plane.jobs.get? id = some job) :
    ∃ admitted, r.Admitted admitted inputs ∧ admitted.id = id := by
  induction inputs generalizing r with
  | nil =>
      rw [show r.run [] = ([], r) from rfl, hNone] at hEnd
      cases hEnd
  | cons input inputs ih =>
      have hStep := jobStep hr input id
      generalize hAfter : (r.step input).2.plane.jobs.get? id = after at hStep
      cases hStep with
      | absent _ =>
          obtain ⟨admitted, hAdmitted, hId⟩ := ih (wellFormed_step hr input) hAfter hEnd
          exact ⟨admitted, .inr hAdmitted, hId⟩
      | kept hOld _ =>
          rw [hNone] at hOld
          cases hOld
      | admitted _ hId hAdmits => exact ⟨_, .inl hAdmits, hId⟩

/-! ## Look-ups by a spelling -/

/-- Whoever may is given the response to a look-up of what is spelled behind a stem, and the look-up
changes nothing. -/
def AnswersAt (r : Run) (stem w : String) (response : Response) : Prop :=
  ∀ fresh request, Gets r.config stem w request →
    r.step (.request fresh request) = (.response (response.shown r.config), r)

variable {w x : String}

private theorem isPath_jobs : IsPath (utf8 "/jobs/") :=
  ⟨by decide +kernel, by decide +kernel⟩

private theorem isPath_sessions : IsPath (utf8 "/sessions/") :=
  ⟨by decide +kernel, by decide +kernel⟩

theorem answersAt_jobs (hWrites : Writes w x) (hNe : w ≠ "") :
    r.AnswersAt "/jobs/" w (respond 200 JobView.codec (r.plane.job x)) :=
  fun _ _ hGets => step_request_of_answer (hGets.looksUp isPath_jobs hWrites hNe).answer_job

theorem answersAt_sessions (hWrites : Writes w x) (hNe : w ≠ "") :
    r.AnswersAt "/sessions/" w (respond 200 SessionView.codec (r.plane.session x r.now)) :=
  fun _ _ hGets => step_lookUp_session (hGets.looksUp isPath_sessions hWrites hNe)

/-- **Every stored id can be looked up.**  Take any run.  Every id has a spelling, and no text spells
two ids.  A look-up by a spelling of an id, if it can be sent and the caller may, changes nothing and
is answered as follows.  Under `/jobs/`: if a job with the id was admitted, 200 with all that it came
with but its code, and with the status that it has now; else 404.  Under `/sessions/`: if a session
with the id is among those that are listed now, 200 with the session, as active; else 404.  A look-up
by a segment that is no text is answered 400, in the same words whatever is stored. -/
theorem every_stored_id_is_addressable (config : Config) (now : Instant) (inputs : List Input) :
    let r := ((start config now).run inputs).2
    (∀ x, ∃ w, Writes w x ∧ (x ≠ "" → w ≠ "")) ∧
    (∀ w x x', Writes w x → Writes w x' → x = x') ∧
    (∀ w x, Writes w x → w ≠ "" →
      (∀ job, (start config now).Admitted job inputs → job.id = x →
        ∃ status, (r.plane.jobs.get? x).map Job.status = some status ∧
          r.AnswersAt "/jobs/" w (.json 200 JobView.codec { job.view with status := status })) ∧
      ((∀ job, (start config now).Admitted job inputs → job.id ≠ x) →
        r.AnswersAt "/jobs/" w (.refuse (.notFound ("job " ++ x)))) ∧
      (∀ session ∈ r.plane.sessions.list r.now, session.id = x →
        r.AnswersAt "/sessions/" w (.json 200 SessionView.codec
          ⟨x, session.principal, session.ttlSeconds, session.createdAt, session.expiresAt,
            .active⟩)) ∧
      ((∀ session ∈ r.plane.sessions.list r.now, session.id ≠ x) →
        r.AnswersAt "/sessions/" w (.refuse (.notFound ("session " ++ x))))) ∧
    ∀ stem, stem = "/jobs/" ∨ stem = "/sessions/" → ∃ response : Response, response.status = 400 ∧
      ∀ now fresh request p, Garbles config request stem →
        answer config now fresh request p = (response, p) := by
  intro r
  have hStart : (start config now).plane.WellFormed := Plane.wellFormed_empty
  have hr : r.plane.WellFormed := wellFormed_run hStart inputs
  refine ⟨?_, fun w x x' => Writes.unique, ?_, ?_⟩
  · intro x
    obtain ⟨w, hWrites⟩ := exists_writes x
    exact ⟨w, hWrites, hWrites.ne_empty⟩
  · intro w x hWrites hNe
    have hJobs : r.AnswersAt "/jobs/" w _ := answersAt_jobs hWrites hNe
    have hSessions : r.AnswersAt "/sessions/" w _ := answersAt_sessions hWrites hNe
    refine ⟨?_, ?_, ?_, ?_⟩
    · rintro job hAdmitted rfl
      obtain ⟨_, job', hJob, hKept⟩ := hAdmitted.stored hStart
      rw [Plane.job, show r.plane.jobs.get? job.id = some job' from hJob] at hJobs
      refine ⟨job'.status, congrArg (Option.map Job.status) hJob, ?_⟩
      rw [← hKept]
      exact hJobs
    · intro hNone
      have hGet : r.plane.jobs.get? x = none := by
        cases hJob : r.plane.jobs.get? x with
        | none => rfl
        | some job =>
            obtain ⟨admitted, hAdmitted, hId⟩ := exists_admitted hStart rfl hJob
            exact absurd hId (hNone admitted hAdmitted)
      rw [Plane.job, hGet] at hJobs
      exact hJobs
    · rintro session hListed rfl
      have hGet := (hr.sessions.mem_list_iff r.now session).1 hListed
      have hLive : session.isLive r.now = true := (Option.filter_eq_some_iff.1 hGet).2
      have hStatus : session.status r.now = .active := if_pos hLive
      rw [Plane.session, hGet] at hSessions
      rw [← hStatus]
      exact hSessions
    · intro hNone
      have hGet : r.plane.sessions.get? x r.now = none := by
        cases hSession : r.plane.sessions.get? x r.now with
        | none => rfl
        | some session =>
            have hId := hr.sessions x session (Option.filter_eq_some_iff.1 hSession).1
            subst hId
            exact absurd rfl (hNone session ((hr.sessions.mem_list_iff r.now session).2 hSession))
      rw [Plane.session, hGet] at hSessions
      exact hSessions
  · intro stem hStem
    exact ⟨_, status_shown config _, fun _ _ _ _ hGarbles => hGarbles.answer_eq hStem⟩

/-- A job and a session have the same id, with a slash, a percent sign, a question mark, a blank and
a letter beyond ASCII.  Both are found by one spelling of it, in which the hexadecimal digits are of
both cases. -/
theorem slash_and_percent_are_looked_up :
    let x := "a/b %?é"
    let w := "a%2fb%20%25%3F%C3%a9"
    let jobForm : JobForm := ⟨some x, some "t", some "g", some "p", some "python", some "1"⟩
    let sessionForm : SessionForm := ⟨some x, some "t", some "g", some "p", some 10⟩
    let header : Header := ⟨"content-type", utf8 "application/json"⟩
    let inputs : List Input :=
      [.request "y" ⟨"POST", utf8 "/jobs", [header], utf8 (JobForm.codec.encode jobForm)⟩,
        .request "z" ⟨"POST", utf8 "/sessions", [header],
          utf8 (SessionForm.codec.encode sessionForm)⟩,
        .claim]
    let job : Job := ⟨x, ⟨"t", "g", "p"⟩, .python, "1", .pending, Instant.epoch⟩
    let r := ((start .default .epoch).run inputs).2
    Writes w x ∧ (start .default .epoch).Admitted job inputs ∧
    Gets .default "/jobs/" w ⟨"GET", utf8 "/jobs/" ++ utf8 w, [], []⟩ ∧
    r.AnswersAt "/jobs/" w (.json 200 JobView.codec { job.view with status := .running }) ∧
    ∃ session ∈ r.plane.sessions.list r.now, session.id = x ∧
      r.AnswersAt "/sessions/" w (.json 200 SessionView.codec
        ⟨x, session.principal, session.ttlSeconds, session.createdAt, session.expiresAt,
          .active⟩) := by
  -- the end of the run stays written out: to compare it with a variable would carry out the run
  intro x w jobForm sessionForm header inputs job
  have hWrites : Writes w x := by
    have hw : utf8 w = [0x61, 0x25, 0x32, 0x66, 0x62, 0x25, 0x32, 0x30, 0x25, 0x32, 0x35, 0x25,
        0x33, 0x46, 0x25, 0x43, 0x33, 0x25, 0x61, 0x39] := by
      decide +kernel
    have hx : utf8 x = [0x61, 0x2F, 0x62, 0x20, 0x25, 0x3F, 0xC3, 0xA9] := by
      decide +kernel
    rw [Writes, hw, hx]
    exact .literal (by decide) <| .coded (by decide) (by decide) <| .literal (by decide) <|
      .coded (by decide) (by decide) <| .coded (by decide) (by decide) <|
      .coded (by decide) (by decide) <| .coded (by decide) (by decide) <|
      .coded (by decide) (by decide) .nil
  have hAsks : jobForm.AsksFor .epoch "y" job :=
    { id_eq := by decide +kernel
      named := ⟨by decide +kernel, by decide +kernel, by decide +kernel⟩
      language_mem := ⟨"python", rfl, by decide +kernel⟩
      code_eq := rfl
      pending := rfl
      createdAt_eq := rfl }
  have hAdmitted : (start .default .epoch).Admitted job inputs := by
    refine .inl ⟨by decide +kernel, jobForm, ?_, hAsks⟩
    dsimp only
    exact JobForm.isLawful_codec.decodeBytes_encode jobForm
  have hShort : (utf8 ("/jobs/" ++ w)).length ≤ maxTargetLength := by decide +kernel
  have hSent : Request.ofParts? "GET" ("/jobs/" ++ w) [] [] =
      some ⟨"GET", utf8 "/jobs/" ++ utf8 w, [], []⟩ :=
    (ofParts?_get_eq_some_iff hWrites isPath_jobs).2 ⟨hShort, [], rfl, rfl⟩
  obtain ⟨_, _, hFound, _⟩ := every_stored_id_is_addressable .default .epoch inputs
  obtain ⟨hJob, _, hSession, _⟩ := hFound w x hWrites (by decide)
  obtain ⟨status, hStatus, hJobAnswer⟩ := hJob job hAdmitted rfl
  obtain rfl : status = .running := by
    apply Option.some.inj
    rw [← hStatus]
    decide +kernel
  obtain ⟨session, hGet⟩ := Option.isSome_iff_exists.1
    (show (((start .default .epoch).run inputs).2.plane.sessions.get? x
      ((start .default .epoch).run inputs).2.now).isSome = true by decide +kernel)
  have hStart : (start .default .epoch).plane.WellFormed := Plane.wellFormed_empty
  have hKeyed := (wellFormed_run hStart inputs).sessions
  have hId := hKeyed x session (Option.filter_eq_some_iff.1 hGet).1
  have hListed := (hKeyed.mem_list_iff _ session).2 (by rw [hId]; exact hGet)
  exact ⟨hWrites, hAdmitted, ⟨⟨[], [], hSent⟩, rfl⟩, hJobAnswer, session, hListed, hId,
    hSession session hListed hId⟩

end Run

end Admission
