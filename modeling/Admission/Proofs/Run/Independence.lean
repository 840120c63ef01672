import Admission.Proofs.Http.Precedence
import Admission.Proofs.Run.Stores

/-!
# Jobs and sessions do not interfere

Each input of a run is about jobs, or about sessions, or about neither: a request by the endpoint
that its path leads to, the work of executors about jobs, listings, sweeps and the timer about
sessions, and the clock about neither.  Inputs about the one kind are told nothing by the other, and
leave nothing behind in it.  So whoever deals with jobs cannot find out whether there are sessions,
and the other way round, although the two share the router, the gate, the clock and the ids.

Two runs are compared in what they have of one kind.  An input about the other kind changes nothing
in it; every other input, given to both, is seen alike in both and leaves them alike.  The rest is
induction on the inputs, of which the second run is given only those that are not about the other
kind.

## Main results

* `sameFor_step_of_other`: an input about the other kind.
* `step_sameFor`: any other input, to two runs.
* `jobs_and_sessions_do_not_interfere`: a run without the inputs about one of the kinds.
-/

namespace Admission

open Admission.Http Admission.Text Admission.Time

/-! ## What is of a kind -/

/-- The one kind for the other. -/
def Http.Kind.other : Kind → Kind
  | .job => .session
  | .session => .job

/-- What an endpoint is about. -/
def Http.Endpoint.kind? : Endpoint → Option Kind
  | .health => none
  | .jobs => some .job
  | .job _ => some .job
  | .sessions => some .session
  | .session _ => some .session

/-- What an input is about. -/
def Run.Input.kind? : Input → Option Kind
  | .request _ r => (Endpoint.ofPath? r.path).bind Endpoint.kind?
  | .claim => some .job
  | .complete _ _ => some .job
  | .peek _ => some .job
  | .listSessions => some .session
  | .sweep => some .session
  | .advance _ => none
  | .startSweeper => some .session
  | .tick _ => some .session

/-- The stores hold the same of one kind. -/
def Plane.SameIn : Kind → Plane → Plane → Prop
  | .job, p, p' => p.jobs = p'.jobs
  | .session, p, p' => p.sessions = p'.sessions

theorem Plane.SameIn.refl (k : Kind) (p : Plane) : p.SameIn k p := by
  cases k <;> exact Eq.refl _

/-! ## Admissions -/

namespace Plane

variable {p p' : Plane}

/-- The admission of a job has nothing to do with sessions. -/
theorem admitJob_sameIn (h : p.jobs = p'.jobs) (now : Instant) (fresh : String) (form : JobForm) :
    (p.admitJob now fresh form).map (fun result => (result.1, result.2.jobs)) =
      (p'.admitJob now fresh form).map fun result => (result.1, result.2.jobs) := by
  rw [admitJob, admitJob, h]
  cases form.check with
  | error e => rfl
  | ok draft =>
      dsimp only
      cases p'.jobs.enqueue (draft.toJob (draft.id.getD fresh) now) with
      | ok jobs => rfl
      | error e => cases e <;> cases draft.id <;> rfl

/-- The admission of a session has nothing to do with jobs. -/
theorem admitSession_sameIn (h : p.sessions = p'.sessions) (now : Instant) (fresh : String)
    (form : SessionForm) :
    (p.admitSession now fresh form).map (fun result => (result.1, result.2.sessions)) =
      (p'.admitSession now fresh form).map fun result => (result.1, result.2.sessions) := by
  rw [admitSession, admitSession, h]
  cases form.check with
  | error e => rfl
  | ok draft =>
      dsimp only
      cases draft.stamp (draft.id.getD fresh) now with
      | error e => rfl
      | ok session =>
          dsimp only
          cases p'.sessions.insert session now with
          | ok sessions => rfl
          | error e => cases draft.id <;> rfl

end Plane

/-! ## Requests -/

namespace Http

variable {config : Config} {now : Instant} {fresh : String} {r : Request} {p p' : Plane} {k : Kind}

/-- The answers are the same, and so are the stores after them in what they hold of one kind. -/
structure SameAnswer (k : Kind) (result result' : Response × Plane) : Prop where
  response_eq : result.1 = result'.1
  stores : result.2.SameIn k result'.2

/-- A request that is not about the other kind, served from stores that hold the same of a kind. -/
theorem sameAnswer_serve (hStores : p.SameIn k p') {e : Endpoint}
    (hKind : e.kind? ≠ some k.other) :
    SameAnswer k (serve config now fresh r p e) (serve config now fresh r p' e) := by
  cases k with
  | job =>
      have hJobs : p.jobs = p'.jobs := hStores
      have hJob : p.job = p'.job := by
        funext id
        rw [Plane.job, Plane.job, hJobs]
      cases e with
      | health => exact ⟨rfl, hStores⟩
      | jobs =>
          obtain ⟨hResponse, hAfter⟩ := respondWith_congr Plane.jobs hJobs
            (map_bind_congr (Plane.admitJob_sameIn hJobs now fresh))
          exact ⟨hResponse, hAfter⟩
      | job segment => exact ⟨by simp only [serve, hJob], hStores⟩
      | sessions => exact absurd rfl hKind
      | session segment => exact absurd rfl hKind
  | session =>
      have hSessions : p.sessions = p'.sessions := hStores
      have hSession : ∀ id, p.session id now = p'.session id now := by
        intro id
        rw [Plane.session, Plane.session, hSessions]
      cases e with
      | health => exact ⟨rfl, hStores⟩
      | jobs => exact absurd rfl hKind
      | job segment => exact absurd rfl hKind
      | sessions =>
          obtain ⟨hResponse, hAfter⟩ := respondWith_congr Plane.sessions hSessions
            (map_bind_congr (Plane.admitSession_sameIn hSessions now fresh))
          exact ⟨hResponse, hAfter⟩
      | session segment => exact ⟨by simp only [serve, hSession], hStores⟩

/-- A request that is not about the other kind is answered alike. -/
theorem sameAnswer_answer (hStores : p.SameIn k p')
    (hKind : (Endpoint.ofPath? r.path).bind Endpoint.kind? ≠ some k.other) :
    SameAnswer k (answer config now fresh r p) (answer config now fresh r p') := by
  obtain ⟨hResponse, hAfter⟩ := answer_rel (Plane.SameIn k) rfl rfl rfl hStores fun e he => by
    rw [he, Option.bind_some] at hKind
    have hServe : SameAnswer k (serve config now fresh r p e) (serve config now fresh r p' e) :=
      sameAnswer_serve hStores hKind
    exact answerAt_rel (Plane.SameIn k) rfl rfl hStores ⟨hServe.response_eq, hServe.stores⟩
  exact ⟨hResponse, hAfter⟩

/-- A request about the other kind changes nothing of a kind. -/
theorem sameIn_answer_of_other
    (hKind : (Endpoint.ofPath? r.path).bind Endpoint.kind? = some k.other) :
    p.SameIn k (answer config now fresh r p).2 := by
  have hPath : ∀ {e : Endpoint}, e.Addressable → r.path = e.path → e.kind? = some k.other := by
    intro e he hPath
    rwa [hPath, Endpoint.ofPath?_path he, Option.bind_some] at hKind
  rcases answer_outcome config now fresh r p with hJob | hSession | hKeeps
  · obtain ⟨_, _, _, _, _, hAppended⟩ := hJob.stored
    have hOther := hPath (e := .jobs) trivial hJob.asked.1.path_eq
    cases k with
    | job => cases hOther
    | session => exact hAppended.sessions_eq.symm
  · obtain ⟨_, _, _, _, _, hHeld⟩ := hSession.stored
    have hOther := hPath (e := .sessions) trivial hSession.asked.1.path_eq
    cases k with
    | job => exact hHeld.jobs_eq.symm
    | session => cases hOther
  · rw [hKeeps.stores_eq]
    exact .refl k p

end Http

namespace Run

variable {r r' : Run} {k : Kind} {input : Input}

/-! ## One input -/

/-- Two runs are the same in what they have of one kind; the timer and the sweepers belong to
sessions. -/
structure SameFor (k : Kind) (r r' : Run) : Prop where
  config_eq : r.config = r'.config
  now_eq : r.now = r'.now
  stores : r.plane.SameIn k r'.plane
  timer_eq : k = .session → r.timer = r'.timer
  sweepers_eq : k = .session → r.sweepers = r'.sweepers

theorem SameFor.refl (k : Kind) (r : Run) : SameFor k r r :=
  ⟨rfl, rfl, .refl k r.plane, fun _ => rfl, fun _ => rfl⟩

theorem SameFor.trans {r'' : Run} (h : SameFor k r r') (h' : SameFor k r' r'') :
    SameFor k r r'' where
  config_eq := h.config_eq.trans h'.config_eq
  now_eq := h.now_eq.trans h'.now_eq
  stores := by
    have hLeft := h.stores
    have hRight := h'.stores
    cases k <;> exact Eq.trans hLeft hRight
  timer_eq := fun hk => (h.timer_eq hk).trans (h'.timer_eq hk)
  sweepers_eq := fun hk => (h.sweepers_eq hk).trans (h'.sweepers_eq hk)

theorem SameFor.symm (h : SameFor k r r') : SameFor k r' r where
  config_eq := h.config_eq.symm
  now_eq := h.now_eq.symm
  stores := by
    have hStores := h.stores
    cases k <;> exact Eq.symm hStores
  timer_eq := fun hk => (h.timer_eq hk).symm
  sweepers_eq := fun hk => (h.sweepers_eq hk).symm

/-- For jobs, only the configuration, the clock and the queue count. -/
theorem SameFor.of_jobs (hConfig : r.config = r'.config) (hNow : r.now = r'.now)
    (hJobs : r.plane.jobs = r'.plane.jobs) : SameFor .job r r' :=
  ⟨hConfig, hNow, hJobs, nofun, nofun⟩

/-- An input about the other kind changes nothing of a kind. -/
theorem sameFor_step_of_other (hKind : input.kind? = some k.other) :
    SameFor k r (r.step input).2 := by
  cases input with
  | request fresh request =>
      exact ⟨rfl, rfl, sameIn_answer_of_other hKind, fun _ => rfl, fun _ => rfl⟩
  | advance ns => cases hKind
  | claim | complete | peek =>
      cases k with
      | job => cases hKind
      | session => exact ⟨rfl, rfl, rfl, fun _ => rfl, fun _ => rfl⟩
  | listSessions => exact .refl k r
  | sweep =>
      cases k with
      | job => exact .of_jobs rfl rfl rfl
      | session => cases hKind
  | startSweeper | tick =>
      cases k with
      | job => exact .of_jobs rfl rfl (jobs_sweepDue ..).symm
      | session => cases hKind

/-- Runs that are the same for sessions sweep alike. -/
theorem sessions_sweepDue {p p' : Plane} (h : p.sessions = p'.sessions) (sweepers : List Sweeper)
    (timer : Nat) (now : Instant) :
    (sweepDue sweepers timer p now).sessions = (sweepDue sweepers timer p' now).sessions := by
  rw [sweepDue_eq, sweepDue_eq]
  split
  · rw [Plane.sweep, Plane.sweep, h]
  · exact h

/-- An input that is not about the other kind, to two runs that are the same for a kind. -/
theorem step_sameFor (hKind : input.kind? ≠ some k.other) (h : SameFor k r r') :
    (r.step input).1 = (r'.step input).1 ∧ SameFor k (r.step input).2 (r'.step input).2 := by
  obtain ⟨config, p, now, timer, sweepers⟩ := r
  obtain ⟨config', p', now', timer', sweepers'⟩ := r'
  obtain ⟨rfl, rfl, hStores, hTimer, hSweepers⟩ := h
  cases input with
  | request fresh request =>
      have hAnswer : SameAnswer k (answer config now fresh request p)
          (answer config now fresh request p') :=
        sameAnswer_answer hStores hKind
      exact ⟨congrArg Output.response hAnswer.response_eq,
        rfl, rfl, hAnswer.stores, hTimer, hSweepers⟩
  | advance ns =>
      simp only [step]
      cases now.add? ns with
      | none => exact ⟨rfl, rfl, rfl, hStores, hTimer, hSweepers⟩
      | some later => exact ⟨rfl, rfl, rfl, hStores, hTimer, hSweepers⟩
  | claim | complete | peek =>
      cases k with
      | job =>
          have hJobs : p.jobs = p'.jobs := hStores
          simp only [step, work, hJobs]
          exact ⟨trivial, .of_jobs rfl rfl rfl⟩
      | session => exact absurd rfl hKind
  | listSessions =>
      cases k with
      | job => exact absurd rfl hKind
      | session =>
          have hSessions : p.sessions = p'.sessions := hStores
          simp only [step, hSessions]
          exact ⟨trivial, rfl, rfl, hSessions, hTimer, hSweepers⟩
  | sweep =>
      cases k with
      | job => exact absurd rfl hKind
      | session =>
          have hSessions : p.sessions = p'.sessions := hStores
          simp only [step, Plane.sweep, hSessions]
          exact ⟨trivial, rfl, rfl, rfl, hTimer, hSweepers⟩
  | startSweeper | tick =>
      cases k with
      | job => exact absurd rfl hKind
      | session =>
          obtain rfl := hTimer rfl
          obtain rfl := hSweepers rfl
          exact ⟨rfl, rfl, rfl, sessions_sweepDue hStores .., fun _ => rfl, fun _ => rfl⟩

/-! ## Runs -/

/-- The inputs that are not about a kind. -/
def without (k : Kind) (inputs : List Input) : List Input :=
  inputs.filter fun input => input.kind? ≠ some k

/-- What is seen of the inputs that are not about a kind. -/
def seenWithout (k : Kind) (inputs : List Input) (outputs : List Output) : List Output :=
  ((inputs.zip outputs).filter fun step => step.1.kind? ≠ some k).map Prod.snd

theorem without_cons (k : Kind) (input : Input) (inputs : List Input) :
    without k (input :: inputs) =
      if input.kind? = some k then without k inputs else input :: without k inputs := by
  by_cases hKind : input.kind? = some k <;> simp [without, hKind]

theorem seenWithout_cons (k : Kind) (input : Input) (inputs : List Input) (output : Output)
    (outputs : List Output) :
    seenWithout k (input :: inputs) (output :: outputs) =
      if input.kind? = some k then seenWithout k inputs outputs
      else output :: seenWithout k inputs outputs := by
  by_cases hKind : input.kind? = some k <;> simp [seenWithout, hKind]

/-- A run with all its inputs, beside one that is given only those not about the other kind. -/
theorem run_sameFor (h : SameFor k r r') (inputs : List Input) :
    seenWithout k.other inputs (r.run inputs).1 = (r'.run (without k.other inputs)).1 ∧
      SameFor k (r.run inputs).2 (r'.run (without k.other inputs)).2 := by
  induction inputs generalizing r r' with
  | nil => exact ⟨rfl, h⟩
  | cons input inputs ih =>
      rw [run_cons, without_cons, seenWithout_cons]
      by_cases hKind : input.kind? = some k.other
      · rw [if_pos hKind, if_pos hKind]
        exact ih ((sameFor_step_of_other hKind).symm.trans h)
      · rw [if_neg hKind, if_neg hKind, run_cons]
        obtain ⟨hOutput, hNext⟩ := step_sameFor hKind h
        obtain ⟨hOutputs, hEnd⟩ := ih hNext
        exact ⟨congrArg₂ List.cons hOutput hOutputs, hEnd⟩

/-- **Jobs and sessions do not interfere.**  Take any run, and leave out the inputs about one kind:
those about sessions, which are the requests to `/sessions` and `/sessions/{id}`, the listings, the
sweeps, and the starts and ticks of sweepers; or those about jobs, which are the requests to `/jobs`
and `/jobs/{id}`, and the claims, completions and look-ups of executors.  What is seen of the other
inputs stays the same, one by one.  Without the inputs about sessions the queue ends as it did;
without those about jobs the registry does, and so do the timer and the sweepers. -/
theorem jobs_and_sessions_do_not_interfere (r : Run) (inputs : List Input) :
    (∀ k, seenWithout k inputs (r.run inputs).1 = (r.run (without k inputs)).1) ∧
    (r.run inputs).2.plane.jobs = (r.run (without .session inputs)).2.plane.jobs ∧
    (r.run inputs).2.plane.sessions = (r.run (without .job inputs)).2.plane.sessions ∧
    (r.run inputs).2.timer = (r.run (without .job inputs)).2.timer ∧
    (r.run inputs).2.sweepers = (r.run (without .job inputs)).2.sweepers := by
  obtain ⟨hSeenByJobs, hJobs⟩ := run_sameFor (.refl .job r) inputs
  obtain ⟨hSeenBySessions, hSessions⟩ := run_sameFor (.refl .session r) inputs
  refine ⟨?_, hJobs.stores, hSessions.stores, hSessions.timer_eq rfl, hSessions.sweepers_eq rfl⟩
  intro k
  cases k with
  | job => exact hSeenBySessions
  | session => exact hSeenByJobs

end Run

end Admission
