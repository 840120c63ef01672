import Admission.Proofs.Http.Storing
import Admission.Proofs.Registry.Unswept
import Admission.Run.Basic

/-!
# The stores along a run

A request, the work of an executor and a sweep each leave the stores of a control plane well-formed,
so they are well-formed along every run that starts with nothing.  In particular every job and every
session stands under its own id, and what callers see of it has that id.

## Main results

* `Run.wellFormed_run`: the stores along a run.
-/

namespace Admission

open Admission.Http Admission.Store Admission.Time

/-- A queue is well-formed if it cannot be told from one that is. -/
theorem Queue.WellFormed.congr {q q' : Queue} (hq : q.WellFormed)
    (hWaiting : q'.waiting = q.waiting) (hGet : ∀ id, q'.get? id = q.get? id) : q'.WellFormed where
  nodup := hWaiting ▸ hq.nodup
  mem_waiting_iff := by
    intro id
    rw [hWaiting, hGet]
    exact hq.mem_waiting_iff id
  id_eq := by
    intro id job hJob
    rw [hGet] at hJob
    exact hq.id_eq id job hJob

namespace Plane

/-- The queue and the registry are well-formed. -/
structure WellFormed (p : Plane) : Prop where
  jobs : p.jobs.WellFormed
  sessions : p.sessions.Keyed

theorem wellFormed_empty : empty.WellFormed :=
  ⟨Queue.wellFormed_empty, Registry.keyed_empty⟩

variable {p p' : Plane}

theorem WellFormed.jobAppended (hp : p.WellFormed) {job : Job} (hJob : job.status = .pending)
    (hAppended : p.JobAppended job p') : p'.WellFormed where
  jobs := by
    have hAccepted := hp.jobs.transition (Queue.Transition.accept hAppended.new)
    have hSame : { job with status := .pending } = job := by
      rw [← hJob]
    rw [hSame] at hAccepted
    refine hAccepted.congr hAppended.waiting_eq fun id => ?_
    rw [hAppended.get?_eq, Queue.get?_put]
    rfl
  sessions := by
    rw [hAppended.sessions_eq]
    exact hp.sessions

theorem WellFormed.sessionHeld (hp : p.WellFormed) {now : Instant} {session : Session}
    (hHeld : p.SessionHeld now session p') : p'.WellFormed where
  jobs := by
    rw [hHeld.jobs_eq]
    exact hp.jobs
  sessions := by
    intro id s hs
    rw [hHeld.entry_eq] at hs
    split at hs
    · next hId => rw [← Option.some.inj hs, hId]
    · exact hp.sessions id s hs

/-- A request leaves the stores well-formed. -/
theorem WellFormed.answer (hp : p.WellFormed) (config : Config) (now : Instant) (fresh : String)
    (r : Request) : (Http.answer config now fresh r p).2.WellFormed := by
  rcases answer_outcome config now fresh r p with hAdmits | hAdmits | hKeeps
  · obtain ⟨_, job, _, hAsks, _, hAppended⟩ := hAdmits.stored
    exact hp.jobAppended hAsks.pending hAppended
  · obtain ⟨_, session, _, _, _, hHeld⟩ := hAdmits.stored
    exact hp.sessionHeld hHeld
  · rw [hKeeps.stores_eq]
    exact hp

/-- A sweep leaves the stores well-formed. -/
theorem WellFormed.sweep (hp : p.WellFormed) (now : Instant) : (p.sweep now).2.WellFormed where
  jobs := hp.jobs
  sessions := hp.sessions.step now .sweep

end Plane

namespace Run

theorem wellFormed_sweepDue {p : Plane} (hp : p.WellFormed) (sweepers : List Sweeper) (timer : Nat)
    (now : Instant) : (sweepDue sweepers timer p now).WellFormed := by
  rw [sweepDue_eq]
  split
  · exact hp.sweep now
  · exact hp

variable {r : Run}

theorem wellFormed_work (hr : r.plane.WellFormed) (op : Queue.Op) :
    (r.work op).2.plane.WellFormed where
  jobs := hr.jobs.step op
  sessions := hr.sessions

/-- Every input leaves the stores well-formed. -/
theorem wellFormed_step (hr : r.plane.WellFormed) (input : Input) :
    (r.step input).2.plane.WellFormed := by
  cases input with
  | request fresh request => exact hr.answer r.config r.now fresh request
  | claim => exact wellFormed_work hr _
  | complete id succeeded => exact wellFormed_work hr _
  | peek id => exact wellFormed_work hr _
  | listSessions => exact hr
  | sweep => exact hr.sweep r.now
  | advance ns =>
      obtain ⟨now, hNow⟩ := r.exists_step_advance ns
      rw [hNow]
      exact hr
  | startSweeper => exact wellFormed_sweepDue hr _ _ _
  | tick seconds => exact wellFormed_sweepDue hr _ _ _

/-- The stores along a run. -/
theorem wellFormed_run (hr : r.plane.WellFormed) (inputs : List Input) :
    (r.run inputs).2.plane.WellFormed := by
  induction inputs generalizing r with
  | nil => exact hr
  | cons input inputs ih => exact ih (wellFormed_step hr input)

end Run

end Admission
