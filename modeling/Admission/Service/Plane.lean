import Admission.Form.Job
import Admission.Form.Session
import Admission.Service.Refusal

/-!
# The control plane

The control plane holds the queue and the registry.  A request is checked in full before a store is
touched, so a refusal leaves both as they were.  A request without an id is admitted under one that
the service made up; that such an id is taken is the service's own fault.
-/

namespace Admission

open Admission.Time

/-- The two stores. -/
structure Plane where
  jobs : Queue
  sessions : Registry

namespace Plane

/-- Nothing was admitted yet. -/
def empty : Plane := ⟨.empty, .empty⟩

instance : Inhabited Plane := ⟨empty⟩

/-- Admit a job, with a generated id at hand. -/
def admitJob (p : Plane) (now : Instant) (fresh : String) (form : JobForm) :
    Except Refusal (JobAccepted × Plane) :=
  match form.check with
  | .error e => .error (.form e)
  | .ok draft =>
    let id := draft.id.getD fresh
    match p.jobs.enqueue (draft.toJob id now) with
    | .ok jobs => .ok (⟨id, .pending⟩, { p with jobs := jobs })
    | .error e =>
      match e, draft.id with
      | .duplicateId taken, none => .error (.internal ("generated job id collided: " ++ taken))
      | e, _ => .error (.ofQueueError e)

/-- Admit a session, with a generated id at hand. -/
def admitSession (p : Plane) (now : Instant) (fresh : String) (form : SessionForm) :
    Except Refusal (SessionCreated × Plane) :=
  match form.check with
  | .error e => .error (.form e)
  | .ok draft =>
    match draft.stamp (draft.id.getD fresh) now with
    | .error e => .error (.form e)
    | .ok session =>
      match p.sessions.insert session now with
      | .ok sessions =>
        .ok (⟨session.id, session.expiresAt, .active⟩, { p with sessions := sessions })
      | .error e =>
        match draft.id with
        | none => .error (.internal ("generated session id collided: " ++ e.message))
        | some _ => .error (.ofRegistryError e)

/-- What callers see of the job with an id. -/
def job (p : Plane) (id : String) : Except Refusal JobView :=
  match p.jobs.get? id with
  | some job => .ok job.view
  | none => .error (.notFound ("job " ++ id))

/-- What callers see of the live session with an id. -/
def session (p : Plane) (id : String) (now : Instant) : Except Refusal SessionView :=
  match p.sessions.get? id now with
  | some session => .ok (session.view now)
  | none => .error (.notFound ("session " ++ id))

/-- Remove every session that is not live; the number removed comes first. -/
def sweep (p : Plane) (now : Instant) : Nat × Plane :=
  ((p.sessions.sweep now).1, { p with sessions := (p.sessions.sweep now).2 })

/-- The stores after a number of sweeps at one time of the clock. -/
def sweepTimes (p : Plane) (now : Instant) : Nat → Plane
  | 0 => p
  | n + 1 => (p.sweep now).2.sweepTimes now n

/-- At one time of the clock, a second sweep finds nothing. -/
theorem sweep_sweep (p : Plane) (now : Instant) :
    ((p.sweep now).2.sweep now).2 = (p.sweep now).2 :=
  congrArg (Plane.mk p.jobs) (p.sessions.sweep_sweep now)

/-- The first of some sweeps at one time of the clock does the work of all. -/
theorem sweepTimes_succ (p : Plane) (now : Instant) (n : Nat) :
    p.sweepTimes now (n + 1) = (p.sweep now).2 := by
  induction n generalizing p with
  | zero => rfl
  | succ n ih =>
      show (p.sweep now).2.sweepTimes now (n + 1) = (p.sweep now).2
      rw [ih, sweep_sweep]

end Plane

end Admission
