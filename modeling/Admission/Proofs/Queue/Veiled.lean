import Admission.Job.Queue

/-!
# Queues without the code that waits

The code of a job waits in the queue until an executor claims the job, and then leaves it.  A queue
is veiled by taking the code of all that wait out of it.  No operation looks at code: it does to the
veiled queue what it does to the queue, and answers the same, but for the code in an answer.  So two
queues that look the same when they are veiled look the same after any operation.

## Main results

* `Table.get?_map`, `Table.map_put`: a table whose values are mapped one by one.
* `Queue.step_veiled`: an operation on a veiled queue.
* `Queue.step_congr`: operations that differ in code only, on queues that do.
-/

namespace Admission

open Admission.Store

/-! ## Tables value by value -/

namespace Store.Table

variable {α β : Type}

/-- The same ids, with other values. -/
def map (f : α → β) (t : Table α) : Table β where
  entries := t.entries.map fun e => (e.1, f e.2)
  nodup := by
    rw [List.map_map]
    exact t.nodup

theorem get?_map (f : α → β) (t : Table α) (id : String) :
    (t.map f).get? id = (t.get? id).map f := by
  obtain ⟨es, hNodup⟩ := t
  show (es.map fun e => (e.1, f e.2)).lookup id = (es.lookup id).map f
  clear hNodup
  induction es with
  | nil => rfl
  | cons e es ih =>
      rw [List.map_cons, List.lookup_cons, List.lookup_cons]
      cases id == e.1 with
      | false => exact ih
      | true => rfl

theorem map_put (f : α → β) (t : Table α) (id : String) (a : α) :
    (t.put id a).map f = (t.map f).put id (f a) := by
  apply ext_entries
  show (putEntry id a t.entries).map _ = putEntry id (f a) (t.entries.map _)
  induction t.entries with
  | nil => rfl
  | cons e es ih =>
      rw [List.map_cons, putEntry, putEntry]
      split
      · rfl
      · rw [List.map_cons, ih]

end Store.Table

/-! ## Jobs -/

namespace Job

/-- A job with its code taken out. -/
def withoutCode (job : Job) : Job := { job with code := "" }

/-- A job with its code taken out while it waits. -/
def veiled (job : Job) : Job := if job.status = .pending then job.withoutCode else job

@[simp] theorem veiled_of_not_pending {job : Job} (h : job.status ≠ .pending) :
    job.veiled = job := if_neg h

@[simp] theorem status_veiled (job : Job) : job.veiled.status = job.status := by
  unfold veiled
  split <;> rfl

/-- What callers see of a job has no code in it. -/
@[simp] theorem view_veiled (job : Job) : job.veiled.view = job.view := by
  unfold veiled
  split <;> rfl

@[simp] theorem withoutCode_veiled (job : Job) : job.veiled.withoutCode = job.withoutCode := by
  unfold veiled
  split <;> rfl

end Job

/-! ## Queues -/

namespace Queue

/-- The queue without the code of the jobs that wait. -/
def veiled (q : Queue) : Queue := { q with jobs := q.jobs.map Job.veiled }

theorem get?_jobs_veiled (q : Queue) (id : String) :
    q.veiled.jobs.get? id = (q.jobs.get? id).map Job.veiled :=
  Table.get?_map Job.veiled q.jobs id

theorem get?_veiled (q : Queue) (id : String) : q.veiled.get? id = (q.get? id).map Job.veiled :=
  q.get?_jobs_veiled id

/-- An operation with the code taken out of what is admitted. -/
def Op.withoutCode : Op → Op
  | .enqueue job => .enqueue job.withoutCode
  | op => op

/-- An answer with the code taken out of what is handed out. -/
def Answer.withoutCode : Answer → Answer
  | .claimed job => .claimed (job.map Job.withoutCode)
  | .completed job => .completed job.withoutCode
  | .found job => .found (job.map Job.withoutCode)
  | answer => answer

/-- What is admitted is veiled at once. -/
theorem enqueue_veiled (q : Queue) (job : Job) :
    q.veiled.enqueue job.withoutCode = (q.enqueue job).map veiled := by
  have hGet : (q.veiled.jobs.get? job.withoutCode.id).isSome = (q.jobs.get? job.id).isSome := by
    rw [get?_jobs_veiled, Option.isSome_map]
    rfl
  rw [enqueue, enqueue, hGet]
  split
  · rfl
  · show Except.ok _ = Except.ok (veiled _)
    simp only [veiled, Table.map_put]
    rfl

/-- What is claimed has no code left in the queue. -/
theorem claimNext_veiled (q : Queue) :
    q.veiled.claimNext.1.map Job.withoutCode = q.claimNext.1.map Job.withoutCode ∧
      q.veiled.claimNext.2 = q.claimNext.2.veiled := by
  have hWaiting : q.veiled.waiting = q.waiting := rfl
  rw [claimNext, claimNext, hWaiting]
  cases q.waiting with
  | nil => exact ⟨rfl, rfl⟩
  | cons id rest =>
      simp only [get?_jobs_veiled]
      cases q.jobs.get? id with
      | none => exact ⟨rfl, rfl⟩
      | some job =>
          have hClaimed : ({ job.veiled with status := .running, code := "" } : Job) =
              { job with status := .running, code := "" } := by
            unfold Job.veiled
            split <;> rfl
          have hHeld : Job.veiled { job with status := .running, code := "" } =
              { job with status := .running, code := "" } :=
            Job.veiled_of_not_pending nofun
          refine ⟨congrArg some hClaimed, ?_⟩
          show Queue.mk rest (q.veiled.jobs.put id _) = Queue.mk rest ((q.jobs.put id _).map _)
          rw [hClaimed, Table.map_put, hHeld]
          rfl

/-- A job that ends has been claimed, so there is nothing to veil. -/
theorem complete_veiled (q : Queue) (id : String) (succeeded : Bool) :
    q.veiled.complete id succeeded =
      (q.complete id succeeded).map fun result => (result.1, result.2.veiled) := by
  rw [complete, complete, get?_jobs_veiled]
  cases q.jobs.get? id with
  | none => rfl
  | some job =>
      simp only [Option.map_some, Job.status_veiled]
      split
      · next hRunning =>
        have hJob : job.veiled = job := Job.veiled_of_not_pending (by rw [hRunning]; nofun)
        have hEnded : Job.veiled { job with status := .ending succeeded } =
            { job with status := .ending succeeded } :=
          Job.veiled_of_not_pending (by cases succeeded <;> nofun)
        show Except.ok _ = Except.ok (_, Queue.mk q.waiting ((q.jobs.put id _).map _))
        rw [hJob, Table.map_put, hEnded]
        rfl
      · rfl

/-- An operation does to the veiled queue what it does to the queue, and its answer is the same but
for the code in it. -/
theorem step_veiled (q : Queue) (op : Op) :
    (q.veiled.step op.withoutCode).1.withoutCode = (q.step op).1.withoutCode ∧
      (q.veiled.step op.withoutCode).2 = (q.step op).2.veiled := by
  cases op with
  | enqueue job =>
      simp only [Op.withoutCode, step, enqueue_veiled]
      cases q.enqueue job with
      | error e => exact ⟨rfl, rfl⟩
      | ok q' => exact ⟨rfl, rfl⟩
  | claimNext =>
      obtain ⟨hJob, hQueue⟩ := q.claimNext_veiled
      exact ⟨congrArg Answer.claimed hJob, hQueue⟩
  | complete id succeeded =>
      simp only [Op.withoutCode, step, complete_veiled]
      cases q.complete id succeeded with
      | error e => exact ⟨rfl, rfl⟩
      | ok result => exact ⟨rfl, rfl⟩
  | get id =>
      refine ⟨?_, rfl⟩
      show Answer.found ((q.veiled.get? id).map _) = Answer.found ((q.get? id).map _)
      rw [get?_veiled, Option.map_map]
      cases q.get? id with
      | none => rfl
      | some job => exact congrArg (fun job => Answer.found (some job)) job.withoutCode_veiled

/-- Operations that differ in code only, on queues that differ in the code of waiting jobs only. -/
theorem step_congr {q q' : Queue} {op op' : Op} (hQueue : q.veiled = q'.veiled)
    (hOp : op.withoutCode = op'.withoutCode) :
    (q.step op).1.withoutCode = (q'.step op').1.withoutCode ∧
      (q.step op).2.veiled = (q'.step op').2.veiled := by
  obtain ⟨hAnswer, hLeft⟩ := q.step_veiled op
  obtain ⟨hAnswer', hLeft'⟩ := q'.step_veiled op'
  rw [hQueue, hOp] at hAnswer hLeft
  exact ⟨hAnswer.symm.trans hAnswer', hLeft.symm.trans hLeft'⟩

/-- Such queues hold the same jobs: callers see no difference, and there is none but in the code of
jobs that wait. -/
theorem get?_of_veiled_eq {q q' : Queue} (h : q.veiled = q'.veiled) {id : String} {job : Job}
    (hJob : q.get? id = some job) :
    ∃ job', q'.get? id = some job' ∧ job'.view = job.view ∧
      (job.status ≠ .pending → job' = job) := by
  have hGet : (q'.get? id).map Job.veiled = some job.veiled := by
    rw [← get?_veiled, ← h, get?_veiled, hJob]
    rfl
  obtain ⟨job', hJob', hVeiled⟩ := Option.map_eq_some_iff.1 hGet
  have hView : job'.view = job.view := by
    rw [← Job.view_veiled job', hVeiled, Job.view_veiled]
  refine ⟨job', hJob', hView, ?_⟩
  intro hStatus
  have hStatus' : job'.status ≠ .pending := by
    rw [← Job.status_veiled job', hVeiled, Job.status_veiled]
    exact hStatus
  rwa [Job.veiled_of_not_pending hStatus, Job.veiled_of_not_pending hStatus'] at hVeiled

end Queue

end Admission
