import Admission.Job.Basic
import Admission.Store.Table

/-!
# The queue of jobs

Jobs are handed out first in, first out.  Claiming a job moves its code to the claimer; the queue
keeps the rest for good, so that a job can be looked up in any state and its id is never taken
again.  A refused operation gives no new queue, only the cause.
-/

namespace Admission

open Admission.Store

/-- Why the queue refuses an operation. -/
inductive QueueError where
  | duplicateId (id : String)
  | notFound (id : String)
  | invalidTransition (id : String) (current requested : JobStatus)
  deriving DecidableEq, Repr

/-- The wording of a refusal. -/
def QueueError.message : QueueError → String
  | .duplicateId id => "job id already used: " ++ id
  | .notFound id => "job not found: " ++ id
  | .invalidTransition id current requested =>
    "job " ++ id ++ " cannot move from " ++ current.label ++ " to " ++ requested.label

/-- Every job ever admitted, and the ids of those that wait, oldest first. -/
structure Queue where
  waiting : List String
  jobs : Table Job

namespace Queue

/-- No job was admitted yet. -/
def empty : Queue := ⟨[], .empty⟩

instance : Inhabited Queue := ⟨empty⟩

/-- Admit a job as pending, behind all that wait. -/
def enqueue (q : Queue) (job : Job) : Except QueueError Queue :=
  if (q.jobs.get? job.id).isSome then .error (.duplicateId job.id)
  else .ok ⟨q.waiting ++ [job.id], q.jobs.put job.id { job with status := .pending }⟩

/-- Hand out the job that has waited longest, with its code; `none` if none waits. -/
def claimNext (q : Queue) : Option Job × Queue :=
  match q.waiting with
  | [] => (none, q)
  | id :: rest =>
    match q.jobs.get? id with
    | none => (none, { q with waiting := rest })
    | some job =>
      (some { job with status := .running },
        ⟨rest, q.jobs.put id { job with status := .running, code := "" }⟩)

/-- Record the end of a running job, and give the job as it now stands. -/
def complete (q : Queue) (id : String) (succeeded : Bool) : Except QueueError (Job × Queue) :=
  match q.jobs.get? id with
  | none => .error (.notFound id)
  | some job =>
    if job.status = .running then
      let ended := { job with status := .ending succeeded }
      .ok (ended, { q with jobs := q.jobs.put id ended })
    else .error (.invalidTransition id job.status (.ending succeeded))

/-- The job with an id, in any state. -/
def get? (q : Queue) (id : String) : Option Job := q.jobs.get? id

/-- The number of jobs that wait. -/
def pendingSize (q : Queue) : Nat := q.waiting.length

/-- The number of jobs ever admitted. -/
def size (q : Queue) : Nat := q.jobs.size

/-! ## Operations as a run -/

/-- An operation on the queue. -/
inductive Op where
  | enqueue (job : Job)
  | claimNext
  | complete (id : String) (succeeded : Bool)
  | get (id : String)
  deriving DecidableEq, Repr

/-- What an operation answers. -/
inductive Answer where
  | enqueued
  | claimed (job : Option Job)
  | completed (job : Job)
  | found (job : Option Job)
  | refused (error : QueueError)
  deriving DecidableEq, Repr

/-- Carry out one operation. -/
def step (q : Queue) : Op → Answer × Queue
  | .enqueue job =>
    match q.enqueue job with
    | .ok q' => (.enqueued, q')
    | .error e => (.refused e, q)
  | .claimNext => (.claimed q.claimNext.1, q.claimNext.2)
  | .complete id succeeded =>
    match q.complete id succeeded with
    | .ok (job, q') => (.completed job, q')
    | .error e => (.refused e, q)
  | .get id => (.found (q.get? id), q)

/-- Carry out operations one after the other, with the answer to each. -/
def run (q : Queue) : List Op → List Answer × Queue
  | [] => ([], q)
  | op :: ops =>
    let (answer, q') := q.step op
    let (answers, q'') := q'.run ops
    (answer :: answers, q'')

@[simp] theorem get?_empty (id : String) : empty.get? id = none := rfl

end Queue

end Admission
