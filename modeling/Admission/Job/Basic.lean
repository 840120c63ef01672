import Admission.Language
import Admission.Principal
import Admission.Time.Instant

/-!
# Jobs

A job is code to be run by an executor.  It waits as pending, runs once it is claimed, and ends as
done or failed.  What callers see of it is a `JobView`, which has no code.
-/

namespace Admission

open Admission.Time

/-- Where a job stands. -/
inductive JobStatus where
  | pending
  | running
  | done
  | failed
  deriving DecidableEq, Repr

namespace JobStatus

/-- Every status, in the order of a job's life. -/
def all : List JobStatus := [.pending, .running, .done, .failed]

/-- The name in records. -/
def name : JobStatus → String
  | .pending => "pending"
  | .running => "running"
  | .done => "done"
  | .failed => "failed"

/-- The name in messages. -/
def label : JobStatus → String
  | .pending => "Pending"
  | .running => "Running"
  | .done => "Done"
  | .failed => "Failed"

/-- The status with a given name in records. -/
def ofName? (s : String) : Option JobStatus := all.find? fun x => x.name == s

@[simp] theorem ofName?_name (x : JobStatus) : ofName? x.name = some x := by cases x <;> rfl

/-- How a job ends. -/
def ending (succeeded : Bool) : JobStatus := if succeeded then .done else .failed

end JobStatus

/-- An admitted piece of work. -/
structure Job where
  id : String
  principal : Principal
  language : Language
  code : String
  status : JobStatus
  createdAt : Timestamp
  deriving DecidableEq, Repr

/-- What callers see of a job. -/
structure JobView where
  id : String
  principal : Principal
  language : Language
  status : JobStatus
  createdAt : Timestamp
  deriving DecidableEq, Repr

/-- A job without its code. -/
def Job.view (job : Job) : JobView :=
  ⟨job.id, job.principal, job.language, job.status, job.createdAt⟩

/-- The answer to an admitted job. -/
structure JobAccepted where
  id : String
  status : JobStatus
  deriving DecidableEq, Repr

end Admission
