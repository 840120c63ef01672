import Admission.Job.Queue

/-!
# What one operation on the queue does

The queue keeps two containers, the ids that wait and the table of jobs, and changes them one after
the other.  They agree when the ids that wait are, without repetition, those of the pending jobs,
and every job stands under its own id: `WellFormed`.  On such a queue every operation is one of the
eight transitions of `Transition`; in particular a claim never meets an id without a job.  What is
proved about the runs of a queue goes through these transitions and does not unfold the operations
again.

## Main results

* `step_transition`: an operation on a well-formed queue is a transition.
* `WellFormed.transition`: a transition leaves a well-formed queue.
-/

namespace Admission.Queue

open Admission.Store

/-! ## Well-formed queues -/

/-- The ids that wait and the table of jobs agree. -/
structure WellFormed (q : Queue) : Prop where
  nodup : q.waiting.Nodup
  mem_waiting_iff : ∀ id, id ∈ q.waiting ↔ ∃ job, q.get? id = some job ∧ job.status = .pending
  id_eq : ∀ id job, q.get? id = some job → job.id = id

/-- A look-up after a job was put into the table. -/
@[simp] theorem get?_put (waiting : List String) (jobs : Table Job) (id id' : String) (job : Job) :
    (Queue.mk waiting (jobs.put id job)).get? id' =
      if id' = id then some job else (Queue.mk waiting jobs).get? id' :=
  Table.get?_put jobs id id' job

/-- No operation forgets an id. -/
theorem isSome_get?_step {q : Queue} (op : Op) {id : String}
    (hKnown : (q.get? id).isSome) : ((q.step op).2.get? id).isSome := by
  have hPut : ∀ waiting id' (job : Job),
      ((Queue.mk waiting (q.jobs.put id' job)).get? id).isSome := by
    intro waiting id' job
    rw [get?_put]
    split
    · rfl
    · exact hKnown
  cases op with
  | enqueue job =>
      rw [step, enqueue]
      split
      · next hOk =>
          split at hOk <;> cases hOk
          exact hPut _ _ _
      · exact hKnown
  | claimNext =>
      rw [step, claimNext]
      split
      · exact hKnown
      · split
        · exact hKnown
        · exact hPut _ _ _
  | complete id' succeeded =>
      rw [step, complete]
      split
      · next hOk =>
          split at hOk
          · cases hOk
          · split at hOk <;> cases hOk
            exact hPut _ _ _
      · exact hKnown
  | get id' => exact hKnown

theorem wellFormed_empty : empty.WellFormed where
  nodup := List.nodup_nil
  mem_waiting_iff := by
    intro id
    simp [empty, get?]
  id_eq := by
    intro id job hJob
    simp at hJob

/-! ## Transitions -/

/-- What an operation answers and the queue that it leaves, case by case. -/
inductive Transition (q : Queue) : Op → Answer → Queue → Prop where
  | accept {job : Job} (hNew : q.get? job.id = none) :
      Transition q (.enqueue job) .enqueued
        ⟨q.waiting ++ [job.id], q.jobs.put job.id { job with status := .pending }⟩
  | duplicate {job held : Job} (hHeld : q.get? job.id = some held) :
      Transition q (.enqueue job) (.refused (.duplicateId job.id)) q
  | idle (hNone : q.waiting = []) : Transition q .claimNext (.claimed none) q
  | claim {job : Job} {rest : List String}
      (hWaiting : q.waiting = job.id :: rest)
      (hJob : q.get? job.id = some job) (hPending : job.status = .pending) :
      Transition q .claimNext
        (.claimed (some { job with status := .running }))
        ⟨rest, q.jobs.put job.id { job with status := .running, code := "" }⟩
  | finish {job : Job} {succeeded : Bool}
      (hJob : q.get? job.id = some job) (hRunning : job.status = .running) :
      Transition q (.complete job.id succeeded)
        (.completed { job with status := .ending succeeded })
        ⟨q.waiting, q.jobs.put job.id { job with status := .ending succeeded }⟩
  | unknown {id : String} {succeeded : Bool} (hNone : q.get? id = none) :
      Transition q (.complete id succeeded) (.refused (.notFound id)) q
  | notRunning {job : Job} {succeeded : Bool}
      (hJob : q.get? job.id = some job) (hStatus : job.status ≠ .running) :
      Transition q (.complete job.id succeeded)
        (.refused (.invalidTransition job.id job.status (.ending succeeded)))
        q
  | look {id : String} : Transition q (.get id) (.found (q.get? id)) q

/-- A job is taken in exactly if its id is new. -/
theorem enqueue_eq_ok_iff {q q' : Queue} {job : Job} :
    q.enqueue job = .ok q' ↔
      q.get? job.id = none ∧
        q' = ⟨q.waiting ++ [job.id], q.jobs.put job.id { job with status := .pending }⟩ := by
  have hGet : q.jobs.get? job.id = q.get? job.id := rfl
  cases hHeld : q.get? job.id with
  | none => simp [enqueue, hGet, hHeld, eq_comm]
  | some held => simp [enqueue, hGet, hHeld]

/-- The only reason to refuse a job is that its id is known. -/
theorem enqueue_eq_error_iff {q : Queue} {job : Job} {e : QueueError} :
    q.enqueue job = .error e ↔ (q.get? job.id).isSome ∧ e = .duplicateId job.id := by
  have hGet : q.jobs.get? job.id = q.get? job.id := rfl
  cases hHeld : q.get? job.id with
  | none => simp [enqueue, hGet, hHeld]
  | some held => simp [enqueue, hGet, hHeld, eq_comm]

private theorem enqueue_transition (q : Queue) (job : Job) :
    Transition q (.enqueue job) (q.step (.enqueue job)).1 (q.step (.enqueue job)).2 := by
  cases hHeld : q.get? job.id with
  | none =>
      rw [step, enqueue_eq_ok_iff.2 ⟨hHeld, rfl⟩]
      exact .accept hHeld
  | some held =>
      have hKnown : (q.get? job.id).isSome := by rw [hHeld]; rfl
      rw [step, enqueue_eq_error_iff.2 ⟨hKnown, rfl⟩]
      exact .duplicate hHeld

/-- The queue hands out a pending job: the id that has waited longest is never without one. -/
private theorem claimNext_transition {q : Queue} (hq : q.WellFormed) :
    Transition q .claimNext (q.step .claimNext).1 (q.step .claimNext).2 := by
  cases hWaiting : q.waiting with
  | nil =>
      have hStep : q.step .claimNext = (.claimed none, q) := by
        simp [step, claimNext, hWaiting]
      rw [hStep]
      exact .idle hWaiting
  | cons first rest =>
      obtain ⟨job, hJob, hPending⟩ := (hq.mem_waiting_iff first).1 (by simp [hWaiting])
      obtain rfl : job.id = first := hq.id_eq first job hJob
      have hStep : q.step .claimNext =
          (.claimed (some { job with status := .running }),
            ⟨rest, q.jobs.put job.id
              { job with status := .running, code := "" }⟩) := by
        have hSome : q.jobs.get? job.id = some job := hJob
        simp [step, claimNext, hWaiting, hSome]
      rw [hStep]
      exact .claim hWaiting hJob hPending

private theorem complete_transition {q : Queue} (hq : q.WellFormed)
    (id : String) (succeeded : Bool) :
    Transition q (.complete id succeeded) (q.step (.complete id succeeded)).1
      (q.step (.complete id succeeded)).2 := by
  cases hJob : q.get? id with
  | none =>
      have hStep : q.step (.complete id succeeded) =
          (.refused (.notFound id), q) := by
        have hNone : q.jobs.get? id = none := hJob
        simp [step, complete, hNone]
      rw [hStep]
      exact .unknown hJob
  | some job =>
      obtain rfl : job.id = id := hq.id_eq id job hJob
      have hSome : q.jobs.get? job.id = some job := hJob
      by_cases hRunning : job.status = .running
      · have hStep : q.step (.complete job.id succeeded) =
            (.completed { job with status := .ending succeeded },
              ⟨q.waiting, q.jobs.put job.id
                { job with status := .ending succeeded }⟩) := by
          simp [step, complete, hSome, hRunning]
        rw [hStep]
        exact .finish hJob hRunning
      · have hStep : q.step (.complete job.id succeeded) =
            (.refused (.invalidTransition job.id job.status (.ending succeeded)), q) := by
          simp [step, complete, hSome, hRunning]
        rw [hStep]
        exact .notRunning hJob hRunning

/-- An operation on a well-formed queue is a transition. -/
theorem step_transition {q : Queue} (hq : q.WellFormed) (op : Op) :
    Transition q op (q.step op).1 (q.step op).2 := by
  cases op with
  | enqueue job => exact enqueue_transition q job
  | claimNext => exact claimNext_transition hq
  | complete id succeeded => exact complete_transition hq id succeeded
  | get id => exact .look

/-! ## Well-formedness is kept -/

/-- Putting a job under its own id keeps every job under its own id. -/
private theorem WellFormed.id_eq_put {q : Queue} (hq : q.WellFormed)
    (waiting : List String) {id : String} {job : Job} (hId : job.id = id) :
    ∀ id' found, (Queue.mk waiting (q.jobs.put id job)).get? id' = some found → found.id = id' := by
  intro id' found hFound
  rw [get?_put] at hFound
  by_cases h : id' = id
  · rw [if_pos h, Option.some.injEq] at hFound
    rw [← hFound, hId, h]
  · rw [if_neg h] at hFound
    exact hq.id_eq id' found hFound

/-- Changing a job that stays out of the waiting ids, before and after, keeps the two containers in
agreement. -/
private theorem WellFormed.update {q : Queue} (hq : q.WellFormed) {job job' : Job}
    (hJob : q.get? job.id = some job) (hStatus : job.status ≠ .pending)
    (hId : job'.id = job.id) (hStatus' : job'.status ≠ .pending) :
    WellFormed ⟨q.waiting, q.jobs.put job.id job'⟩ where
  nodup := hq.nodup
  mem_waiting_iff := by
    intro id
    show id ∈ q.waiting ↔ _
    rw [hq.mem_waiting_iff, get?_put]
    by_cases h : id = job.id
    · subst h
      simp [hJob, hStatus, hStatus']
    · rw [if_neg h]
  id_eq := hq.id_eq_put q.waiting hId

private theorem WellFormed.accept {q : Queue} (hq : q.WellFormed) {job : Job}
    (hNew : q.get? job.id = none) :
    WellFormed ⟨q.waiting ++ [job.id], q.jobs.put job.id { job with status := .pending }⟩ where
  nodup := by
    have hNot : job.id ∉ q.waiting := by
      rw [hq.mem_waiting_iff]
      simp [hNew]
    show (q.waiting ++ [job.id]).Nodup
    rw [List.nodup_append]
    refine ⟨hq.nodup, by simp, ?_⟩
    intro id hId id' hId' hEq
    rw [List.mem_singleton] at hId'
    exact hNot (hId' ▸ hEq ▸ hId)
  mem_waiting_iff := by
    intro id
    show id ∈ q.waiting ++ [job.id] ↔ _
    rw [List.mem_append, hq.mem_waiting_iff, List.mem_singleton, get?_put]
    by_cases h : id = job.id
    · simp [h]
    · rw [if_neg h]
      exact ⟨fun hMem => hMem.resolve_right h, .inl⟩
  id_eq := hq.id_eq_put (q.waiting ++ [job.id]) rfl

private theorem WellFormed.claim {q : Queue} (hq : q.WellFormed) {job : Job}
    {rest : List String} (hWaiting : q.waiting = job.id :: rest) :
    WellFormed ⟨rest, q.jobs.put job.id { job with status := .running, code := "" }⟩ := by
  have hNodup := hq.nodup
  rw [hWaiting, List.nodup_cons] at hNodup
  refine
    { nodup := hNodup.2
      mem_waiting_iff := ?_
      id_eq := hq.id_eq_put rest rfl }
  intro id
  show id ∈ rest ↔ _
  rw [get?_put]
  by_cases h : id = job.id
  · subst h
    simp [hNodup.1]
  · have hMem := hq.mem_waiting_iff id
    rw [hWaiting, List.mem_cons, or_iff_right h] at hMem
    rw [if_neg h, hMem]
    rfl

/-- A transition leaves a well-formed queue. -/
theorem WellFormed.transition {q q' : Queue} {op : Op} {answer : Answer}
    (hq : q.WellFormed) (h : Transition q op answer q') : q'.WellFormed := by
  cases h with
  | accept hNew => exact hq.accept hNew
  | claim hWaiting _ _ => exact hq.claim hWaiting
  | @finish job succeeded hJob hRunning =>
      have hEnding : JobStatus.ending succeeded ≠ .pending := by
        cases succeeded <;> decide
      exact hq.update hJob (by simp [hRunning]) rfl hEnding
  | duplicate _ => exact hq
  | idle _ => exact hq
  | unknown _ => exact hq
  | notRunning _ _ => exact hq
  | look => exact hq

theorem WellFormed.step {q : Queue} (hq : q.WellFormed) (op : Op) : (q.step op).2.WellFormed :=
  hq.transition (step_transition hq op)

end Admission.Queue
