import Admission.Proofs.Queue.History

/-!
# Operations that can change places

Submitters and executors meet at the lock of the queue, and chance decides who comes first.  Where
it makes no difference, the two operations are interchangeable: each of them answers the same in
either order, and the queue that is left is the same.

An operation looks at one id only, and at the job under it; a claim looks at the id that has waited
longest.  It answers by what it finds, and all that it changes is this job and, at one of its two
ends, the line of ids that wait.  So two operations get into each other's way only if they are about
one id, or if they both use the same end of the line, or if the line is empty.

## Main results

* `Transition.eq_respond`: an operation, told by the job that it finds.
* `WellFormed.interchangeable`: operations that leave each other what they look at.
* `WellFormed.interchangeable_complete`: a completion and whatever is about another id.
* `swapInLine`: two submissions change places in the line and nowhere else.
* `independent_operations_commute`: which operations can change places.
-/

namespace Admission.Queue

open Admission.Store

/-! ## What an operation looks at -/

/-- The id that an operation is about; a claim is about the id that has waited longest. -/
def subject? (q : Queue) : Op → Option String
  | .enqueue job => some job.id
  | .claimNext => q.waiting.head?
  | .complete id _ => some id
  | .get id => some id

/-- The job that an operation finds under the id that it is about. -/
def held? (q : Queue) (op : Op) : Option Job := (q.subject? op).bind q.get?

theorem held?_claimNext (q : Queue) : q.held? .claimNext = q.waiting.head?.bind q.get? := rfl

/-! ## What an operation changes -/

/-- A change of the queue: nothing, or a job is written and its id moves in the line or not. -/
inductive Edit where
  | keep
  | append (job : Job)
  | handOut (job : Job)
  | replace (job : Job)

namespace Edit

/-- Carry out a change. -/
def apply (q : Queue) : Edit → Queue
  | .keep => q
  | .append job => ⟨q.waiting ++ [job.id], q.jobs.put job.id job⟩
  | .handOut job => ⟨q.waiting.tail, q.jobs.put job.id job⟩
  | .replace job => ⟨q.waiting, q.jobs.put job.id job⟩

/-- The job that a change writes. -/
def written? : Edit → Option Job
  | .keep => none
  | .append job => some job
  | .handOut job => some job
  | .replace job => some job

/-- Only the job that is written reads differently. -/
theorem get?_apply_of_ne (q : Queue) (e : Edit) {id : String}
    (hNe : ∀ job, e.written? = some job → job.id ≠ id) : (e.apply q).get? id = q.get? id := by
  cases e with
  | keep => rfl
  | append job => exact (get?_put _ _ _ _ _).trans (if_neg (hNe job rfl).symm)
  | handOut job => exact (get?_put _ _ _ _ _).trans (if_neg (hNe job rfl).symm)
  | replace job => exact (get?_put _ _ _ _ _).trans (if_neg (hNe job rfl).symm)

/-- A job that is there can be replaced before or after a change of another one. -/
theorem apply_replace {q : Queue} {job : Job} (hKnown : (q.get? job.id).isSome) {e : Edit}
    (hNe : ∀ other, e.written? = some other → other.id ≠ job.id) :
    e.apply ((Edit.replace job).apply q) = (Edit.replace job).apply (e.apply q) := by
  have hPut : ∀ other : Job, other.id ≠ job.id →
      (q.jobs.put job.id job).put other.id other = (q.jobs.put other.id other).put job.id job :=
    fun other hOther => Table.put_comm hOther.symm job other hKnown
  cases e with
  | keep => rfl
  | append other => exact congrArg (Queue.mk _) (hPut other (hNe other rfl))
  | handOut other => exact congrArg (Queue.mk _) (hPut other (hNe other rfl))
  | replace other => exact congrArg (Queue.mk _) (hPut other (hNe other rfl))

end Edit

/-! ## Operations by what they find -/

/-- The answer to an operation and the change that it makes, given the job that it finds. -/
def respond : Op → Option Job → Answer × Edit
  | .enqueue job, none => (.enqueued, .append { job with status := .pending })
  | .enqueue job, some _ => (.refused (.duplicateId job.id), .keep)
  | .claimNext, none => (.claimed none, .keep)
  | .claimNext, some job =>
    (.claimed (some { job with status := .running }),
      .handOut { job with status := .running, code := "" })
  | .complete id _, none => (.refused (.notFound id), .keep)
  | .complete id succeeded, some job =>
    if job.status = .running then
      (.completed { job with status := .ending succeeded },
        .replace { job with status := .ending succeeded })
    else (.refused (.invalidTransition id job.status (.ending succeeded)), .keep)
  | .get _, held => (.found held, .keep)

/-- A transition is what the operation does with the job that it finds. -/
theorem Transition.eq_respond {q left : Queue} {op : Op} {answer : Answer}
    (h : Transition q op answer left) :
    answer = (respond op (q.held? op)).1 ∧ left = (respond op (q.held? op)).2.apply q := by
  cases h with
  | @accept job hNew =>
      have hHeld : q.held? (.enqueue job) = none := hNew
      rw [hHeld]
      exact ⟨rfl, rfl⟩
  | @duplicate job held hHeld =>
      have hHeld : q.held? (.enqueue job) = some held := hHeld
      rw [hHeld]
      exact ⟨rfl, rfl⟩
  | idle hNone =>
      have hHeld : q.held? .claimNext = none := by
        rw [held?_claimNext, hNone]
        rfl
      rw [hHeld]
      exact ⟨rfl, rfl⟩
  | @claim job rest hWaiting hJob hPending =>
      have hHeld : q.held? .claimNext = some job := by
        rw [held?_claimNext, hWaiting]
        exact hJob
      have hRest : q.waiting.tail = rest := by
        rw [hWaiting]
        rfl
      rw [hHeld, ← hRest]
      exact ⟨rfl, rfl⟩
  | @finish job succeeded hJob hRunning =>
      have hHeld : q.held? (.complete job.id succeeded) = some job := hJob
      rw [hHeld, respond, if_pos hRunning]
      exact ⟨rfl, rfl⟩
  | @unknown id succeeded hNone =>
      have hHeld : q.held? (.complete id succeeded) = none := hNone
      rw [hHeld]
      exact ⟨rfl, rfl⟩
  | @notRunning job succeeded hJob hStatus =>
      have hHeld : q.held? (.complete job.id succeeded) = some job := hJob
      rw [hHeld, respond, if_neg hStatus]
      exact ⟨rfl, rfl⟩
  | look => exact ⟨rfl, rfl⟩

theorem step_eq_respond {q : Queue} (hq : q.WellFormed) (op : Op) :
    q.step op = ((respond op (q.held? op)).1, (respond op (q.held? op)).2.apply q) := by
  obtain ⟨hAnswer, hLeft⟩ := (step_transition hq op).eq_respond
  exact Prod.ext hAnswer hLeft

/-- The job that an operation writes stands under the id that the operation is about. -/
theorem WellFormed.subject?_eq {q : Queue} (hq : q.WellFormed) {op : Op} {job : Job}
    (h : (respond op (q.held? op)).2.written? = some job) : q.subject? op = some job.id := by
  cases hHeld : q.held? op with
  | none =>
      rw [hHeld] at h
      cases op with
      | enqueue submitted =>
          cases h
          rfl
      | _ => cases h
  | some held =>
      obtain ⟨id, hSubject, hGet⟩ := Option.bind_eq_some_iff.1 hHeld
      have hId : held.id = id := hq.id_eq id held hGet
      rw [hSubject, ← hId]
      rw [hHeld] at h
      cases op with
      | enqueue submitted => cases h
      | claimNext =>
          cases h
          rfl
      | complete id succeeded =>
          rw [respond] at h
          split at h <;> cases h
          rfl
      | get id => cases h

/-- An operation finds what it found before a change of another job. -/
theorem held?_apply {q : Queue} {e : Edit} {op : Op}
    (hSubject : (e.apply q).subject? op = q.subject? op)
    (hNe : ∀ job, e.written? = some job → q.subject? op ≠ some job.id) :
    (e.apply q).held? op = q.held? op := by
  rw [held?, held?, hSubject]
  cases hId : q.subject? op with
  | none => rfl
  | some id =>
      refine e.get?_apply_of_ne q ?_
      rintro job hWritten rfl
      exact hNe job hWritten hId

/-! ## Two orders -/

/-- Whichever of two operations comes first, each of them answers the same, and the same queue is
left. -/
def Interchangeable (q : Queue) (op op' : Op) : Prop :=
  ∃ answer answer' left,
    q.run [op, op'] = ([answer, answer'], left) ∧ q.run [op', op] = ([answer', answer], left)

theorem run_pair (q : Queue) (op op' : Op) :
    q.run [op, op'] =
      ([(q.step op).1, ((q.step op).2.step op').1], ((q.step op).2.step op').2) := rfl

/-- What two operations do, if the first leaves the second its id and the job under it. -/
theorem run_pair_eq {q : Queue} (hq : q.WellFormed) {op op' : Op}
    (hNe : ∀ id, q.subject? op = some id → q.subject? op' ≠ some id)
    (hSubject : ((respond op (q.held? op)).2.apply q).subject? op' = q.subject? op') :
    q.run [op, op'] =
      ([(respond op (q.held? op)).1, (respond op' (q.held? op')).1],
        (respond op' (q.held? op')).2.apply ((respond op (q.held? op)).2.apply q)) := by
  have hFirst := step_eq_respond hq op
  have hLeft := hq.step op
  rw [hFirst] at hLeft
  have hHeld : ((respond op (q.held? op)).2.apply q).held? op' = q.held? op' := by
    refine held?_apply hSubject ?_
    intro job hWritten
    exact hNe job.id (hq.subject?_eq hWritten)
  rw [run_pair, hFirst]
  simp only
  rw [step_eq_respond hLeft op', hHeld]

/-- Operations about different ids are interchangeable, if each leaves the other the id that it is
about, and what they change can be changed in either order. -/
theorem WellFormed.interchangeable {q : Queue} (hq : q.WellFormed) {op op' : Op}
    (hNe : ∀ id, q.subject? op = some id → q.subject? op' ≠ some id)
    (hSubject : ((respond op (q.held? op)).2.apply q).subject? op' = q.subject? op')
    (hSubject' : ((respond op' (q.held? op')).2.apply q).subject? op = q.subject? op)
    (hEdits : (respond op' (q.held? op')).2.apply ((respond op (q.held? op)).2.apply q) =
      (respond op (q.held? op)).2.apply ((respond op' (q.held? op')).2.apply q)) :
    q.Interchangeable op op' := by
  refine ⟨_, _, _, run_pair_eq hq hNe hSubject, ?_⟩
  rw [hEdits]
  exact run_pair_eq hq (fun id hId' hId => hNe id hId hId') hSubject'

/-! ## Completions -/

/-- What a completion changes: nothing, or a job that is there. -/
theorem WellFormed.completion_edit {q : Queue} (hq : q.WellFormed) (id : String)
    (succeeded : Bool) :
    (respond (.complete id succeeded) (q.get? id)).2 = .keep ∨
      ∃ job, job.id = id ∧ (q.get? id).isSome ∧
        (respond (.complete id succeeded) (q.get? id)).2 = .replace job := by
  cases hHeld : q.get? id with
  | none => exact .inl rfl
  | some job =>
      rw [respond]
      split
      · exact .inr ⟨{ job with status := .ending succeeded }, hq.id_eq id job hHeld, rfl, rfl⟩
      · exact .inl rfl

/-- A completion is interchangeable with every operation that is not about the same id. -/
theorem WellFormed.interchangeable_complete {q : Queue} (hq : q.WellFormed) {id : String}
    (succeeded : Bool) {op : Op} (hNe : q.subject? op ≠ some id) :
    q.Interchangeable (.complete id succeeded) op := by
  have hHeld : q.held? (.complete id succeeded) = q.get? id := rfl
  have hEdit := hq.completion_edit id succeeded
  refine hq.interchangeable ?_ ?_ rfl ?_
  · rintro _ ⟨⟩
    exact hNe
  · rw [hHeld]
    rcases hEdit with hKeep | ⟨job, -, -, hReplace⟩
    · rw [hKeep]
      rfl
    · -- a completion leaves the line alone, and so the id that a claim is about
      rw [hReplace]
      cases op <;> rfl
  · rw [hHeld]
    rcases hEdit with hKeep | ⟨job, rfl, hKnown, hReplace⟩
    · rw [hKeep]
      rfl
    · rw [hReplace]
      refine Edit.apply_replace hKnown ?_
      intro other hWritten hId
      exact hNe (hId ▸ hq.subject?_eq hWritten)

/-! ## Claims and submissions -/

theorem step_enqueue_of_known {q : Queue} {job : Job} (hKnown : (q.get? job.id).isSome) :
    q.step (.enqueue job) = (.refused (.duplicateId job.id), q) := by
  rw [step, enqueue_eq_error_iff.2 ⟨hKnown, rfl⟩]

/-- A duplicate is interchangeable with every operation: it is refused now and later. -/
theorem interchangeable_duplicate {q : Queue} (op : Op) {job : Job}
    (hKnown : (q.get? job.id).isSome) : q.Interchangeable op (.enqueue job) := by
  have hLater : ((q.step op).2.get? job.id).isSome := isSome_get?_step op hKnown
  refine ⟨(q.step op).1, .refused (.duplicateId job.id), (q.step op).2, ?_, ?_⟩
  · rw [run_pair, step_enqueue_of_known hLater]
  · rw [run_pair, step_enqueue_of_known hKnown]

/-- A claim is interchangeable with every submission as long as a job waits. -/
theorem WellFormed.interchangeable_claimNext {q : Queue} (hq : q.WellFormed)
    (hWaiting : q.waiting ≠ []) (job : Job) : q.Interchangeable .claimNext (.enqueue job) := by
  cases hNew : q.get? job.id with
  | some held => exact interchangeable_duplicate .claimNext (by rw [hNew]; rfl)
  | none =>
      obtain ⟨first, rest, hFirst⟩ := List.exists_cons_of_ne_nil hWaiting
      obtain ⟨oldest, hOldest, -⟩ := (hq.mem_waiting_iff first).1 (by simp [hFirst])
      obtain rfl : oldest.id = first := hq.id_eq first oldest hOldest
      have hNe : oldest.id ≠ job.id := by
        intro hId
        rw [hId, hNew] at hOldest
        cases hOldest
      have hSubject : q.subject? .claimNext = some oldest.id := by
        rw [subject?, hFirst]
        rfl
      have hClaim : q.held? .claimNext = some oldest := by
        rw [held?_claimNext, hFirst]
        exact hOldest
      have hEnqueue : q.held? (.enqueue job) = none := hNew
      refine hq.interchangeable ?_ rfl ?_ ?_
      · intro id hId hId'
        exact hNe (Option.some.inj ((hSubject.symm.trans hId).trans hId'.symm))
      · rw [hEnqueue]
        show (q.waiting ++ [job.id]).head? = q.waiting.head?
        rw [hFirst]
        rfl
      · rw [hClaim, hEnqueue]
        have hKnown : (q.jobs.get? oldest.id).isSome := Option.isSome_iff_exists.2 ⟨_, hOldest⟩
        show Queue.mk (q.waiting.tail ++ [job.id]) _ = Queue.mk (q.waiting ++ [job.id]).tail _
        rw [List.tail_append_of_ne_nil hWaiting]
        exact congrArg (Queue.mk _) (Table.put_comm hNe _ _ hKnown)

/-! ## Two submissions -/

/-- Those of some ids under which no job is known. -/
def free (q : Queue) (ids : List String) : List String := ids.filter fun id => (q.get? id).isNone

theorem free_append (q : Queue) (ids more : List String) :
    q.free (ids ++ more) = q.free ids ++ q.free more :=
  List.filter_append ids more

/-- What a submission does, whether it is accepted or not. -/
structure Submitted (q : Queue) (job : Job) (answer : Answer) (left : Queue) : Prop where
  answer_eq : answer =
    if (q.get? job.id).isSome then .refused (.duplicateId job.id) else .enqueued
  waiting_eq : left.waiting = q.waiting ++ q.free [job.id]
  get?_eq : ∀ id, left.get? id =
    if id = job.id then (q.get? id).or (some { job with status := .pending }) else q.get? id
  size_eq : left.size = q.size + (q.free [job.id]).length

theorem submitted_step (q : Queue) (job : Job) :
    Submitted q job (q.step (.enqueue job)).1 (q.step (.enqueue job)).2 := by
  cases hHeld : q.get? job.id with
  | some held =>
      have hKnown : (q.get? job.id).isSome := by
        rw [hHeld]
        rfl
      have hFree : q.free [job.id] = [] := by simp [free, hHeld]
      rw [step_enqueue_of_known hKnown]
      refine
        { answer_eq := (if_pos hKnown).symm
          waiting_eq := by rw [hFree, List.append_nil]
          get?_eq := ?_
          size_eq := by rw [hFree]; rfl }
      intro id
      split
      · next hId =>
          rw [hId, hHeld]
          rfl
      · rfl
  | none =>
      have hFree : q.free [job.id] = [job.id] := by simp [free, hHeld]
      have hNone : q.jobs.get? job.id = none := hHeld
      rw [step, enqueue_eq_ok_iff.2 ⟨hHeld, rfl⟩]
      refine
        { answer_eq := by rw [hHeld]; rfl
          waiting_eq := by rw [hFree]
          get?_eq := ?_
          size_eq := ?_ }
      · intro id
        rw [get?_put]
        split
        · next hId =>
            rw [hId, hHeld]
            rfl
        · rfl
      · rw [hFree]
        show (q.jobs.put job.id _).size = q.jobs.size + 1
        rw [Table.size_put, hNone]
        rfl

/-- Two submissions of different ids; the second finds what it would have found before the first. -/
theorem Submitted.pair {q mid left : Queue} {job job' : Job} {answer answer' : Answer}
    (h : Submitted q job answer mid) (h' : Submitted mid job' answer' left)
    (hNe : job.id ≠ job'.id) :
    answer' = (if (q.get? job'.id).isSome then .refused (.duplicateId job'.id) else .enqueued) ∧
      left.waiting = q.waiting ++ q.free [job.id, job'.id] ∧
      left.size = q.size + (q.free [job.id, job'.id]).length ∧
      ∀ id, left.get? id =
        if id = job.id then (q.get? id).or (some { job with status := .pending })
        else if id = job'.id then (q.get? id).or (some { job' with status := .pending })
        else q.get? id := by
  have hGet : mid.get? job'.id = q.get? job'.id := by
    rw [h.get?_eq, if_neg hNe.symm]
  have hFree : mid.free [job'.id] = q.free [job'.id] := by
    simp only [free, List.filter_cons, List.filter_nil, hGet]
  have hBoth : q.free [job.id, job'.id] = q.free [job.id] ++ q.free [job'.id] :=
    q.free_append [job.id] [job'.id]
  refine ⟨?_, ?_, ?_, ?_⟩
  · rw [h'.answer_eq, hGet]
  · rw [h'.waiting_eq, h.waiting_eq, hFree, hBoth, List.append_assoc]
  · rw [h'.size_eq, h.size_eq, hFree, hBoth, List.length_append, Nat.add_assoc]
  · intro id
    rw [h'.get?_eq, h.get?_eq]
    by_cases hId' : id = job'.id
    · rw [if_pos hId', if_neg (hId' ▸ hNe.symm), if_neg (hId' ▸ hNe.symm), if_pos hId']
    · rw [if_neg hId', if_neg hId']

/-- Two queues with the same table of jobs, whatever the order in which the ids came. -/
structure SameJobs (q q' : Queue) : Prop where
  get?_eq : ∀ id, q.get? id = q'.get? id
  size_eq : q.size = q'.size

/-- Whichever of two submissions comes first, each of them answers the same, and the same jobs are
left; those of the two that are accepted wait at the end of the line, in the order of submission. -/
def SwapInLine (q : Queue) (job job' : Job) : Prop :=
  ∃ answer answer' left left',
    q.run [.enqueue job, .enqueue job'] = ([answer, answer'], left) ∧
      q.run [.enqueue job', .enqueue job] = ([answer', answer], left') ∧
      left.SameJobs left' ∧
      left.waiting = q.waiting ++ q.free [job.id, job'.id] ∧
      left'.waiting = q.waiting ++ (q.free [job.id, job'.id]).reverse

theorem swapInLine (q : Queue) {job job' : Job} (hNe : job.id ≠ job'.id) :
    q.SwapInLine job job' := by
  have h := submitted_step q job
  have h' := submitted_step q job'
  obtain ⟨hAnswer', hWaiting, hSize, hGet⟩ := h.pair (submitted_step _ job') hNe
  obtain ⟨hAnswer, hWaiting', hSize', hGet'⟩ := h'.pair (submitted_step _ job) hNe.symm
  have hReverse : (q.free [job.id, job'.id]).reverse = q.free [job'.id, job.id] :=
    List.filter_reverse.symm
  refine ⟨_, _, _, ((q.step (.enqueue job')).2.step (.enqueue job)).2, run_pair q _ _, ?_,
    ⟨?_, ?_⟩, hWaiting, ?_⟩
  · rw [run_pair, hAnswer, hAnswer', h.answer_eq, h'.answer_eq]
  · intro id
    rw [hGet, hGet']
    by_cases hId : id = job.id
    · rw [if_pos hId, if_neg (hId ▸ hNe), if_pos hId]
    · rw [if_neg hId, if_neg hId]
  · rw [hSize, hSize', ← hReverse, List.length_reverse]
  · rw [hReverse]
    exact hWaiting'

/-- The first submission of an id that is free is accepted, and the next one refused. -/
theorem run_same_id {q : Queue} {job job' : Job} (hId : job'.id = job.id)
    (hNew : q.get? job.id = none) :
    (q.run [.enqueue job, .enqueue job']).1 = [.enqueued, .refused (.duplicateId job'.id)] := by
  have h := submitted_step q job
  have h' := submitted_step (q.step (.enqueue job)).2 job'
  have hKnown : ((q.step (.enqueue job)).2.get? job'.id).isSome := by
    rw [h.get?_eq, if_pos hId, hId, hNew]
    rfl
  rw [run_pair, h.answer_eq, h'.answer_eq, hNew, if_pos hKnown]
  rfl

/-- **Independent operations commute.**  After any operations on the empty queue: a claim and a
submission are interchangeable as long as a job waits; so are the completions of two ids, a
completion and a submission of another id, and a completion and a claim that is not about its id.
Two submissions of different ids change places in the line, and all else is the same.  Of two
submissions of one id that is free the first is accepted and the other refused, in either order. -/
theorem independent_operations_commute (ops : List Op) :
    let q := after ops
    (∀ job, 0 < q.pendingSize → q.Interchangeable .claimNext (.enqueue job)) ∧
      (∀ id id' succeeded succeeded', id ≠ id' →
        q.Interchangeable (.complete id succeeded) (.complete id' succeeded')) ∧
      (∀ id succeeded job, id ≠ job.id →
        q.Interchangeable (.complete id succeeded) (.enqueue job)) ∧
      (∀ id succeeded, q.waiting.head? ≠ some id →
        q.Interchangeable (.complete id succeeded) .claimNext) ∧
      (∀ job job', job.id ≠ job'.id → q.SwapInLine job job') ∧
      ∀ job job', job.id = job'.id → q.get? job.id = none →
        (q.run [.enqueue job, .enqueue job']).1 =
            [.enqueued, .refused (.duplicateId job.id)] ∧
          (q.run [.enqueue job', .enqueue job]).1 =
            [.enqueued, .refused (.duplicateId job.id)] := by
  intro q
  have hq : q.WellFormed := after_wellFormed ops
  refine ⟨?_, ?_, ?_, ?_, ?_, ?_⟩
  · intro job hWaiting
    exact hq.interchangeable_claimNext (List.length_pos_iff.1 hWaiting) job
  · intro id id' succeeded succeeded' hNe
    exact hq.interchangeable_complete succeeded fun hSame => hNe (Option.some.inj hSame).symm
  · intro id succeeded job hNe
    exact hq.interchangeable_complete succeeded fun hSame => hNe (Option.some.inj hSame).symm
  · intro id succeeded hHead
    exact hq.interchangeable_complete succeeded hHead
  · intro job job' hNe
    exact q.swapInLine hNe
  · intro job job' hId hNew
    constructor
    · rw [run_same_id hId.symm hNew, hId]
    · exact run_same_id hId (hId ▸ hNew)

/-- With `a` running and `b` waiting, `a` can end before or after `b` is claimed, and `c` and `d`
can be submitted before or after. -/
theorem running_and_waiting_commute :
    let job (id : String) : Job := ⟨id, ⟨"t", "g", "p"⟩, .python, "1", .pending, Time.Instant.epoch⟩
    let q := after [.enqueue (job "a"), .enqueue (job "b"), .claimNext]
    0 < q.pendingSize ∧ q.waiting.head? ≠ some "a" ∧ q.get? "c" = none ∧
      q.Interchangeable (.complete "a" true) .claimNext ∧
      q.Interchangeable (.complete "a" true) (.complete "b" false) ∧
      q.Interchangeable .claimNext (.enqueue (job "c")) ∧
      q.Interchangeable (.complete "a" true) (.enqueue (job "c")) ∧
      q.SwapInLine (job "c") (job "d") ∧
      (q.run [.enqueue (job "c"), .enqueue (job "c")]).1 =
        [.enqueued, .refused (.duplicateId "c")] := by
  intro job q
  have hWaiting : 0 < q.pendingSize := by decide
  have hHead : q.waiting.head? ≠ some "a" := by decide
  have hFree : q.get? "c" = none := by decide
  obtain ⟨hClaim, hEnds, hSubmit, hNext, hSwap, hSame⟩ := independent_operations_commute
    [.enqueue (job "a"), .enqueue (job "b"), .claimNext]
  exact ⟨hWaiting, hHead, hFree, hNext "a" true hHead, hEnds "a" "b" true false (by decide),
    hClaim (job "c") hWaiting, hSubmit "a" true (job "c") (by decide : "a" ≠ "c"),
    hSwap (job "c") (job "d") (by decide : "c" ≠ "d"), (hSame (job "c") (job "c") rfl hFree).1⟩

end Admission.Queue
