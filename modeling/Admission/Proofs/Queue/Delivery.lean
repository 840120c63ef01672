import Admission.Proofs.Queue.History

/-!
# Delivery in order

Whatever the interleaving of submitters and executors, the jobs handed out so far are the first of
those admitted, in the order of their admission and each of them once, as submitted but for the
status.  The rest still waits, in order.

The log of admitted jobs splits into the part that was handed out and the part that is kept.  An
admission extends the kept part at its end, a claim moves its first job over, and nothing else moves
a job: `Split` is kept by every transition.

## Main results

* `delivered_in_order`: what was handed out, what waits and what the sizes tell, after any
  operations.
-/

namespace Admission.Queue

open Admission.Store

/-! ## What a history admits and delivers -/

/-- The jobs whose admission was confirmed, as submitted, oldest first. -/
def admitted (steps : List (Op × Answer)) : List Job :=
  steps.filterMap fun
    | (.enqueue job, .enqueued) => some job
    | _ => none

/-- The jobs handed out by claims, oldest first. -/
def delivered (steps : List (Op × Answer)) : List Job :=
  steps.filterMap fun
    | (_, .claimed job) => job
    | _ => none

/-- A submitted job as its claimer receives it. -/
def handedOut (job : Job) : Job := { job with status := .running }

theorem admitted_concat (steps : List (Op × Answer)) (op : Op) (answer : Answer) :
    admitted (steps ++ [(op, answer)]) = admitted steps ++ admitted [(op, answer)] :=
  List.filterMap_append

theorem delivered_concat (steps : List (Op × Answer)) (op : Op) (answer : Answer) :
    delivered (steps ++ [(op, answer)]) = delivered steps ++ delivered [(op, answer)] :=
  List.filterMap_append

/-! ## The log, split at the last claim -/

/-- The admitted jobs are those handed out, then those kept; the kept ones wait in order, each
stored as submitted. -/
structure Split (steps : List (Op × Answer)) (q : Queue) (out kept : List Job) : Prop where
  admitted_eq : admitted steps = out ++ kept
  delivered_eq : delivered steps = out.map handedOut
  waiting_eq : q.waiting = kept.map Job.id
  stored : ∀ job ∈ kept, q.get? job.id = some { job with status := .pending }
  known_iff : ∀ id, (q.get? id).isSome ↔ id ∈ (out ++ kept).map Job.id
  nodup : ((out ++ kept).map Job.id).Nodup
  size_eq : q.size = (out ++ kept).length

variable {steps : List (Op × Answer)} {q : Queue} {out kept : List Job}

/-- Putting a job under a known id changes neither which ids are known nor the number of jobs. -/
private theorem known_put {id : String} (hKnown : (q.get? id).isSome)
    (waiting : List String) (job : Job) :
    (∀ id', ((Queue.mk waiting (q.jobs.put id job)).get? id').isSome ↔ (q.get? id').isSome) ∧
    (Queue.mk waiting (q.jobs.put id job)).size = q.size := by
  constructor
  · intro id'
    rw [get?_put]
    split
    · next hId => simp [hId, hKnown]
    · rfl
  · have hSome : (q.jobs.get? id).isSome := hKnown
    show (q.jobs.put id job).size = q.jobs.size
    rw [Table.size_put, if_pos hSome]

/-- An operation that neither admits nor hands out, and leaves the queue as it was. -/
private theorem Split.stay (h : Split steps q out kept) {op : Op}
    {answer : Answer} (hAdmitted : admitted [(op, answer)] = [])
    (hDelivered : delivered [(op, answer)] = []) :
    Split (steps ++ [(op, answer)]) q out kept :=
  { h with
    admitted_eq := by
      rw [admitted_concat, hAdmitted, List.append_nil, h.admitted_eq]
    delivered_eq := by
      rw [delivered_concat, hDelivered, List.append_nil, h.delivered_eq] }

/-- An admission extends the kept part: its id is new, hence none of the log's. -/
private theorem Split.accept (h : Split steps q out kept) {job : Job}
    (hNew : q.get? job.id = none) :
    Split (steps ++ [(.enqueue job, .enqueued)])
      ⟨q.waiting ++ [job.id], q.jobs.put job.id { job with status := .pending }⟩
      out (kept ++ [job]) := by
  have hFresh : ∀ other ∈ out ++ kept, other.id ≠ job.id := by
    intro other hOther hId
    have hSome := (h.known_iff job.id).2 (hId ▸ List.mem_map_of_mem hOther)
    rw [hNew] at hSome
    cases hSome
  refine
    { admitted_eq := ?_
      delivered_eq := ?_
      waiting_eq := ?_
      stored := ?_
      known_iff := ?_
      nodup := ?_
      size_eq := ?_ }
  · rw [admitted_concat, h.admitted_eq, List.append_assoc]
    rfl
  · rw [delivered_concat, h.delivered_eq]
    exact List.append_nil _
  · show q.waiting ++ [job.id] = _
    rw [h.waiting_eq, List.map_append]
    rfl
  · intro other hOther
    rw [get?_put]
    rcases List.mem_append.1 hOther with hKept | hLast
    · rw [if_neg (hFresh other (List.mem_append_right out hKept))]
      exact h.stored other hKept
    · obtain rfl := List.mem_singleton.1 hLast
      rw [if_pos rfl]
  · intro id
    rw [get?_put, ← List.append_assoc, List.map_append, List.mem_append]
    split
    · next hId => simp [hId]
    · next hId =>
        have hOther : id ∉ [job].map Job.id := by simp [hId]
        rw [or_iff_left hOther]
        exact h.known_iff id
  · rw [← List.append_assoc, List.map_append, List.nodup_append]
    refine ⟨h.nodup, by simp, ?_⟩
    intro id hId id' hId' hEq
    obtain ⟨other, hOther, rfl⟩ := List.mem_map.1 hId
    exact hFresh other hOther (hEq.trans (List.mem_singleton.1 hId'))
  · have hNone : q.jobs.get? job.id = none := hNew
    show (q.jobs.put job.id { job with status := .pending }).size = _
    rw [Table.size_put, hNone, ← List.append_assoc, List.length_append]
    exact congrArg (· + 1) h.size_eq

/-- A claim moves the first kept job over; it is handed out as it was submitted. -/
private theorem Split.claim (h : Split steps q out kept) {stored : Job}
    {rest : List String} (hWaiting : q.waiting = stored.id :: rest)
    (hStored : q.get? stored.id = some stored) :
    ∃ job kept', Split
      (steps ++ [(.claimNext, .claimed (some { stored with status := .running }))])
      ⟨rest, q.jobs.put stored.id
        { stored with status := .running, code := "" }⟩
      (out ++ [job]) kept' := by
  cases kept with
  | nil =>
      have hNone := h.waiting_eq
      rw [hWaiting] at hNone
      cases hNone
  | cons job kept =>
      have hIds := h.waiting_eq
      rw [hWaiting, List.map_cons, List.cons.injEq] at hIds
      obtain ⟨hId, hRest⟩ := hIds
      have hSubmitted : stored = { job with status := .pending } :=
        Option.some.inj (hStored.symm.trans
          ((congrArg q.get? hId).trans (h.stored job (List.mem_cons_self ..))))
      have hSame : out ++ [job] ++ kept = out ++ job :: kept := by simp
      have hPut := known_put (Option.isSome_iff_exists.2 ⟨stored, hStored⟩)
        rest { stored with status := .running, code := "" }
      have hNodup := h.nodup
      rw [List.map_append, List.map_cons, List.nodup_append, List.nodup_cons] at hNodup
      refine ⟨job, kept,
        { admitted_eq := ?_
          delivered_eq := ?_
          waiting_eq := hRest
          stored := ?_
          known_iff := ?_
          nodup := hSame ▸ h.nodup
          size_eq := ?_ }⟩
      · rw [admitted_concat, h.admitted_eq, hSame]
        exact List.append_nil _
      · rw [delivered_concat, h.delivered_eq, List.map_append]
        show _ ++ [{ stored with status := .running }] = _
        rw [hSubmitted]
        rfl
      · intro other hOther
        have hNe : other.id ≠ stored.id := by
          intro hEq
          exact hNodup.2.1.1 (hId ▸ hEq ▸ List.mem_map_of_mem hOther)
        rw [get?_put, if_neg hNe]
        exact h.stored other (List.mem_cons_of_mem job hOther)
      · intro id
        rw [hPut.1, h.known_iff, hSame]
      · rw [hPut.2, hSame, h.size_eq]

/-- The end of a job changes a running one, and every kept job is pending. -/
private theorem Split.finish (h : Split steps q out kept) {stored : Job}
    {succeeded : Bool} (hStored : q.get? stored.id = some stored)
    (hRunning : stored.status = .running) {answer : Answer}
    (hDelivered : delivered [(.complete stored.id succeeded, answer)] = []) :
    Split (steps ++ [(.complete stored.id succeeded, answer)])
      ⟨q.waiting, q.jobs.put stored.id
        { stored with status := .ending succeeded }⟩ out kept := by
  have hPut := known_put (Option.isSome_iff_exists.2 ⟨stored, hStored⟩)
    q.waiting { stored with status := .ending succeeded }
  refine
    { h with
      admitted_eq := ?_
      delivered_eq := ?_
      stored := ?_
      known_iff := fun id => (hPut.1 id).trans (h.known_iff id)
      size_eq := hPut.2.trans h.size_eq }
  · rw [admitted_concat, h.admitted_eq]
    exact List.append_nil _
  · rw [delivered_concat, hDelivered, List.append_nil, h.delivered_eq]
  · intro other hOther
    have hPending := h.stored other hOther
    have hNe : other.id ≠ stored.id := by
      intro hEq
      rw [hEq, hStored, Option.some.injEq] at hPending
      rw [hPending] at hRunning
      cases hRunning
    rw [get?_put, if_neg hNe]
    exact hPending

/-- Every transition keeps the log split. -/
theorem Split.transition (h : Split steps q out kept) {op : Op}
    {answer : Answer} {q' : Queue} (hStep : Transition q op answer q') :
    ∃ out' kept', Split (steps ++ [(op, answer)]) q' out' kept' := by
  cases hStep with
  | accept hNew => exact ⟨_, _, h.accept hNew⟩
  | claim hWaiting hStored _ =>
      obtain ⟨job, kept', hClaim⟩ := h.claim hWaiting hStored
      exact ⟨_, _, hClaim⟩
  | finish hStored hRunning => exact ⟨_, _, h.finish hStored hRunning rfl⟩
  | duplicate _ => exact ⟨_, _, h.stay rfl rfl⟩
  | idle _ => exact ⟨_, _, h.stay rfl rfl⟩
  | unknown _ => exact ⟨_, _, h.stay rfl rfl⟩
  | notRunning _ _ => exact ⟨_, _, h.stay rfl rfl⟩
  | look => exact ⟨_, _, h.stay rfl rfl⟩

/-- After any operations the log of admitted jobs is split. -/
theorem split_history (ops : List Op) :
    ∃ out kept, Split (history ops) (after ops) out kept := by
  refine history_induction
    (P := fun steps q => ∃ out kept, Split steps q out kept) ?_ ?_ ops
  · exact ⟨[], [],
      { admitted_eq := rfl
        delivered_eq := rfl
        waiting_eq := rfl
        stored := by simp
        known_iff := by simp
        nodup := List.nodup_nil
        size_eq := rfl }⟩
  · intro steps q op answer q' _ hStep hSplit
    obtain ⟨out, kept, h⟩ := hSplit
    exact h.transition hStep

/-! ## Delivery -/

/-- A claim comes back empty exactly when no job waits. -/
theorem Transition.claimed_none_iff {answer : Answer} {q' : Queue}
    (h : Transition q .claimNext answer q') :
    answer = .claimed none ↔ q.waiting = [] := by
  cases h with
  | idle hNone => simp [hNone]
  | claim hWaiting _ _ => simp [hWaiting]

/-- A submission is confirmed exactly when its id is not known. -/
theorem Transition.enqueued_iff {job : Job} {answer : Answer} {q' : Queue}
    (h : Transition q (.enqueue job) answer q') :
    answer = .enqueued ↔ ¬(q.get? job.id).isSome := by
  cases h with
  | accept hNew => simp [hNew]
  | duplicate hHeld => simp [hHeld]

/-- **Delivery in order, exactly once.**  After any operations on the empty queue, with `E` the jobs
whose admission was confirmed and `C` the jobs handed out: `C` are the first of `E`, as submitted
but for the status; the ids that wait, which are those of the pending jobs, are the ids of the
others in order; no two of `E` share an id, and a job whose id is not among them is confirmed; a
claim comes back empty exactly when all of `E` was handed out; and the sizes count `E` and the rest
of it. -/
theorem delivered_in_order (ops : List Op) :
    let E := admitted (history ops)
    let C := delivered (history ops)
    let q := after ops
    C = (E.take C.length).map handedOut ∧
      q.waiting = (E.drop C.length).map Job.id ∧
      (∀ id, (q.get? id).map Job.status = some .pending ↔ id ∈ (E.drop C.length).map Job.id) ∧
      (E.map Job.id).Nodup ∧
      (∀ job, (q.step (.enqueue job)).1 = .enqueued ↔ job.id ∉ E.map Job.id) ∧
      ((q.step .claimNext).1 = .claimed none ↔ C.length = E.length) ∧
      q.size = E.length ∧
      C.length ≤ E.length ∧ q.pendingSize = E.length - C.length := by
  intro E C q
  have hq : q.WellFormed := after_wellFormed ops
  obtain ⟨out, kept, h⟩ := split_history ops
  have hE : E = out ++ kept := h.admitted_eq
  have hC : C.length = out.length := by
    rw [show C = out.map handedOut from h.delivered_eq, List.length_map]
  have hTake : E.take C.length = out := by
    rw [hE, hC, List.take_left]
  have hDrop : E.drop C.length = kept := by
    rw [hE, hC, List.drop_left]
  have hLength : E.length = C.length + kept.length := by
    rw [hE, hC, List.length_append]
  have hWaiting : q.waiting = kept.map Job.id := h.waiting_eq
  refine ⟨?_, ?_, ?_, ?_, ?_, ?_, ?_, ?_, ?_⟩
  · rw [hTake]
    exact h.delivered_eq
  · rw [hDrop]
    exact hWaiting
  · intro id
    rw [hDrop, ← hWaiting, hq.mem_waiting_iff, Option.map_eq_some_iff]
  · rw [hE]
    exact h.nodup
  · intro job
    rw [(step_transition hq (.enqueue job)).enqueued_iff, hE]
    exact not_congr (h.known_iff job.id)
  · rw [(step_transition hq .claimNext).claimed_none_iff, hWaiting,
      List.map_eq_nil_iff, hLength, ← List.length_eq_zero_iff]
    omega
  · rw [hE]
    exact h.size_eq
  · omega
  · rw [pendingSize, hWaiting, List.length_map]
    omega

end Admission.Queue
