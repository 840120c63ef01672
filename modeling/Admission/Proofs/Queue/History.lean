import Admission.Proofs.Queue.Transition
import Mathlib.Data.List.Induction

/-!
# Histories of the queue

Submitters and executors call one queue, each call carried out to its end before the next.  Whatever
their interleaving, what happened is a list of operations, and the history pairs each of them with
its answer.  Statements about runs are statements about histories that start with the empty queue.

## Main results

* `after_wellFormed`: the queue after any operations is well-formed.
* `history_induction`: what holds at the start, and is kept by every transition of a well-formed
  queue, holds after any operations.
-/

namespace Admission.Queue

/-- The queue after operations on the empty queue. -/
def after (ops : List Op) : Queue := (empty.run ops).2

/-- The operations with their answers, from the empty queue on. -/
def history (ops : List Op) : List (Op × Answer) := ops.zip (empty.run ops).1

@[simp] theorem after_nil : after [] = empty := rfl

@[simp] theorem history_nil : history [] = [] := rfl

/-- A run goes on where its first part ended. -/
theorem run_append (q : Queue) (ops more : List Op) :
    q.run (ops ++ more) =
      ((q.run ops).1 ++ ((q.run ops).2.run more).1, ((q.run ops).2.run more).2) := by
  induction ops generalizing q with
  | nil => rfl
  | cons op ops ih =>
      simp only [List.cons_append, run]
      rw [ih]

/-- Once an id is known it is known for good. -/
theorem isSome_get?_run {q : Queue} {id : String} (hKnown : (q.get? id).isSome)
    (ops : List Op) : ((q.run ops).2.get? id).isSome := by
  induction ops generalizing q with
  | nil => exact hKnown
  | cons op ops ih => exact ih (isSome_get?_step op hKnown)

theorem length_answers (q : Queue) (ops : List Op) :
    (q.run ops).1.length = ops.length := by
  induction ops generalizing q with
  | nil => rfl
  | cons op ops ih => simp only [run, List.length_cons, ih]

theorem after_concat (ops : List Op) (op : Op) :
    after (ops ++ [op]) = ((after ops).step op).2 := by
  rw [after, run_append]
  rfl

/-- What happened does not change by what happens later. -/
theorem history_append (ops more : List Op) :
    history (ops ++ more) = history ops ++ more.zip ((after ops).run more).1 := by
  rw [history, run_append]
  exact List.zip_append (length_answers empty ops).symm

theorem history_concat (ops : List Op) (op : Op) :
    history (ops ++ [op]) = history ops ++ [(op, ((after ops).step op).1)] :=
  history_append ops [op]

/-- The queue after any operations is well-formed. -/
theorem after_wellFormed (ops : List Op) : (after ops).WellFormed := by
  induction ops using List.reverseRecOn with
  | nil => exact wellFormed_empty
  | append_singleton ops op ih =>
      rw [after_concat]
      exact ih.step op

/-- The step and run lemma in one: what the empty queue has and every transition keeps, the queue
has after any operations. -/
theorem history_induction {P : List (Op × Answer) → Queue → Prop}
    (hEmpty : P [] empty)
    (hStep : ∀ steps q op answer q', q.WellFormed →
      Transition q op answer q' → P steps q → P (steps ++ [(op, answer)]) q')
    (ops : List Op) : P (history ops) (after ops) := by
  induction ops using List.reverseRecOn with
  | nil => exact hEmpty
  | append_singleton ops op ih =>
      have hq := after_wellFormed ops
      rw [history_concat, after_concat]
      exact hStep _ _ op _ _ hq (step_transition hq op) ih

end Admission.Queue
