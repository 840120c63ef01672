import Admission.Proofs.Registry.Unswept

/-!
# Accounts of the registry

A session comes into the registry by one door and leaves it by two: a sweep removes it, or another
session takes its place once it is past its expiry.  So what was accepted is what is held, what was
swept and what was replaced, along every run and whatever the times of its operations.  The account
of one operation says so, and the account of a run is put together from them.

Several sweeps in a row remove what one of them does, the one with the latest time.  A session that
survives it is live at every earlier time, so the others have nothing to add, in whichever order
they come; and what they remove between them is what the one removes, since both leave the same.

## Main results

* `step_balance`, `run_balance`: the account of one operation, and of a run.
* `run_sweepsAt`: what sweeps in a row leave.
* `sweeps_combine_and_add_up`: any registry that a run ends with.
-/

namespace Admission

open Admission.Store Admission.Time

namespace Registry

/-! ## What comes in and what goes out -/

/-- How many sessions were accepted. -/
def accepted (answers : List Answer) : Nat := answers.count .inserted

/-- How many sessions sweeps removed, all together. -/
def removed : List Answer → Nat
  | [] => 0
  | .swept count :: answers => count + removed answers
  | _ :: answers => removed answers

/-- Whether an operation is answered by putting a session in the place of one that is past its
expiry. -/
def replaces (r : Registry) (now : Instant) : Op → Bool
  | .insert s => decide ((r.step now (.insert s)).1 = .inserted) &&
      (r.sessions.get? s.id).any fun held => !held.isLive now
  | _ => false

/-- How many operations of a run put a session in the place of one that is past its expiry. -/
def replaced (r : Registry) : List (Instant × Op) → Nat
  | [] => 0
  | (now, op) :: ops => (if r.replaces now op then 1 else 0) + (r.step now op).2.replaced ops

theorem accepted_cons (answer : Answer) (answers : List Answer) :
    accepted (answer :: answers) = accepted [answer] + accepted answers := by
  rw [← List.singleton_append, accepted, List.count_append]
  rfl

theorem removed_cons (answer : Answer) (answers : List Answer) :
    removed (answer :: answers) = removed [answer] + removed answers := by
  cases answer <;> simp [removed]

variable {r : Registry} {now latest : Instant} {times : List Instant}

/-- One more session is held exactly if the id was not in use, be it by an expired session. -/
theorem insert_balance (r : Registry) (now : Instant) (s : Session) :
    r.size + accepted [(r.step now (.insert s)).1] =
      (r.step now (.insert s)).2.size + if r.replaces now (.insert s) then 1 else 0 := by
  rw [replaces, step_insert]
  by_cases hTaken : (r.sessions.get? s.id).any (·.isLive now) = true
  · rw [if_pos hTaken]
    rfl
  · rw [if_neg hTaken]
    show r.sessions.size + 1 = (r.sessions.put s.id s).size +
      if (true && (r.sessions.get? s.id).any fun held => !held.isLive now) then 1 else 0
    rw [Table.size_put, Bool.true_and]
    cases hHeld : r.sessions.get? s.id with
    | none => rfl
    | some held =>
        have hDead : held.isLive now = false := by simpa [hHeld] using hTaken
        simp [hDead]

/-- The account of one operation. -/
theorem step_balance (r : Registry) (now : Instant) (op : Op) :
    r.size + accepted [(r.step now op).1] =
      (r.step now op).2.size + removed [(r.step now op).1] +
        if r.replaces now op then 1 else 0 := by
  cases op with
  | insert s =>
      have hNone : removed [(r.step now (.insert s)).1] = 0 := by
        rw [step_insert]
        split <;> rfl
      rw [hNone]
      exact insert_balance r now s
  | get id => rfl
  | list => rfl
  | sweep =>
      have := r.count_sweep_add_size now
      show r.size + 0 = (r.sweep now).2.size + ((r.sweep now).1 + 0) + 0
      omega

/-- The account of a run. -/
theorem run_balance (r : Registry) (ops : List (Instant × Op)) :
    r.size + accepted (r.run ops).1 =
      (r.run ops).2.size + removed (r.run ops).1 + r.replaced ops := by
  induction ops generalizing r with
  | nil => rfl
  | cons head ops ih =>
      obtain ⟨now, op⟩ := head
      have hStep := r.step_balance now op
      have hRest := ih (r.step now op).2
      rw [run_cons, replaced]
      dsimp only
      rw [accepted_cons, removed_cons]
      omega

/-! ## Sweeps in a row -/

/-- A sweep at each of some times, one after the other. -/
def sweepsAt (times : List Instant) : List (Instant × Op) := times.map fun t => (t, .sweep)

theorem sweepsAt_cons (t : Instant) (times : List Instant) :
    sweepsAt (t :: times) = (t, .sweep) :: sweepsAt times := rfl

/-- Sweeps in a row leave what is live at each of their times. -/
theorem run_sweepsAt (r : Registry) (times : List Instant) :
    (r.run (sweepsAt times)).2 = ⟨r.sessions.keep fun s => times.all fun t => s.isLive t⟩ := by
  induction times generalizing r with
  | nil => exact congrArg Registry.mk (Table.keep_eq_self fun _ => rfl).symm
  | cons t times ih =>
      have hAll : (fun s : Session => (t :: times).all fun t => s.isLive t) =
          fun s => (times.all fun t => s.isLive t) && s.isLive t := by
        funext s
        rw [List.all_cons, Bool.and_comm]
      rw [sweepsAt_cons, run_cons, hAll, ← Table.keep_keep]
      exact ih (r.sweep t).2

/-- Sweeps accept nothing, and put nothing in the place of anything. -/
theorem accepted_sweepsAt (r : Registry) (times : List Instant) :
    accepted (r.run (sweepsAt times)).1 = 0 ∧ r.replaced (sweepsAt times) = 0 := by
  induction times generalizing r with
  | nil => exact ⟨rfl, rfl⟩
  | cons t times ih =>
      obtain ⟨hAccepted, hReplaced⟩ := ih (r.sweep t).2
      rw [sweepsAt_cons, run_cons, replaced]
      dsimp only
      rw [accepted_cons]
      exact ⟨(Nat.zero_add _).trans hAccepted, (Nat.zero_add _).trans hReplaced⟩

/-- A session is live at the latest of some times exactly if it is at each of them. -/
theorem all_isLive_eq (hMem : latest ∈ times) (hLatest : ∀ t ∈ times, t ≤ latest) (s : Session) :
    (times.all fun t => s.isLive t) = s.isLive latest := by
  rw [Bool.eq_iff_iff, List.all_eq_true]
  constructor
  · intro hAll
    exact hAll latest hMem
  · intro hLive t ht
    exact Session.isLive_of_le hLive (hLatest t ht)

/-- **Accounts of sweeps.**  Take the registry that any operations at any times end with.  Sweeps at
any times, in whichever order they come, leave what one sweep at the latest of them leaves, and
remove all together as many sessions as that one.  And the sessions accepted in the run are as many
as are held at its end, were removed by its sweeps, and had their place taken once they had
expired. -/
theorem sweeps_combine_and_add_up (ops : List (Instant × Op)) :
    let answers := (empty.run ops).1
    let r := (empty.run ops).2
    (∀ times latest, latest ∈ times → (∀ t ∈ times, t ≤ latest) →
      (r.run (sweepsAt times)).2 = (r.sweep latest).2 ∧
      removed (r.run (sweepsAt times)).1 = (r.sweep latest).1) ∧
    accepted answers = r.size + removed answers + empty.replaced ops := by
  intro answers r
  constructor
  · intro times latest hMem hLatest
    have hKept : (r.run (sweepsAt times)).2 = (r.sweep latest).2 := by
      rw [run_sweepsAt]
      simp only [all_isLive_eq hMem hLatest]
      rfl
    refine ⟨hKept, ?_⟩
    -- both leave the same, so both removed as many
    have hRow := r.run_balance (sweepsAt times)
    have hOne := r.count_sweep_add_size latest
    obtain ⟨hAccepted, hReplaced⟩ := r.accepted_sweepsAt times
    rw [hKept] at hRow
    omega
  · have hRun : empty.size + accepted answers =
        r.size + removed answers + empty.replaced ops := empty.run_balance ops
    have hEmpty : empty.size = 0 := rfl
    omega

end Registry

end Admission
