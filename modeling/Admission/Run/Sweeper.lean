/-!
# Sweepers

A sweeper falls due at once when it starts and then each time its period has passed on the timer,
counted from the start, however the timer is moved.  With a period of zero it never falls due.

## Main results

* `catchUp_due`: after the timer moved, a sweeper is due later than the timer stands.
* `catchUp_catchUp`: moving the timer in two steps leaves the same due time as in one.
-/

namespace Admission

/-- A sweeper that has started: the seconds between its sweeps, and the timer time at which it falls
due next. -/
structure Sweeper where
  period : Nat
  due : Nat
  deriving DecidableEq, Repr

namespace Sweeper

/-- The sweeper that starts at a timer time, before its first sweep. -/
def start (period time : Nat) : Sweeper := ⟨period, time⟩

/-- How many sweeps fall due up to a timer time. -/
def dueCount (s : Sweeper) (time : Nat) : Nat :=
  if s.period = 0 ∨ time < s.due then 0 else (time - s.due) / s.period + 1

/-- The sweeper after the sweeps that fall due up to a timer time. -/
def catchUp (s : Sweeper) (time : Nat) : Sweeper :=
  { s with due := s.due + s.dueCount time * s.period }

@[simp] theorem period_catchUp (s : Sweeper) (time : Nat) : (s.catchUp time).period = s.period :=
  rfl

/-- After the timer moved, a sweeper is due later than the timer stands. -/
theorem catchUp_due {s : Sweeper} (h : 0 < s.period) (time : Nat) :
    time < (s.catchUp time).due := by
  simp only [catchUp, dueCount]
  split
  · omega
  · have := Nat.mod_lt (time - s.due) h
    have := Nat.div_add_mod (time - s.due) s.period
    rw [Nat.add_mul, Nat.one_mul, Nat.mul_comm]
    omega

theorem dueCount_catchUp {s : Sweeper} {a b : Nat} (hab : a ≤ b) :
    s.dueCount a + (s.catchUp a).dueCount b = s.dueCount b := by
  obtain ⟨k, due⟩ := s
  simp only [catchUp, dueCount]
  by_cases hk : k = 0
  · simp [hk]
  by_cases ha : a < due
  · simp [hk, ha]
  · have hb : ¬ b < due := by omega
    simp only [hk, ha, hb, false_or, if_false]
    have hmod := Nat.mod_lt (a - due) (Nat.pos_of_ne_zero hk)
    have hdiv := Nat.div_add_mod (a - due) k
    generalize (a - due) / k = q at *
    have hmul : (q + 1) * k = k * q + k := by rw [Nat.add_mul, Nat.one_mul, Nat.mul_comm]
    rw [hmul]
    split
    · next hlt =>
      have : (b - due) / k = q := by
        rw [Nat.div_eq_iff (Nat.pos_of_ne_zero hk)]
        rw [Nat.mul_comm q k]
        omega
      omega
    · next hge =>
      have : b - due = (b - (due + (k * q + k))) + k * (q + 1) := by
        rw [Nat.mul_add, Nat.mul_one]
        omega
      rw [this, Nat.add_mul_div_left _ _ (Nat.pos_of_ne_zero hk)]
      omega

/-- Moving the timer in two steps leaves the same due time as in one. -/
theorem catchUp_catchUp (s : Sweeper) {a b : Nat} (hab : a ≤ b) :
    (s.catchUp a).catchUp b = s.catchUp b := by
  have h := dueCount_catchUp (s := s) hab
  have hdue : (s.catchUp a).due + (s.catchUp a).dueCount b * s.period =
      s.due + s.dueCount b * s.period := by
    rw [← h, Nat.add_mul, ← Nat.add_assoc]
    rfl
  show Sweeper.mk s.period _ = Sweeper.mk s.period _
  rw [← hdue]
  rfl

end Sweeper

end Admission
