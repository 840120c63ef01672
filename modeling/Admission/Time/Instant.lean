/-!
# Instants

An instant is a whole number of nanoseconds since 1970-01-01T00:00:00Z, within the calendar: from
the first nanosecond of year -262143 to the last of year 262142.  Sums that leave the calendar do
not exist.

A `Moment` is an instant or a point of a leap second, which follows the second of an instant.  A
`Timestamp` is a moment as records carry it, where leap seconds end a minute.  Leap seconds come in
with timestamps written elsewhere, and a clock that is set by hand can be set to one.  A sum is in a
leap second only if it started there (`Moment.later?`).

## Main results

* `Instant.ns_add?`: a sum that exists is exact.
* `Timestamp.ofInstant_lt_ofInstant_iff`: records order instants as the clock does.
-/

namespace Admission.Time

/-- Nanoseconds in a second. -/
def nsPerSecond : Int := 1000000000

/-- The first nanosecond of the calendar. -/
def firstNs : Int := -8334601228800 * nsPerSecond

/-- The last nanosecond of the calendar. -/
def lastNs : Int := 8210266876799 * nsPerSecond + 999999999

/-- A nanosecond of the calendar. -/
structure Instant where
  ns : Int
  first_le : firstNs ≤ ns
  le_last : ns ≤ lastNs
  deriving DecidableEq, Repr

namespace Instant

/-- The instant at a number of nanoseconds since 1970, if the calendar has it. -/
def ofNs? (n : Int) : Option Instant :=
  if h : firstNs ≤ n ∧ n ≤ lastNs then some ⟨n, h.1, h.2⟩ else none

/-- The instant given by whole seconds and the nanoseconds after them. -/
def ofParts? (seconds nanos : Int) : Option Instant := ofNs? (seconds * nsPerSecond + nanos)

/-- The start of 1970. -/
def epoch : Instant := ⟨0, by decide, by decide⟩

instance : Inhabited Instant := ⟨epoch⟩

/-- Whole seconds since 1970, rounded down. -/
def seconds (t : Instant) : Int := t.ns / nsPerSecond

/-- Nanoseconds after the whole second. -/
def nanos (t : Instant) : Nat := (t.ns % nsPerSecond).toNat

/-- The instant that lies the given number of nanoseconds later. -/
def add? (t : Instant) (n : Int) : Option Instant := ofNs? (t.ns + n)

/-- The instant that lies the given number of seconds later. -/
def addSeconds? (t : Instant) (n : Int) : Option Instant := t.add? (n * nsPerSecond)

instance : LE Instant := ⟨fun a b => a.ns ≤ b.ns⟩

instance : LT Instant := ⟨fun a b => a.ns < b.ns⟩

instance (a b : Instant) : Decidable (a ≤ b) := inferInstanceAs (Decidable (a.ns ≤ b.ns))

instance (a b : Instant) : Decidable (a < b) := inferInstanceAs (Decidable (a.ns < b.ns))

theorem le_def {a b : Instant} : a ≤ b ↔ a.ns ≤ b.ns := Iff.rfl

theorem lt_def {a b : Instant} : a < b ↔ a.ns < b.ns := Iff.rfl

theorem ext_ns {a b : Instant} (h : a.ns = b.ns) : a = b := by
  cases a
  cases b
  cases h
  rfl

theorem ofNs?_eq_some_iff {n : Int} {t : Instant} : ofNs? n = some t ↔ t.ns = n := by
  unfold ofNs?
  split
  · constructor
    · intro h
      rw [← Option.some.inj h]
    · intro h
      exact congrArg some (ext_ns h.symm)
  · next hn =>
    constructor
    · intro h
      cases h
    · intro h
      exact absurd ⟨h ▸ t.first_le, h ▸ t.le_last⟩ hn

/-- A sum that exists is exact. -/
theorem ns_add? {t u : Instant} {n : Int} : t.add? n = some u ↔ u.ns = t.ns + n :=
  ofNs?_eq_some_iff

end Instant

/-- An instant, or the same nanosecond of a leap second that follows the instant's second. -/
structure Moment where
  instant : Instant
  leap : Bool
  deriving DecidableEq, Repr

namespace Moment

/-- A moment outside every leap second. -/
def ofInstant (t : Instant) : Moment := ⟨t, false⟩

instance : Coe Instant Moment := ⟨ofInstant⟩

@[simp] theorem instant_ofInstant (t : Instant) : (ofInstant t).instant = t := rfl

@[simp] theorem leap_ofInstant (t : Instant) : (ofInstant t).leap = false := rfl

end Moment

/-- A moment whose leap second, if it is in one, ends a minute. -/
structure Timestamp extends Moment where
  leap_ends_minute : leap = true → instant.seconds % 60 = 59
  deriving DecidableEq, Repr

namespace Timestamp

/-- A timestamp outside every leap second. -/
def ofInstant (t : Instant) : Timestamp := ⟨t, fun h => absurd h Bool.false_ne_true⟩

instance : Coe Instant Timestamp := ⟨ofInstant⟩

/-- A moment as a timestamp, unless it is in a leap second that ends no minute. -/
def ofMoment? (m : Moment) : Option Timestamp :=
  if h : m.leap = true → m.instant.seconds % 60 = 59 then some ⟨m, h⟩ else none

/-- The place of a timestamp in the order of time: a second counts double, so that its leap second
fits before the next. -/
def rank (t : Timestamp) : Int :=
  t.instant.seconds * (2 * nsPerSecond) + t.instant.nanos + if t.leap then nsPerSecond else 0

instance : LE Timestamp := ⟨fun a b => a.rank ≤ b.rank⟩

instance : LT Timestamp := ⟨fun a b => a.rank < b.rank⟩

instance (a b : Timestamp) : Decidable (a ≤ b) := inferInstanceAs (Decidable (a.rank ≤ b.rank))

instance (a b : Timestamp) : Decidable (a < b) := inferInstanceAs (Decidable (a.rank < b.rank))

theorem le_def {a b : Timestamp} : a ≤ b ↔ a.rank ≤ b.rank := Iff.rfl

theorem lt_def {a b : Timestamp} : a < b ↔ a.rank < b.rank := Iff.rfl

@[simp] theorem instant_ofInstant (t : Instant) : (ofInstant t).instant = t := rfl

@[simp] theorem leap_ofInstant (t : Instant) : (ofInstant t).leap = false := rfl

/-- No two timestamps have one place in the order of time. -/
theorem eq_of_rank_eq {a b : Timestamp} (h : a.rank = b.rank) : a = b := by
  obtain ⟨⟨s, leap⟩, _⟩ := a
  obtain ⟨⟨t, leap'⟩, _⟩ := b
  simp only [rank, Instant.seconds, Instant.nanos, nsPerSecond] at h
  have hLeap : leap = leap' := by
    cases leap <;> cases leap' <;> simp at h ⊢ <;> omega
  subst hLeap
  have hInstant : s = t := Instant.ext_ns (by omega)
  subst hInstant
  rfl

/-- Records order instants as the clock does. -/
theorem ofInstant_lt_ofInstant_iff {a b : Instant} : ofInstant a < ofInstant b ↔ a < b := by
  simp only [lt_def, Instant.lt_def, rank, instant_ofInstant, leap_ofInstant, Instant.seconds,
    Instant.nanos, nsPerSecond]
  simp only [Bool.false_eq_true, if_false]
  omega

/-- Records order instants as the clock does. -/
theorem ofInstant_le_ofInstant_iff {a b : Instant} : ofInstant a ≤ ofInstant b ↔ a ≤ b := by
  simp only [le_def, Instant.le_def, rank, instant_ofInstant, leap_ofInstant, Instant.seconds,
    Instant.nanos, nsPerSecond]
  simp only [Bool.false_eq_true, if_false]
  omega

end Timestamp

end Admission.Time
