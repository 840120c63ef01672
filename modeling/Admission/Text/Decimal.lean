/-!
# Decimal digits

Values of digit runs, runs of a fixed width, and the integers that command-line options take.

## Main results

* `digitsValue_append`: a digit appended multiplies by ten and adds.
* `digitsValue_toDigits`: the digits of a number have its value.
-/

namespace Admission.Text

/-- The value of a decimal digit. -/
def digitValue (c : Char) : Nat := c.toNat - 48

/-- The value of a run of digits. -/
def digitsValue (cs : List Char) : Nat := cs.foldl (fun n c => 10 * n + digitValue c) 0

/-- The digits of a number, filled up with zeros in front to at least the given width. -/
def padded (width n : Nat) : List Char :=
  let ds := Nat.toDigits 10 n
  List.replicate (width - ds.length) '0' ++ ds

/-- A sign, if there is one, split off: `true` for a minus. -/
def splitSign : List Char → Bool × List Char
  | '-' :: cs => (true, cs)
  | '+' :: cs => (false, cs)
  | cs => (false, cs)

/-- A whole number: an optional sign, then digits and nothing else. -/
def readInt? (s : String) : Option Int :=
  let (negative, ds) := splitSign s.toList
  if ds ≠ [] ∧ ds.all Char.isDigit then
    some (if negative then -(digitsValue ds : Int) else digitsValue ds)
  else none

/-- A natural number: an optional plus sign, then digits and nothing else. -/
def readNat? (s : String) : Option Nat :=
  match s.toList with
  | '-' :: _ => none
  | _ => (readInt? s).map Int.toNat

/-- A whole number within bounds: a sign, which may be a minus if the bounds go below zero, then
digits and nothing else.  Digits that leave the bounds do so whatever follows them. -/
def readBounded (least greatest : Int) (s : String) : Except String Int :=
  let (negative, cs) := splitSign s.toList
  let digits := cs.takeWhile Char.isDigit
  let n := if negative then -(digitsValue digits : Int) else digitsValue digits
  if s = "" then .error "cannot parse integer from empty string"
  else if negative ∧ 0 ≤ least then .error "invalid digit found in string"
  else if n < least then .error "number too small to fit in target type"
  else if greatest < n then .error "number too large to fit in target type"
  else if digits = [] ∨ digits ≠ cs then .error "invalid digit found in string"
  else .ok n

/-! ## Values -/

@[simp] theorem digitsValue_nil : digitsValue [] = 0 := rfl

theorem digitsValue_append (cs : List Char) (c : Char) :
    digitsValue (cs ++ [c]) = 10 * digitsValue cs + digitValue c := by
  simp [digitsValue]

private theorem digitValue_digitChar_all : ∀ d < 10, digitValue (Nat.digitChar d) = d := by
  decide

theorem digitValue_digitChar {d : Nat} (h : d < 10) : digitValue (Nat.digitChar d) = d :=
  digitValue_digitChar_all d h

/-- The digits of a number have its value. -/
theorem digitsValue_toDigits (n : Nat) : digitsValue (Nat.toDigits 10 n) = n := by
  induction n using Nat.strongRecOn with
  | ind n ih =>
    by_cases h : n < 10
    · rw [Nat.toDigits_of_lt_base h]
      simp [digitsValue, digitValue_digitChar h]
    · rw [Nat.toDigits_of_base_le (by decide) (by omega), digitsValue_append, ih _ (by omega),
        digitValue_digitChar (by omega)]
      omega

end Admission.Text
