import Admission.Text.Decimal

/-!
# Numerals

A numeral is a number as it is written: digits, perhaps a fraction, perhaps a power of ten.  It
denotes an integer if it has neither of the two, is not minus zero, and lies between the least
signed and the greatest unsigned number of 64 bits.  Every other numeral denotes a real number
in binary with 53 significant bits, and is refused only if that number is not finite.

Digits count only as long as the number they make up fits in 64 bits.  From the first digit that
does not fit, a whole digit raises the power of ten by one and a digit of the fraction is dropped.
-/

namespace Admission.Json

open Admission.Text

/-- A power of ten, with its sign. -/
structure Exponent where
  negative : Bool
  digits : List Char
  deriving DecidableEq, Repr

/-- A number as it is written; an empty fraction is no fraction. -/
structure Numeral where
  negative : Bool
  whole : List Char
  fraction : List Char
  exponent : Option Exponent
  deriving DecidableEq, Repr

/-- What a numeral denotes. -/
inductive Number where
  | integer (n : Int)
  | real
  | tooLarge
  deriving DecidableEq, Repr

/-- Take digits into a number while it fits in 64 bits; the digits that remain come second. -/
def takeDigits (n : Nat) : List Char → Nat × List Char
  | [] => (n, [])
  | c :: cs =>
    let n' := 10 * n + digitValue c
    if n' < 0x10000000000000000 then takeDigits n' cs else (n, c :: cs)

/-- A natural number with its first 53 binary digits, rounded to the nearest, a tie to the even. -/
def roundTo53 (n : Nat) : Nat :=
  if n < 0x20000000000000 then n
  else
    let unit := Nat.pow 2 (Nat.log2 n - 52)
    let q := n / unit
    let r := n % unit
    if 2 * r < unit ∨ (2 * r = unit ∧ q % 2 = 0) then q * unit else (q + 1) * unit

/-- The numbers from here on round to none that is finite. -/
def finiteLimit : Nat := Nat.pow 2 1024 - Nat.pow 2 970

/-- Whether a number times a power of ten is too large to be finite.  Powers are rounded before
they are multiplied. -/
def overflows (n : Nat) (power : Int) : Bool :=
  if n = 0 ∨ power < 0 then false
  else if 308 < power then true
  else finiteLimit ≤ roundTo53 n * roundTo53 (Nat.pow 10 power.toNat)

namespace Exponent

/-- The power of ten. -/
def power (e : Exponent) : Int :=
  if e.negative then -(digitsValue e.digits : Int) else digitsValue e.digits

/-- The written form. -/
def chars (e : Exponent) : List Char := 'e' :: (if e.negative then '-' :: e.digits else e.digits)

end Exponent

namespace Numeral

/-- The numeral of an integer. -/
def ofInt (n : Int) : Numeral := ⟨n < 0, Nat.toDigits 10 n.natAbs, [], none⟩

/-- The written form. -/
def chars (x : Numeral) : List Char :=
  (if x.negative then ['-'] else []) ++ x.whole ++
    (if x.fraction = [] then [] else '.' :: x.fraction) ++
    (match x.exponent with
      | none => []
      | some e => e.chars)

/-- The digits that count as one number, and the power of ten by which it is to be multiplied. -/
def scaled (x : Numeral) : Nat × Int :=
  let (n, dropped) := takeDigits 0 x.whole
  let (m, left) := takeDigits n x.fraction
  let power : Int := dropped.length - (x.fraction.length - left.length : Nat)
  (m, power + match x.exponent with
    | none => 0
    | some e => e.power)

/-- The integer that the digits denote, if there are no others than whole ones. -/
def integer? (x : Numeral) : Option Int :=
  let n := digitsValue x.whole
  if x.fraction ≠ [] ∨ x.exponent.isSome then none
  else if x.negative then (if 0 < n ∧ n ≤ 0x8000000000000000 then some (-(n : Int)) else none)
  else if n < 0x10000000000000000 then some (n : Int)
  else none

/-- What the numeral denotes. -/
def value (x : Numeral) : Number :=
  match x.integer? with
  | some n => .integer n
  | none => if overflows x.scaled.1 x.scaled.2 then .tooLarge else .real

/-! ## Integers come back -/

theorem integer?_ofInt {n : Int} (hlo : -0x8000000000000000 ≤ n) (hhi : n < 0x10000000000000000) :
    (ofInt n).integer? = some n := by
  simp only [integer?, ofInt, digitsValue_toDigits, ne_eq, not_true_eq_false, Option.isSome_none,
    Bool.false_eq_true, or_self, if_false]
  by_cases h : n < 0
  · have hn : 0 < n.natAbs ∧ n.natAbs ≤ 0x8000000000000000 := by omega
    rw [if_pos (decide_eq_true h), if_pos hn]
    exact congrArg some (by omega)
  · have hn : n.natAbs < 0x10000000000000000 := by omega
    rw [if_neg (by simpa using h), if_pos hn]
    exact congrArg some (by omega)

/-- The numeral of an integer of 64 bits denotes it. -/
theorem value_ofInt {n : Int} (hlo : -0x8000000000000000 ≤ n) (hhi : n < 0x10000000000000000) :
    (ofInt n).value = .integer n := by
  rw [value, integer?_ofInt hlo hhi]

end Numeral

end Admission.Json
