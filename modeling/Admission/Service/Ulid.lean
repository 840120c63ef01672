/-!
# Generated ids

An id that the service makes up is a number of 128 bits, written with twenty-six digits of the
alphabet of base 32 that leaves out I, L, O and U.  The first digit is at most 7.

## Main results

* `length_chars`: every id has twenty-six characters.
* `isUlid_text`: and is of the form by which ids are known.
-/

namespace Admission

/-- The digits, least first. -/
def ulidDigits : List Char :=
  ['0', '1', '2', '3', '4', '5', '6', '7', '8', '9', 'A', 'B', 'C', 'D', 'E', 'F', 'G', 'H', 'J',
    'K', 'M', 'N', 'P', 'Q', 'R', 'S', 'T', 'V', 'W', 'X', 'Y', 'Z']

/-- A number of 128 bits. -/
structure Ulid where
  value : Nat
  value_lt : value < Nat.pow 2 128
  deriving DecidableEq, Repr

/-- A text that has the form of a generated id. -/
def isUlid (s : String) : Bool :=
  s.toList.length == 26 && s.toList.all ulidDigits.contains &&
    (s.toList.headD 'Z').toNat ≤ '7'.toNat

namespace Ulid

/-- The id with a number, which counts modulo 2 ^ 128. -/
def ofNat (n : Nat) : Ulid := ⟨n % Nat.pow 2 128, Nat.mod_lt _ (by decide)⟩

/-- The id made at a time in milliseconds, which fills its first 48 bits, with random bits after
them. -/
def ofParts (millis random : Nat) : Ulid :=
  ofNat (millis % Nat.pow 2 48 * Nat.pow 2 80 + random % Nat.pow 2 80)

/-- The digit of a value below thirty-two. -/
def digit (v : Nat) : Char := ulidDigits.getD v '0'

/-- The last `count` digits of a number. -/
def digits (n : Nat) : Nat → List Char
  | 0 => []
  | count + 1 => digits (n / 32) count ++ [digit (n % 32)]

/-- The written form, character by character. -/
def chars (u : Ulid) : List Char := digits u.value 26

/-- The written form. -/
def text (u : Ulid) : String := String.ofList u.chars

/-! ## The form of written ids -/

theorem length_digits (n count : Nat) : (digits n count).length = count := by
  induction count generalizing n with
  | zero => rfl
  | succ count ih => rw [digits, List.length_append, ih, List.length_singleton]

@[simp] theorem length_chars (u : Ulid) : u.chars.length = 26 := length_digits _ _

private theorem digit_mem_all : ∀ v < 32, ulidDigits.contains (digit v) = true := by
  decide

theorem digit_mem {v : Nat} (h : v < 32) : ulidDigits.contains (digit v) = true :=
  digit_mem_all v h

theorem all_digits (n count : Nat) : (digits n count).all ulidDigits.contains = true := by
  induction count generalizing n with
  | zero => rfl
  | succ count ih =>
    rw [digits, List.all_append, ih, List.all_cons, digit_mem (Nat.mod_lt _ (by decide))]
    rfl

theorem head_digits (n count : Nat) :
    (digits n (count + 1)).head? = some (digit (n / Nat.pow 32 count % 32)) := by
  induction count generalizing n with
  | zero => simp [digits]
  | succ count ih =>
    rw [digits, List.head?_append, ih, Option.some_or, Nat.div_div_eq_div_mul,
      Nat.mul_comm]
    rfl

private theorem digit_le_all : ∀ v < 8, (digit v).toNat ≤ '7'.toNat := by decide

/-- A written id is of the form by which ids are known. -/
theorem isUlid_text (u : Ulid) : isUlid u.text = true := by
  have hlt : u.value / Nat.pow 32 25 < 8 :=
    Nat.div_lt_of_lt_mul (Nat.lt_of_lt_of_eq u.value_lt (by decide))
  have hhead : (digits u.value 26).headD 'Z' = digit (u.value / Nat.pow 32 25) := by
    rw [List.headD_eq_head?_getD, head_digits, Option.getD_some, Nat.mod_eq_of_lt (by omega)]
  rw [isUlid, text, String.toList_ofList, length_chars, chars, all_digits, hhead]
  simpa using digit_le_all _ hlt

end Ulid

end Admission
