import Admission.Text.Bytes

/-!
# Percent-coding

A byte may be written as a percent sign and two hexadecimal digits.  Decoding replaces each such
triple once and leaves a percent sign that starts none as it stands; which bytes encoding writes as
triples is a choice of the caller.
-/

namespace Admission.Text

/-- The value of a hexadecimal digit, in either case, given as an ASCII byte. -/
def hexValue? (b : UInt8) : Option UInt8 :=
  if 0x30 ≤ b ∧ b ≤ 0x39 then some (b - 0x30)
  else if 0x41 ≤ b ∧ b ≤ 0x46 then some (b - 0x37)
  else if 0x61 ≤ b ∧ b ≤ 0x66 then some (b - 0x57)
  else none

/-- The upper-case hexadecimal digit of a value below sixteen, as an ASCII byte. -/
def hexDigit (v : UInt8) : UInt8 := if v < 10 then v + 0x30 else v + 0x37

/-- A byte as a percent sign and two digits. -/
def percentTriple (b : UInt8) : List UInt8 := [0x25, hexDigit (b / 16), hexDigit (b % 16)]

/-- Each triple replaced by its byte. -/
def percentDecode : List UInt8 → List UInt8
  | 0x25 :: h :: l :: rest =>
    match hexValue? h, hexValue? l with
    | some x, some y => (x * 16 + y) :: percentDecode rest
    | _, _ => 0x25 :: percentDecode (h :: l :: rest)
  | b :: rest => b :: percentDecode rest
  | [] => []

/-- The bytes that `escaped` picks written as triples, the others as they stand. -/
def percentEncode (escaped : UInt8 → Bool) (bs : List UInt8) : List UInt8 :=
  bs.flatMap fun b => if escaped b then percentTriple b else [b]

end Admission.Text
