import Admission.Text.Bytes

/-!
# Bytes shown as text

Bytes that are no text are shown with a replacement character for each fault.  A fault is a byte
that cannot start a character, or the longest start of a character that the bytes then break off.
-/

namespace Admission.Text

/-- A byte of a character after its first. -/
def isContinuation (b : UInt8) : Bool := 0x80 ≤ b && b < 0xC0

/-- Whether a second byte may follow the first of a character of three or four bytes. -/
def maySecond (first second : UInt8) : Bool :=
  if first == 0xE0 then 0xA0 ≤ second && second < 0xC0
  else if first == 0xED then 0x80 ≤ second && second < 0xA0
  else if first == 0xF0 then 0x90 ≤ second && second < 0xC0
  else if first == 0xF4 then 0x80 ≤ second && second < 0x90
  else isContinuation second

/-- How many bytes after the first belong to the same fault, given that no whole character starts
there. -/
def faultTail (first : UInt8) : List UInt8 → Nat
  | [] => 0
  | second :: rest =>
    if 0xE0 ≤ first && first ≤ 0xF4 && maySecond first second then
      match rest with
      | third :: _ => if 0xF0 ≤ first && isContinuation third then 2 else 1
      | [] => 1
    else 0

/-- The characters of a text with its faults replaced. -/
def repairedChars : List UInt8 → List Char
  | [] => []
  | b :: bs =>
    match leadingChar? (b :: bs) with
    | some c => c :: repairedChars (bs.drop (c.utf8Size - 1))
    | none => '\uFFFD' :: repairedChars (bs.drop (faultTail b bs))
termination_by bs => bs.length
decreasing_by
  all_goals simp only [List.length_cons, List.length_drop]; omega

/-- Bytes shown as text. -/
def repaired (bs : List UInt8) : String := String.ofList (repairedChars bs)

end Admission.Text
