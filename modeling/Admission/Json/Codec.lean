import Admission.Json.Fault
import Admission.Time.Rfc3339

/-!
# Values of domain types as JSON

A codec reads values of a type from JSON and writes them.  Reading is of a whole text: the first
fault in the order of the text is told, and what follows the value must be nothing.

## Main results

* `Codec.read_write_text`, `Codec.read_write_signed`, `Codec.read_write_unsigned`,
  `Codec.read_write_optional`: what is written reads back.
-/

namespace Admission.Json

open Admission.Text Admission.Time

/-- A way to read values of a type and to write them. -/
structure Codec (α : Type) where
  read : Json → Except Fault α
  write : α → Json

namespace Codec

variable {α : Type}

/-- Read a text. -/
def decode (c : Codec α) (xs : List Symbol) : Except Fault α :=
  let (v, rest) := Json.ofSymbols xs
  match c.read v with
  | .error fault => .error fault
  | .ok a => if rest = [] then .ok a else .error .malformed

/-- Read a text given as bytes. -/
def decodeBytes (c : Codec α) (bs : List UInt8) : Except Fault α := c.decode (symbols bs)

/-- Read a text. -/
def decodeText (c : Codec α) (s : String) : Except Fault α := c.decode (s.toList.map some)

/-- The compact text of a value. -/
def encode (c : Codec α) (a : α) : String := (c.write a).text

/-- The text of a value over several lines. -/
def encodePretty (c : Codec α) (a : α) : String := (c.write a).pretty

/-- Every value reads back from what is written for it. -/
def ReadsBack (c : Codec α) : Prop := ∀ a, c.read (c.write a) = .ok a

/-! ## Simple types -/

/-- A text. -/
def text : Codec String where
  read
    | .string (some s) => .ok s
    | v => .error (unexpected v "a string")
  write := ofText

/-- A signed number of 64 bits. -/
def signed : Codec Int64 where
  read
    | .number x =>
      match x.value with
      | .integer n =>
        if n < 0x8000000000000000 then .ok (Int64.ofInt n)
        else .error (.mismatch none (.outOfRange n "i64"))
      | _ => .error (unexpected (.number x) "i64")
    | v => .error (unexpected v "i64")
  write n := ofInt n.toInt

/-- An unsigned number of 64 bits. -/
def unsigned : Codec UInt64 where
  read
    | .number x =>
      match x.value with
      | .integer n =>
        if 0 ≤ n then .ok (UInt64.ofNat n.toNat) else .error (.mismatch none (.outOfRange n "u64"))
      | _ => .error (unexpected (.number x) "u64")
    | v => .error (unexpected v "u64")
  write n := ofInt n.toNat

/-- A timestamp. -/
def timestamp : Codec Timestamp where
  read
    | .string (some s) =>
      match Timestamp.ofText? s with
      | some t => .ok t
      | none => .error (.mismatch none .invalidTimestamp)
    | v => .error (unexpected v "an RFC 3339 formatted date and time string")
  write t := ofText t.text

/-- A value that may be missing, written as `null`. -/
def optional (c : Codec α) : Codec (Option α) where
  read
    | .null => .ok none
    | v => (c.read v).map some
  write
    | none => .null
    | some a => c.write a

/-- One of finitely many values, given by name: as a string, or as an object whose only key is the
name, with `null` under it. -/
def enumeration (all : List α) (name : α → String) : Codec α where
  read
    | .string (some s) => named s
    | .object ((.string (some s), v) :: rest) closed => do
      let a ← named s
      match v with
      | .null => if rest.isEmpty && closed then return a else throw .malformed
      | v => throw (unexpected v "unit")
    | _ => .error .malformed
  write a := ofText (name a)
where
  /-- The value with a name. -/
  named (s : String) : Except Fault α :=
    match all.find? fun a => name a == s with
    | some a => .ok a
    | none => .error (.mismatch none (.unknownVariant s (all.map name)))

/-! ## What is written reads back -/

theorem read_write_text : text.ReadsBack := fun _ => rfl

theorem read_write_signed : signed.ReadsBack := by
  intro n
  have hlo := n.le_toInt
  have hhi := n.toInt_lt
  have hv := Numeral.value_ofInt (n := n.toInt) (by omega) (by omega)
  simp only [signed, ofInt, hv]
  rw [if_pos (by omega), Int64.ofInt_toInt]

theorem read_write_unsigned : unsigned.ReadsBack := by
  intro n
  have hhi := n.toNat_lt
  have hv := Numeral.value_ofInt (n := (n.toNat : Int)) (by omega) (by omega)
  simp only [unsigned, ofInt, hv]
  rw [if_pos (by omega), Int.toNat_natCast, UInt64.ofNat_toNat]

theorem read_write_optional {c : Codec α} (h : c.ReadsBack)
    (hnull : ∀ a, c.write a ≠ .null) : (optional c).ReadsBack := by
  intro v
  cases v with
  | none => rfl
  | some a =>
    have ha := h a
    have hn := hnull a
    rw [optional]
    simp only
    rw [ha]
    rfl

end Codec

end Admission.Json
