/-!
# Texts as bytes

Messages travel as bytes, and bytes need not be text.  A *symbol* is a character of a byte
sequence, or `none` for one byte that belongs to no character.  Readers work on symbols, so that a
fault of the encoding counts only where a text is wanted.

## Main results

* `symbols_utf8`: the bytes of a text have its characters as their symbols.
* `text?_utf8`: and they read back as the text.
-/

namespace Admission.Text

/-- A character, or one byte that belongs to none. -/
abbrev Symbol := Option Char

/-- The UTF-8 bytes of some characters. -/
def utf8Chars (cs : List Char) : List UInt8 := cs.flatMap String.utf8EncodeChar

/-- The UTF-8 bytes of a text. -/
def utf8 (s : String) : List UInt8 := utf8Chars s.toList

/-- The character whose encoding the bytes begin with, if any. -/
def leadingChar? (bs : List UInt8) : Option Char := (bs.take 4).toByteArray.utf8DecodeChar? 0

/-- Bytes cut into characters, with each byte outside every character on its own. -/
def symbols : List UInt8 → List Symbol
  | [] => []
  | b :: bs =>
    match leadingChar? (b :: bs) with
    | some c => some c :: symbols (bs.drop (c.utf8Size - 1))
    | none => none :: symbols bs
termination_by bs => bs.length
decreasing_by
  all_goals simp only [List.length_cons, List.length_drop]; omega

/-- The text that the symbols make up, unless a stray byte is among them. -/
def textOf? (xs : List Symbol) : Option String := (xs.mapM id).map String.ofList

/-- The text with the given UTF-8 bytes, if they are the bytes of a text. -/
def text? (bs : List UInt8) : Option String := textOf? (symbols bs)

/-! ## Characters come back -/

private theorem length_utf8EncodeChar_le (c : Char) : (String.utf8EncodeChar c).length ≤ 4 := by
  rw [String.length_utf8EncodeChar]
  exact c.utf8Size_le_four

private theorem toByteArray_append (a b : List UInt8) :
    (a ++ b).toByteArray = a.toByteArray ++ b.toByteArray := by
  simp

theorem leadingChar?_append (c : Char) (bs : List UInt8) :
    leadingChar? (String.utf8EncodeChar c ++ bs) = some c := by
  rw [leadingChar?, List.take_append, List.take_of_length_le (length_utf8EncodeChar_le c),
    toByteArray_append]
  exact ByteArray.utf8DecodeChar?_utf8EncodeChar_append

theorem symbols_append (c : Char) (bs : List UInt8) :
    symbols (String.utf8EncodeChar c ++ bs) = some c :: symbols bs := by
  have hne : String.utf8EncodeChar c ≠ [] := by
    intro h
    have := c.utf8Size_pos
    rw [← String.length_utf8EncodeChar, h] at this
    exact absurd this (by simp)
  obtain ⟨b, tl, hb⟩ := List.exists_cons_of_ne_nil hne
  have hlead := leadingChar?_append c bs
  have hlen : tl.length = c.utf8Size - 1 := by
    have := String.length_utf8EncodeChar c
    rw [hb, List.length_cons] at this
    omega
  rw [hb, List.cons_append] at hlead ⊢
  rw [symbols, hlead]
  simp [← hlen]

@[simp] theorem symbols_nil : symbols [] = [] := by rw [symbols]

/-- The bytes of a text have its characters as their symbols. -/
theorem symbols_utf8Chars (cs : List Char) : symbols (utf8Chars cs) = cs.map some := by
  induction cs with
  | nil => simp [utf8Chars]
  | cons c cs ih =>
    rw [utf8Chars, List.flatMap_cons, symbols_append, List.map_cons, ← ih, utf8Chars]

@[simp] theorem symbols_utf8 (s : String) : symbols (utf8 s) = s.toList.map some :=
  symbols_utf8Chars s.toList

theorem textOf?_map_some (cs : List Char) : textOf? (cs.map some) = some (String.ofList cs) := by
  have h : (cs.map some).mapM id = some cs := by
    induction cs with
    | nil => rfl
    | cons c cs ih => simp only [List.map_cons, List.mapM_cons, ih]; rfl
  rw [textOf?, h, Option.map_some]

/-- The bytes of a text read back as the text. -/
@[simp] theorem text?_utf8 (s : String) : text? (utf8 s) = some s := by
  rw [text?, symbols_utf8, textOf?_map_some, String.ofList_toList]

end Admission.Text
