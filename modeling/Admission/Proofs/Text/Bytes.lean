import Admission.Text.Bytes

/-!
# Bytes of ASCII and of other characters

A byte below 128 in the encoding of a text is a character of the text, and every character beyond
ASCII is written in bytes from 128 on.

## Main results

* `ofNat_mem_of_mem_utf8Chars`: an ASCII byte comes from its character.
* `utf8Chars_map_ofNat`: ASCII bytes are the encoding of their characters.
* `text?_eq_some_iff`: which bytes are those of a text.
* `eq_of_sublist_of_length_utf8`: a part of a text has fewer bytes, or is the text.
-/

namespace Admission.Text

@[simp] theorem utf8Chars_nil : utf8Chars [] = [] := rfl

theorem utf8Chars_cons (c : Char) (cs : List Char) :
    utf8Chars (c :: cs) = String.utf8EncodeChar c ++ utf8Chars cs := rfl

theorem utf8Chars_append (as bs : List Char) :
    utf8Chars (as ++ bs) = utf8Chars as ++ utf8Chars bs :=
  List.flatMap_append

theorem utf8_ofList (cs : List Char) : utf8 (String.ofList cs) = utf8Chars cs := by
  rw [utf8, String.toList_ofList]

/-- A character has four bytes at most. -/
theorem length_utf8Chars_le (cs : List Char) : (utf8Chars cs).length ≤ 4 * cs.length := by
  induction cs with
  | nil => exact Nat.le_refl 0
  | cons c cs ih =>
      have hChar := c.utf8Size_le_four
      rw [utf8Chars_cons, List.length_append, String.length_utf8EncodeChar, List.length_cons]
      omega

theorem utf8Chars_injective {as bs : List Char} (h : utf8Chars as = utf8Chars bs) : as = bs := by
  have hSymbols := congrArg symbols h
  rw [symbols_utf8Chars, symbols_utf8Chars] at hSymbols
  exact (List.map_inj_right fun _ _ => Option.some.inj).1 hSymbols

/-! ## Texts -/

theorem utf8_append (s t : String) : utf8 (s ++ t) = utf8 s ++ utf8 t := by
  rw [utf8, String.toList_append, utf8Chars_append]
  rfl

/-- Texts with the same bytes are the same. -/
theorem utf8_injective {s t : String} (h : utf8 s = utf8 t) : s = t :=
  String.toList_inj.1 (utf8Chars_injective h)

theorem utf8_eq_nil_iff {s : String} : utf8 s = [] ↔ s = "" := by
  constructor
  · intro hNil
    exact utf8_injective hNil
  · rintro rfl
    rfl

/-! ## ASCII -/

theorem utf8EncodeChar_of_lt {c : Char} (h : c.toNat < 0x80) :
    String.utf8EncodeChar c = [UInt8.ofNat c.toNat] := by
  have hLe : c.val.toNat ≤ 127 := Nat.le_of_lt_succ h
  rw [String.utf8EncodeChar]
  simp only [hLe, if_true]
  rfl

/-- The bytes of a character beyond ASCII. -/
theorem le_of_mem_utf8EncodeChar {c : Char} (h : 0x80 ≤ c.toNat) :
    ∀ b ∈ String.utf8EncodeChar c, 0x80 ≤ b := by
  have hGt : ¬c.val.toNat ≤ 127 := Nat.not_le.2 h
  have hByte : ∀ n, 128 ≤ n → n < 256 → (0x80 : UInt8) ≤ UInt8.ofNat n := by
    intro n hn hn'
    rw [UInt8.le_iff_toNat_le, UInt8.toNat_ofNat_of_lt' hn']
    exact hn
  intro b hb
  rw [String.utf8EncodeChar] at hb
  simp only [hGt, if_false] at hb
  split at hb
  · simp only [List.mem_cons, List.not_mem_nil, or_false] at hb
    rcases hb with rfl | rfl <;> exact hByte _ (by omega) (by omega)
  · split at hb
    · simp only [List.mem_cons, List.not_mem_nil, or_false] at hb
      rcases hb with rfl | rfl | rfl <;> exact hByte _ (by omega) (by omega)
    · simp only [List.mem_cons, List.not_mem_nil, or_false] at hb
      rcases hb with rfl | rfl | rfl | rfl <;> exact hByte _ (by omega) (by omega)

/-- An ASCII byte comes from its character. -/
theorem ofNat_mem_of_mem_utf8Chars {cs : List Char} {b : UInt8} (hb : b < 0x80)
    (h : b ∈ utf8Chars cs) : Char.ofNat b.toNat ∈ cs := by
  obtain ⟨c, hc, hMem⟩ := List.mem_flatMap.1 h
  by_cases hAscii : c.toNat < 0x80
  · have hSize : c.toNat < 256 := Nat.lt_trans hAscii (by decide)
    rw [utf8EncodeChar_of_lt hAscii, List.mem_singleton] at hMem
    rw [hMem, UInt8.toNat_ofNat_of_lt' hSize, Char.ofNat_toNat]
    exact hc
  · have hLe := le_of_mem_utf8EncodeChar (Nat.not_lt.1 hAscii) b hMem
    exact absurd hb (UInt8.not_lt.2 hLe)

theorem toNat_ofNat {n : Nat} (h : n < 0x80) : (Char.ofNat n).toNat = n := by
  have hValid : n.isValidChar := .inl (by omega)
  rw [Char.ofNat, dif_pos hValid]
  rfl

/-- ASCII bytes are the encoding of their characters. -/
theorem utf8Chars_map_ofNat {bs : List UInt8} (h : ∀ b ∈ bs, b < 0x80) :
    utf8Chars (bs.map fun b => Char.ofNat b.toNat) = bs := by
  induction bs with
  | nil => rfl
  | cons b bs ih =>
      have hb : b.toNat < 0x80 := UInt8.lt_iff_toNat_lt.1 (h b List.mem_cons_self)
      have hToNat := toNat_ofNat hb
      rw [List.map_cons, utf8Chars_cons, ih fun c hc => h c (List.mem_cons_of_mem b hc),
        utf8EncodeChar_of_lt (by rw [hToNat]; exact hb), hToNat, UInt8.ofNat_toNat]
      rfl

/-! ## Bytes of a text -/

/-- A character that bytes begin with is the one whose encoding they begin with. -/
theorem exists_of_leadingChar? {bs : List UInt8} {c : Char} (h : leadingChar? bs = some c) :
    ∃ rest, bs = String.utf8EncodeChar c ++ rest := by
  obtain ⟨l, hl⟩ := ByteArray.exists_of_utf8DecodeChar?_eq_some h
  have hData := congrArg (fun b : ByteArray => b.data.toList) hl
  simp only [ByteArray.data_append, Array.toList_append, List.data_toByteArray] at hData
  refine ⟨l.data.toList ++ bs.drop 4, ?_⟩
  rw [← List.append_assoc, ← hData, List.take_append_drop]

theorem eq_utf8Chars_of_symbols {bs : List UInt8} {cs : List Char}
    (h : symbols bs = cs.map some) : bs = utf8Chars cs := by
  induction cs generalizing bs with
  | nil =>
      cases bs with
      | nil => rfl
      | cons b bs =>
          rw [symbols] at h
          split at h <;> cases h
  | cons c cs ih =>
      cases bs with
      | nil => simp at h
      | cons b bs =>
          rw [symbols] at h
          split at h
          · next d hd =>
            cases (List.cons.inj h).1
            obtain ⟨rest, hRest⟩ := exists_of_leadingChar? hd
            have hDrop : bs.drop (c.utf8Size - 1) = rest := by
              have hSize := c.utf8Size_pos
              have hLength := String.length_utf8EncodeChar c
              have hAll := congrArg (List.drop c.utf8Size) hRest
              rw [← hLength, List.drop_left, hLength] at hAll
              rw [← hAll, ← List.drop_succ_cons (a := b)]
              congr 1
              omega
            rw [hDrop] at h
            rw [hRest, utf8Chars_cons, ih (List.cons.inj h).2]
          · cases h

theorem eq_map_some_of_mapM {xs : List Symbol} {cs : List Char} (h : xs.mapM id = some cs) :
    xs = cs.map some := by
  induction xs generalizing cs with
  | nil =>
      cases h
      rfl
  | cons x xs ih =>
      rw [List.mapM_cons] at h
      obtain ⟨c, hc, h⟩ := Option.bind_eq_some_iff.1 h
      obtain ⟨ds, hds, h⟩ := Option.bind_eq_some_iff.1 h
      cases h
      rw [ih hds, show x = some c from hc, List.map_cons]

/-- The bytes of a text are the only ones that it is read from. -/
theorem text?_eq_some_iff {bs : List UInt8} {s : String} : text? bs = some s ↔ bs = utf8 s := by
  constructor
  · intro h
    rw [text?, textOf?] at h
    obtain ⟨cs, hcs, hs⟩ := Option.map_eq_some_iff.1 h
    rw [eq_utf8Chars_of_symbols (eq_map_some_of_mapM hcs), ← hs, utf8_ofList]
  · rintro rfl
    exact text?_utf8 s

/-! ## Parts of texts -/

theorem sublist_utf8Chars {as bs : List Char} (h : as.Sublist bs) :
    (utf8Chars as).Sublist (utf8Chars bs) := by
  induction h with
  | slnil => exact .slnil
  | cons c _ ih =>
      rw [utf8Chars_cons]
      exact ih.trans (List.sublist_append_right _ _)
  | cons_cons c _ ih =>
      rw [utf8Chars_cons, utf8Chars_cons]
      exact ih.append_left _

/-- A part of a text has fewer bytes, or is the text. -/
theorem eq_of_sublist_of_length_utf8 {as bs : List Char} (h : as.Sublist bs)
    (hLength : (utf8Chars bs).length ≤ (utf8Chars as).length) : as = bs :=
  utf8Chars_injective ((sublist_utf8Chars h).eq_of_length_le hLength)

end Admission.Text
