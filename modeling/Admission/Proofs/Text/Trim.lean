import Admission.Text.Blank
import Mathlib.Data.List.TakeWhile

/-!
# Blanks around a text

A text is what is left of it when it is trimmed, between blanks.  So two texts have one core, each
with blanks of its own around it, exactly if they trim to the same text.  No ASCII letter is blank
in either case, so that it makes no difference whether a text is trimmed before or after it is put
into lower case.

## Main results

* `sameButBlanks_iff`: the same but for blanks around it, by trimming.
* `asciiLower_trim`: lower case and trimming commute.
-/

namespace Admission.Text

/-! ## Blanks at the two ends -/

theorem trimStart_append {before cs : List Char} (h : before.all isBlankChar = true) :
    trimStart (before ++ cs) = trimStart cs :=
  List.dropWhile_append_of_pos (List.all_eq_true.1 h)

theorem trimEnd_append {cs after : List Char} (h : after.all isBlankChar = true) :
    trimEnd (cs ++ after) = trimEnd cs := by
  have hAfter : ∀ c ∈ after.reverse, isBlankChar c = true := by
    intro c hc
    exact List.all_eq_true.1 h c (List.mem_reverse.1 hc)
  rw [trimEnd, List.reverse_append, List.dropWhile_append_of_pos hAfter, trimEnd]

/-- Blanks around a text are trimmed away, whether the text itself is blank or not. -/
theorem trim_between {before core after : String} (hBefore : isBlank before = true)
    (hAfter : isBlank after = true) : trim (before ++ core ++ after) = trim core := by
  have hChars : trimEnd (trimStart (core.toList ++ after.toList)) =
      trimEnd (trimStart core.toList) := by
    rw [trimStart, List.dropWhile_append]
    split
    · next hBlank =>
        -- a blank core: all of it goes from the front, and so do the blanks after it
        rw [trimStart, List.isEmpty_iff.1 hBlank,
          List.dropWhile_eq_nil_iff.2 (List.all_eq_true.1 hAfter)]
    · exact trimEnd_append hAfter
  rw [trim, trim, String.toList_append, String.toList_append, List.append_assoc,
    trimStart_append hBefore, hChars]

/-- A text is what it trims to, between blanks. -/
theorem exists_between (s : String) :
    ∃ before after, isBlank before = true ∧ isBlank after = true ∧
      s = before ++ trim s ++ after := by
  have hStart := List.takeWhile_append_dropWhile (p := isBlankChar) (l := s.toList)
  have hEnd := List.takeWhile_append_dropWhile (p := isBlankChar)
    (l := (trimStart s.toList).reverse)
  refine ⟨String.ofList (s.toList.takeWhile isBlankChar),
    String.ofList ((trimStart s.toList).reverse.takeWhile isBlankChar).reverse, ?_, ?_, ?_⟩
  · rw [isBlank, String.toList_ofList]
    exact List.all_takeWhile
  · rw [isBlank, String.toList_ofList, List.all_reverse]
    exact List.all_takeWhile
  · apply String.toList_injective
    rw [String.toList_append, String.toList_append, String.toList_ofList, String.toList_ofList,
      trim, String.toList_ofList, List.append_assoc, trimEnd, ← List.reverse_append, hEnd,
      List.reverse_reverse]
    exact hStart.symm

/-- Blanks around a text were added or taken away: both texts are one core between blanks. -/
def SameButBlanks (s t : String) : Prop :=
  ∃ core before after before' after',
    (isBlank before = true ∧ isBlank after = true ∧ s = before ++ core ++ after) ∧
      isBlank before' = true ∧ isBlank after' = true ∧ t = before' ++ core ++ after'

theorem sameButBlanks_iff {s t : String} : SameButBlanks s t ↔ trim s = trim t := by
  constructor
  · rintro ⟨core, before, after, before', after', ⟨hBefore, hAfter, rfl⟩, hBefore', hAfter', rfl⟩
    rw [trim_between hBefore hAfter, trim_between hBefore' hAfter']
  · intro h
    obtain ⟨before, after, hBefore, hAfter, hs⟩ := exists_between s
    obtain ⟨before', after', hBefore', hAfter', ht⟩ := exists_between t
    rw [← h] at ht
    exact ⟨trim s, before, after, before', after', ⟨hBefore, hAfter, hs⟩, hBefore', hAfter', ht⟩

/-- Texts that are the same but for blanks around them are blank or not together. -/
theorem isBlank_congr {s t : String} (h : trim s = trim t) : isBlank s = isBlank t := by
  rw [Bool.eq_iff_iff, ← trim_eq_empty_iff, ← trim_eq_empty_iff, h]

/-! ## Case -/

/-- The same letter for letter, the case of ASCII letters aside. -/
def SameButCase (s t : String) : Prop := asciiLower s = asciiLower t

/-- A character keeps its case, or is a capital letter and moves by thirty-two. -/
theorem toLower_cases (c : Char) :
    (c.toLower = c ∧ ¬(65 ≤ c.toNat ∧ c.toNat ≤ 90)) ∨
      (65 ≤ c.toNat ∧ c.toNat ≤ 90 ∧ c.toLower.toNat = c.toNat + 32) := by
  unfold Char.toLower
  split
  · next hUpper =>
      have hLow : 65 ≤ c.toNat := hUpper.1
      have hHigh : c.toNat ≤ 90 := hUpper.2
      refine .inr ⟨hLow, hHigh, ?_⟩
      show (c.val + ('a'.val - 'A'.val)).toNat = c.toNat + 32
      rw [UInt32.toNat_add]
      exact Nat.mod_eq_of_lt (Nat.lt_of_le_of_lt (Nat.add_le_add_right hHigh _) (by decide))
  · next hUpper => exact .inl ⟨rfl, hUpper⟩

theorem toLower_toLower (c : Char) : c.toLower.toLower = c.toLower := by
  rcases toLower_cases c with ⟨hSame, -⟩ | ⟨hLow, -, hMoved⟩
  · rw [hSame, hSame]
  · rcases toLower_cases c.toLower with ⟨hSame, -⟩ | ⟨-, hHigh, -⟩
    · exact hSame
    · omega

@[simp] theorem asciiLower_asciiLower (s : String) : asciiLower (asciiLower s) = asciiLower s := by
  apply String.toList_injective
  simp only [asciiLower, String.toList_map, List.map_map]
  exact List.map_congr_left fun c _ => toLower_toLower c

theorem isBlankChar_of_printable {c : Char} (hLow : 0x20 < c.toNat) (hHigh : c.toNat < 0x7F) :
    isBlankChar c = false := by
  rw [Bool.eq_false_iff, Ne, isBlankChar_iff_mem]
  simp only [whiteSpace, List.mem_cons, List.not_mem_nil, or_false]
  omega

/-- A character whose case changes is no blank, before or after. -/
theorem isBlankChar_toLower (c : Char) : isBlankChar c.toLower = isBlankChar c := by
  rcases toLower_cases c with ⟨hSame, -⟩ | ⟨hLow, hHigh, hMoved⟩
  · rw [hSame]
  · rw [isBlankChar_of_printable (c := c) (by omega) (by omega)]
    exact isBlankChar_of_printable (by omega) (by omega)

theorem asciiLower_trim (s : String) : asciiLower (trim s) = trim (asciiLower s) := by
  have hBlank : isBlankChar ∘ Char.toLower = isBlankChar := funext isBlankChar_toLower
  have hDrop : ∀ cs : List Char,
      (cs.map Char.toLower).dropWhile isBlankChar =
        (cs.dropWhile isBlankChar).map Char.toLower := by
    intro cs
    rw [List.dropWhile_map, hBlank]
  apply String.toList_injective
  rw [asciiLower, asciiLower, String.toList_map, trim, trim, String.toList_ofList,
    String.toList_ofList, String.toList_map]
  simp only [trimStart, trimEnd, hDrop, ← List.map_reverse]

/-- Case does not count after trimming if it did not before. -/
theorem SameButCase.trim {s t : String} (h : SameButCase s t) : SameButCase (trim s) (trim t) := by
  rw [SameButCase, asciiLower_trim, asciiLower_trim, h]

end Admission.Text
