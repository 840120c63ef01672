import Admission.Text.Split

/-!
# Cut texts

What is cut off at the front is a text without the character that cuts, and a text is all front if
the character does not occur.  A piece between cuts is a part of the text; it is the whole text only
if nothing cuts it.

## Main results

* `splitFirst_append`: a front without the character may stand before what is cut.
* `splitFirst_fst_eq_self_iff`: when nothing is cut off.
* `pieces_append`: the first piece ends at the first cut.
* `sublist_of_mem_pieces`, `not_cuts_of_mem_pieces`: what a piece is.
-/

namespace Admission.Text

/-! ## The first of a character -/

theorem takeWhile_ne_append {c : Char} {as : List Char} (h : c ∉ as) (bs : List Char) :
    (as ++ bs).takeWhile (· != c) = as ++ bs.takeWhile (· != c) := by
  apply List.takeWhile_append_of_pos
  intro a ha
  rw [bne_iff_ne]
  rintro rfl
  exact h ha

/-- A front without the character may stand before what is cut. -/
theorem splitFirst_append {c : Char} {as : List Char} (h : c ∉ as) (bs : List Char) :
    splitFirst c (as ++ bs) = (as ++ (splitFirst c bs).1, (splitFirst c bs).2) := by
  simp only [splitFirst, takeWhile_ne_append h, List.length_append, List.drop_append,
    List.drop_of_length_le (Nat.le_add_right as.length _), List.nil_append,
    Nat.add_sub_cancel_left]

theorem splitFirst_of_not_mem {c : Char} {cs : List Char} (h : c ∉ cs) :
    splitFirst c cs = (cs, none) := by
  have hSplit := splitFirst_append h []
  rw [List.append_nil] at hSplit
  rw [hSplit]
  simp [splitFirst]

theorem splitFirst_prefix_self (c : Char) (cs : List Char) : (splitFirst c cs).1 <+: cs :=
  List.takeWhile_prefix _

theorem not_mem_splitFirst_fst (c : Char) (cs : List Char) : c ∉ (splitFirst c cs).1 := by
  have hAll : ((splitFirst c cs).1).all (· != c) = true := List.all_takeWhile
  intro h
  have hc := List.all_eq_true.1 hAll c h
  simp at hc

/-- Nothing is cut off exactly if the character does not occur. -/
theorem splitFirst_fst_eq_self_iff {c : Char} {cs : List Char} :
    (splitFirst c cs).1 = cs ↔ c ∉ cs := by
  constructor
  · intro h
    rw [← h]
    exact not_mem_splitFirst_fst c cs
  · intro h
    rw [splitFirst_of_not_mem h]

/-! ## Pieces -/

variable {cuts : Char → Bool}

/-- A text that nothing cuts is one piece. -/
theorem pieces_of_not_cuts {cs : List Char} (h : ∀ c ∈ cs, cuts c = false) :
    pieces cuts cs = [cs] := by
  induction cs with
  | nil => rfl
  | cons c cs ih =>
      have hTail := ih fun d hd => h d (List.mem_cons_of_mem c hd)
      rw [pieces, if_neg (by rw [h c List.mem_cons_self]; decide), hTail]

/-- The first piece ends at the first cut. -/
theorem pieces_append {as : List Char} (h : ∀ c ∈ as, cuts c = false) {d : Char}
    (hd : cuts d = true) (bs : List Char) :
    pieces cuts (as ++ d :: bs) = as :: pieces cuts bs := by
  induction as with
  | nil => rw [List.nil_append, pieces, if_pos hd]
  | cons c as ih =>
      have hTail := ih fun e he => h e (List.mem_cons_of_mem c he)
      rw [List.cons_append, pieces, if_neg (by rw [h c List.mem_cons_self]; decide), hTail]

/-- A piece is a part of the text. -/
theorem sublist_of_mem_pieces {cs : List Char} : ∀ p ∈ pieces cuts cs, p.Sublist cs := by
  induction cs with
  | nil => simp [pieces]
  | cons c cs ih =>
      intro p hp
      obtain ⟨q, qs, hq⟩ := List.exists_cons_of_ne_nil (pieces_ne_nil cuts cs)
      rw [hq] at ih
      rw [pieces, hq] at hp
      split at hp
      · rcases List.mem_cons.1 hp with rfl | hp
        · exact List.nil_sublist _
        · exact (ih p hp).cons c
      · rcases List.mem_cons.1 hp with rfl | hp
        · exact (ih q List.mem_cons_self).cons_cons c
        · exact (ih p (List.mem_cons_of_mem q hp)).cons c

/-- Nothing cuts a piece. -/
theorem not_cuts_of_mem_pieces {cs : List Char} :
    ∀ p ∈ pieces cuts cs, ∀ c ∈ p, cuts c = false := by
  induction cs with
  | nil => simp [pieces]
  | cons d cs ih =>
      intro p hp c hc
      obtain ⟨q, qs, hq⟩ := List.exists_cons_of_ne_nil (pieces_ne_nil cuts cs)
      rw [hq] at ih
      rw [pieces, hq] at hp
      split at hp
      · rcases List.mem_cons.1 hp with rfl | hp
        · exact absurd hc List.not_mem_nil
        · exact ih p hp c hc
      · next hd =>
        rcases List.mem_cons.1 hp with rfl | hp
        · rcases List.mem_cons.1 hc with rfl | hc
          · simpa using hd
          · exact ih q List.mem_cons_self c hc
        · exact ih p (List.mem_cons_of_mem q hp) c hc

end Admission.Text
