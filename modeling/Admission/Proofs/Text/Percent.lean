import Admission.Text.Percent

/-!
# Percent-coding undone

Decoding undoes encoding, whatever bytes are encoded, as long as neither the percent sign nor a
hexadecimal digit is among them: what decoding makes of the bytes that stand as they are is the
same before and after.

## Main results

* `percentDecode_percentTriple_append`: a triple is decoded to its byte.
* `percentDecode_percentEncode`: encoding does not change what decoding gives.
* `length_percentDecode_le`: decoding does not lengthen.
-/

namespace Admission.Text

/-- What holds of 256 numbers holds of all bytes. -/
theorem forall_byte {P : UInt8 → Prop} (h : ∀ n < 256, P (UInt8.ofNat n)) (b : UInt8) : P b := by
  have hb := h b.toNat b.toNat_lt
  rwa [UInt8.ofNat_toNat] at hb

/-! ## Triples -/

/-- Bytes that make a percent sign before them the start of a triple. -/
def completesTriple : List UInt8 → Bool
  | h :: l :: _ => (hexValue? h).isSome && (hexValue? l).isSome
  | _ => false

theorem percentDecode_cons_of_ne {b : UInt8} (hb : b ≠ 0x25) (bs : List UInt8) :
    percentDecode (b :: bs) = b :: percentDecode bs := by
  rw [percentDecode.eq_2]
  intro h l rest hCons
  exact absurd hCons hb

/-- A percent sign that starts no triple stands as it is. -/
theorem percentDecode_cons_of_not_completes {bs : List UInt8} (h : completesTriple bs = false) :
    percentDecode (0x25 :: bs) = 0x25 :: percentDecode bs := by
  match bs with
  | [] => rfl
  | [_] => rfl
  | x :: y :: rest =>
      rw [percentDecode]
      simp only [completesTriple, Bool.and_eq_false_iff, Option.isSome_eq_false_iff,
        Option.isNone_iff_eq_none] at h
      split
      · next hx hy =>
        rcases h with h | h
        · rw [h] at hx
          cases hx
        · rw [h] at hy
          cases hy
      · rfl

theorem hexValue?_percentTriple (b : UInt8) :
    hexValue? (hexDigit (b / 16)) = some (b / 16) ∧
      hexValue? (hexDigit (b % 16)) = some (b % 16) ∧ b / 16 * 16 + b % 16 = b := by
  revert b
  exact forall_byte (by decide +kernel)

/-- A triple is decoded to its byte. -/
theorem percentDecode_percentTriple_append (b : UInt8) (bs : List UInt8) :
    percentDecode (percentTriple b ++ bs) = b :: percentDecode bs := by
  obtain ⟨hHigh, hLow, hSum⟩ := hexValue?_percentTriple b
  rw [percentTriple, List.cons_append, List.cons_append, List.cons_append, List.nil_append,
    percentDecode, hHigh, hLow]
  simp only [hSum]

/-! ## Encoding -/

/-- A choice of bytes without the percent sign and without hexadecimal digits. -/
def SparesTriples (coded : UInt8 → Bool) : Prop :=
  ∀ b, coded b = true → b ≠ 0x25 ∧ hexValue? b = none

variable {coded : UInt8 → Bool}

theorem percentEncode_cons (b : UInt8) (bs : List UInt8) :
    percentEncode coded (b :: bs) =
      (if coded b then percentTriple b else [b]) ++ percentEncode coded bs := rfl

theorem percentEncode_cons_of_hex (hCoded : SparesTriples coded) {b : UInt8}
    (hb : (hexValue? b).isSome = true) (bs : List UInt8) :
    percentEncode coded (b :: bs) = b :: percentEncode coded bs := by
  have hNot : ¬coded b = true := by
    intro h
    rw [(hCoded b h).2] at hb
    cases hb
  rw [percentEncode_cons, if_neg hNot]
  rfl

/-- What comes first of an encoded text is a hexadecimal digit only if it was one before. -/
theorem head_percentEncode {b : UInt8} (hb : hexValue? b = none) (bs : List UInt8) :
    ∃ c cs, percentEncode coded (b :: bs) = c :: cs ∧ hexValue? c = none := by
  rw [percentEncode_cons]
  split
  · exact ⟨0x25, _, rfl, by decide⟩
  · exact ⟨b, _, rfl, hb⟩

theorem completesTriple_percentEncode (hCoded : SparesTriples coded) (bs : List UInt8) :
    completesTriple (percentEncode coded bs) = completesTriple bs := by
  have hFirst : ∀ c cs, hexValue? c = none → completesTriple (c :: cs) = false := by
    intro c cs hc
    cases cs with
    | nil => rfl
    | cons d ds => rw [completesTriple, hc]; rfl
  have hSecond : ∀ x c cs, hexValue? c = none → completesTriple (x :: c :: cs) = false := by
    intro x c cs hc
    rw [completesTriple, hc]
    exact Bool.and_false _
  match bs with
  | [] => rfl
  | h :: rest =>
      cases hh : hexValue? h with
      | none =>
          obtain ⟨c, cs, hCons, hc⟩ := head_percentEncode hh rest
          rw [hCons, hFirst c cs hc, hFirst h rest hh]
      | some x =>
          rw [percentEncode_cons_of_hex hCoded (by rw [hh]; rfl)]
          match rest with
          | [] => rfl
          | l :: rest =>
              cases hl : hexValue? l with
              | none =>
                  obtain ⟨c, cs, hCons, hc⟩ := head_percentEncode hl rest
                  rw [hCons, hSecond h c cs hc, hSecond h l rest hl]
              | some y =>
                  rw [percentEncode_cons_of_hex hCoded (by rw [hl]; rfl), completesTriple,
                    completesTriple]

/-- Encoding does not change what decoding gives. -/
theorem percentDecode_percentEncode (hCoded : SparesTriples coded) (bs : List UInt8) :
    percentDecode (percentEncode coded bs) = percentDecode bs := by
  have hCons : ∀ rest, percentEncode coded (0x25 :: rest) = 0x25 :: percentEncode coded rest := by
    intro rest
    rw [percentEncode_cons, if_neg fun h => (hCoded _ h).1 rfl]
    rfl
  fun_induction percentDecode bs with
  | case1 h l rest x y hl hh ih =>
      rw [hCons, percentEncode_cons_of_hex hCoded (by rw [hh]; rfl),
        percentEncode_cons_of_hex hCoded (by rw [hl]; rfl), percentDecode, hh, hl]
      simp only [ih]
  | case2 h l rest hNot ih =>
      have hCompletes : completesTriple (h :: l :: rest) = false := by
        rw [completesTriple, Bool.and_eq_false_iff]
        cases hh : hexValue? h with
        | none => exact .inl rfl
        | some x =>
            cases hl : hexValue? l with
            | none => exact .inr rfl
            | some y => exact absurd hl (hNot x y hh)
      rw [hCons, percentDecode_cons_of_not_completes, ih]
      rw [completesTriple_percentEncode hCoded, hCompletes]
  | case3 b rest hb ih =>
      by_cases hPercent : b = 0x25
      · subst hPercent
        have hCompletes : completesTriple rest = false := by
          match rest, hb with
          | [], _ => rfl
          | [_], _ => rfl
          | h :: l :: rest, hb => exact absurd rfl (hb h l rest rfl)
        rw [hCons, percentDecode_cons_of_not_completes, ih]
        rw [completesTriple_percentEncode hCoded, hCompletes]
      · rw [percentEncode_cons]
        split
        · rw [percentDecode_percentTriple_append, ih]
        · rw [List.cons_append, List.nil_append, percentDecode_cons_of_ne hPercent, ih]
  | case4 => rfl

/-- Decoding does not lengthen. -/
theorem length_percentDecode_le (bs : List UInt8) : (percentDecode bs).length ≤ bs.length := by
  fun_induction percentDecode bs with
  | case1 => simp only [List.length_cons]; omega
  | case2 => simp only [List.length_cons] at *; omega
  | case3 => simp only [List.length_cons]; omega
  | case4 => exact Nat.le_refl _

/-- What holds of the bytes that stand as they are and of those of triples holds of every byte that
is written. -/
theorem all_percentEncode {P : UInt8 → Bool} (hKept : ∀ b, coded b = false → P b = true)
    (hTriple : ∀ b, (percentTriple b).all P = true) (bs : List UInt8) :
    (percentEncode coded bs).all P = true := by
  rw [percentEncode, List.all_flatMap]
  apply List.all_eq_true.2
  intro b _
  split
  · exact hTriple b
  · next h => rw [List.all_cons, hKept b (by simpa using h)]; rfl

end Admission.Text
