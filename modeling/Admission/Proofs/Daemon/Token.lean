import Admission.Daemon.Config
import Admission.Proofs.Http.Filter
import Admission.Proofs.Http.Refusals

/-!
# Tokens that can be presented

A configuration is checked before the daemon starts, and a token that no caller could present is to
be refused then.  Blank tokens and tokens with blanks around them are.  But the gate reads a header
only if it is ASCII, and that is not checked: a valid token with any other character in it can be
sent, byte for byte, in a legal header, and is turned away all the same.

## Main results

* `valid_token_usable_iff_isAscii`: which valid tokens let their callers in.
* `accented_token_turned_away`: one that does not.
-/

namespace Admission

open Admission.Http Admission.Text Admission.Time

/-- A text of ASCII characters. -/
def Text.IsAscii (s : String) : Prop := ∀ c ∈ s.toList, c.toNat < 0x80

instance (s : String) : Decidable (IsAscii s) := List.decidableBAll _ s.toList

/-- A header value may hold the bytes. -/
def Http.IsLegalValue (value : List UInt8) : Prop := ∀ b ∈ value, isValueByte b = true

instance (value : List UInt8) : Decidable (IsLegalValue value) := List.decidableBAll _ value

/-! ## ASCII texts as bytes -/

theorem isAscii_iff_lt {s : String} : IsAscii s ↔ ∀ b ∈ utf8 s, b < 0x80 := by
  constructor
  · intro h b hb
    obtain ⟨c, hc, hMem⟩ := List.mem_flatMap.1 hb
    have hLt := h c hc
    rw [utf8EncodeChar_of_lt hLt, List.mem_singleton] at hMem
    rw [hMem, UInt8.lt_iff_toNat_lt, UInt8.toNat_ofNat_of_lt' (Nat.lt_trans hLt (by decide))]
    exact hLt
  · intro h c hc
    apply Nat.lt_of_not_le
    intro hLe
    obtain ⟨b, bs, hBytes⟩ : ∃ b bs, String.utf8EncodeChar c = b :: bs := by
      apply List.exists_cons_of_ne_nil
      intro hNil
      have := c.utf8Size_pos
      rw [← String.length_utf8EncodeChar, hNil] at this
      exact absurd this (by decide)
    have hMem : b ∈ String.utf8EncodeChar c := hBytes ▸ List.mem_cons_self
    have hLow := h b (List.mem_flatMap.2 ⟨c, hc, hMem⟩)
    exact UInt8.not_le.2 hLow (le_of_mem_utf8EncodeChar hLe b hMem)

/-- What may stand in a header is printable exactly if it is ASCII. -/
theorem isPrintable_utf8_iff {s : String} (hLegal : IsLegalValue (utf8 s)) :
    IsPrintable (utf8 s) ↔ IsAscii s := by
  have hByte : ∀ b : UInt8, isValueByte b = true →
      ((b = 0x09 ∨ (0x20 ≤ b ∧ b ≤ 0x7E)) ↔ b < 0x80) :=
    forall_byte (by decide +kernel)
  rw [isAscii_iff_lt]
  constructor
  · intro h b hb
    exact (hByte b (hLegal b hb)).1 (h b hb)
  · intro h b hb
    exact (hByte b (hLegal b hb)).2 (h b hb)

/-! ## The header for a token -/

variable {token : String}

theorem utf8_bearer : utf8 ("Bearer " ++ token) = utf8 "Bearer " ++ utf8 token := by
  rw [utf8, String.toList_append, utf8Chars_append]
  rfl

theorem presented_bearer :
    presented (utf8 ("Bearer " ++ token)) = stripped (utf8 token) := by
  rw [presented, utf8_bearer, List.drop_left]

theorem isAscii_bearer_iff : IsAscii ("Bearer " ++ token) ↔ IsAscii token := by
  have hScheme : IsAscii "Bearer " := by decide
  simp only [IsAscii, String.toList_append, List.forall_mem_append]
  exact and_iff_right hScheme

/-- A trimmed printable token has nothing to strip. -/
theorem stripped_utf8 (hText : IsPrintable (utf8 token))
    (hTrim : trim token = token) : stripped (utf8 token) = utf8 token := by
  have hToken := (hText.ofList_charsOf_eq_iff token).2 rfl
  have hStripped : IsPrintable (stripped (utf8 token)) := isPrintable_stripped hText
  rw [← hStripped.ofList_charsOf_eq_iff, ← hText.trim_charsOf, hToken, hTrim]

/-- The header for a token presents it, if the token is ASCII. -/
theorem presents_bearer_iff (hBlank : isBlank token = false) (hTrim : trim token = token)
    (hLegal : IsLegalValue (utf8 ("Bearer " ++ token))) :
    Presents token (utf8 ("Bearer " ++ token)) ↔ IsAscii token := by
  rw [← isAscii_bearer_iff, ← isPrintable_utf8_iff hLegal]
  constructor
  · exact Presents.printable
  · intro hText
    have hToken : IsPrintable (utf8 token) := by
      apply hText.subset
      rw [utf8_bearer]
      exact List.subset_append_right ..
    have hSame : presented (utf8 ("Bearer " ++ token)) = utf8 token := by
      rw [presented_bearer, stripped_utf8 hToken hTrim]
    refine ⟨hText, ?_, ?_, hSame⟩
    · rw [utf8_bearer]
      exact List.prefix_append ..
    · rw [hSame]
      intro hNil
      have hEmpty : token = "" := by
        rw [← (hToken.ofList_charsOf_eq_iff token).2 rfl, hNil]
        rfl
      rw [hEmpty] at hBlank
      exact absurd hBlank (by decide)

/-- No header presents a token that is not ASCII. -/
theorem Http.Presents.isAscii {value : List UInt8} (h : Presents token value) :
    IsAscii token := by
  rw [isAscii_iff_lt, ← h.same]
  exact (isPrintable_presented h.printable).lt

/-! ## Valid tokens -/

/-- **Which valid tokens are usable.**  Take a valid configuration with a token, and a request to a
path behind the gate that carries just this token, in a header value that is legal.  The gate lets
it through exactly if the token is ASCII; it is answered 401 exactly if the token is not, preflight
requests apart; and then no other header lets a caller through either. -/
theorem valid_token_usable_iff_isAscii {config : Config} {r : Request}
    (hValid : config.validate = .ok ()) (hToken : config.authToken = some token)
    (hPath : IsGatedPath r.path)
    (hHeader : r.header? "authorization" = some (utf8 ("Bearer " ++ token)))
    (hLegal : IsLegalValue (utf8 ("Bearer " ++ token))) (now : Instant)
    (fresh : String) (p : Plane) :
    (passGate config.authToken r = .ok () ↔ IsAscii token) ∧
      ((answer config now fresh r p).1.status = 401 ↔ ¬IsAscii token ∧ ¬IsPreflight config r) ∧
      (¬IsAscii token → ∀ value, authorize token (some value) ≠ .ok ()) := by
  obtain ⟨hBlank, hTrim⟩ := ((Config.validate_eq_ok_iff config).1 hValid).1 token
    (by rw [hToken]; rfl)
  have hGate : passGate config.authToken r = .ok () ↔ IsAscii token := by
    rw [hToken]
    show authorize token (r.header? "authorization") = .ok () ↔ IsAscii token
    rw [authorize_eq_ok_iff, hHeader, ← presents_bearer_iff hBlank hTrim hLegal]
    simp
  refine ⟨hGate, ?_, ?_⟩
  · by_cases hAscii : IsAscii token
    · have hStatus : (answer config now fresh r p).1.status ≠ 401 := by
        rw [answer_of_passGate_ok (hGate.2 hAscii)]
        exact status_answer_ne_unauthorized rfl
      simp [hStatus, hAscii]
    · by_cases hPreflight : IsPreflight config r
      · simp [answer_of_isPreflight hPreflight, hPreflight]
      · cases hReason : passGate config.authToken r with
        | ok _ => exact absurd (hGate.1 hReason) hAscii
        | error reason =>
            have hAway : TurnsAway r reason (answer config now fresh r p).1 :=
              (turnsAway_of_passGate hReason hPath hPreflight).1
            simp [hAway.status_eq, hAscii, hPreflight]
  · intro hAscii value hPass
    obtain ⟨_, _, hPresents⟩ := authorize_eq_ok_iff.1 hPass
    exact hAscii hPresents.isAscii

/-- The token `a b` is valid and usable: whoever presents it learns that there is no job `a`. -/
theorem token_with_blank_usable :
    let token := "a b"
    let config := { Config.default with authToken := some token }
    let r : Request := ⟨"GET", utf8 "/jobs/a", [⟨"authorization", utf8 ("Bearer " ++ token)⟩], []⟩
    config.validate = .ok () ∧ IsLegalValue (utf8 ("Bearer " ++ token)) ∧
      IsAscii token ∧ passGate config.authToken r = .ok () ∧
      (answer config .epoch "x" r .empty).1.status ≠ 401 := by
  intro token config r
  have hValid : config.validate = .ok () := (Config.validate_eq_ok_iff config).2 (by decide +kernel)
  have hLegal : IsLegalValue (utf8 ("Bearer " ++ token)) := by
    decide +kernel
  have hAscii : IsAscii token := by decide +kernel
  have hSegment : IsSegment (utf8 "a") := ⟨by decide, by decide⟩
  have hPath : IsGatedPath r.path := .inr (.inl ⟨utf8 "a", hSegment, rfl⟩)
  have hUsable := valid_token_usable_iff_isAscii hValid rfl hPath rfl hLegal .epoch "x" .empty
  exact ⟨hValid, hLegal, hAscii, hUsable.1.2 hAscii, fun h => (hUsable.2.1.1 h).1 hAscii⟩

/-- The token `té` is valid, and its bytes make a legal header value; whoever presents it is turned
away. -/
theorem accented_token_turned_away :
    let token := "té"
    let config := { Config.default with authToken := some token }
    let r : Request := ⟨"GET", utf8 "/jobs/a", [⟨"authorization", utf8 ("Bearer " ++ token)⟩], []⟩
    config.validate = .ok () ∧ config.authToken = some token ∧
      IsGatedPath r.path ∧
      r.header? "authorization" = some (utf8 ("Bearer " ++ token)) ∧
      IsLegalValue (utf8 ("Bearer " ++ token)) ∧
      passGate config.authToken r = .error .notAscii ∧
      (answer config .epoch "x" r .empty).1.status = 401 := by
  intro token config r
  have hSegment : IsSegment (utf8 "a") := ⟨by decide, by decide⟩
  have hReason : firstFailure? token (r.header? "authorization") =
      some .notAscii := by
    decide +kernel
  exact ⟨(Config.validate_eq_ok_iff config).2 (by decide +kernel), rfl,
    .inr (.inl ⟨utf8 "a", hSegment, rfl⟩), rfl, by decide +kernel,
    authorize_eq_error_iff.2 hReason, by decide +kernel⟩

end Admission
