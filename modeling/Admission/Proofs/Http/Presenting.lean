import Admission.Http.Gate
import Admission.Proofs.Checks
import Admission.Proofs.Text.Bytes
import Admission.Proofs.Text.Percent

/-!
# Presented tokens, byte by byte

Callers send bytes.  The gate reads them as text, cuts off what stands before the token, and trims
the rest like any other name.  Among the characters that it reads at all, the tab and those from the
blank to the tilde, only the tab and the blank are trimmed, and each is one byte.  So what the gate
accepts can be said of the bytes alone, without characters.

A header that is not accepted fails one of five checks, and each check can be stated on its own.
The gate tells the first in the row that fails.

## Main results

* `authorize_eq_ok_iff`: which headers are accepted.
* `authorize_eq_error_iff`: what a header is refused for.
-/

namespace Admission.Http

open Admission.Text

/-! ## Headers that present a token -/

/-- A header value that is text: tabs, and the bytes from the blank to the tilde. -/
def IsPrintable (value : List UInt8) : Prop := ∀ b ∈ value, b = 0x09 ∨ (0x20 ≤ b ∧ b ≤ 0x7E)

instance (value : List UInt8) : Decidable (IsPrintable value) := List.decidableBAll _ value

/-- A blank or a tab. -/
def isPad (b : UInt8) : Bool := b == 0x20 || b == 0x09

/-- Bytes without the blanks and tabs at their two ends. -/
def stripped (bs : List UInt8) : List UInt8 :=
  ((bs.dropWhile isPad).reverse.dropWhile isPad).reverse

/-- What a header value presents as a token. -/
def presented (value : List UInt8) : List UInt8 := stripped (value.drop (utf8 "Bearer ").length)

/-- A header value presents a token: it is text, begins with `Bearer ` and goes on with the bytes of
the token, which are some, between blanks and tabs. -/
structure Presents (token : String) (value : List UInt8) : Prop where
  printable : IsPrintable value
  begins : utf8 "Bearer " <+: value
  given : presented value ≠ []
  same : presented value = utf8 token

/-! ## Checks -/

/-- The check that a reason is about fails, whatever the others say. -/
def GateError.Fails (token : String) (header : Option (List UInt8)) :
    GateError → Prop
  | .missingHeader => header = none
  | .notAscii => ∃ value ∈ header, ¬IsPrintable value
  | .notBearer => ∃ value ∈ header, ¬utf8 "Bearer " <+: value
  | .emptyToken => ∃ value ∈ header, presented value = []
  | .wrongToken => ∃ value ∈ header, presented value ≠ utf8 token

instance (token : String) (header : Option (List UInt8)) :
    DecidablePred (GateError.Fails token header)
  | .missingHeader => inferInstanceAs (Decidable (header = none))
  | .notAscii =>
    inferInstanceAs (Decidable (∃ value ∈ header, ¬IsPrintable value))
  | .notBearer =>
    inferInstanceAs (Decidable (∃ value ∈ header, ¬utf8 "Bearer " <+: value))
  | .emptyToken =>
    inferInstanceAs (Decidable (∃ value ∈ header, presented value = []))
  | .wrongToken =>
    inferInstanceAs (Decidable (∃ value ∈ header, presented value ≠ utf8 token))

/-- The checks in order. -/
def gateChecks : List GateError := [.missingHeader, .notAscii, .notBearer, .emptyToken, .wrongToken]

/-- The reason of the first check that fails. -/
def firstFailure? (token : String) (header : Option (List UInt8)) :
    Option GateError :=
  gateChecks.find? fun check => check.Fails token header

/-! ## Bytes and their characters -/

/-- The characters of bytes that are text. -/
def charsOf (bs : List UInt8) : List Char := bs.map fun b => Char.ofNat b.toNat

variable {token : String} {value bs : List UInt8}

theorem isPrintable_iff : IsPrintable value ↔ value.all isAsciiByte = true := by
  simp [IsPrintable, isAsciiByte]

theorem asciiChars?_of_isPrintable (h : IsPrintable value) :
    asciiChars? value = some (charsOf value) :=
  if_pos (isPrintable_iff.1 h)

theorem asciiChars?_of_not_isPrintable (h : ¬IsPrintable value) :
    asciiChars? value = none :=
  if_neg (mt isPrintable_iff.2 h)

theorem IsPrintable.subset (h : IsPrintable value) (hSub : bs ⊆ value) :
    IsPrintable bs :=
  fun b hb => h b (hSub hb)

theorem IsPrintable.lt (h : IsPrintable value) : ∀ b ∈ value, b < 0x80 := by
  have hByte : ∀ b : UInt8, b = 0x09 ∨ (0x20 ≤ b ∧ b ≤ 0x7E) → b < 0x80 :=
    forall_byte (by decide +kernel)
  exact fun b hb => hByte b (h b hb)

/-- The bytes of the characters of printable bytes are these bytes. -/
theorem IsPrintable.utf8_charsOf (h : IsPrintable bs) :
    utf8 (String.ofList (charsOf bs)) = bs := by
  rw [utf8_ofList, charsOf, utf8Chars_map_ofNat h.lt]

/-- Printable bytes make up a text exactly if they are its bytes. -/
theorem IsPrintable.ofList_charsOf_eq_iff (h : IsPrintable bs) (s : String) :
    String.ofList (charsOf bs) = s ↔ bs = utf8 s := by
  constructor
  · rintro rfl
    exact h.utf8_charsOf.symm
  · intro hBytes
    have hChars : (String.ofList (charsOf bs)).toList = s.toList :=
      utf8Chars_injective (h.utf8_charsOf.trans hBytes)
    exact String.toList_inj.1 hChars

/-! ### Trimming -/

/-- The characters that are trimmed, among those of printable bytes. -/
theorem isBlankChar_ofNat {b : UInt8} (h : b = 0x09 ∨ (0x20 ≤ b ∧ b ≤ 0x7E)) :
    isBlankChar (Char.ofNat b.toNat) = isPad b := by
  have hByte : ∀ b : UInt8, b = 0x09 ∨ (0x20 ≤ b ∧ b ≤ 0x7E) →
      isBlankChar (Char.ofNat b.toNat) = isPad b :=
    forall_byte (by decide +kernel)
  exact hByte b h

theorem IsPrintable.dropWhile_charsOf (h : IsPrintable bs) :
    (charsOf bs).dropWhile isBlankChar = charsOf (bs.dropWhile isPad) := by
  induction bs with
  | nil => rfl
  | cons b bs ih =>
      have hHead := isBlankChar_ofNat (h b List.mem_cons_self)
      have hTail := ih (h.subset (List.subset_cons_self b bs))
      rw [charsOf, List.map_cons, List.dropWhile_cons, List.dropWhile_cons, hHead]
      split
      · exact hTail
      · rfl

theorem charsOf_reverse (bs : List UInt8) :
    charsOf bs.reverse = (charsOf bs).reverse :=
  List.map_reverse

/-- Trimming the characters is stripping the bytes. -/
theorem IsPrintable.trim_charsOf (h : IsPrintable bs) :
    trim (String.ofList (charsOf bs)) = String.ofList (charsOf (stripped bs)) := by
  have hStart : IsPrintable (bs.dropWhile isPad).reverse := by
    apply h.subset
    intro b hb
    exact (List.dropWhile_suffix isPad).subset (List.mem_reverse.1 hb)
  rw [trim, String.toList_ofList, trimStart, h.dropWhile_charsOf, trimEnd,
    ← charsOf_reverse, hStart.dropWhile_charsOf, ← charsOf_reverse, stripped]

theorem isPrintable_stripped (h : IsPrintable bs) : IsPrintable (stripped bs) := by
  apply h.subset
  intro b hb
  have hEnd := (List.dropWhile_suffix isPad).subset (List.mem_reverse.1 hb)
  exact (List.dropWhile_suffix isPad).subset (List.mem_reverse.1 hEnd)

theorem isPrintable_presented (h : IsPrintable value) :
    IsPrintable (presented value) :=
  isPrintable_stripped (h.subset (List.drop_subset _ value))

/-! ### The scheme -/

theorem charsOf_scheme : charsOf (utf8 "Bearer ") = bearerScheme := by decide

theorem charsOf_inj {as : List UInt8} : charsOf as = charsOf bs ↔ as = bs := by
  have hByte : ∀ b : UInt8, UInt8.ofNat (Char.ofNat b.toNat).toNat = b :=
    forall_byte (by decide +kernel)
  refine List.map_inj_right fun a b hab => ?_
  rw [← hByte a, hab, hByte b]

/-- The characters begin with the scheme exactly if the bytes do. -/
theorem isPrefixOf_charsOf_iff :
    bearerScheme.isPrefixOf (charsOf value) = true ↔ utf8 "Bearer " <+: value := by
  rw [List.isPrefixOf_iff_prefix, List.prefix_iff_eq_take,
    List.prefix_iff_eq_take, ← charsOf_scheme, charsOf, charsOf, List.length_map, ← List.map_take]
  exact charsOf_inj

/-- What the gate cuts out of the characters is what the bytes present. -/
theorem IsPrintable.trim_drop (h : IsPrintable value) :
    trim (String.ofList ((charsOf value).drop bearerScheme.length)) =
      String.ofList (charsOf (presented value)) := by
  have hDrop : (charsOf value).drop bearerScheme.length =
      charsOf (value.drop (utf8 "Bearer ").length) :=
    List.map_drop.symm
  have hRest : IsPrintable (value.drop (utf8 "Bearer ").length) :=
    h.subset (List.drop_subset _ value)
  rw [hDrop, hRest.trim_charsOf, presented]

/-! ## The gate -/

theorem authorize_of_not_isPrintable (h : ¬IsPrintable value) :
    authorize token (some value) = .error .notAscii := by
  rw [authorize, authorizationText, asciiChars?_of_not_isPrintable h]
  rfl

/-- What the gate makes of a header value that is text. -/
theorem authorize_of_isPrintable (h : IsPrintable value) :
    authorize token (some value) =
      if utf8 "Bearer " <+: value then
        if presented value = [] then .error .emptyToken
        else if presented value = utf8 token then .ok ()
        else .error .wrongToken
      else .error .notBearer := by
  have hEmpty : (String.ofList (charsOf (presented value))).isEmpty = true ↔
      presented value = [] := by
    rw [String.isEmpty_iff, (isPrintable_presented h).ofList_charsOf_eq_iff]
    rfl
  have hSame := (isPrintable_presented h).ofList_charsOf_eq_iff token
  rw [authorize, authorizationText, asciiChars?_of_isPrintable h, ok_bind,
    bearerToken, String.toList_ofList]
  simp only [isPrefixOf_charsOf_iff, h.trim_drop, hEmpty]
  split
  · split
    · rfl
    · rw [ok_bind]
      simp only [hSame]
      rfl
  · rfl

/-- The checks of a header that is there. -/
theorem fails_some (check : GateError) :
    check.Fails token (some value) ↔
      match check with
      | .missingHeader => False
      | .notAscii => ¬IsPrintable value
      | .notBearer => ¬utf8 "Bearer " <+: value
      | .emptyToken => presented value = []
      | .wrongToken => presented value ≠ utf8 token := by
  cases check <;> simp [GateError.Fails]

/-- No check fails exactly if the header presents the token. -/
theorem firstFailure?_eq_none_iff {header : Option (List UInt8)} :
    firstFailure? token header = none ↔ ∃ value, header = some value ∧ Presents token value := by
  rw [firstFailure?, List.find?_eq_none]
  cases header with
  | none => simp [gateChecks, GateError.Fails]
  | some value =>
      simp only [gateChecks, List.forall_mem_cons, decide_eq_true_eq,
        fails_some, Classical.not_not, not_false_eq_true, true_and,
        Option.some.injEq, exists_eq_left']
      constructor
      · rintro ⟨hText, hScheme, hGiven, hSame, -⟩
        exact ⟨hText, hScheme, hGiven, hSame⟩
      · rintro ⟨hText, hScheme, hGiven, hSame⟩
        exact ⟨hText, hScheme, hGiven, hSame, nofun⟩

/-- The gate runs its checks in a row. -/
theorem authorize_eq (token : String) (header : Option (List UInt8)) :
    authorize token header =
      match firstFailure? token header with
      | some reason => .error reason
      | none => .ok () := by
  cases header with
  | none => rfl
  | some value =>
      rw [firstFailure?, gateChecks]
      by_cases hText : IsPrintable value
      · rw [authorize_of_isPrintable hText]
        by_cases hScheme : utf8 "Bearer " <+: value
        · by_cases hEmpty : presented value = []
          · simp [fails_some, hText, hScheme, hEmpty]
          · by_cases hSame : presented value = utf8 token
            · have hToken : utf8 token ≠ [] := hSame ▸ hEmpty
              simp [fails_some, hText, hScheme, hSame, hToken]
            · simp [fails_some, hText, hScheme, hEmpty, hSame]
        · simp [fails_some, hText, hScheme]
      · rw [authorize_of_not_isPrintable hText]
        simp [fails_some, hText]

/-- **Who is let through.**  The first `Authorization` header is there and presents the token. -/
theorem authorize_eq_ok_iff {header : Option (List UInt8)} :
    authorize token header = .ok () ↔ ∃ value, header = some value ∧ Presents token value := by
  rw [authorize_eq, ← firstFailure?_eq_none_iff]
  cases firstFailure? token header with
  | some first => simp
  | none => simp

/-- **What others are told.**  The reason is that of the first check that fails. -/
theorem authorize_eq_error_iff {header : Option (List UInt8)}
    {reason : GateError} :
    authorize token header = .error reason ↔ firstFailure? token header = some reason := by
  rw [authorize_eq]
  cases firstFailure? token header with
  | some first => simp
  | none => simp

end Admission.Http
