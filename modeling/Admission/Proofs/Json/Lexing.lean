import Admission.Json.Lexer

/-!
# Written tokens are read

What is written for a token is read as the token, whatever follows it, as long as a numeral is not
followed by a character that would belong to it.  Texts spell tokens: written tokens, one after the
other, with blanks between them or without.

## Main results

* `readNumeral?_chars`, `readPieces?_stringChars`: numerals and strings are read as written.
* `readToken?_chars`: so is every token.
* `Spells.lex`: a text that spells tokens has them as its tokens.
-/

namespace Admission.Json

open Admission.Text

/-! ## Numerals -/

/-- A numeral that can be read: digits where digits are due, and no needless zero in front. -/
structure Numeral.IsSound (x : Numeral) : Prop where
  whole_ne_nil : x.whole ≠ []
  whole_digits : ∀ c ∈ x.whole, c.isDigit = true
  no_zero : ∀ cs, x.whole = '0' :: cs → cs = []
  fraction_digits : ∀ c ∈ x.fraction, c.isDigit = true
  exponent_ne_nil : ∀ e ∈ x.exponent, e.digits ≠ []
  exponent_digits : ∀ e ∈ x.exponent, ∀ c ∈ e.digits, c.isDigit = true

/-- A character that a numeral may go on with. -/
def continuesNumeral (c : Char) : Bool := c.isDigit || c == '.' || c == 'e' || c == 'E'

/-- Symbols that do not go on with a numeral. -/
def EndsNumeral (xs : List Symbol) : Prop := ∀ c, xs.head? = some (some c) →
  continuesNumeral c = false

theorem endsNumeral_nil : EndsNumeral [] := by
  intro c h
  cases h

theorem endsNumeral_cons {c : Char} (h : continuesNumeral c = false) (xs : List Symbol) :
    EndsNumeral (some c :: xs) := by
  intro d hd
  cases hd
  exact h

/-- A run of digits is read up to what is no digit. -/
theorem readDigits_append {ds : List Char} (hds : ∀ c ∈ ds, c.isDigit = true) {rest : List Symbol}
    (hRest : ∀ c, rest.head? = some (some c) → c.isDigit = false) :
    readDigits (ds.map some ++ rest) = (ds, rest) := by
  induction ds with
  | nil =>
      match rest, hRest with
      | [], _ => rfl
      | none :: rest, _ => rfl
      | some c :: rest, hRest => simp [readDigits, hRest c rfl]
  | cons d ds ih =>
      have ih := ih fun c hc => hds c (List.mem_cons_of_mem _ hc)
      simp [readDigits, hds d, ih]

theorem EndsNumeral.not_digit {rest : List Symbol} (h : EndsNumeral rest) (c : Char)
    (hc : rest.head? = some (some c)) : c.isDigit = false := by
  have := h c hc
  simp only [continuesNumeral, Bool.or_eq_false_iff] at this
  exact this.1.1.1

/-- The written form of a power of ten, if there is one. -/
def exponentChars : Option Exponent → List Char
  | none => []
  | some e => e.chars

/-- The written form of a fraction, if there is one. -/
def fractionChars (ds : List Char) : List Char := if ds = [] then [] else '.' :: ds

theorem Numeral.chars_eq (x : Numeral) : x.chars =
    (if x.negative then ['-'] else []) ++
      (x.whole ++ (fractionChars x.fraction ++ exponentChars x.exponent)) := by
  rw [Numeral.chars, fractionChars]
  cases x.exponent <;> simp [exponentChars]

theorem readExponent?_chars {e : Option Exponent} (hNe : ∀ x ∈ e, x.digits ≠ [])
    (hd : ∀ x ∈ e, ∀ c ∈ x.digits, c.isDigit = true) {rest : List Symbol}
    (hRest : EndsNumeral rest) :
    readExponent? ((exponentChars e).map some ++ rest) = some (e, rest) := by
  cases e with
  | none =>
      match rest, hRest with
      | [], _ => rfl
      | none :: rest, _ => rfl
      | some c :: rest, hRest =>
          have hc := hRest c rfl
          simp only [continuesNumeral, Bool.or_eq_false_iff, beq_eq_false_iff_ne] at hc
          simp [exponentChars, readExponent?, hc.1.2, hc.2]
  | some x =>
      obtain ⟨d, ds, hx⟩ := List.exists_cons_of_ne_nil (hNe x rfl)
      have hDigits := readDigits_append (hd x rfl) hRest.not_digit
      have hSign : readSign (x.digits.map some ++ rest) = (false, x.digits.map some ++ rest) := by
        have hDigit := hd x rfl d (by rw [hx]; exact List.mem_cons_self)
        rw [hx, List.map_cons, List.cons_append]
        unfold readSign
        split
        · next h =>
          cases h
          exact absurd hDigit (by decide)
        · next h =>
          cases h
          exact absurd hDigit (by decide)
        · rfl
      obtain ⟨negative, digits⟩ := x
      simp only at hx hDigits hSign
      cases negative with
      | false =>
          simp only [exponentChars, Exponent.chars, Bool.false_eq_true, if_false, List.map_cons,
            List.cons_append, readExponent?, true_or, if_true, hSign, hDigits]
          rw [hx]
      | true =>
          simp only [exponentChars, Exponent.chars, if_true, List.map_cons, List.cons_append,
            readExponent?, true_or, readSign, hDigits]
          rw [hx]

theorem readFraction?_chars {ds : List Char} (hd : ∀ c ∈ ds, c.isDigit = true)
    {rest : List Symbol} (hDigit : ∀ c, rest.head? = some (some c) → c.isDigit = false)
    (hPoint : rest.head? ≠ some (some '.')) :
    readFraction? ((fractionChars ds).map some ++ rest) = some (ds, rest) := by
  cases ds with
  | nil =>
      simp only [fractionChars, if_true, List.map_nil, List.nil_append]
      unfold readFraction?
      split
      · exact absurd rfl hPoint
      · rfl
  | cons d ds =>
      have hRead := readDigits_append hd hDigit
      simp only [fractionChars, reduceCtorEq, if_false, List.map_cons, List.cons_append,
        readFraction?] at hRead ⊢
      rw [hRead]

theorem head?_exponentChars_append {e : Option Exponent} {rest : List Symbol} {c : Char}
    (h : ((exponentChars e).map some ++ rest).head? = some (some c)) :
    c = 'e' ∨ rest.head? = some (some c) := by
  cases e with
  | none => exact .inr h
  | some x =>
      cases h
      exact .inl rfl

/-- A numeral is read as written, but for its sign. -/
theorem readNumeral?_chars {x : Numeral} (hx : x.IsSound) {rest : List Symbol}
    (hRest : EndsNumeral rest) :
    readNumeral? x.negative
      ((x.whole ++ (fractionChars x.fraction ++ exponentChars x.exponent)).map some ++ rest) =
        some (x, rest) := by
  have hExponent := readExponent?_chars hx.exponent_ne_nil hx.exponent_digits hRest
  have hFraction : readFraction?
      ((fractionChars x.fraction).map some ++ ((exponentChars x.exponent).map some ++ rest)) =
        some (x.fraction, (exponentChars x.exponent).map some ++ rest) := by
    apply readFraction?_chars hx.fraction_digits
    · intro c hc
      rcases head?_exponentChars_append hc with rfl | hc
      · decide
      · exact hRest.not_digit c hc
    · intro hc
      rcases head?_exponentChars_append hc with h | hc
      · cases h
      · exact absurd (hRest '.' hc) (by decide)
  have hPoint : ∀ c, ((fractionChars x.fraction).map some ++
      ((exponentChars x.exponent).map some ++ rest)).head? = some (some c) →
        c.isDigit = false := by
    intro c hc
    unfold fractionChars at hc
    split at hc
    · rcases head?_exponentChars_append hc with rfl | hc
      · decide
      · exact hRest.not_digit c hc
    · cases hc
      decide
  have hWhole := readDigits_append hx.whole_digits hPoint
  simp only [List.map_append, List.append_assoc]
  unfold readNumeral?
  rw [hWhole]
  simp only
  split
  · next h => exact absurd h hx.whole_ne_nil
  · next h => exact absurd (hx.no_zero _ h) (by simp)
  · rw [hFraction]
    simp only [Option.bind_eq_bind, Option.bind_some]
    rw [hExponent]
    rfl

/-! ## Strings -/

theorem hexDigitValue?_lowerHexDigit : ∀ d < 16, hexDigitValue? (lowerHexDigit d) = some d := by
  decide

/-- The piece that a written character is read as. -/
def pieceOf (c : Char) : Piece :=
  if c.toNat < 32 ∧ c ∉ ['\x08', '\x0c', '\n', '\r', '\t'] then .unit c.toNat else .char c

/-- A written character is read as its piece. -/
theorem readPieces?_escaped (c : Char) (rest : List Symbol) :
    readPieces? ((escaped c).map some ++ rest) =
      (readPieces? rest).map fun (ps, r) => (pieceOf c :: ps, r) := by
  unfold escaped
  by_cases hQuote : c = '"'
  · subst hQuote
    cases h : readPieces? rest <;> simp [readPieces?, escapeValue?, pieceOf, h]
  by_cases hSlash : c = '\\'
  · subst hSlash
    cases h : readPieces? rest <;> simp [readPieces?, escapeValue?, pieceOf, h]
  by_cases hNamed : c ∈ ['\x08', '\x0c', '\n', '\r', '\t']
  · simp only [List.mem_cons, List.not_mem_nil, or_false] at hNamed
    rcases hNamed with rfl | rfl | rfl | rfl | rfl <;>
      cases h : readPieces? rest <;> simp [readPieces?, escapeValue?, pieceOf, h]
  have hNot : c ≠ '\x08' ∧ c ≠ '\x0c' ∧ c ≠ '\n' ∧ c ≠ '\r' ∧ c ≠ '\t' := by
    simpa only [List.mem_cons, List.not_mem_nil, or_false, not_or] using hNamed
  rw [if_neg hQuote, if_neg hSlash, if_neg hNot.1, if_neg hNot.2.1, if_neg hNot.2.2.1,
    if_neg hNot.2.2.2.1, if_neg hNot.2.2.2.2]
  by_cases hControl : c.toNat < 32
  · have hHigh := hexDigitValue?_lowerHexDigit (c.toNat / 16) (by omega)
    have hLow := hexDigitValue?_lowerHexDigit (c.toNat % 16) (by omega)
    have hZero : hexDigitValue? '0' = some 0 := by decide
    have hUnit : hexUnit? (some '0') (some '0') (some (lowerHexDigit (c.toNat / 16)))
        (some (lowerHexDigit (c.toNat % 16))) = some c.toNat := by
      simp only [hexUnit?, Option.bind_eq_bind, Option.bind_some, hZero, hHigh, hLow,
        Option.pure_def, Option.some.injEq]
      omega
    rw [if_pos hControl]
    simp only [List.map_cons, List.map_nil, List.cons_append, List.nil_append, readPieces?, hUnit,
      pieceOf, hControl, hNamed, not_false_eq_true, and_self, if_true]
    cases readPieces? rest <;> rfl
  · rw [if_neg hControl, pieceOf, if_neg fun h => hControl h.1]
    simp only [List.map_cons, List.map_nil, List.cons_append, List.nil_append]
    rw [readPieces?.eq_def]
    split
    case h_1 h => exact absurd (by simpa using (List.cons.inj h).1) hQuote
    case h_2 h => exact absurd (by simpa using (List.cons.inj h).1) hSlash
    case h_3 h => exact absurd (by simpa using (List.cons.inj h).1) hSlash
    case h_4 h => exact absurd (by simpa using (List.cons.inj h).1) hSlash
    case h_5 h =>
      cases h
      rw [if_neg hControl]
      cases readPieces? rest <;> rfl
    case h_6 h => cases h
    case h_7 h => cases h

/-- A piece read from a written character is the character. -/
theorem pieceChars?_pieceOf (c : Char) (ps : List Piece) :
    pieceChars? (pieceOf c :: ps) = (pieceChars? ps).map (c :: ·) := by
  by_cases h : c.toNat < 32 ∧ c ∉ ['\x08', '\x0c', '\n', '\r', '\t']
  · have hHigh : isHighUnit c.toNat = false := by
      simp only [isHighUnit, Bool.and_eq_false_iff, decide_eq_false_iff_not]
      omega
    have hLow : isLowUnit c.toNat = false := by
      simp only [isLowUnit, Bool.and_eq_false_iff, decide_eq_false_iff_not]
      omega
    rw [pieceOf, if_pos h]
    match ps with
    | [] => simp [pieceChars?, hHigh, hLow]
    | .char _ :: _ => simp [pieceChars?, hHigh, hLow]
    | .unit _ :: _ => simp [pieceChars?, hHigh, hLow]
    | .stray :: _ => simp [pieceChars?]
  · rw [pieceOf, if_neg h, pieceChars?]

/-- A written string is read up to its closing quote. -/
theorem readPieces?_flatMap_escaped (cs : List Char) (rest : List Symbol) :
    readPieces? ((cs.flatMap escaped).map some ++ some '"' :: rest) =
      some (cs.map pieceOf, rest) := by
  induction cs with
  | nil => simp [readPieces?]
  | cons c cs ih =>
      rw [List.flatMap_cons, List.map_append, List.append_assoc, readPieces?_escaped, ih]
      rfl

theorem pieceText?_map_pieceOf (s : String) : pieceText? (s.toList.map pieceOf) = some s := by
  have h : ∀ cs : List Char, pieceChars? (cs.map pieceOf) = some cs := by
    intro cs
    induction cs with
    | nil => rw [List.map_nil, pieceChars?]
    | cons c cs ih => rw [List.map_cons, pieceChars?_pieceOf, ih, Option.map_some]
  rw [pieceText?, h, Option.map_some, String.ofList_toList]

/-! ## Tokens -/

/-- A token that stands for what was written. -/
def Token.IsSound : Token → Prop
  | .number x => x.IsSound
  | .fault => False
  | _ => True

/-- A token after which anything may stand. -/
def Token.isClosed : Token → Bool
  | .number _ => false
  | _ => true

theorem readToken?_of_digit {c : Char} (hc : c.isDigit = true) (xs : List Symbol) :
    readToken? (some c :: xs) =
      (readNumeral? false (some c :: xs)).map fun (x, rest) => (.number x, rest) := by
  unfold readToken?
  split
  case h_12 => rfl
  all_goals
    next h =>
      cases h
      exact absurd hc (by decide)

/-- A token is read as written. -/
theorem readToken?_chars {t : Token} (ht : t.IsSound) {rest : List Symbol}
    (hRest : t.isClosed = true ∨ EndsNumeral rest) :
    readToken? (t.chars.map some ++ rest) = some (t, rest) := by
  cases t with
  | openObject | closeObject | openArray | closeArray | colon | comma => rfl
  | null => rfl
  | bool b => cases b <;> rfl
  | number x =>
      have hRest : EndsNumeral rest := by simpa [Token.isClosed] using hRest
      have hRead := readNumeral?_chars ht hRest
      rw [Token.chars, Numeral.chars_eq]
      cases hn : x.negative with
      | true =>
          rw [hn] at hRead
          simp only [if_true, List.cons_append, List.nil_append, List.map_cons, readToken?, hRead,
            Option.map_some]
      | false =>
          obtain ⟨d, ds, hd⟩ := List.exists_cons_of_ne_nil ht.whole_ne_nil
          have hDigit := ht.whole_digits d (by rw [hd]; exact List.mem_cons_self)
          rw [hn, hd] at hRead
          simp only [Bool.false_eq_true, if_false, List.nil_append, hd, List.cons_append,
            List.map_cons] at hRead ⊢
          rw [readToken?_of_digit hDigit, hRead, Option.map_some]
  | string text =>
      cases text with
      | none => rfl
      | some s =>
          have hRead := readPieces?_flatMap_escaped s.toList rest
          simp only [Token.chars, stringChars, List.map_append, List.map_cons, List.map_nil,
            List.append_assoc, List.cons_append, List.nil_append, readToken?] at hRead ⊢
          rw [hRead, Option.map_some, pieceText?_map_pieceOf]
  | fault => exact absurd ht id

/-! ## Texts -/

theorem lex_eq_nil {xs : List Symbol} (h : xs.dropWhile isSpace = []) : lex xs = [] := by
  rw [lex]
  split
  · rfl
  · next hd => rw [h] at hd; cases hd

theorem lex_eq_fault {xs ys : List Symbol} {y : Symbol} (h : xs.dropWhile isSpace = y :: ys)
    (hr : readToken? (y :: ys) = none) : lex xs = [.fault] := by
  rw [lex]
  split
  · next hd => rw [h] at hd; cases hd
  · next hd =>
    rw [h] at hd
    cases hd
    split
    · rfl
    · next hr' => rw [hr] at hr'; cases hr'

theorem lex_eq_cons {xs ys rest : List Symbol} {y : Symbol} {t : Token}
    (h : xs.dropWhile isSpace = y :: ys) (hr : readToken? (y :: ys) = some (t, rest)) :
    lex xs = t :: lex rest := by
  rw [lex]
  split
  · next hd => rw [h] at hd; cases hd
  · next hd =>
    rw [h] at hd
    cases hd
    split
    · next hr' => rw [hr] at hr'; cases hr'
    · next hr' =>
      rw [hr] at hr'
      cases hr'
      rfl

@[simp] theorem lex_nil : lex [] = [] := lex_eq_nil rfl

/-- Blanks do not count. -/
theorem lex_space {x : Symbol} (hx : isSpace x = true) (xs : List Symbol) :
    lex (x :: xs) = lex xs := by
  have hDrop := List.dropWhile_cons_of_pos (p := isSpace) (l := xs) hx
  cases hd : xs.dropWhile isSpace with
  | nil => rw [lex_eq_nil hd, lex_eq_nil (hDrop.trans hd)]
  | cons y ys =>
      cases hr : readToken? (y :: ys) with
      | none => rw [lex_eq_fault hd hr, lex_eq_fault (hDrop.trans hd) hr]
      | some r => rw [lex_eq_cons hd hr, lex_eq_cons (hDrop.trans hd) hr]

/-- A token that is read at the front comes first. -/
theorem lex_of_readToken {xs rest : List Symbol} {t : Token}
    (h : readToken? xs = some (t, rest)) : lex xs = t :: lex rest := by
  match xs with
  | [] => simp [readToken?, readNumeral?, readDigits] at h
  | x :: xs =>
      refine lex_eq_cons (List.dropWhile_cons_of_neg fun hx => ?_) h
      simp only [isSpace, Bool.or_eq_true, beq_iff_eq] at hx
      rcases hx with ((rfl | rfl) | rfl) | rfl <;>
        simp [readToken?, readNumeral?, readDigits] at h

/-- A text spells tokens: wherever it stands, it is read as them, unless a numeral at its end is
gone on with. -/
def Spells (cs : List Char) (ts : List Token) : Prop :=
  ∀ rest, EndsNumeral rest → lex (cs.map some ++ rest) = ts ++ lex rest

namespace Spells

variable {as bs cs : List Char} {ts us : List Token}

/-- A text that spells tokens has them as its tokens. -/
theorem lex (h : Spells cs ts) : Json.lex (cs.map some) = ts := by
  have := h [] endsNumeral_nil
  simpa using this

theorem nil : Spells [] [] := fun _ _ => rfl

/-- A token is spelled by what is written for it. -/
theorem token {t : Token} (ht : t.IsSound) : Spells t.chars [t] := fun _ hRest =>
  lex_of_readToken (readToken?_chars ht (.inr hRest))

/-- After a token that is no number anything may stand. -/
theorem cons {t : Token} (ht : t.IsSound) (hClosed : t.isClosed = true) (h : Spells cs ts) :
    Spells (t.chars ++ cs) (t :: ts) := by
  intro rest hRest
  rw [List.map_append, List.append_assoc,
    lex_of_readToken (readToken?_chars ht (.inl hClosed)), h rest hRest, List.cons_append]

/-- Blanks may stand before what spells tokens. -/
theorem blanks (hb : ∀ c ∈ bs, isSpace (some c) = true) (h : Spells cs ts) :
    Spells (bs ++ cs) ts := by
  induction bs with
  | nil => exact h
  | cons b bs ih =>
      intro rest hRest
      rw [List.cons_append, List.map_cons, List.cons_append,
        lex_space (hb b List.mem_cons_self)]
      exact ih (fun c hc => hb c (List.mem_cons_of_mem _ hc)) rest hRest

/-- What spells tokens may follow what spells others, unless it goes on with a numeral. -/
theorem append (h : Spells as ts) (hb : bs.head?.any (fun b => !continuesNumeral b) = true)
    (h' : Spells bs us) : Spells (as ++ bs) (ts ++ us) := by
  intro rest hRest
  have hEnds : EndsNumeral (bs.map some ++ rest) := by
    match bs with
    | [] => cases hb
    | b :: bs => exact endsNumeral_cons (by simpa using hb) _
  rw [List.map_append, List.append_assoc, h _ hEnds, h' rest hRest, List.append_assoc]

end Spells

end Admission.Json
