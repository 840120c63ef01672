import Admission.Json.Token

/-!
# Reading tokens

The lexer takes symbols, so that bytes which are no characters are a fault outside strings and only
cost a string its text inside one.  Reading stops at the first fault.

## Main results

* `length_readToken`: a token takes at least one symbol, so that reading ends.
-/

namespace Admission.Json

open Admission.Text

/-! ## Strings -/

/-- A part of a string: a character, a unit of 16 bits given by an escape, or a stray byte. -/
inductive Piece where
  | char (c : Char)
  | unit (n : Nat)
  | stray
  deriving DecidableEq, Repr

/-- The value of a hexadecimal digit, in either case. -/
def hexDigitValue? (c : Char) : Option Nat :=
  if '0' ≤ c ∧ c ≤ '9' then some (c.toNat - 48)
  else if 'a' ≤ c ∧ c ≤ 'f' then some (c.toNat - 87)
  else if 'A' ≤ c ∧ c ≤ 'F' then some (c.toNat - 55)
  else none

/-- The value of four hexadecimal digits. -/
def hexUnit? (a b c d : Symbol) : Option Nat := do
  let a ← hexDigitValue? (← a)
  let b ← hexDigitValue? (← b)
  let c ← hexDigitValue? (← c)
  let d ← hexDigitValue? (← d)
  return 4096 * a + 256 * b + 16 * c + d

/-- The character that a backslash and a letter stand for. -/
def escapeValue? (c : Char) : Option Char :=
  if c = '"' ∨ c = '\\' ∨ c = '/' then some c
  else if c = 'b' then some '\x08'
  else if c = 'f' then some '\x0c'
  else if c = 'n' then some '\n'
  else if c = 'r' then some '\r'
  else if c = 't' then some '\t'
  else none

/-- The parts of a string up to its closing quote, and what follows the quote. -/
def readPieces? : List Symbol → Option (List Piece × List Symbol)
  | some '"' :: rest => some ([], rest)
  | some '\\' :: some 'u' :: a :: b :: c :: d :: rest => do
    let n ← hexUnit? a b c d
    let (ps, rest) ← readPieces? rest
    some (.unit n :: ps, rest)
  | some '\\' :: some e :: rest => do
    let c ← escapeValue? e
    let (ps, rest) ← readPieces? rest
    some (.char c :: ps, rest)
  | some '\\' :: _ => none
  | some c :: rest =>
    if c.toNat < 32 then none
    else do
      let (ps, rest) ← readPieces? rest
      some (.char c :: ps, rest)
  | none :: rest => do
    let (ps, rest) ← readPieces? rest
    some (.stray :: ps, rest)
  | [] => none

/-- The first unit of a surrogate pair. -/
def isHighUnit (n : Nat) : Bool := 0xD800 ≤ n && n ≤ 0xDBFF

/-- The second unit of a surrogate pair. -/
def isLowUnit (n : Nat) : Bool := 0xDC00 ≤ n && n ≤ 0xDFFF

/-- The characters that parts make up; units of a surrogate pair must stand together. -/
def pieceChars? : List Piece → Option (List Char)
  | [] => some []
  | .char c :: ps => (pieceChars? ps).map (c :: ·)
  | .unit h :: .unit l :: ps =>
    if isHighUnit h then
      if isLowUnit l then
        (pieceChars? ps).map (Char.ofNat (0x10000 + (h - 0xD800) * 0x400 + (l - 0xDC00)) :: ·)
      else none
    else if isLowUnit h then none
    else (pieceChars? (.unit l :: ps)).map (Char.ofNat h :: ·)
  | .unit n :: ps =>
    if isHighUnit n || isLowUnit n then none else (pieceChars? ps).map (Char.ofNat n :: ·)
  | .stray :: _ => none

/-- The text of a string, if it has one. -/
def pieceText? (ps : List Piece) : Option String := (pieceChars? ps).map String.ofList

/-! ## Numbers -/

/-- A run of digits, which may be empty, and what follows it. -/
def readDigits : List Symbol → List Char × List Symbol
  | some c :: rest =>
    if c.isDigit then
      let (ds, rest) := readDigits rest
      (c :: ds, rest)
    else ([], some c :: rest)
  | xs => ([], xs)

/-- A point and digits; nothing if there is no point. -/
def readFraction? : List Symbol → Option (List Char × List Symbol)
  | some '.' :: xs =>
    match readDigits xs with
    | ([], _) => none
    | r => some r
  | xs => some ([], xs)

/-- The sign of a power of ten. -/
def readSign : List Symbol → Bool × List Symbol
  | some '+' :: xs => (false, xs)
  | some '-' :: xs => (true, xs)
  | xs => (false, xs)

/-- A power of ten; nothing if there is none. -/
def readExponent? : List Symbol → Option (Option Exponent × List Symbol)
  | some c :: xs =>
    if c = 'e' ∨ c = 'E' then
      let (negative, xs) := readSign xs
      match readDigits xs with
      | ([], _) => none
      | (ds, rest) => some (some ⟨negative, ds⟩, rest)
    else some (none, some c :: xs)
  | xs => some (none, xs)

/-- A numeral whose sign is read; whole digits start with a zero only if it is the only one. -/
def readNumeral? (negative : Bool) (xs : List Symbol) : Option (Numeral × List Symbol) := do
  let (whole, xs) := readDigits xs
  match whole with
  | [] => none
  | '0' :: _ :: _ => none
  | _ :: _ =>
    let (fraction, xs) ← readFraction? xs
    let (exponent, xs) ← readExponent? xs
    some (⟨negative, whole, fraction, exponent⟩, xs)

/-! ## Tokens -/

/-- Given characters. -/
def readWord? : List Char → List Symbol → Option (List Symbol)
  | [], xs => some xs
  | c :: cs, some d :: xs => if c = d then readWord? cs xs else none
  | _, _ => none

/-- The token at the front, and what follows it. -/
def readToken? : List Symbol → Option (Token × List Symbol)
  | some '\x7b' :: xs => some (.openObject, xs)
  | some '\x7d' :: xs => some (.closeObject, xs)
  | some '[' :: xs => some (.openArray, xs)
  | some ']' :: xs => some (.closeArray, xs)
  | some ':' :: xs => some (.colon, xs)
  | some ',' :: xs => some (.comma, xs)
  | some 'n' :: xs => (readWord? ['u', 'l', 'l'] xs).map (Token.null, ·)
  | some 't' :: xs => (readWord? ['r', 'u', 'e'] xs).map (Token.bool true, ·)
  | some 'f' :: xs => (readWord? ['a', 'l', 's', 'e'] xs).map (Token.bool false, ·)
  | some '"' :: xs => (readPieces? xs).map fun (ps, rest) => (.string (pieceText? ps), rest)
  | some '-' :: xs => (readNumeral? true xs).map fun (x, rest) => (.number x, rest)
  | xs => (readNumeral? false xs).map fun (x, rest) => (.number x, rest)

/-- The blanks that may stand between tokens. -/
def isSpace (x : Symbol) : Bool :=
  x == some ' ' || x == some '\n' || x == some '\t' || x == some '\r'

/-! ## Reading takes symbols -/

theorem length_readPieces {xs rest : List Symbol} {ps : List Piece}
    (h : readPieces? xs = some (ps, rest)) : rest.length < xs.length := by
  fun_induction readPieces? xs generalizing ps with
  | case1 r =>
    cases h
    simp
  | case2 a b c d r ih =>
    obtain ⟨n, _, h⟩ := Option.bind_eq_some_iff.1 h
    obtain ⟨⟨qs, r'⟩, hq, h⟩ := Option.bind_eq_some_iff.1 h
    cases h
    have := ih hq
    simp only [List.length_cons]
    omega
  | case3 e r _ ih =>
    obtain ⟨n, _, h⟩ := Option.bind_eq_some_iff.1 h
    obtain ⟨⟨qs, r'⟩, hq, h⟩ := Option.bind_eq_some_iff.1 h
    cases h
    have := ih hq
    simp only [List.length_cons]
    omega
  | case4 => cases h
  | case5 => cases h
  | case6 c r _ _ _ _ _ ih =>
    obtain ⟨⟨qs, r'⟩, hq, h⟩ := Option.bind_eq_some_iff.1 h
    cases h
    have := ih hq
    simp only [List.length_cons]
    omega
  | case7 r ih =>
    obtain ⟨⟨qs, r'⟩, hq, h⟩ := Option.bind_eq_some_iff.1 h
    cases h
    have := ih hq
    simp only [List.length_cons]
    omega
  | case8 => cases h

theorem length_readDigits (xs : List Symbol) :
    (readDigits xs).1.length + (readDigits xs).2.length = xs.length := by
  induction xs with
  | nil => rfl
  | cons x xs ih =>
    match x with
    | none => simp [readDigits]
    | some c =>
      by_cases h : c.isDigit = true
      · simp only [readDigits, h, if_true, List.length_cons]
        omega
      · simp [readDigits, h]

theorem length_readFraction {xs rest : List Symbol} {ds : List Char}
    (h : readFraction? xs = some (ds, rest)) : rest.length ≤ xs.length := by
  unfold readFraction? at h
  split at h
  · next xs =>
    have hlen := length_readDigits xs
    split at h
    · cases h
    · rw [Option.some.injEq] at h
      rw [h] at hlen
      simp only [List.length_cons] at hlen ⊢
      omega
  · cases h
    exact Nat.le_refl _

theorem length_readSign (xs : List Symbol) : (readSign xs).2.length ≤ xs.length := by
  unfold readSign
  split <;> simp

theorem length_readExponent {xs rest : List Symbol} {e : Option Exponent}
    (h : readExponent? xs = some (e, rest)) : rest.length ≤ xs.length := by
  unfold readExponent? at h
  split at h
  · next c xs =>
    split at h
    · have h1 := length_readSign xs
      have h2 := length_readDigits (readSign xs).2
      simp only at h
      split at h
      · cases h
      · next ds r hr =>
        cases h
        rw [hr] at h2
        simp only [List.length_cons] at h2 ⊢
        omega
    · cases h
      exact Nat.le_refl _
  · cases h
    exact Nat.le_refl _

theorem length_readNumeral {negative : Bool} {xs rest : List Symbol} {x : Numeral}
    (h : readNumeral? negative xs = some (x, rest)) : rest.length < xs.length := by
  have h1 := length_readDigits xs
  unfold readNumeral? at h
  simp only at h
  split at h
  · cases h
  · cases h
  · next d ds _ hd =>
    obtain ⟨⟨fraction, r1⟩, hf, h⟩ := Option.bind_eq_some_iff.1 h
    obtain ⟨⟨exponent, r2⟩, he, h⟩ := Option.bind_eq_some_iff.1 h
    cases h
    have h2 := length_readFraction hf
    have h3 : r2.length ≤ r1.length := length_readExponent he
    rw [hd, List.length_cons] at h1
    show r2.length < xs.length
    omega

theorem length_readWord {cs : List Char} {xs rest : List Symbol}
    (h : readWord? cs xs = some rest) : rest.length ≤ xs.length := by
  fun_induction readWord? cs xs with
  | case1 =>
    cases h
    exact Nat.le_refl _
  | case2 _ _ _ ih =>
    have := ih h
    simp only [List.length_cons]
    omega
  | case3 => cases h
  | case4 => cases h

/-- A token takes at least one symbol. -/
theorem length_readToken {xs rest : List Symbol} {t : Token}
    (h : readToken? xs = some (t, rest)) : rest.length < xs.length := by
  unfold readToken? at h
  split at h
  case h_1 | h_2 | h_3 | h_4 | h_5 | h_6 =>
    cases h
    simp
  case h_7 | h_8 | h_9 =>
    obtain ⟨r, hr, h⟩ := Option.map_eq_some_iff.1 h
    cases h
    have := length_readWord hr
    simp only [List.length_cons]
    omega
  case h_10 =>
    obtain ⟨⟨ps, r⟩, hr, h⟩ := Option.map_eq_some_iff.1 h
    cases h
    have := length_readPieces hr
    simp only [List.length_cons]
    omega
  case h_11 =>
    obtain ⟨⟨x, r⟩, hr, h⟩ := Option.map_eq_some_iff.1 h
    cases h
    have := length_readNumeral hr
    simp only [List.length_cons]
    omega
  case h_12 =>
    obtain ⟨⟨x, r⟩, hr, h⟩ := Option.map_eq_some_iff.1 h
    cases h
    exact length_readNumeral hr

/-- The tokens of a text up to its first fault. -/
def lex (xs : List Symbol) : List Token :=
  match _hd : xs.dropWhile isSpace with
  | [] => []
  | y :: ys =>
    match _hr : readToken? (y :: ys) with
    | none => [.fault]
    | some (t, rest) => t :: lex rest
termination_by xs.length
decreasing_by
  have h1 := length_readToken _hr
  have h2 := (List.dropWhile_sublist isSpace (l := xs)).length_le
  rw [_hd] at h2
  omega

end Admission.Json
