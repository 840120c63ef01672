/-!
# Blank characters and trimming

A character is *blank* when Unicode gives it the property White_Space; twenty-five characters have
it.  Identifiers, names and tokens are compared after the blanks around them are dropped, and a
text of blanks alone counts as absent.

## Main results

* `trim_eq_self_iff`: a trimmed text is one that neither starts nor ends with a blank.
* `trim_trim`: trimming twice is trimming once.
* `trim_eq_empty_iff`: what trims to nothing is blank throughout.
-/

namespace Admission.Text

/-- The property White_Space of Unicode. -/
def isBlankChar (c : Char) : Bool :=
  let n := c.toNat
  (9 ≤ n && n ≤ 13) || n == 0x20 || n == 0x85 || n == 0xA0 || n == 0x1680 ||
    (0x2000 ≤ n && n ≤ 0x200A) || n == 0x2028 || n == 0x2029 || n == 0x202F || n == 0x205F ||
    n == 0x3000

/-- The characters from the first that is not blank on. -/
def trimStart (cs : List Char) : List Char := cs.dropWhile isBlankChar

/-- The characters up to the last that is not blank. -/
def trimEnd (cs : List Char) : List Char := (cs.reverse.dropWhile isBlankChar).reverse

/-- A text without the blanks at its two ends. -/
def trim (s : String) : String := String.ofList (trimEnd (trimStart s.toList))

/-- A text that holds nothing but blanks; the empty text is one. -/
def isBlank (s : String) : Bool := s.toList.all isBlankChar

/-- ASCII letters in lower case, all else as it stands. -/
def asciiLower (s : String) : String := s.map Char.toLower

/-- The characters with the property White_Space, one by one. -/
def whiteSpace : List Nat :=
  [0x9, 0xA, 0xB, 0xC, 0xD, 0x20, 0x85, 0xA0, 0x1680, 0x2000, 0x2001, 0x2002, 0x2003, 0x2004,
    0x2005, 0x2006, 0x2007, 0x2008, 0x2009, 0x200A, 0x2028, 0x2029, 0x202F, 0x205F, 0x3000]

theorem isBlankChar_iff_mem {c : Char} : isBlankChar c = true ↔ c.toNat ∈ whiteSpace := by
  simp only [isBlankChar, whiteSpace, Bool.or_eq_true, Bool.and_eq_true, decide_eq_true_eq,
    beq_iff_eq, List.mem_cons, List.not_mem_nil, or_false]
  omega

/-- A text is blank exactly if each of its characters is one of the twenty-five. -/
theorem isBlank_iff {s : String} : isBlank s = true ↔ ∀ c ∈ s.toList, c.toNat ∈ whiteSpace := by
  simp only [isBlank, List.all_eq_true, isBlankChar_iff_mem]

/-! ## Both ends -/

/-- No blank at either end. -/
def Trimmed (cs : List Char) : Prop :=
  (∀ c ∈ cs.head?, isBlankChar c = false) ∧ ∀ c ∈ cs.getLast?, isBlankChar c = false

private theorem dropWhile_head_not_blank (cs : List Char) :
    ∀ c ∈ (cs.dropWhile isBlankChar).head?, isBlankChar c = false := by
  induction cs with
  | nil => simp
  | cons a as ih =>
    by_cases h : isBlankChar a = true
    · simpa [h] using ih
    · simp [h]

private theorem dropWhile_eq_self_of_head {cs : List Char}
    (h : ∀ c ∈ cs.head?, isBlankChar c = false) : cs.dropWhile isBlankChar = cs := by
  cases cs with
  | nil => rfl
  | cons a as => simp [h a (by simp)]

private theorem head_trimEnd_of_head {cs : List Char}
    (h : ∀ c ∈ cs.head?, isBlankChar c = false) :
    ∀ c ∈ (trimEnd cs).head?, isBlankChar c = false := by
  intro c hc
  have hpre : trimEnd cs <+: cs := by
    have hs : cs.reverse.dropWhile isBlankChar <:+ cs.reverse := List.dropWhile_suffix _
    have hp := List.reverse_prefix.2 hs
    simpa [trimEnd] using hp
  obtain ⟨t, ht⟩ := hpre
  cases hte : trimEnd cs with
  | nil => simp [hte] at hc
  | cons a as =>
    rw [hte] at hc ht
    simp only [List.head?_cons, Option.mem_def, Option.some.injEq] at hc
    subst hc
    exact h a (by rw [← ht]; simp)

theorem trimmed_trimEnd_trimStart (cs : List Char) : Trimmed (trimEnd (trimStart cs)) := by
  refine ⟨head_trimEnd_of_head (dropWhile_head_not_blank cs), ?_⟩
  intro c hc
  have := dropWhile_head_not_blank (trimStart cs).reverse
  simp only [trimEnd, List.getLast?_reverse] at hc
  exact this c hc

theorem trimEnd_trimStart_eq_self {cs : List Char} (h : Trimmed cs) :
    trimEnd (trimStart cs) = cs := by
  have h1 : trimStart cs = cs := dropWhile_eq_self_of_head h.1
  rw [h1, trimEnd, dropWhile_eq_self_of_head, List.reverse_reverse]
  simpa using h.2

/-- Trimming leaves a text alone exactly when no blank stands at its ends. -/
theorem trim_eq_self_iff (s : String) : trim s = s ↔ Trimmed s.toList := by
  constructor
  · intro h
    have := trimmed_trimEnd_trimStart s.toList
    rw [← h, trim, String.toList_ofList]
    exact this
  · intro h
    rw [trim, trimEnd_trimStart_eq_self h, String.ofList_toList]

theorem trimmed_trim (s : String) : Trimmed (trim s).toList := by
  rw [trim, String.toList_ofList]
  exact trimmed_trimEnd_trimStart _

/-- Trimming twice is trimming once. -/
@[simp] theorem trim_trim (s : String) : trim (trim s) = trim s :=
  (trim_eq_self_iff _).2 (trimmed_trim s)

private theorem dropWhile_eq_nil {cs : List Char} :
    cs.dropWhile isBlankChar = [] ↔ cs.all isBlankChar = true := by
  induction cs with
  | nil => simp
  | cons a as ih => by_cases h : isBlankChar a = true <;> simp [h, ih]

/-- What trims to nothing is blank throughout. -/
theorem trim_eq_empty_iff (s : String) : trim s = "" ↔ isBlank s = true := by
  rw [trim, String.ofList_eq_empty_iff, trimEnd, List.reverse_eq_nil_iff, dropWhile_eq_nil,
    List.all_reverse, isBlank]
  constructor
  · intro h
    rw [← dropWhile_eq_nil] at h ⊢
    rw [← dropWhile_eq_self_of_head (dropWhile_head_not_blank s.toList)]
    exact h
  · intro h
    rw [trimStart, dropWhile_eq_nil.2 h]
    rfl

end Admission.Text
