import Admission.Net.Url
import Admission.Proofs.Text.Split

/-!
# Addresses on this machine

The address of a service on this machine, with any path behind it, is read as a URL of that service.
Of the path only what counts is kept: not the blanks and controls at its end, nor tabs and line ends
anywhere, nor what follows a question mark or a hash.  The rest is cut at slashes and backslashes
into segments, of which dot segments are carried out and the others are percent-coded.

## Main results

* `ofText?_local`: the URL that an address on this machine is read as.
* `pathPart_eq_self_iff`: when the whole of a path is kept.
* `mem_readSegments`: what the segments of a path are.
-/

namespace Admission.Net.Url

open Admission.Text

/-! ## What is kept of a path -/

/-- What counts at the end of a text. -/
def significantEnd (cs : List Char) : List Char :=
  (cs.reverse.dropWhile isPadding).reverse.filter fun c => c != '\t' && c != '\n' && c != '\r'

/-- What counts of a path. -/
def pathPart (cs : List Char) : List Char :=
  (splitFirst '?' (splitFirst '#' (significantEnd cs)).1).1

/-- The query behind a path. -/
def queryPart (cs : List Char) : Option (List Char) :=
  (splitFirst '?' (splitFirst '#' (significantEnd cs)).1).2.map (encodeChars (inQuerySet true))

/-- The fragment behind a path. -/
def fragmentPart (cs : List Char) : Option (List Char) :=
  (splitFirst '#' (significantEnd cs)).2.map (encodeChars inFragmentSet)

/-- A character that has no part in cutting a text to what counts. -/
def isPlainChar (c : Char) : Bool := !isPadding c && c != '?' && c != '#'

theorem dropWhile_append_of_head {α : Type} {p : α → Bool} {ys : List α}
    (h : ys.dropWhile p = ys) (xs : List α) :
    (xs ++ ys).dropWhile p = xs.dropWhile p ++ ys := by
  rw [List.dropWhile_append]
  split
  · next hEmpty =>
    rw [h, List.isEmpty_iff.1 hEmpty, List.nil_append]
  · rfl

theorem filter_of_isPlainChar {as : List Char} (h : ∀ c ∈ as, isPlainChar c = true) :
    (as.filter fun c => c != '\t' && c != '\n' && c != '\r') = as := by
  rw [List.filter_eq_self]
  intro c hc
  have hPlain := h c hc
  simp only [isPlainChar, isPadding, Bool.and_eq_true, Bool.not_eq_true',
    decide_eq_false_iff_not] at hPlain
  simp only [Bool.and_eq_true, bne_iff_ne]
  refine ⟨⟨?_, ?_⟩, ?_⟩ <;> rintro rfl <;> exact hPlain.1.1 (by decide)

theorem dropWhile_isPadding_of_isPlainChar {as : List Char}
    (h : ∀ c ∈ as, isPlainChar c = true) : as.dropWhile isPadding = as := by
  match as with
  | [] => rfl
  | c :: cs =>
      have hPlain := h c List.mem_cons_self
      simp only [isPlainChar, Bool.and_eq_true, Bool.not_eq_true'] at hPlain
      exact List.dropWhile_cons_of_neg (by rw [hPlain.1.1]; decide)

theorem significantEnd_append {as : List Char} (h : ∀ c ∈ as, isPlainChar c = true)
    (cs : List Char) : significantEnd (as ++ cs) = as ++ significantEnd cs := by
  have hReverse := dropWhile_isPadding_of_isPlainChar fun c hc => h c (List.mem_reverse.1 hc)
  rw [significantEnd, List.reverse_append, dropWhile_append_of_head hReverse, List.reverse_append,
    List.reverse_reverse, List.filter_append, filter_of_isPlainChar h, significantEnd]

theorem significant_append {a : Char} {as : List Char} (h : ∀ c ∈ a :: as, isPlainChar c = true)
    (cs : List Char) : significant (a :: as ++ cs) = a :: as ++ significantEnd cs := by
  have hFront : (a :: as ++ cs).dropWhile isPadding = a :: as ++ cs := by
    have hHead := h a List.mem_cons_self
    simp only [isPlainChar, Bool.and_eq_true, Bool.not_eq_true'] at hHead
    exact List.dropWhile_cons_of_neg (by rw [hHead.1.1]; decide)
  have hEnds := significantEnd_append h cs
  rw [significantEnd] at hEnds
  rw [significant]
  simp only [hFront]
  exact hEnds

theorem not_mem_of_isPlainChar {as : List Char} (h : ∀ c ∈ as, isPlainChar c = true) :
    '#' ∉ as ∧ '?' ∉ as :=
  ⟨fun hc => absurd (h _ hc) (by decide), fun hc => absurd (h _ hc) (by decide)⟩

/-- A front of plain characters is kept. -/
theorem pathPart_append {as : List Char} (h : ∀ c ∈ as, isPlainChar c = true) (cs : List Char) :
    pathPart (as ++ cs) = as ++ pathPart cs := by
  obtain ⟨hHash, hMark⟩ := not_mem_of_isPlainChar h
  rw [pathPart, significantEnd_append h, splitFirst_append hHash, splitFirst_append hMark, pathPart]

theorem queryPart_append {as : List Char} (h : ∀ c ∈ as, isPlainChar c = true) (cs : List Char) :
    queryPart (as ++ cs) = queryPart cs := by
  obtain ⟨hHash, hMark⟩ := not_mem_of_isPlainChar h
  rw [queryPart, significantEnd_append h, splitFirst_append hHash, splitFirst_append hMark,
    queryPart]

theorem fragmentPart_append {as : List Char} (h : ∀ c ∈ as, isPlainChar c = true)
    (cs : List Char) : fragmentPart (as ++ cs) = fragmentPart cs := by
  obtain ⟨hHash, -⟩ := not_mem_of_isPlainChar h
  rw [fragmentPart, significantEnd_append h, splitFirst_append hHash, fragmentPart]

theorem dropEnd_sublist (cs : List Char) :
    ((cs.reverse.dropWhile isPadding).reverse).Sublist cs := by
  have hSuffix := List.dropWhile_suffix isPadding (l := cs.reverse)
  have hFront := List.reverse_prefix.2 hSuffix
  rw [List.reverse_reverse] at hFront
  exact hFront.sublist

/-- What is kept is a part of the path. -/
theorem significantEnd_sublist (cs : List Char) : (significantEnd cs).Sublist cs :=
  List.filter_sublist.trans (dropEnd_sublist cs)

theorem pathPart_sublist (cs : List Char) : (pathPart cs).Sublist cs :=
  ((splitFirst_prefix_self _ _).sublist.trans (splitFirst_prefix_self _ _).sublist).trans
    (significantEnd_sublist cs)

/-- A path that is kept as a whole: no mark ends it early, no tab or line end stands in it, and its
last character counts. -/
structure IsKept (cs : List Char) : Prop where
  no_mark : ∀ c ∈ cs, c ≠ '?' ∧ c ≠ '#' ∧ c ≠ '\t' ∧ c ≠ '\n' ∧ c ≠ '\r'
  last_counts : ∀ c ∈ cs.getLast?, isPadding c = false

/-- Nothing is dropped at the end of a text if its last character stays. -/
theorem reverse_dropWhile_eq_self_iff {p : Char → Bool} {cs : List Char} :
    (cs.reverse.dropWhile p).reverse = cs ↔ ∀ c ∈ cs.getLast?, p c = false := by
  rw [List.reverse_eq_iff, ← List.head?_reverse]
  cases cs.reverse with
  | nil => simp
  | cons d ds =>
      cases hd : p d with
      | false => simp [hd]
      | true =>
          rw [List.dropWhile_cons_of_pos hd]
          constructor
          · intro h
            have hLe := (List.dropWhile_sublist p (l := ds)).length_le
            rw [h, List.length_cons] at hLe
            omega
          · intro h
            have hLast := h d rfl
            rw [hd] at hLast
            cases hLast

theorem significantEnd_eq_self_iff {cs : List Char} :
    significantEnd cs = cs ↔
      (∀ c ∈ cs, c ≠ '\t' ∧ c ≠ '\n' ∧ c ≠ '\r') ∧ ∀ c ∈ cs.getLast?, isPadding c = false := by
  have hMark : ∀ c : Char, (c != '\t' && c != '\n' && c != '\r') = true ↔
      c ≠ '\t' ∧ c ≠ '\n' ∧ c ≠ '\r' := by
    simp [and_assoc]
  rw [← reverse_dropWhile_eq_self_iff, significantEnd]
  constructor
  · intro h
    -- filtering and dropping both leave a part, so neither took anything away
    have hWhole : (cs.reverse.dropWhile isPadding).reverse = cs := by
      apply (dropEnd_sublist cs).eq_of_length_le
      have hLength := congrArg List.length h
      have hFilter := List.length_filter_le (fun c => c != '\t' && c != '\n' && c != '\r')
        (cs.reverse.dropWhile isPadding).reverse
      omega
    rw [hWhole, List.filter_eq_self] at h
    exact ⟨fun c hc => (hMark c).1 (h c hc), hWhole⟩
  · rintro ⟨hMarks, hWhole⟩
    rw [hWhole, List.filter_eq_self]
    exact fun c hc => (hMark c).2 (hMarks c hc)

/-- When the whole of a path is kept. -/
theorem pathPart_eq_self_iff {cs : List Char} : pathPart cs = cs ↔ IsKept cs := by
  have hSub := significantEnd_sublist cs
  have hMark := (splitFirst_prefix_self '?' (splitFirst '#' (significantEnd cs)).1).sublist
  have hHash := (splitFirst_prefix_self '#' (significantEnd cs)).sublist
  constructor
  · intro h
    rw [pathPart] at h
    have hLength := congrArg List.length h
    have hEnd := hSub.eq_of_length_le (by
      have h1 := hMark.length_le
      have h2 := hHash.length_le
      omega)
    rw [hEnd] at h hMark hHash
    have hFirst := hHash.eq_of_length_le (by
      have h1 := hMark.length_le
      rw [h] at h1
      exact h1)
    rw [hFirst] at h
    obtain ⟨hMarks, hLast⟩ := significantEnd_eq_self_iff.1 hEnd
    refine ⟨fun c hc => ⟨?_, ?_, hMarks c hc⟩, hLast⟩
    · rintro rfl
      exact splitFirst_fst_eq_self_iff.1 h hc
    · rintro rfl
      exact splitFirst_fst_eq_self_iff.1 hFirst hc
  · rintro ⟨hMarks, hLast⟩
    have hEnd := significantEnd_eq_self_iff.2 ⟨fun c hc => (hMarks c hc).2.2, hLast⟩
    have hFirst : splitFirst '#' cs = (cs, none) :=
      splitFirst_of_not_mem fun hc => (hMarks _ hc).2.1 rfl
    rw [pathPart, hEnd, hFirst, splitFirst_of_not_mem fun hc => (hMarks _ hc).1 rfl]

/-- Nothing stands behind a path that is kept as a whole. -/
theorem IsKept.parts {cs : List Char} (h : IsKept cs) :
    queryPart cs = none ∧ fragmentPart cs = none := by
  have hEnd := significantEnd_eq_self_iff.2 ⟨fun c hc => (h.no_mark c hc).2.2, h.last_counts⟩
  have hFirst : splitFirst '#' cs = (cs, none) :=
    splitFirst_of_not_mem fun hc => (h.no_mark _ hc).2.1 rfl
  rw [queryPart, fragmentPart, hEnd, hFirst,
    splitFirst_of_not_mem fun hc => (h.no_mark _ hc).1 rfl]
  exact ⟨rfl, rfl⟩

/-! ## Segments -/

/-- One piece takes segments away or adds an empty one, or it is percent-coded and added. -/
theorem addSegments_cons (done : List (List Char)) (q : List Char) (qs : List (List Char)) :
    ∃ done', addSegments done (q :: qs) = addSegments done' qs ∧
      ∀ s ∈ done', s ∈ done ∨ s = [] ∨
        isSingleDot q = false ∧ isDoubleDot q = false ∧ s = encodeChars inPathSet q := by
  have hEnd : ∀ s ∈ (if qs.isEmpty then [[]] else [] : List (List Char)), s = [] := by
    intro s hs
    split at hs
    · exact List.mem_singleton.1 hs
    · exact absurd hs List.not_mem_nil
  rw [addSegments]
  by_cases hDouble : isDoubleDot q = true
  · rw [if_pos hDouble]
    refine ⟨_, rfl, fun s hs => ?_⟩
    rcases List.mem_append.1 hs with hs | hs
    · unfold goUp at hs
      split at hs
      · exact .inl hs
      · exact .inl (List.dropLast_subset _ hs)
    · exact .inr (.inl (hEnd s hs))
  · rw [if_neg hDouble]
    by_cases hSingle : isSingleDot q = true
    · rw [if_pos hSingle]
      refine ⟨_, rfl, fun s hs => ?_⟩
      exact (List.mem_append.1 hs).imp_right fun hs => .inl (hEnd s hs)
    · rw [if_neg hSingle]
      refine ⟨_, rfl, fun s hs => ?_⟩
      refine (List.mem_append.1 hs).imp_right fun hs => .inr ⟨?_, ?_, List.mem_singleton.1 hs⟩
      · simpa using hSingle
      · simpa using hDouble

/-- A segment is empty or percent-coded from a piece that is no dot segment, or it was there. -/
theorem mem_addSegments {done ss : List (List Char)} {s : List Char}
    (h : s ∈ addSegments done ss) :
    s ∈ done ∨ s = [] ∨
      ∃ q ∈ ss, isSingleDot q = false ∧ isDoubleDot q = false ∧ s = encodeChars inPathSet q := by
  induction ss generalizing done with
  | nil => exact .inl h
  | cons q qs ih =>
      obtain ⟨done', hEq, hDone⟩ := addSegments_cons done q qs
      rw [hEq] at h
      rcases ih h with hs | hs | ⟨q', hq', hs⟩
      · rcases hDone s hs with hs | hs | hs
        · exact .inl hs
        · exact .inr (.inl hs)
        · exact .inr (.inr ⟨q, List.mem_cons_self, hs⟩)
      · exact .inr (.inl hs)
      · exact .inr (.inr ⟨q', List.mem_cons_of_mem q hq', hs⟩)

/-- The segments of a path are empty or percent-coded from its pieces. -/
theorem mem_readSegments {isSpecial : Bool} {cs s : List Char}
    (h : s ∈ readSegments isSpecial cs) :
    s = [] ∨ ∃ q ∈ pieces (isSlash isSpecial) cs,
      isSingleDot q = false ∧ isDoubleDot q = false ∧ s = encodeChars inPathSet q :=
  (mem_addSegments h).resolve_left List.not_mem_nil

/-- There is always a segment. -/
theorem addSegments_cons_ne_nil (done : List (List Char)) (s : List Char) (ss : List (List Char)) :
    addSegments done (s :: ss) ≠ [] := by
  induction ss generalizing done s with
  | nil =>
      rw [addSegments]
      split
      · simp [addSegments]
      · split <;> simp [addSegments]
  | cons t ts ih =>
      rw [addSegments]
      split
      · exact ih _ t
      · split
        · exact ih _ t
        · exact ih _ t

theorem readSegments_ne_nil (isSpecial : Bool) (cs : List Char) :
    readSegments isSpecial cs ≠ [] := by
  obtain ⟨p, ps, hp⟩ := List.exists_cons_of_ne_nil (pieces_ne_nil (isSlash isSpecial) cs)
  rw [readSegments, hp]
  exact addSegments_cons_ne_nil [] p ps

/-- Pieces that are no dot segments are percent-coded, each for itself. -/
theorem addSegments_of_not_dots {done ss : List (List Char)}
    (h : ∀ s ∈ ss, isSingleDot s = false ∧ isDoubleDot s = false) :
    addSegments done ss = done ++ ss.map (encodeChars inPathSet) := by
  induction ss generalizing done with
  | nil => rw [addSegments, List.map_nil, List.append_nil]
  | cons s ss ih =>
      obtain ⟨hSingle, hDouble⟩ := h s List.mem_cons_self
      rw [addSegments, hDouble, hSingle]
      simp only [Bool.false_eq_true, if_false]
      rw [ih fun t ht => h t (List.mem_cons_of_mem s ht), List.map_cons, List.append_assoc]
      rfl

/-! ## Addresses -/

/-- The address of a service on this machine at a port. -/
def localBase (port : Nat) : String := "http://127.0.0.1:" ++ String.ofList (Nat.toDigits 10 port)

/-- The name of this machine. -/
def localHost4 : List Char := "127.0.0.1".toList

/-- A URL of a service on this machine. -/
def localUrl (port : Nat) (ss : List (List Char)) (query fragment : Option (List Char)) : Url where
  scheme := "http".toList
  username := []
  password := []
  host := some localHost4
  port := if port = 80 then none else some port
  path := .segments ss
  query := query
  fragment := fragment

theorem isDigit_of_mem_digits {port : Nat} : ∀ c ∈ Nat.toDigits 10 port, c.isDigit = true :=
  fun _ hc => Nat.isDigit_of_mem_toDigits (by decide) (by decide) hc

theorem not_endsAuthority_of_isDigit {c : Char} (h : c.isDigit = true) :
    endsAuthority true c = false ∧ c ≠ '@' ∧ isPlainChar c = true := by
  have hBounds : 48 ≤ c.toNat ∧ c.toNat ≤ 57 := Char.isDigit_iff_toNat.1 h
  have hNe : ∀ d : Char, d.isDigit = false → c ≠ d := by
    rintro d hd rfl
    rw [h] at hd
    cases hd
  have hPad : isPadding c = false := by
    simp only [isPadding, decide_eq_false_iff_not]
    omega
  refine ⟨?_, hNe '@' (by decide), ?_⟩
  · simp [endsAuthority, isSlash, hNe '/' (by decide), hNe '\\' (by decide), hNe '?' (by decide),
      hNe '#' (by decide)]
  · simp [isPlainChar, hPad, hNe '?' (by decide), hNe '#' (by decide)]

theorem readHost?_localHost4 : readHost? localHost4 = some localHost4 := by decide +kernel

/-- A port is read up to the path. -/
theorem readPort?_digits {port : Nat} (hPort : port < 0x10000) (cs : List Char) :
    readPort? (Nat.toDigits 10 port ++ '/' :: cs) = some (some port, '/' :: cs) := by
  have hDigits : (Nat.toDigits 10 port ++ '/' :: cs).takeWhile Char.isDigit =
      Nat.toDigits 10 port := by
    rw [List.takeWhile_append_of_pos isDigit_of_mem_digits,
      List.takeWhile_cons_of_neg (by decide), List.append_nil]
  have hNonempty : (Nat.toDigits 10 port).isEmpty = false :=
    List.isEmpty_eq_false_iff.2 Nat.toDigits_ne_nil
  simp only [readPort?, hDigits, List.drop_left, digitsValue_toDigits, hNonempty]
  simp [endsAuthority, isSlash, hPort]

/-- An authority on this machine has no name before the host. -/
theorem splitUser_local (port : Nat) (cs : List Char) :
    splitUser true (localHost4 ++ ':' :: (Nat.toDigits 10 port ++ '/' :: cs)) =
      (none, localHost4 ++ ':' :: (Nat.toDigits 10 port ++ '/' :: cs)) := by
  have hChar : ∀ c ∈ localHost4 ++ ':' :: Nat.toDigits 10 port,
      (!endsAuthority true c) = true ∧ c ≠ '@' := by
    intro c hc
    rcases List.mem_append.1 hc with hc | hc
    · have hAll : localHost4.all (fun c => !endsAuthority true c && c != '@') = true := by decide
      have hBoth := List.all_eq_true.1 hAll c hc
      rwa [Bool.and_eq_true, bne_iff_ne] at hBoth
    · rcases List.mem_cons.1 hc with rfl | hc
      · decide
      · obtain ⟨hEnds, hAt, -⟩ := not_endsAuthority_of_isDigit (isDigit_of_mem_digits c hc)
        exact ⟨by rw [hEnds]; rfl, hAt⟩
  have hAuthority : (localHost4 ++ ':' :: (Nat.toDigits 10 port ++ '/' :: cs)).takeWhile
      (fun c => !endsAuthority true c) = localHost4 ++ ':' :: Nat.toDigits 10 port := by
    have hAssoc : localHost4 ++ ':' :: (Nat.toDigits 10 port ++ '/' :: cs) =
        (localHost4 ++ ':' :: Nat.toDigits 10 port) ++ '/' :: cs := by simp
    rw [hAssoc, List.takeWhile_append_of_pos fun c hc => (hChar c hc).1,
      List.takeWhile_cons_of_neg (by decide), List.append_nil]
  have hNone : splitLast? '@' (localHost4 ++ ':' :: Nat.toDigits 10 port) = none := by
    rw [splitLast?, if_neg]
    intro hAt
    exact (hChar '@' (List.contains_iff_mem.1 hAt)).2 rfl
  simp only [splitUser, hAuthority, hNone]

/-- What follows the slashes of an address on this machine. -/
def localRest (port : Nat) (cs : List Char) : List Char :=
  localHost4 ++ ':' :: (Nat.toDigits 10 port ++ '/' :: cs)

theorem ofAuthority?_local {port : Nat} (hPort : port < 0x10000) {base : Url}
    (hScheme : base.scheme = "http".toList) (cs : List Char) :
    ofAuthority? base (localRest port cs) = some { base with
      username := []
      password := []
      host := some localHost4
      port := if port = 80 then none else some port
      path := .segments (readSegments true cs) } := by
  have hSpecial : isSpecialScheme base.scheme = true := by
    rw [hScheme]
    decide
  have hDefault : defaultPort? base.scheme = some 80 := by
    rw [hScheme]
    decide
  have hHost : splitHost true false (localRest port cs) =
      (localHost4, ':' :: (Nat.toDigits 10 port ++ '/' :: cs)) := rfl
  have hUser : splitUser true (localRest port cs) = (none, localRest port cs) :=
    splitUser_local port cs
  have hEmpty : localHost4.isEmpty = false := rfl
  have hPath : readPath true ('/' :: cs) = .segments (readSegments true cs) := rfl
  have hName : encodeChars inUserSet (splitFirst ':' []).1 = [] := rfl
  have hPassword : encodeChars inUserSet ((splitFirst ':' []).2.getD []) = [] := rfl
  simp only [ofAuthority?, hSpecial, hUser, hHost, hEmpty, Option.getD_none, hName, hPassword,
    readHost?_localHost4, readPort?_digits hPort, hDefault, hPath, Option.bind_eq_bind,
    Option.bind_some, Bool.false_eq_true, if_false, if_true, Option.pure_def, Option.some.injEq]

theorem ofRest?_http {base : Url} (hScheme : base.scheme = "http".toList) (cs : List Char) :
    ofRest? base cs = ofAuthority? base (cs.dropWhile (isSlash true)) := by
  have hSpecial : isSpecialScheme "http".toList = true := by decide
  unfold ofRest?
  rw [hScheme, if_neg (by decide), if_pos hSpecial]

/-- What stands between the scheme of an address on this machine and its path. -/
def localFront (port : Nat) : List Char :=
  '/' :: '/' :: localHost4 ++ ':' :: Nat.toDigits 10 port ++ ['/']

theorem toList_localBase (port : Nat) (cs : List Char) :
    (localBase port ++ String.ofList ('/' :: cs)).toList =
      'h' :: ("ttp:".toList ++ localFront port) ++ cs := by
  have hDigits : (String.ofList (Nat.toDigits 10 port)).toList = Nat.toDigits 10 port :=
    String.toList_ofList
  have hPath : (String.ofList ('/' :: cs)).toList = '/' :: cs := String.toList_ofList
  show ("http://127.0.0.1:" ++ String.ofList (Nat.toDigits 10 port) ++ _).toList = _
  rw [String.toList_append, String.toList_append, hDigits, hPath]
  show "http://127.0.0.1:".toList ++ _ ++ _ =
    ("http://127.0.0.1:".toList ++ (Nat.toDigits 10 port ++ ['/'])) ++ cs
  simp only [List.append_assoc, List.cons_append, List.nil_append]

theorem isPlainChar_localFront (port : Nat) :
    ∀ c ∈ 'h' :: ("ttp:".toList ++ localFront port), isPlainChar c = true := by
  have hName : "http://127.0.0.1:".toList.all isPlainChar = true := by decide
  have hDigits : ∀ c ∈ Nat.toDigits 10 port, isPlainChar c = true := fun c hc =>
    (not_endsAuthority_of_isDigit (isDigit_of_mem_digits c hc)).2.2
  intro c hc
  have hc : c ∈ "http://127.0.0.1:".toList ++ (Nat.toDigits 10 port ++ ['/']) := hc
  rcases List.mem_append.1 hc with hc | hc
  · exact List.all_eq_true.1 hName c hc
  · rcases List.mem_append.1 hc with hc | hc
    · exact hDigits c hc
    · rw [List.mem_singleton.1 hc]
      decide

/-- The URL that an address on this machine is read as. -/
theorem ofText?_local {port : Nat} (hPort : port < 0x10000) (cs : List Char) :
    ofText? (localBase port ++ String.ofList ('/' :: cs)) =
      some (localUrl port (readSegments true (pathPart cs)) (queryPart cs) (fragmentPart cs)) := by
  have hPlain := isPlainChar_localFront port
  obtain ⟨hHash, hMark⟩ := not_mem_of_isPlainChar fun c hc =>
    hPlain c (List.mem_cons_of_mem _ (List.mem_append_right _ hc))
  have hScheme : ∀ ds : List Char, splitScheme? ('h' :: ("ttp:".toList ++ localFront port) ++ ds) =
      some ("http".toList, localFront port ++ ds) := fun _ => rfl
  have hSlashes : ∀ ds : List Char,
      (localFront port ++ ds).dropWhile (isSlash true) = localRest port ds := by
    intro ds
    show localHost4 ++ ':' :: (Nat.toDigits 10 port ++ ['/'] ++ ds) = _
    rw [List.append_assoc]
    rfl
  rw [ofText?, toList_localBase, significant_append hPlain, hScheme]
  simp only [Option.bind_eq_bind, Option.bind_some, splitFirst_append hHash,
    splitFirst_append hMark]
  rw [ofRest?_http rfl, hSlashes, ofAuthority?_local hPort rfl]
  rfl

end Admission.Net.Url
