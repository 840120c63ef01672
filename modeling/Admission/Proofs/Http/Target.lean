import Admission.Http.Endpoint
import Admission.Proofs.Net.Url
import Admission.Proofs.Text.Bytes
import Admission.Proofs.Text.Percent

/-!
# Paths of addresses as targets

The segments of a URL are percent-coded so that the path they make up is a target as it stands, and
so is the address of a service on this machine with such a path.  What stands behind the path of a
target does not count.

## Main results

* `segmentId?_segmentBytes`: the id that a segment stands for.
* `targetPath?_text`, `targetPath?_target`: the path of an address and of its target.
* `path_eq_of_targetPath?`: whatever the query, the path is that of the segments.
-/

namespace Admission.Http

open Admission.Net Admission.Net.Url Admission.Text

/-! ## Coded segments -/

/-- The bytes of a percent-coded segment. -/
def segmentBytes (cs : List Char) : List UInt8 := percentEncode inPathSet (utf8Chars cs)

theorem sparesTriples_inPathSet : SparesTriples inPathSet :=
  forall_byte (by decide +kernel)

theorem isPathByte_of_not_inPathSet :
    ∀ b, inPathSet b = false → (isPathByte b && decide (b < 0x80)) = true :=
  forall_byte (by decide +kernel)

theorem isPathByte_percentTriple :
    ∀ b, (percentTriple b).all (fun b => isPathByte b && decide (b < 0x80)) = true :=
  forall_byte (by decide +kernel)

theorem slash_not_mem_percentTriple : ∀ b, 0x2F ∉ percentTriple b :=
  forall_byte (by decide +kernel)

/-- The bytes of a segment may stand in a path, and are ASCII. -/
theorem isPathByte_of_mem_segmentBytes {cs : List Char} :
    ∀ b ∈ segmentBytes cs, isPathByte b = true ∧ b < 0x80 := by
  have hAll := all_percentEncode isPathByte_of_not_inPathSet isPathByte_percentTriple (utf8Chars cs)
  intro b hb
  have hByte := List.all_eq_true.1 hAll b hb
  simpa using hByte

theorem utf8Chars_encodeChars (cs : List Char) :
    utf8Chars (encodeChars inPathSet cs) = segmentBytes cs :=
  utf8Chars_map_ofNat fun b hb => (isPathByte_of_mem_segmentBytes b hb).2

/-- A segment has a slash only if it had one before it was coded. -/
theorem slash_not_mem_segmentBytes {cs : List Char} (h : '/' ∉ cs) : 0x2F ∉ segmentBytes cs := by
  intro hMem
  obtain ⟨b, hb, hSlash⟩ := List.mem_flatMap.1 hMem
  split at hSlash
  · exact slash_not_mem_percentTriple b hSlash
  · rw [List.mem_singleton] at hSlash
    subst hSlash
    exact h (ofNat_mem_of_mem_utf8Chars (by decide) hb)

theorem utf8Chars_ne_nil {cs : List Char} (h : cs ≠ []) : utf8Chars cs ≠ [] := by
  intro hNil
  exact h (utf8Chars_injective hNil)

theorem segmentBytes_ne_nil {cs : List Char} (h : cs ≠ []) : segmentBytes cs ≠ [] := by
  obtain ⟨b, bs, hb⟩ := List.exists_cons_of_ne_nil (utf8Chars_ne_nil h)
  rw [segmentBytes, hb, percentEncode_cons]
  split <;> simp [percentTriple]

/-- What a segment is decoded to is what the text is decoded to. -/
theorem percentDecode_segmentBytes (cs : List Char) :
    percentDecode (segmentBytes cs) = percentDecode (utf8Chars cs) :=
  percentDecode_percentEncode sparesTriples_inPathSet _

/-- A text that decoding leaves alone is the id that its segment stands for. -/
theorem segmentId?_segmentBytes {id : String} (h : percentDecode (utf8 id) = utf8 id) :
    segmentId? (segmentBytes id.toList) = some id := by
  have hDecode : percentDecode (segmentBytes id.toList) = utf8 id := by
    rw [percentDecode_segmentBytes]
    exact h
  rw [segmentId?, hDecode, text?_utf8]

/-- Nothing that a segment stands for is longer than the text that it was coded from. -/
theorem length_le_of_segmentId? {cs : List Char} {id : String}
    (h : segmentId? (segmentBytes cs) = some id) : (utf8 id).length ≤ (utf8Chars cs).length := by
  rw [segmentId?, percentDecode_segmentBytes, text?_eq_some_iff] at h
  rw [← h]
  exact length_percentDecode_le _

/-! ## Targets -/

/-- Bytes that make up a path. -/
structure IsPath (bs : List UInt8) : Prop where
  slash : bs.head? = some 0x2F
  path_bytes : ∀ b ∈ bs, isPathByte b = true

theorem IsPath.exists_cons {bs : List UInt8} (h : IsPath bs) : ∃ rest, bs = 0x2F :: rest := by
  match bs, h.slash with
  | b :: rest, hb => exact ⟨rest, by rw [Option.some.inj hb]⟩

theorem not_mark_of_isPathByte : ∀ b, isPathByte b = true → b ≠ 0x23 ∧ b ≠ 0x3F :=
  forall_byte (by decide +kernel)

theorem takeWhile_ne_append_of_isPath {mark : UInt8} (hMark : mark = 0x23 ∨ mark = 0x3F)
    {bs : List UInt8} (h : IsPath bs) (rest : List UInt8) :
    (bs ++ rest).takeWhile (· != mark) = bs ++ rest.takeWhile (· != mark) := by
  apply List.takeWhile_append_of_pos
  intro b hb
  obtain ⟨hHash, hQuery⟩ := not_mark_of_isPathByte b (h.path_bytes b hb)
  rw [bne_iff_ne]
  rcases hMark with rfl | rfl
  · exact hHash
  · exact hQuery

/-- What stands behind a path from a question mark on does not count. -/
theorem path_eq_of_readPath? {bs rest path : List UInt8} (h : IsPath bs)
    (hRest : ∀ b ∈ rest.head?, b = 0x3F) (hRead : readPath? (bs ++ rest) = some path) :
    path = bs := by
  have hNone : (rest.takeWhile (· != 0x23)).takeWhile (· != 0x3F) = [] := by
    match rest, hRest with
    | [], _ => rfl
    | b :: bs, hRest =>
        rw [hRest b rfl, List.takeWhile_cons_of_pos (by decide),
          List.takeWhile_cons_of_neg (by decide)]
  have hPath : ((bs ++ rest).takeWhile (· != 0x23)).takeWhile (· != 0x3F) = bs := by
    rw [takeWhile_ne_append_of_isPath (.inl rfl) h, takeWhile_ne_append_of_isPath (.inr rfl) h,
      hNone, List.append_nil]
  have hNonempty : bs.isEmpty = false := by
    obtain ⟨rest, rfl⟩ := h.exists_cons
    rfl
  simp only [readPath?, hPath, hNonempty, Bool.false_eq_true, if_false] at hRead
  split at hRead
  · exact (Option.some.inj hRead).symm
  · cases hRead

/-- A path is read as it stands. -/
theorem readPath?_of_isPath {bs : List UInt8} (h : IsPath bs) : readPath? bs = some bs := by
  have hMark : ∀ mark : UInt8, mark = 0x23 ∨ mark = 0x3F → bs.takeWhile (· != mark) = bs := by
    intro mark hMark
    have hTake := takeWhile_ne_append_of_isPath hMark h []
    simpa using hTake
  have hNonempty : bs.isEmpty = false := by
    obtain ⟨rest, rfl⟩ := h.exists_cons
    rfl
  have hAll : bs.all isPathByte = true := List.all_eq_true.2 h.path_bytes
  simp [readPath?, hMark 0x23 (.inl rfl), hMark 0x3F (.inr rfl), hNonempty, hAll]

/-- The bytes of a path of segments. -/
def pathBytes (ss : List (List Char)) : List UInt8 := utf8Chars (Url.Path.segments ss).chars

theorem pathBytes_cons (s : List Char) (ss : List (List Char)) :
    pathBytes (s :: ss) = 0x2F :: utf8Chars s ++ pathBytes ss := by
  rw [pathBytes, Url.Path.chars, List.flatMap_cons, utf8Chars_append, utf8Chars_cons,
    utf8EncodeChar_of_lt (by decide), pathBytes, Url.Path.chars]
  rfl

/-- Segments that are empty or percent-coded. -/
def AreCoded (ss : List (List Char)) : Prop :=
  ∀ s ∈ ss, s = [] ∨ ∃ q, s = encodeChars inPathSet q

theorem isPath_pathBytes {ss : List (List Char)} (hNe : ss ≠ []) (hss : AreCoded ss) :
    IsPath (pathBytes ss) where
  slash := by
    obtain ⟨s, ss, rfl⟩ := List.exists_cons_of_ne_nil hNe
    rw [pathBytes_cons]
    rfl
  path_bytes := by
    clear hNe
    induction ss with
    | nil => exact fun _ h => absurd h List.not_mem_nil
    | cons s ss ih =>
        intro b hb
        rw [pathBytes_cons, List.cons_append] at hb
        rcases List.mem_cons.1 hb with rfl | hb
        · decide
        · rcases List.mem_append.1 hb with hb | hb
          · rcases hss s List.mem_cons_self with rfl | ⟨q, rfl⟩
            · exact absurd hb List.not_mem_nil
            · rw [utf8Chars_encodeChars] at hb
              exact (isPathByte_of_mem_segmentBytes b hb).1
          · exact ih (fun t ht => hss t (List.mem_cons_of_mem s ht)) b hb

theorem targetPath?_of_slash {target : String} {bs : List UInt8}
    (h : utf8 target = 0x2F :: bs) :
    targetPath? target =
      if maxTargetLength < (utf8 target).length then none else readPath? (utf8 target) := by
  simp only [targetPath?, h]

/-! ## The authority of a service on this machine -/

theorem next?_of_digit (s : AuthorityScan) {b : UInt8} (h : 0x30 ≤ b ∧ b ≤ 0x39) :
    s.next? b = some { s with endsInAt := false } := by
  have hByte : ∀ b : UInt8, 0x30 ≤ b ∧ b ≤ 0x39 →
      b ≠ 0x3A ∧ b ≠ 0x5B ∧ b ≠ 0x5D ∧ b ≠ 0x40 ∧ b ≠ 0x25 ∧ isAuthorityByte b = true :=
    forall_byte (by decide +kernel)
  obtain ⟨h1, h2, h3, h4, h5, h6⟩ := hByte b h
  simp [AuthorityScan.next?, h1, h2, h3, h4, h5, h6]

theorem foldlM_next?_digits {s : AuthorityScan} (hs : s.endsInAt = false) {bs : List UInt8}
    (h : ∀ b ∈ bs, 0x30 ≤ b ∧ b ≤ 0x39) : bs.foldlM AuthorityScan.next? s = some s := by
  induction bs with
  | nil => rfl
  | cons b bs ih =>
      have hStay : { s with endsInAt := false } = s := by
        cases s
        cases hs
        rfl
      rw [List.foldlM_cons, next?_of_digit s (h b List.mem_cons_self), hStay]
      exact ih fun c hc => h c (List.mem_cons_of_mem b hc)

/-- The port of a service on this machine, with a colon, unless it goes without saying. -/
def portChars (port : Nat) : List Char := if port = 80 then [] else ':' :: Nat.toDigits 10 port

/-- The authority of a service on this machine. -/
def localAuthority (port : Nat) : List UInt8 := utf8Chars (localHost4 ++ portChars port)

theorem localAuthority_eq (port : Nat) : localAuthority port = utf8Chars localHost4 ++
    if port = 80 then [] else 0x3A :: utf8Chars (Nat.toDigits 10 port) := by
  rw [localAuthority, utf8Chars_append, portChars]
  split
  · rfl
  · rw [utf8Chars_cons, utf8EncodeChar_of_lt (by decide)]
    rfl

theorem isDigit_of_mem_portBytes {port : Nat} :
    ∀ b ∈ utf8Chars (Nat.toDigits 10 port), 0x30 ≤ b ∧ b ≤ 0x39 := by
  intro b hb
  obtain ⟨c, hc, hMem⟩ := List.mem_flatMap.1 hb
  have hBounds : 48 ≤ c.toNat ∧ c.toNat ≤ 57 :=
    Char.isDigit_iff_toNat.1 (isDigit_of_mem_digits c hc)
  rw [utf8EncodeChar_of_lt (by omega), List.mem_singleton] at hMem
  rw [hMem, UInt8.le_iff_toNat_le, UInt8.le_iff_toNat_le,
    UInt8.toNat_ofNat_of_lt' (show c.toNat < 256 by omega)]
  exact hBounds

/-- The authority ends where the path begins. -/
theorem splitAuthority?_local (port : Nat) {bs : List UInt8} (h : IsPath bs) :
    splitAuthority? (localAuthority port ++ bs) = some (localAuthority port, bs) := by
  have hEnds : ∀ b ∈ localAuthority port, (!endsAuthority b) = true := by
    have hDigit : ∀ b : UInt8, 0x30 ≤ b ∧ b ≤ 0x39 → (!endsAuthority b) = true :=
      forall_byte (by decide +kernel)
    intro b hb
    rw [localAuthority_eq] at hb
    rcases List.mem_append.1 hb with hb | hb
    · have hAll : (utf8Chars localHost4).all (fun b => !endsAuthority b) = true := by decide
      exact List.all_eq_true.1 hAll b hb
    · split at hb
      · exact absurd hb List.not_mem_nil
      · rcases List.mem_cons.1 hb with rfl | hb
        · decide
        · exact hDigit b (isDigit_of_mem_portBytes b hb)
  have hScan : (localAuthority port).foldlM AuthorityScan.next? {} =
      some ⟨if port = 80 then 0 else 1, false, false, false, false⟩ := by
    have hHost : (utf8Chars localHost4).foldlM AuthorityScan.next? {} = some {} := by decide
    rw [localAuthority_eq, List.foldlM_append, hHost]
    simp only [Option.bind_eq_bind, Option.bind_some]
    split
    · rfl
    · have hColon : AuthorityScan.next? {} 0x3A = some ⟨1, false, false, false, false⟩ := by decide
      rw [List.foldlM_cons, hColon]
      exact foldlM_next?_digits rfl isDigit_of_mem_portBytes
  have hTake : (localAuthority port ++ bs).takeWhile (fun b => !endsAuthority b) =
      localAuthority port := by
    obtain ⟨rest, hRest⟩ := h.exists_cons
    rw [List.takeWhile_append_of_pos hEnds, hRest, List.takeWhile_cons_of_neg (by decide),
      List.append_nil]
  have hFinal : (AuthorityScan.mk (if port = 80 then 0 else 1) false false false false).isFinal =
      true := by
    split <;> decide
  simp only [splitAuthority?, hTake, hScan, hFinal, if_true, List.drop_left]

/-! ## Addresses -/

theorem utf8_text_localUrl (port : Nat) (ss : List (List Char)) :
    utf8 (localUrl port ss none none).text =
      utf8 "http://" ++ (localAuthority port ++ pathBytes ss) := by
  have hChars : (localUrl port ss none none).chars =
      "http://".toList ++ (localHost4 ++ portChars port ++ (Url.Path.segments ss).chars) := by
    by_cases hPort : port = 80 <;>
      simp [Url.chars, localUrl, Url.userChars, Url.guardChars, Url.targetChars, portChars, hPort]
  rw [Url.text, utf8_ofList, hChars, utf8Chars_append, utf8Chars_append, ← pathBytes,
    localAuthority]
  rfl

theorem splitScheme?_http (rest : List UInt8) :
    splitScheme? (0x68 :: 0x74 :: 0x74 :: 0x70 :: 0x3A :: 0x2F :: 0x2F :: rest) = some (4, rest) :=
  rfl

/-- An address is read from behind its scheme on. -/
theorem targetPath?_http {target : String} {rest : List UInt8}
    (h : utf8 target = utf8 "http://" ++ rest) :
    targetPath? target =
      if maxTargetLength < (utf8 target).length then none
      else
        match splitAuthority? rest with
        | some ([], _) => none
        | some (_, rest) => readPath? rest
        | none => none := by
  have hBytes : utf8 target =
      0x68 :: 0x74 :: 0x74 :: 0x70 :: 0x3A :: 0x2F :: 0x2F :: rest := by
    rw [h]
    rfl
  simp only [targetPath?, hBytes, splitScheme?_http]
  rfl

/-- The path of an address on this machine. -/
theorem targetPath?_text {port : Nat} {ss : List (List Char)} (hNe : ss ≠ []) (hss : AreCoded ss)
    (hShort : (utf8 (localUrl port ss none none).text).length ≤ maxTargetLength) :
    targetPath? (localUrl port ss none none).text = some (pathBytes ss) := by
  have hPath := isPath_pathBytes hNe hss
  have hHost : localHost4 ≠ [] := by decide
  have hAuthority : localAuthority port ≠ [] :=
    utf8Chars_ne_nil (List.append_ne_nil_of_left_ne_nil hHost _)
  obtain ⟨b, bs, hb⟩ := List.exists_cons_of_ne_nil hAuthority
  have hSplit := splitAuthority?_local port hPath
  rw [targetPath?_http (utf8_text_localUrl port ss), if_neg (Nat.not_lt.2 hShort), hSplit, hb]
  exact readPath?_of_isPath hPath

/-- The path of the target of such an address. -/
theorem targetPath?_target {port : Nat} {ss : List (List Char)} (hNe : ss ≠ []) (hss : AreCoded ss)
    (hShort : (pathBytes ss).length ≤ maxTargetLength) :
    targetPath? (String.ofList (localUrl port ss none none).targetChars) = some (pathBytes ss) := by
  have hPath := isPath_pathBytes hNe hss
  have hTarget : utf8 (String.ofList (localUrl port ss none none).targetChars) = pathBytes ss := by
    rw [utf8_ofList, Url.targetChars, pathBytes]
    simp [localUrl]
  obtain ⟨rest, hRest⟩ := hPath.exists_cons
  rw [targetPath?_of_slash (hTarget.trans hRest), hTarget, if_neg (Nat.not_lt.2 hShort),
    readPath?_of_isPath hPath]

/-- Whatever the query, the path is that of the segments. -/
theorem path_eq_of_targetPath? {port : Nat} {ss : List (List Char)} (hNe : ss ≠ [])
    (hss : AreCoded ss) {query fragment : Option (List Char)} {path : List UInt8}
    (h : targetPath? (String.ofList (localUrl port ss query fragment).targetChars) = some path) :
    path = pathBytes ss := by
  have hPath := isPath_pathBytes hNe hss
  have hTarget : ∃ rest, (∀ b ∈ rest.head?, b = 0x3F) ∧
      utf8 (String.ofList (localUrl port ss query fragment).targetChars) =
        pathBytes ss ++ rest := by
    rw [utf8_ofList, Url.targetChars, utf8Chars_append]
    refine ⟨_, ?_, rfl⟩
    cases query with
    | none => exact fun b hb => absurd hb (by simp [localUrl])
    | some q =>
        intro b hb
        have hAscii : '?'.toNat < 0x80 := by decide
        simp only [localUrl, utf8Chars_cons, utf8EncodeChar_of_lt hAscii] at hb
        cases hb
        rfl
  obtain ⟨rest, hMark, hBytes⟩ := hTarget
  obtain ⟨bs, hbs⟩ := hPath.exists_cons
  have hSlash : utf8 (String.ofList (localUrl port ss query fragment).targetChars) =
      0x2F :: (bs ++ rest) := by
    rw [hBytes, hbs]
    rfl
  rw [targetPath?_of_slash hSlash] at h
  split at h
  · cases h
  · rw [hBytes] at h
    exact path_eq_of_readPath? hPath hMark h

end Admission.Http
