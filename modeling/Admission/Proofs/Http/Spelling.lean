import Admission.Proofs.Http.Endpoints
import Admission.Proofs.Http.Target

/-!
# The ways to spell an id in a path

Whoever puts an id into a path writes each of its bytes as a percent sign with two hexadecimal
digits, in either case, or leaves it as it is if it is a letter, a digit or one of four marks.  So
one id can be spelled in many ways, and each of them is a segment of a path: it has no slash, no
question mark and nothing else that ends a path or parts it.  Undoing the percent-coding once gives
back the bytes, whichever way they were spelled, and the bytes give back the id.

## Main results

* `Spells.percentDecode_eq`: a spelling is decoded to what it spells.
* `Writes.unique`, `exists_writes`: a spelling is that of one id, and every id has one.
* `ofParts?_get_eq_some_iff`: which look-ups by a spelling can be sent.
* `Gets.looksUp`: each of them looks up the id.
-/

namespace Admission.Http

open Admission.Text

/-! ## Spellings of bytes -/

/-- A byte that may be left as it is: a letter, a digit or one of `-`, `.`, `_` and `~`. -/
def isUnreserved (b : UInt8) : Bool :=
  (0x30 ≤ b && b ≤ 0x39) || (0x41 ≤ b && b ≤ 0x5A) || (0x61 ≤ b && b ≤ 0x7A) || b == 0x2D ||
    b == 0x2E || b == 0x5F || b == 0x7E

/-- The first bytes spell the second: each is left as it is, if it may be, or percent-coded. -/
inductive Spells : List UInt8 → List UInt8 → Prop where
  | nil : Spells [] []
  | literal {b : UInt8} {w bs : List UInt8} (hFree : isUnreserved b = true) (h : Spells w bs) :
      Spells (b :: w) (b :: bs)
  | coded {b high low : UInt8} {w bs : List UInt8} (hHigh : hexValue? high = some (b / 16))
      (hLow : hexValue? low = some (b % 16)) (h : Spells w bs) :
      Spells (0x25 :: high :: low :: w) (b :: bs)

variable {w bs : List UInt8}

theorem ne_percent_of_isUnreserved : ∀ b, isUnreserved b = true → b ≠ 0x25 :=
  forall_byte (by decide +kernel)

/-- A spelling is decoded to what it spells. -/
theorem Spells.percentDecode_eq (h : Spells w bs) : percentDecode w = bs := by
  induction h with
  | nil => rfl
  | literal hFree h ih => rw [percentDecode_cons_of_ne (ne_percent_of_isUnreserved _ hFree), ih]
  | @coded b high low w bs hHigh hLow h ih =>
      rw [percentDecode, hHigh, hLow]
      simp only [ih, (hexValue?_percentTriple b).2.2]

/-- What stands in a spelling may stand in a path, and parts none. -/
theorem Spells.isPathByte (h : Spells w bs) :
    ∀ b ∈ w, isPathByte b = true ∧ b ≠ 0x2F ∧ b < 0x80 := by
  have hUnreserved : ∀ b, isUnreserved b = true →
      Http.isPathByte b = true ∧ b ≠ 0x2F ∧ b < 0x80 :=
    forall_byte (by decide +kernel)
  have hHex : ∀ b, (hexValue? b).isSome = true →
      Http.isPathByte b = true ∧ b ≠ 0x2F ∧ b < 0x80 :=
    forall_byte (by decide +kernel)
  induction h with
  | nil => exact fun b hb => absurd hb List.not_mem_nil
  | literal hFree h ih =>
      intro b hb
      rcases List.mem_cons.1 hb with rfl | hb
      · exact hUnreserved b hFree
      · exact ih b hb
  | coded hHigh hLow h ih =>
      intro b hb
      rcases List.mem_cons.1 hb with rfl | hb
      · decide
      · rcases List.mem_cons.1 hb with rfl | hb
        · exact hHex b (hHigh ▸ rfl)
        · rcases List.mem_cons.1 hb with rfl | hb
          · exact hHex b (hLow ▸ rfl)
          · exact ih b hb

/-- Percent-coding spells bytes, if it leaves none but those that may be left. -/
theorem spells_percentEncode {coded : UInt8 → Bool}
    (hKept : ∀ b, coded b = false → isUnreserved b = true) (bs : List UInt8) :
    Spells (percentEncode coded bs) bs := by
  induction bs with
  | nil => exact .nil
  | cons b bs ih =>
      rw [percentEncode_cons]
      split
      · obtain ⟨hHigh, hLow, _⟩ := hexValue?_percentTriple b
        exact .coded hHigh hLow ih
      · next hNot => exact .literal (hKept b (by simpa using hNot)) ih

/-! ## Spellings of ids -/

/-- The first text spells the bytes of the second. -/
def Writes (w x : String) : Prop := Spells (utf8 w) (utf8 x)

/-- No text spells two ids. -/
theorem Writes.unique {w x x' : String} (h : Writes w x) (h' : Writes w x') : x = x' :=
  utf8_injective (h.percentDecode_eq.symm.trans h'.percentDecode_eq)

/-- The empty text spells the empty id only. -/
theorem Writes.ne_empty {w x : String} (h : Writes w x) (hNe : x ≠ "") : w ≠ "" := by
  rintro rfl
  exact hNe (utf8_eq_nil_iff.1 h.percentDecode_eq.symm)

/-- Every id has a spelling. -/
theorem exists_writes (x : String) : ∃ w, Writes w x := by
  have hAll : ∀ b : UInt8, (fun _ => true) b = false → isUnreserved b = true :=
    fun b hNot => absurd hNot.symm Bool.false_ne_true
  have hSpells := spells_percentEncode hAll (utf8 x)
  have hBytes := utf8Chars_map_ofNat fun b hb => (hSpells.isPathByte b hb).2.2
  rw [← utf8_ofList] at hBytes
  rw [← hBytes] at hSpells
  exact ⟨_, hSpells⟩

/-! ## Look-ups by a spelling -/

/-- A caller who may looks up what is spelled behind a stem. -/
structure Gets (config : Config) (stem w : String) (r : Request) : Prop where
  sent : ∃ headers body, Request.ofParts? "GET" (stem ++ w) headers body = some r
  gate : passGate config.authToken r = .ok ()

variable {stem id : String}

/-- A spelling stands behind a stem as a segment of the path. -/
theorem Writes.isSegment {w : String} (h : Writes w id) (hNe : w ≠ "") : IsSegment (utf8 w) :=
  ⟨fun hNil => hNe (utf8_eq_nil_iff.1 hNil), fun hSlash => (h.isPathByte _ hSlash).2.1 rfl⟩

theorem Writes.targetPath?_eq {w : String} (h : Writes w id) (hStem : IsPath (utf8 stem)) :
    targetPath? (stem ++ w) =
      if maxTargetLength < (utf8 (stem ++ w)).length then none else some (utf8 (stem ++ w)) := by
  obtain ⟨rest, hRest⟩ := hStem.exists_cons
  have hSlash : utf8 (stem ++ w) = 0x2F :: (rest ++ utf8 w) := by
    rw [utf8_append, hRest]
    rfl
  have hPath : IsPath (utf8 (stem ++ w)) :=
    { slash := by rw [hSlash]; rfl
      path_bytes := by
        intro b hb
        rw [utf8_append, List.mem_append] at hb
        exact hb.elim (hStem.path_bytes b) fun hw => (h.isPathByte b hw).1 }
  rw [targetPath?_of_slash hSlash, readPath?_of_isPath hPath]

/-- A look-up by a spelling can be sent exactly if its address is not too long and its headers can
be sent. -/
theorem ofParts?_get_eq_some_iff {w : String} (h : Writes w id) (hStem : IsPath (utf8 stem))
    {headers : List (String × List UInt8)} {body : List UInt8} {r : Request} :
    Request.ofParts? "GET" (stem ++ w) headers body = some r ↔
      (utf8 (stem ++ w)).length ≤ maxTargetLength ∧
        ∃ sent, headers.mapM (fun (name, value) => Header.ofParts? name value) = some sent ∧
          r = ⟨"GET", utf8 stem ++ utf8 w, sent, body⟩ := by
  have hMethod : isToken "GET" = true := by decide +kernel
  rw [Request.ofParts?, if_pos hMethod, h.targetPath?_eq hStem, ← utf8_append]
  split
  · next hLong => simp [Nat.not_le.2 hLong]
  · next hShort =>
      simp only [Nat.not_lt.1 hShort, true_and, Option.bind_eq_bind, Option.bind_some,
        Option.bind_eq_some_iff, Option.pure_def, Option.some.injEq]
      exact exists_congr fun sent => and_congr_right fun _ => eq_comm

/-- It looks up the id. -/
theorem Gets.looksUp {config : Config} {w : String} {r : Request} (hGets : Gets config stem w r)
    (hStem : IsPath (utf8 stem)) (h : Writes w id) (hNe : w ≠ "") : LooksUp config r stem id := by
  obtain ⟨headers, body, hSent⟩ := hGets.sent
  obtain ⟨_, sent, _, rfl⟩ := (ofParts?_get_eq_some_iff h hStem).1 hSent
  refine ⟨rfl, ⟨utf8 w, h.isSegment hNe, ?_, rfl⟩, hGets.gate⟩
  rw [segmentId?, h.percentDecode_eq, text?_utf8]

end Admission.Http
