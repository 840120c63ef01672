import Admission.Client.Call
import Admission.Proofs.Http.Path
import Admission.Proofs.Http.Target

/-!
# Ids in addresses

The client puts an id into an address as it is, and the service takes an id out of the path of a
request by undoing percent-coding once.  For a plain id the two fit: it is one segment of the path,
and that segment stands for it.  For any other id they do not.  A slash or a dot segment changes the
segments, a mark ends the path, some characters do not count, and a percent sign with two digits is
taken for coding.  In no such case does a segment stand for the id: each is coded from a piece of
the address, no piece but the id itself has as many bytes, and undoing the coding adds none.

## Main results

* `url_of_isPlain`, `pathBytes_id`: the URL that is asked for a plain id, and its path.
* `isPlain_of_segmentId?`: an id that is found at its own address is plain.
-/

namespace Admission.Client

open Admission.Http Admission.Net Admission.Net.Url Admission.Text

/-! ## Plain ids -/

/-- An id that stands for itself in an address: it is one segment, no part of it is dropped, it is
no dot segment, and there is no coding to undo. -/
structure IsPlain (id : String) : Prop where
  ne_empty : id ≠ ""
  no_slash : ∀ c ∈ id.toList, isSlash true c = false
  kept : IsKept id.toList
  no_dots : isSingleDot id.toList = false ∧ isDoubleDot id.toList = false
  decoded : percentDecode (utf8 id) = utf8 id

/-- A check of an id for being plain. -/
def isPlain (id : String) : Bool :=
  !id.isEmpty &&
    id.toList.all (fun c => !isSlash true c &&
      c != '?' && c != '#' && c != '\t' && c != '\n' && c != '\r') &&
    id.toList.getLast?.all (fun c => !isPadding c) &&
    !isSingleDot id.toList && !isDoubleDot id.toList && percentDecode (utf8 id) == utf8 id

theorem isPlain_iff {id : String} : isPlain id = true ↔ IsPlain id := by
  have hLast : (id.toList.getLast?.all fun c => !isPadding c) = true ↔
      ∀ c ∈ id.toList.getLast?, isPadding c = false := by
    cases id.toList.getLast? <;> simp
  have hEmpty : id.isEmpty = false ↔ id ≠ "" := by
    rw [Bool.eq_false_iff, ne_eq, String.isEmpty_iff]
  simp only [isPlain, Bool.and_eq_true, Bool.not_eq_true', hEmpty, List.all_eq_true, hLast,
    bne_iff_ne, beq_iff_eq]
  constructor
  · rintro ⟨⟨⟨⟨⟨hNe, hChars⟩, hLast⟩, hSingle⟩, hDouble⟩, hDecoded⟩
    have hMarks : ∀ c ∈ id.toList, c ≠ '?' ∧ c ≠ '#' ∧ c ≠ '\t' ∧ c ≠ '\n' ∧ c ≠ '\r' := by
      intro c hc
      obtain ⟨⟨⟨⟨⟨-, h1⟩, h2⟩, h3⟩, h4⟩, h5⟩ := hChars c hc
      exact ⟨h1, h2, h3, h4, h5⟩
    have hSlash : ∀ c ∈ id.toList, isSlash true c = false :=
      fun c hc => (hChars c hc).1.1.1.1.1
    exact ⟨hNe, hSlash, ⟨hMarks, hLast⟩, ⟨hSingle, hDouble⟩, hDecoded⟩
  · rintro ⟨hNe, hSlash, ⟨hMarks, hLast⟩, ⟨hSingle, hDouble⟩, hDecoded⟩
    refine ⟨⟨⟨⟨⟨hNe, ?_⟩, hLast⟩, hSingle⟩, hDouble⟩, hDecoded⟩
    intro c hc
    obtain ⟨h1, h2, h3, h4, h5⟩ := hMarks c hc
    exact ⟨⟨⟨⟨⟨hSlash c hc, h1⟩, h2⟩, h3⟩, h4⟩, h5⟩

instance (id : String) : Decidable (IsPlain id) := decidable_of_iff _ isPlain_iff

/-! ## Collections -/

/-- What the service keeps under ids. -/
inductive Collection where
  | jobs
  | sessions

namespace Collection

variable (k : Collection)

/-- The name in paths. -/
def name : Collection → List Char
  | jobs => "jobs".toList
  | sessions => "sessions".toList

/-- The call that looks up an id. -/
def call : Collection → String → Call
  | jobs => .job
  | sessions => .session

/-- The endpoint that looks up a segment. -/
def endpoint : Collection → List UInt8 → Endpoint
  | jobs => .job
  | sessions => .session

/-- The path to an id, without the slash before it. -/
def pathChars (id : String) : List Char := k.name ++ ['/'] ++ id.toList

theorem path_call (id : String) : (k.call id).path = String.ofList ('/' :: k.pathChars id) := by
  have hChars : (k.call id).path.toList = '/' :: k.pathChars id := by
    cases k with
    | jobs =>
        show ("/jobs/" ++ id).toList = _
        rw [String.toList_append]
        rfl
    | sessions =>
        show ("/sessions/" ++ id).toList = _
        rw [String.toList_append]
        rfl
  rw [← hChars, String.ofList_toList]

theorem isPlainChar_name : ∀ c ∈ k.name ++ ['/'], isPlainChar c = true := by
  have hAll : (k.name ++ ['/']).all isPlainChar = true := by
    cases k <;> decide
  exact List.all_eq_true.1 hAll

theorem not_isSlash_name : ∀ c ∈ k.name, isSlash true c = false := by
  have hAll : k.name.all (fun c => !isSlash true c) = true := by
    cases k <;> decide
  intro c hc
  simpa using List.all_eq_true.1 hAll c hc

theorem no_dots_name : isSingleDot k.name = false ∧ isDoubleDot k.name = false := by
  cases k <;> decide

theorem encodeChars_name : encodeChars inPathSet k.name = k.name := by
  cases k <;> decide

theorem isPlain_name : IsPlain (String.ofList k.name) := by
  cases k <;> decide

theorem addressable_endpoint {segment : List UInt8} (h : IsSegment segment) :
    (k.endpoint segment).Addressable := by
  cases k <;> exact h

theorem path_endpoint (segment : List UInt8) :
    (k.endpoint segment).path = 0x2F :: utf8Chars k.name ++ 0x2F :: segment := by
  cases k <;> rfl

theorem segments_endpoint {segment : List UInt8} (h : IsSegment segment) :
    segments (k.endpoint segment).path = [[], utf8Chars k.name, segment] := by
  have hSegments := Endpoint.segments_path (k.addressable_endpoint h)
  cases k <;> exact hSegments

end Collection

/-! ## The segments of an address -/

variable {k : Collection} {id : String}

theorem pieces_pathChars (k : Collection) (id : String) :
    pieces (isSlash true) (pathPart (k.pathChars id)) =
      k.name :: pieces (isSlash true) (pathPart id.toList) := by
  rw [Collection.pathChars, pathPart_append k.isPlainChar_name, List.append_assoc]
  exact pieces_append k.not_isSlash_name (by decide) _

/-- The segments of the address of a plain id. -/
theorem readSegments_of_isPlain (h : IsPlain id) :
    readSegments true (pathPart (k.pathChars id)) =
      [k.name, encodeChars inPathSet id.toList] := by
  rw [readSegments, pieces_pathChars, pathPart_eq_self_iff.2 h.kept,
    pieces_of_not_cuts h.no_slash, addSegments_of_not_dots, List.nil_append, List.map_cons,
    k.encodeChars_name]
  · rfl
  · intro s hs
    rcases List.mem_cons.1 hs with rfl | hs
    · exact k.no_dots_name
    · rw [List.mem_singleton.1 hs]
      exact h.no_dots

theorem areCoded_readSegments (cs : List Char) : AreCoded (readSegments true cs) := by
  intro s hs
  rcases mem_readSegments hs with hs | ⟨q, _, _, _, hs⟩
  · exact .inl hs
  · exact .inr ⟨q, hs⟩

theorem slash_not_mem_readSegments {cs s : List Char} (h : s ∈ readSegments true cs) :
    0x2F ∉ utf8Chars s := by
  rcases mem_readSegments h with rfl | ⟨q, hq, _, _, rfl⟩
  · exact List.not_mem_nil
  · rw [utf8Chars_encodeChars]
    apply slash_not_mem_segmentBytes
    intro hSlash
    exact absurd (not_cuts_of_mem_pieces q hq _ hSlash) (by decide)

/-- A path is cut into the segments that it was made of. -/
theorem segments_pathBytes {s : List Char} {ss : List (List Char)}
    (h : ∀ t ∈ s :: ss, 0x2F ∉ utf8Chars t) :
    segments (pathBytes (s :: ss)) = [] :: (s :: ss).map utf8Chars := by
  have hTail : segments (utf8Chars s ++ pathBytes ss) = (s :: ss).map utf8Chars := by
    induction ss generalizing s with
    | nil =>
        show segments (utf8Chars s ++ []) = _
        rw [List.append_nil, segments_of_not_mem (h s List.mem_cons_self)]
        rfl
    | cons t ts ih =>
        rw [pathBytes_cons, List.cons_append, segments_append (h s List.mem_cons_self),
          ih fun u hu => h u (List.mem_cons_of_mem s hu)]
        rfl
  rw [pathBytes_cons, List.cons_append]
  show segments ([] ++ 0x2F :: _) = _
  rw [segments_append List.not_mem_nil, hTail]

/-! ## The URL that is asked for an id -/

/-- The URL that is asked for an id, of a service on this machine. -/
def Collection.url (k : Collection) (port : Nat) (id : String) : Url :=
  localUrl port (readSegments true (pathPart (k.pathChars id))) (queryPart (k.pathChars id))
    (fragmentPart (k.pathChars id))

theorem ofText?_url (k : Collection) {port : Nat} (hPort : port < 0x10000) (id : String) :
    Url.ofText? (localBase port ++ (k.call id).path) = some (k.url port id) := by
  rw [k.path_call, ofText?_local hPort]
  rfl

/-- For a plain id it has two segments and nothing behind them. -/
theorem url_of_isPlain (k : Collection) (port : Nat) (h : IsPlain id) :
    k.url port id = localUrl port [k.name, encodeChars inPathSet id.toList] none none := by
  have hParts : queryPart (k.pathChars id) = none ∧ fragmentPart (k.pathChars id) = none := by
    rw [Collection.pathChars, queryPart_append k.isPlainChar_name,
      fragmentPart_append k.isPlainChar_name]
    exact h.kept.parts
  rw [Collection.url, readSegments_of_isPlain h, hParts.1, hParts.2]

/-- They make up the path of the endpoint that looks up the id. -/
theorem pathBytes_id (k : Collection) (id : String) :
    pathBytes [k.name, encodeChars inPathSet id.toList] =
      (k.endpoint (segmentBytes id.toList)).path := by
  rw [pathBytes_cons, pathBytes_cons, utf8Chars_encodeChars, k.path_endpoint]
  show _ ++ (_ ++ []) = _
  rw [List.append_nil]

theorem IsPlain.isSegment (h : IsPlain id) : IsSegment (segmentBytes id.toList) := by
  constructor
  · apply segmentBytes_ne_nil
    intro hNil
    exact h.ne_empty (String.toList_eq_nil_iff.1 hNil)
  · apply slash_not_mem_segmentBytes
    intro hSlash
    exact absurd (h.no_slash _ hSlash) (by decide)

theorem IsPlain.areCoded (k : Collection) (h : IsPlain id) :
    AreCoded [k.name, encodeChars inPathSet id.toList] := by
  rw [← readSegments_of_isPlain h]
  exact areCoded_readSegments _

/-! ## Ids at their own addresses -/

/-- A piece of what is kept of an id is shorter than the id, or it is the id, which then is kept as
a whole and not cut. -/
theorem piece_eq_id {q : List Char}
    (hq : q ∈ pieces (isSlash true) (pathPart id.toList))
    (hLength : (utf8 id).length ≤ (utf8Chars q).length) :
    q = id.toList ∧ IsKept id.toList ∧ ∀ c ∈ id.toList, isSlash true c = false := by
  have hPiece := sublist_of_mem_pieces q hq
  have hPart := pathPart_sublist id.toList
  have hId : q = id.toList := eq_of_sublist_of_length_utf8 (hPiece.trans hPart) hLength
  subst hId
  have hKept : pathPart id.toList = id.toList := hPart.eq_of_length_le hPiece.length_le
  exact ⟨rfl, pathPart_eq_self_iff.1 hKept, not_cuts_of_mem_pieces _ hq⟩

/-- An id that is found at its own address is plain. -/
theorem isPlain_of_segmentId? {segment : List UInt8} (hSegment : IsSegment segment)
    (hPath : pathBytes (readSegments true (pathPart (k.pathChars id))) =
      (k.endpoint segment).path)
    (hId : segmentId? segment = some id) : IsPlain id := by
  -- the segment is one of the address, and was coded from a piece of it
  have hMem : ∃ s ∈ readSegments true (pathPart (k.pathChars id)), segment = utf8Chars s := by
    have hCut := k.segments_endpoint hSegment
    obtain ⟨s, ss, hss⟩ := List.exists_cons_of_ne_nil
      (readSegments_ne_nil true (pathPart (k.pathChars id)))
    rw [hss] at hPath ⊢
    rw [← hPath, segments_pathBytes fun t ht => slash_not_mem_readSegments (hss ▸ ht)] at hCut
    have hLast : segment ∈ (s :: ss).map utf8Chars := by
      rw [List.tail_eq_of_cons_eq hCut]
      exact List.mem_cons_of_mem _ List.mem_cons_self
    obtain ⟨t, ht, hEq⟩ := List.mem_map.1 hLast
    exact ⟨t, ht, hEq.symm⟩
  obtain ⟨s, hs, rfl⟩ := hMem
  rcases mem_readSegments hs with rfl | ⟨q, hq, hSingle, hDouble, rfl⟩
  · exact absurd rfl hSegment.1
  rw [utf8Chars_encodeChars] at hId hSegment
  have hLength := length_le_of_segmentId? hId
  rw [pieces_pathChars] at hq
  rcases List.mem_cons.1 hq with rfl | hq
  · -- the piece is the name of the collection, which is a plain id
    have hName : percentDecode (utf8Chars k.name) = utf8Chars k.name := by
      have hDecoded := k.isPlain_name.decoded
      rwa [utf8_ofList] at hDecoded
    rw [segmentId?, percentDecode_segmentBytes, hName, ← utf8_ofList, text?_utf8] at hId
    rw [← Option.some.inj hId]
    exact k.isPlain_name
  · obtain ⟨rfl, hKept, hSlash⟩ := piece_eq_id hq hLength
    rw [segmentId?, percentDecode_segmentBytes, text?_eq_some_iff] at hId
    refine ⟨?_, hSlash, hKept, ⟨hSingle, hDouble⟩, hId⟩
    rintro rfl
    exact hSegment.1 rfl

end Admission.Client
