import Admission.Json.Record
import Admission.Proofs.Checks
import Admission.Proofs.Json.Reading

/-!
# Codecs that read what they write

A codec is lawful if what it writes is without a fault and reads back.  Then a value reads back from
its text, on one line or on several.  A record is lawful if its fields are, no name of a field is
the name of another, and what is left out in writing is what its absence stands for.

## Main results

* `Codec.IsLawful.decodeText_encode`, `Codec.IsLawful.decodeText_encodePretty`: decoding undoes
  encoding.
* `Codec.IsLawful.encodePretty_injective`: different values have different texts.
* `Record.isLawful_codec`: records of lawful fields are lawful.
* `Record.indispensable_subset_names`: what is written of one record is read as another only if it
  has all that the other cannot do without.
-/

namespace Admission.Json

open Admission.Text

namespace Codec

variable {α : Type} {c : Codec α}

/-- What is written has no fault and reads back. -/
structure IsLawful (c : Codec α) : Prop where
  readsBack : c.ReadsBack
  isSound : ∀ a, (c.write a).IsSound

/-- A text is decoded to what is read from the value that it stands for. -/
theorem decode_chars (c : Codec α) {v : Json} (hv : v.IsSound) :
    c.decode (v.chars.map some) = c.read v := by
  rw [decode, hv.ofSymbols_chars]
  simp only
  cases c.read v with
  | error fault => rfl
  | ok a => rfl

namespace IsLawful

/-- What is written of a value is decoded from each text that spells it. -/
theorem decode_eq_ok_of_spells (hc : c.IsLawful) {a : α} {cs : List Char}
    (h : Spells cs (c.write a).tokens) : c.decode (cs.map some) = .ok a := by
  rw [decode, (hc.isSound a).ofSymbols_eq h]
  simp only
  rw [hc.readsBack a]
  rfl

/-- Decoding undoes encoding. -/
theorem decodeText_encode (hc : c.IsLawful) (a : α) : c.decodeText (c.encode a) = .ok a := by
  rw [decodeText, encode, Json.text, String.toList_ofList, decode_chars c (hc.isSound a),
    hc.readsBack a]

/-- Decoding undoes encoding, also on several lines. -/
theorem decodeText_encodePretty (hc : c.IsLawful) (a : α) :
    c.decodeText (c.encodePretty a) = .ok a := by
  rw [decodeText, encodePretty, Json.pretty, String.toList_ofList,
    hc.decode_eq_ok_of_spells ((hc.isSound a).spells_pretty 0)]

/-- The end of the last line does not count. -/
theorem decodeText_encodePretty_newline (hc : c.IsLawful) (a : α) :
    c.decodeText (c.encodePretty a ++ "\n") = .ok a := by
  have hEnd : Spells (['\n'] ++ []) [] := Spells.blanks (by simp [isSpace]) Spells.nil
  have hSpells := ((hc.isSound a).spells_pretty 0).append rfl hEnd
  rw [List.append_nil, List.append_nil] at hSpells
  have hChars : (c.encodePretty a ++ "\n").toList = (c.write a).prettyChars 0 ++ ['\n'] := by
    rw [String.toList_append, encodePretty, Json.pretty, String.toList_ofList]
    rfl
  rw [decodeText, hChars, hc.decode_eq_ok_of_spells hSpells]

/-- Decoding undoes encoding on the way through bytes. -/
theorem decodeBytes_encode (hc : c.IsLawful) (a : α) :
    c.decodeBytes (utf8 (c.encode a)) = .ok a := by
  have hText := hc.decodeText_encode a
  rw [decodeText] at hText
  rw [decodeBytes, symbols_utf8, hText]

/-- Different values have different texts. -/
theorem encodePretty_injective (hc : c.IsLawful) {a b : α}
    (h : c.encodePretty a = c.encodePretty b) : a = b := by
  have ha := hc.decodeText_encodePretty a
  rw [h, hc.decodeText_encodePretty b] at ha
  exact (Except.ok.inj ha).symm

end IsLawful

/-- Every value is decoded from each text that is written for it, on one line or several, as a text
or as bytes. -/
structure RoundTrips (c : Codec α) : Prop where
  compact : ∀ a, c.decodeText (c.encode a) = .ok a
  pretty : ∀ a, c.decodeText (c.encodePretty a) = .ok a
  bytes : ∀ a, c.decodeBytes (utf8 (c.encode a)) = .ok a

theorem IsLawful.roundTrips (hc : c.IsLawful) : c.RoundTrips :=
  ⟨hc.decodeText_encode, hc.decodeText_encodePretty, hc.decodeBytes_encode⟩

/-! ## Simple types -/

theorem isLawful_text : text.IsLawful := ⟨read_write_text, fun _ => isSound_ofText _⟩

theorem isLawful_signed : signed.IsLawful := ⟨read_write_signed, fun _ => isSound_ofInt _⟩

theorem isLawful_unsigned : unsigned.IsLawful := ⟨read_write_unsigned, fun _ => isSound_ofInt _⟩

theorem IsLawful.optional (hc : c.IsLawful) (hNull : ∀ a, c.write a ≠ .null) :
    c.optional.IsLawful where
  readsBack := read_write_optional hc.readsBack hNull
  isSound := by
    intro a
    cases a with
    | none => exact .null
    | some a => exact hc.isSound a

/-- Names are lawful if every value is found under its own. -/
theorem isLawful_enumeration {all : List α} {name : α → String}
    (hFind : ∀ a, all.find? (fun b => name b == name a) = some a) :
    (enumeration all name).IsLawful where
  readsBack := by
    intro a
    simp only [enumeration, enumeration.named, ofText, hFind a]
  isSound := fun _ => isSound_ofText _

end Codec

/-! ## Fields -/

/-- A field that reads what it writes: what is left out is what the absent field stands for. -/
structure Field.IsLawful {α : Type} (f : Field α) : Prop where
  codec : f.codec.IsLawful
  absent : ∀ a, f.isOmitted a = true → f.absent = some a

namespace Field

variable {α : Type} {c : Codec α}

theorem isLawful_required (name : String) (hc : c.IsLawful) : (required name c).IsLawful :=
  ⟨hc, fun _ h => nomatch h⟩

theorem isLawful_nullable (name : String) (aliases : List String) (hc : c.IsLawful)
    (hNull : ∀ a, c.write a ≠ .null) : (nullable name aliases c).IsLawful :=
  ⟨hc.optional hNull, fun _ h => nomatch h⟩

theorem isLawful_omissible (name : String) (hc : c.IsLawful) (hNull : ∀ a, c.write a ≠ .null) :
    (omissible name c).IsLawful where
  codec := hc.optional hNull
  absent := by
    intro a ha
    cases a with
    | none => rfl
    | some a => cases ha

theorem isNamed_self (f : Field α) : f.isNamed f.name = true := by
  simp [isNamed]

end Field

namespace Fields

/-- The names under which fields are written. -/
def names {β : Type} : Fields β → List String
  | nil => []
  | cons f fs => f.name :: fs.names

/-- No field goes by the name of another. -/
def areDistinct {β : Type} : Fields β → Bool
  | nil => true
  | cons f fs => fs.names.all (fun n => !f.isNamed n) && (fs.find? f.name).isNone && fs.areDistinct

/-- Every field reads what it writes. -/
def AreLawful {β : Type} : Fields β → Prop
  | nil => True
  | cons f fs => f.IsLawful ∧ fs.AreLawful

/-- The members that are written, as the object holds them. -/
def written {β : Type} (fs : Fields β) (b : β) : List (Json × Json) :=
  (fs.toMembers b).map fun (k, v) => (ofText k, v)

variable {α β γ : Type}

theorem written_cons (f : Field α) (fs : Fields β) (a : α) (b : β) :
    (cons f fs).written (a, b) =
      if f.isOmitted a then fs.written b
      else (ofText f.name, f.codec.write a) :: fs.written b := by
  simp only [written, toMembers, Field.toMembers]
  split <;> rfl

theorem isSound_write {fs : Fields β} (hfs : fs.AreLawful) (b : β) :
    ∀ m ∈ fs.toMembers b, m.2.IsSound := by
  induction fs with
  | nil => exact fun _ hm => absurd hm List.not_mem_nil
  | cons f fs ih =>
      obtain ⟨a, b⟩ := b
      intro m hm
      rcases List.mem_append.1 hm with hm | hm
      · unfold Field.toMembers at hm
        split at hm
        · exact absurd hm List.not_mem_nil
        · rw [List.mem_singleton.1 hm]
          exact hfs.1.codec.isSound a
      · exact ih hfs.2 b m hm

/-! ### Members are looked at -/

/-- The members that fields write are accepted by a record that has these fields. -/
theorem scan_written {all : Fields γ} {fs : Fields β} (hfs : fs.AreLawful)
    (hDistinct : fs.areDistinct = true) (hAll : ∀ n ∈ fs.names, all.find? n = fs.find? n)
    {seen : List String} (hSeen : ∀ n ∈ fs.names, n ∉ seen) (b : β) :
    all.scan seen (fs.written b) = .ok () := by
  induction fs generalizing seen with
  | nil => rfl
  | cons f fs ih =>
      obtain ⟨a, b⟩ := b
      simp only [areDistinct, Bool.and_eq_true, List.all_eq_true, Bool.not_eq_true'] at hDistinct
      obtain ⟨⟨hNames, -⟩, hTail⟩ := hDistinct
      have hRest : ∀ n ∈ fs.names, all.find? n = fs.find? n := by
        intro n hn
        have hf : (cons f fs).find? n = fs.find? n := by
          rw [find?, hNames n hn]
          rfl
        rw [hAll n (List.mem_cons_of_mem _ hn), hf]
      rw [written_cons]
      split
      · exact ih hfs.2 hTail hRest (fun n hn => hSeen n (List.mem_cons_of_mem _ hn)) b
      · have hSelf := hAll f.name List.mem_cons_self
        rw [find?, if_pos f.isNamed_self] at hSelf
        have hUnseen : seen.contains f.name = false := by
          simpa using hSeen f.name List.mem_cons_self
        have hRead : f.codec.read (f.codec.write a) = .ok a := hfs.1.codec.readsBack a
        rw [ofText, scan, hSelf]
        simp only [hUnseen, Bool.false_eq_true, if_false, hRead, Except.map]
        apply ih hfs.2 hTail hRest
        intro n hn
        simp only [List.mem_cons, not_or]
        refine ⟨?_, hSeen n (List.mem_cons_of_mem _ hn)⟩
        rintro rfl
        have := hNames _ hn
        rw [f.isNamed_self] at this
        cases this

/-! ### Fields are found -/

theorem member?_written {f : Field α} {fs : Fields β}
    (hNames : ∀ n ∈ fs.names, f.isNamed n = false) (b : β) : f.member? (fs.written b) = none := by
  induction fs with
  | nil => rfl
  | cons g fs ih =>
      obtain ⟨a, b⟩ := b
      have hRest := ih (fun n hn => hNames n (List.mem_cons_of_mem _ hn)) b
      rw [written_cons]
      split
      · exact hRest
      · rw [ofText, Field.member?, hNames g.name List.mem_cons_self, hRest]
        rfl

/-- A member that no field goes by does not count. -/
theorem ofMembers_cons {fs : Fields β} {n : String} (hn : fs.find? n = none) (v : Json)
    (ms : List (Json × Json)) : fs.ofMembers ((ofText n, v) :: ms) = fs.ofMembers ms := by
  induction fs with
  | nil => rfl
  | cons f fs ih =>
      rw [find?] at hn
      split at hn
      · cases hn
      · next hNamed =>
        have hf : f.ofMembers ((ofText n, v) :: ms) = f.ofMembers ms := by
          rw [Field.ofMembers, Field.ofMembers, ofText, Field.member?, if_neg hNamed]
        rw [ofMembers, ofMembers, hf, ih hn]

/-- The values of the fields come back from the members that are written for them. -/
theorem ofMembers_written {fs : Fields β} (hfs : fs.AreLawful) (hDistinct : fs.areDistinct = true)
    (b : β) : fs.ofMembers (fs.written b) = .ok b := by
  induction fs with
  | nil => rfl
  | cons f fs ih =>
      obtain ⟨a, b⟩ := b
      simp only [areDistinct, Bool.and_eq_true, List.all_eq_true, Bool.not_eq_true',
        Option.isNone_iff_eq_none] at hDistinct
      obtain ⟨⟨hNames, hName⟩, hTail⟩ := hDistinct
      have hRest := ih hfs.2 hTail b
      have hSelf : f.ofMembers ((cons f fs).written (a, b)) = .ok a := by
        rw [written_cons, Field.ofMembers]
        by_cases hOmitted : f.isOmitted a = true
        · rw [if_pos hOmitted, member?_written hNames, hfs.1.absent a hOmitted]
        · have hRead : f.codec.read (f.codec.write a) = .ok a := hfs.1.codec.readsBack a
          rw [if_neg hOmitted, ofText, Field.member?, if_pos f.isNamed_self]
          simp only [hRead]
          rfl
      have hTail : fs.ofMembers ((cons f fs).written (a, b)) = .ok b := by
        rw [written_cons]
        split
        · exact hRest
        · rw [ofMembers_cons hName, hRest]
      rw [ofMembers, hSelf, hTail]
      rfl

end Fields

/-- Records of lawful fields are lawful. -/
theorem Record.isLawful_codec {ρ : Type} {r : Record ρ} (hFields : r.fields.AreLawful)
    (hDistinct : r.fields.areDistinct = true) (hPack : ∀ a, r.pack (r.unpack a) = a) :
    r.codec.IsLawful where
  readsBack := by
    intro a
    have hScan : r.fields.scan [] (r.fields.written (r.unpack a)) = .ok () :=
      Fields.scan_written hFields hDistinct (fun _ _ => rfl) (fun _ _ => List.not_mem_nil) _
    have hMembers := Fields.ofMembers_written hFields hDistinct (r.unpack a)
    rw [Fields.written] at hScan hMembers
    simp only [Record.codec, Record.write, Record.read, Json.ofMembers]
    rw [hScan, hMembers]
    simp only [if_true]
    exact congrArg Except.ok (hPack a)
  isSound := fun a => isSound_ofMembers (Fields.isSound_write hFields (r.unpack a))

/-! ## Records in place of others -/

namespace Fields

variable {β γ : Type}

/-- The names of the fields that have no other name and may not be absent. -/
def indispensable {β : Type} : Fields β → List String
  | nil => []
  | cons f fs =>
      if f.aliases.isEmpty && f.absent.isNone then f.name :: fs.indispensable else fs.indispensable

theorem fst_mem_names {fs : Fields β} {b : β} : ∀ m ∈ fs.toMembers b, m.1 ∈ fs.names := by
  induction fs with
  | nil => exact fun _ hm => absurd hm List.not_mem_nil
  | cons f fs ih =>
      obtain ⟨a, b⟩ := b
      intro m hm
      rcases List.mem_append.1 hm with hm | hm
      · unfold Field.toMembers at hm
        split at hm
        · exact absurd hm List.not_mem_nil
        · rw [List.mem_singleton.1 hm]
          exact List.mem_cons_self
      · exact List.mem_cons_of_mem _ (ih m hm)

/-- A field that goes by one name only is not found where no member has that name. -/
theorem member?_of_not_mem {f : Field β} (hf : f.aliases = []) {ms : List (String × Json)}
    (h : f.name ∉ ms.map Prod.fst) :
    f.member? (ms.map fun (k, v) => (ofText k, v)) = none := by
  induction ms with
  | nil => rfl
  | cons m ms ih =>
      rw [List.map_cons, List.mem_cons, not_or] at h
      have hNamed : f.isNamed m.1 = false := by
        simp [Field.isNamed, hf, Ne.symm h.1]
      show f.member? ((.string (some m.1), m.2) :: _) = none
      rw [Field.member?, hNamed]
      exact ih h.2

/-- Fields are read only from members among which every indispensable one is. -/
theorem mem_of_ofMembers {fs : Fields β} {ms : List (String × Json)} {b : β}
    (h : fs.ofMembers (ms.map fun (k, v) => (ofText k, v)) = .ok b) :
    ∀ n ∈ fs.indispensable, n ∈ ms.map Prod.fst := by
  induction fs with
  | nil => exact fun _ hn => absurd hn List.not_mem_nil
  | cons f fs ih =>
      obtain ⟨a, ha, h⟩ := bind_eq_ok_iff.1 h
      obtain ⟨b, hb, -⟩ := bind_eq_ok_iff.1 h
      intro n hn
      rw [indispensable] at hn
      split at hn
      · next hNeeded =>
        rw [Bool.and_eq_true, List.isEmpty_iff, Option.isNone_iff_eq_none] at hNeeded
        rcases List.mem_cons.1 hn with rfl | hn
        · apply Classical.byContradiction
          intro hLacks
          rw [Field.ofMembers, member?_of_not_mem hNeeded.1 hLacks, hNeeded.2] at ha
          cases ha
        · exact ih hb n hn
      · exact ih hb n hn

end Fields

/-- A record is read from the text of another one only if that has every field that the first cannot
do without. -/
theorem Record.indispensable_subset_names {ρ σ : Type} {r : Record ρ} {r' : Record σ}
    (hr' : r'.codec.IsLawful) {a' : σ} {a : ρ}
    (h : r.codec.decodeBytes (utf8 (r'.codec.encode a')) = .ok a) :
    ∀ n ∈ r.fields.indispensable, n ∈ r'.fields.names := by
  have hRead : r.read (r'.write a') = .ok a := by
    rw [Codec.decodeBytes, symbols_utf8, Codec.encode, Json.text, String.toList_ofList,
      Codec.decode_chars _ (hr'.isSound a')] at h
    exact h
  rw [Record.write, Json.ofMembers, Record.read] at hRead
  obtain ⟨_, _, hRead⟩ := bind_eq_ok_iff.1 hRead
  rw [if_pos rfl] at hRead
  obtain ⟨b, hMembers, -⟩ := bind_eq_ok_iff.1 hRead
  intro n hn
  obtain ⟨m, hm, rfl⟩ := List.mem_map.1 (Fields.mem_of_ofMembers hMembers n hn)
  exact Fields.fst_mem_names m hm

end Admission.Json
