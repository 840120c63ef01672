import Admission.Proofs.Json.Entries
import Admission.Store.Table
import Mathlib.Data.List.Perm.Basic
import Mathlib.Logic.Relation

/-!
# Spellings of one record

A record can be written in many ways: with the members of the object in any order, with a field
under any of its names, with an absent field as `null` or not at all, with members that no field
goes by, and as an array of the values of its fields.  What is read does not depend on it, because
no change of the spelling changes the values that an object gives to the fields.

## Main results

* `Fields.Respelling.gives`: what a change of the spelling keeps.
* `Record.spellings_agree`: records are read alike in all their spellings, and refused for a field
  that comes twice.
-/

namespace Admission.Json

open Admission.Store Admission.Text Relation

namespace Fields

variable {β : Type} {fs : Fields β} {ms ms' : List (Json × Json)}

/-! ## Changes of the spelling -/

/-- No member of an object goes by a field. -/
def Lacks (fs : Fields β) (ms : List (Json × Json)) (name : String) : Prop :=
  ∀ key v, (ofText key, v) ∈ ms → fs.nameOf? key ≠ some name

/-- One change to the members of an object: another order, another name for a field, an absent field
as `null` or not at all, or a member more or less that no field goes by, with any value that has no
fault. -/
inductive Respelling (fs : Fields β) : List (Json × Json) → List (Json × Json) → Prop
  | permuted {ms ms' : List (Json × Json)} (h : ms.Perm ms') : Respelling fs ms ms'
  | renamed (before after : List (Json × Json)) {key key' name : String} (v : Json)
      (h : fs.nameOf? key = some name) (h' : fs.nameOf? key' = some name) :
      Respelling fs (before ++ (ofText key, v) :: after) (before ++ (ofText key', v) :: after)
  | nullAdded (before after : List (Json × Json)) {key name : String}
      (h : fs.nameOf? key = some name) (hAbsent : fs.Lacks (before ++ after) name) :
      Respelling fs (before ++ after) (before ++ (ofText key, .null) :: after)
  | nullRemoved (before after : List (Json × Json)) {key name : String}
      (h : fs.nameOf? key = some name) :
      Respelling fs (before ++ (ofText key, .null) :: after) (before ++ after)
  | unknownAdded (before after : List (Json × Json)) {key : String} {v : Json}
      (h : fs.nameOf? key = none) (hWhole : v.isWhole = true) :
      Respelling fs (before ++ after) (before ++ (ofText key, v) :: after)
  | unknownRemoved (before after : List (Json × Json)) {key : String} (v : Json)
      (h : fs.nameOf? key = none) :
      Respelling fs (before ++ (ofText key, v) :: after) (before ++ after)

/-- An object that is accepted, with the values that the fields have in it. -/
structure Gives (fs : Fields β) (ms : List (Json × Json)) (vs : List Json) : Prop where
  accepts : ∀ m ∈ ms, fs.Accepts m
  nodup : ((fs.entries ms).map Prod.fst).Nodup
  values_eq : fs.values ms = vs

theorem scan_iff_gives : fs.scan [] ms = .ok () ↔ fs.Gives ms (fs.values ms) := by
  rw [scan_eq_ok_iff]
  constructor
  · rintro ⟨hAccepts, hNodup, -⟩
    exact ⟨hAccepts, hNodup, rfl⟩
  · rintro ⟨hAccepts, hNodup, -⟩
    exact ⟨hAccepts, hNodup, fun _ _ => List.not_mem_nil⟩

theorem gives_iff {vs : List Json} : fs.Gives ms vs ↔
    (∀ m ∈ ms, fs.Accepts m) ∧ ((fs.entries ms).map Prod.fst).Nodup ∧ fs.values ms = vs :=
  ⟨fun h => ⟨h.accepts, h.nodup, h.values_eq⟩, fun h => ⟨h.1, h.2.1, h.2.2⟩⟩

theorem lacks_iff {name : String} : fs.Lacks ms name ↔ name ∉ (fs.entries ms).map Prod.fst := by
  have hEntry : ∀ v, (name, v) ∈ fs.entries ms ↔
      ∃ key, (ofText key, v) ∈ ms ∧ fs.nameOf? key = some name := by
    intro v
    rw [entries, List.mem_filterMap]
    constructor
    · rintro ⟨⟨k, w⟩, hm, hEntry⟩
      cases k with
      | string text =>
          cases text with
          | none => cases hEntry
          | some key =>
              obtain ⟨_, hName, hPair⟩ := Option.map_eq_some_iff.1 hEntry
              cases hPair
              exact ⟨key, hm, hName⟩
      | _ => cases hEntry
    · rintro ⟨key, hm, hName⟩
      exact ⟨_, hm, by rw [named?_ofText, hName]; rfl⟩
  constructor
  · intro hLacks hMem
    obtain ⟨⟨_, v⟩, hEntries, rfl⟩ := List.mem_map.1 hMem
    obtain ⟨key, hm, hName⟩ := (hEntry v).1 hEntries
    exact hLacks key v hm hName
  · intro hNew key v hm hName
    exact hNew (List.mem_map.2 ⟨_, (hEntry v).2 ⟨key, hm, hName⟩, rfl⟩)

/-- What is looked up in entries with distinct names does not depend on their order. -/
theorem lookup_eq_of_perm {es es' : List (String × Json)} (h : es.Perm es')
    (hNodup : (es.map Prod.fst).Nodup) (name : String) : es.lookup name = es'.lookup name := by
  have hNodup' : (es'.map Prod.fst).Nodup := (h.map Prod.fst).nodup_iff.1 hNodup
  apply Option.ext
  intro v
  calc es.lookup name = some v
      ↔ (name, v) ∈ es := (Table.mem_entries_iff ⟨es, hNodup⟩ name v).symm
    _ ↔ (name, v) ∈ es' := h.mem_iff
    _ ↔ es'.lookup name = some v := Table.mem_entries_iff ⟨es', hNodup'⟩ name v

/-- A field that is there as `null` is looked up as one that is not there. -/
theorem getD_lookup_insert_null {before after : List (String × Json)} {name : String}
    (hNew : name ∉ (before ++ after).map Prod.fst) (other : String) :
    ((before ++ (name, .null) :: after).lookup other).getD .null =
      ((before ++ after).lookup other).getD .null := by
  by_cases hSame : other = name
  · subst hSame
    have hNone : (before ++ after).lookup other = none := by
      rw [List.lookup_eq_none_iff]
      intro e he
      rw [bne_iff_ne]
      rintro rfl
      exact hNew (List.mem_map.2 ⟨e, he, rfl⟩)
    rw [hNone]
    rw [List.lookup_append, Option.or_eq_none_iff] at hNone
    rw [List.lookup_append, hNone.1, List.lookup_cons_self]
    rfl
  · have hOther : (other == name) = false := beq_eq_false_iff_ne.2 hSame
    rw [List.lookup_append, List.lookup_append, List.lookup_cons, hOther]

theorem forall_mem_middle {P : Json × Json → Prop} {before after : List (Json × Json)}
    {m : Json × Json} :
    (∀ x ∈ before ++ m :: after, P x) ↔ P m ∧ ∀ x ∈ before ++ after, P x := by
  rw [List.forall_mem_append, List.forall_mem_cons, List.forall_mem_append, and_left_comm]

section Middle

variable {before after : List (Json × Json)} {key key' name : String} {v : Json} {vs : List Json}

/-- A field goes by any of its names. -/
theorem gives_renamed (hApart : fs.areApart = true) (h : fs.nameOf? key = some name)
    (h' : fs.nameOf? key' = some name) :
    fs.Gives (before ++ (ofText key, v) :: after) vs ↔
      fs.Gives (before ++ (ofText key', v) :: after) vs := by
  have hAccepts : fs.Accepts (ofText key, v) ↔ fs.Accepts (ofText key', v) := by
    rw [ofText, ofText, Accepts, Accepts, find?_eq_of_nameOf? hApart h h']
  have hEntries : fs.entries (before ++ (ofText key, v) :: after) =
      fs.entries (before ++ (ofText key', v) :: after) := by
    rw [entries_append, entries_append, entries_cons, entries_cons, named?_ofText, named?_ofText,
      h, h']
  rw [gives_iff, gives_iff, forall_mem_middle, forall_mem_middle, hAccepts, values, values,
    hEntries]

/-- A member that no field goes by only has to be without a fault. -/
theorem gives_unknown (h : fs.nameOf? key = none) :
    fs.Gives (before ++ (ofText key, v) :: after) vs ↔
      v.isWhole = true ∧ fs.Gives (before ++ after) vs := by
  have hAccepts : fs.Accepts (ofText key, v) ↔ v.isWhole = true := by
    rw [ofText, Accepts, Option.map_eq_none_iff.1 h]
  have hEntries : fs.entries (before ++ (ofText key, v) :: after) =
      fs.entries (before ++ after) := by
    rw [entries_append, entries_append, entries_cons, named?_ofText, h]
    rfl
  rw [gives_iff, gives_iff, forall_mem_middle, hAccepts, values, values, hEntries, and_assoc]

/-- A field that is there as `null` gives what it gives if it is not there. -/
theorem gives_null (hNull : fs.ReadNull) (h : fs.nameOf? key = some name) :
    fs.Gives (before ++ (ofText key, .null) :: after) vs ↔
      fs.Lacks (before ++ after) name ∧ fs.Gives (before ++ after) vs := by
  have hAccepts : fs.Accepts (ofText key, .null) := hNull.accepts h
  have hEntries : fs.entries (before ++ (ofText key, .null) :: after) =
      fs.entries before ++ (name, .null) :: fs.entries after := by
    rw [entries_append, entries_cons, named?_ofText, h]
    rfl
  have hNodup : ((fs.entries (before ++ (ofText key, .null) :: after)).map Prod.fst).Nodup ↔
      fs.Lacks (before ++ after) name ∧ ((fs.entries (before ++ after)).map Prod.fst).Nodup := by
    rw [lacks_iff, hEntries, entries_append, List.map_append, List.map_append, List.map_cons,
      List.nodup_middle, List.nodup_cons]
  have hValues : fs.Lacks (before ++ after) name →
      fs.values (before ++ (ofText key, .null) :: after) = fs.values (before ++ after) := by
    intro hLacks
    rw [lacks_iff, entries_append] at hLacks
    refine List.map_congr_left fun other _ => ?_
    rw [hEntries, entries_append]
    exact getD_lookup_insert_null hLacks other
  rw [gives_iff, gives_iff, forall_mem_middle, hNodup]
  constructor
  · rintro ⟨⟨-, hRest⟩, ⟨hLacks, hDistinct⟩, hSame⟩
    exact ⟨hLacks, hRest, hDistinct, hValues hLacks ▸ hSame⟩
  · rintro ⟨hLacks, hRest, hDistinct, hSame⟩
    exact ⟨⟨hAccepts, hRest⟩, ⟨hLacks, hDistinct⟩, (hValues hLacks).trans hSame⟩

end Middle

/-- The order of the members does not count. -/
theorem Gives.perm {vs : List Json} (hGives : fs.Gives ms vs) (h : ms.Perm ms') :
    fs.Gives ms' vs := by
  obtain ⟨hAccepts, hNodup, rfl⟩ := hGives
  have hEntries : (fs.entries ms).Perm (fs.entries ms') := h.filterMap _
  refine ⟨fun m hm => hAccepts m (h.mem_iff.2 hm), (hEntries.map _).nodup_iff.1 hNodup, ?_⟩
  refine List.map_congr_left fun name _ => ?_
  rw [lookup_eq_of_perm hEntries hNodup]

/-- One change keeps what an object gives. -/
theorem Respelling.gives (hApart : fs.areApart = true) (hNull : fs.ReadNull) {vs : List Json}
    (h : fs.Respelling ms ms') (hGives : fs.Gives ms vs) : fs.Gives ms' vs := by
  cases h with
  | permuted h => exact hGives.perm h
  | renamed before after v h h' => exact (gives_renamed hApart h h').1 hGives
  | nullAdded before after h hAbsent => exact (gives_null hNull h).2 ⟨hAbsent, hGives⟩
  | nullRemoved before after h => exact ((gives_null hNull h).1 hGives).2
  | unknownAdded before after h hWhole => exact (gives_unknown h).2 ⟨hWhole, hGives⟩
  | unknownRemoved before after v h => exact ((gives_unknown h).1 hGives).2

/-- So do any number of changes. -/
theorem Gives.respelled (hApart : fs.areApart = true) (hNull : fs.ReadNull) {vs : List Json}
    (hGives : fs.Gives ms vs) (h : ReflTransGen fs.Respelling ms ms') : fs.Gives ms' vs := by
  induction h with
  | refl => exact hGives
  | tail _ hStep ih => exact hStep.gives hApart hNull ih

end Fields

/-! ## Records -/

/-- A text is decoded to what is read from its value. -/
theorem Codec.decode_of_ofSymbols {α : Type} (c : Codec α) {xs : List Symbol} {v : Json}
    (h : Json.ofSymbols xs = (v, [])) : c.decode xs = c.read v := by
  rw [decode, h]
  dsimp only
  cases c.read v with
  | error fault => rfl
  | ok a => rfl

/-- A record is read alike in all its spellings. -/
structure Record.SpellingsAgree {ρ : Type} (r : Record ρ) : Prop where
  /-- Changes of the spelling of an object do not change what it is decoded as. -/
  respelled : ∀ {xs xs' : List Symbol} {ms ms' : List (Json × Json)} {a : ρ},
    Json.ofSymbols xs = (.object ms true, []) → Json.ofSymbols xs' = (.object ms' true, []) →
    ReflTransGen r.fields.Respelling ms ms' → r.codec.decode xs = .ok a →
    r.codec.decode xs' = .ok a
  /-- The array of the values of the fields is decoded as the object is; those at its end may be
  left out if they are absent. -/
  array : ∀ {xs xs' : List Symbol} {ms : List (Json × Json)} {items : List Json} {k : Nat} {a : ρ},
    Json.ofSymbols xs = (.object ms true, []) → Json.ofSymbols xs' = (.array items true, []) →
    r.fields.values ms = items ++ List.replicate k .null → r.codec.decode xs = .ok a →
    r.codec.decode xs' = .ok a
  /-- An object with a field that comes again is refused for it, if it can be read without that. -/
  duplicate : ∀ {xs : List Symbol} (before middle after : List (Json × Json))
    {key key' name : String} {v v' : Json} {a : ρ},
    r.fields.nameOf? key = some name → r.fields.nameOf? key' = some name →
    Json.ofSymbols xs =
      (.object (before ++ (ofText key, v) :: middle ++ (ofText key', v') :: after) true, []) →
    r.read (.object (before ++ (ofText key, v) :: middle ++ after) true) = .ok a →
    r.codec.decode xs = .error (.mismatch none (.duplicateField name))

namespace Record

variable {ρ : Type} {r : Record ρ} {ms : List (Json × Json)} {a : ρ}

/-- An object is read if it is accepted, and then as the array of its values. -/
theorem read_object_eq_ok_iff (hApart : r.fields.areApart = true) (hNull : r.fields.ReadNull) :
    r.read (.object ms true) = .ok a ↔
      ∃ vs, r.fields.Gives ms vs ∧ r.read (.array vs true) = .ok a := by
  have hObject : r.read (.object ms true) = .ok a ↔
      r.fields.scan [] ms = .ok () ∧ r.read (.array (r.fields.values ms) true) = .ok a := by
    simp only [read, bind_eq_ok_iff, if_true, pure_eq_ok_iff,
      Fields.ofMembers_eq_ok_iff hApart hNull ms r.lengthExpectation 0]
    constructor
    · rintro ⟨_, hScan, hItems⟩
      exact ⟨hScan, hItems⟩
    · rintro ⟨hScan, hItems⟩
      exact ⟨(), hScan, hItems⟩
  rw [hObject, Fields.scan_iff_gives]
  constructor
  · rintro ⟨hGives, hRead⟩
    exact ⟨_, hGives, hRead⟩
  · rintro ⟨vs, hGives, hRead⟩
    obtain rfl := hGives.values_eq
    exact ⟨hGives, hRead⟩

/-- Items at the end of an array that are `null` can be left out. -/
theorem read_array_of_append_null (hNull : r.fields.ReadNull) {items : List Json} {k : Nat}
    (h : r.read (.array (items ++ List.replicate k .null) true) = .ok a) :
    r.read (.array items true) = .ok a := by
  obtain ⟨b, hItems, hPack⟩ := bind_eq_ok_iff.1 h
  exact bind_eq_ok_iff.2 ⟨b, Fields.ofItems_of_append_null hNull hItems, hPack⟩

/-- Records of fields that no key confuses, and that are absent as `null`, are read alike in all
their spellings. -/
theorem spellings_agree (hApart : r.fields.areApart = true) (hNull : r.fields.ReadNull) :
    r.SpellingsAgree where
  respelled := by
    intro xs xs' ms ms' a hText hText' hSpelled hDecode
    rw [r.codec.decode_of_ofSymbols hText] at hDecode
    rw [r.codec.decode_of_ofSymbols hText']
    obtain ⟨vs, hGives, hRead⟩ := (read_object_eq_ok_iff hApart hNull).1 hDecode
    exact (read_object_eq_ok_iff hApart hNull).2
      ⟨vs, hGives.respelled hApart hNull hSpelled, hRead⟩
  array := by
    intro xs xs' ms items k a hText hText' hItems hDecode
    rw [r.codec.decode_of_ofSymbols hText] at hDecode
    rw [r.codec.decode_of_ofSymbols hText']
    obtain ⟨vs, hGives, hRead⟩ := (read_object_eq_ok_iff hApart hNull).1 hDecode
    rw [← hGives.values_eq, hItems] at hRead
    exact read_array_of_append_null hNull hRead
  duplicate := by
    intro xs before middle after key key' name v v' a hName hName' hText hRead
    rw [r.codec.decode_of_ofSymbols hText]
    obtain ⟨vs, hGives, -⟩ := (read_object_eq_ok_iff hApart hNull).1 hRead
    obtain rfl := hGives.values_eq
    have hBefore := Fields.scan_left (Fields.scan_iff_gives.2 hGives)
    have hMem : name ∈ (r.fields.entries (before ++ (ofText key, v) :: middle)).map Prod.fst := by
      rw [Fields.entries_append, Fields.entries_cons, Fields.named?_ofText, hName]
      simp
    have hFault := Fields.scan_again hBefore hName' hMem v' after
    show (r.fields.scan [] _ >>= _) = _
    rw [hFault]
    rfl

end Record

end Admission.Json
