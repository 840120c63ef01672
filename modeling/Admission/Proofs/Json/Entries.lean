import Admission.Proofs.Json.Records
import Mathlib.Data.List.Nodup

/-!
# Objects as fields see them

Of an object the fields of a record see no more than its entries: the members that they go by, each
under the name of its field.  An object is accepted if each of its members is and no field has two
entries, and it is read as the array of the values that the fields look up among them, with `null`
for a field that is absent.

## Main results

* `Fields.scan_eq_ok_iff`: which objects are accepted.
* `Fields.scan_again`: what becomes of a field that comes twice.
* `Fields.ofMembers_eq_ok_iff`: an object is read as the array of its values is.
-/

namespace Admission.Json

/-- A field that is absent as `null` reads its member, or else `null`. -/
theorem Field.ofMembers_eq_ok_iff {α : Type} {f : Field α} {a₀ a : α} (hAbsent : f.absent = some a₀)
    (hNull : f.codec.read .null = .ok a₀) (ms : List (Json × Json)) :
    f.ofMembers ms = .ok a ↔
      f.codec.read (((f.member? ms).map Prod.snd).getD .null) = .ok a := by
  rw [ofMembers]
  cases f.member? ms with
  | none => simp [hAbsent, hNull]
  | some found => exact mapError_eq_ok_iff

namespace Fields

variable {α β : Type} {f : Field α} {fs : Fields β} {ms ms' : List (Json × Json)}

/-! ## Objects as fields see them -/

/-- The name of the field that a key names. -/
def nameOf? (fs : Fields β) (key : String) : Option String := (fs.find? key).map Prod.fst

/-- A member under the name of its field, if its key names one. -/
def named? (fs : Fields β) : Json × Json → Option (String × Json)
  | (.string (some key), v) => (fs.nameOf? key).map fun name => (name, v)
  | _ => none

/-- The members that fields go by, each under the name of its field. -/
def entries (fs : Fields β) (ms : List (Json × Json)) : List (String × Json) :=
  ms.filterMap fs.named?

/-- The values of the fields in an object, in the order of the record, with `null` for a field that
is absent. -/
def values (fs : Fields β) (ms : List (Json × Json)) : List Json :=
  fs.names.map fun name => ((fs.entries ms).lookup name).getD .null

/-- A member that is accepted on its own: the field that it names can read it, or no field goes by
it and it has no fault. -/
def Accepts (fs : Fields β) : Json × Json → Prop
  | (.string (some key), v) =>
    match fs.find? key with
    | none => v.isWhole = true
    | some (_, accepts) => accepts v = .ok ()
  | _ => False

/-- No key names two fields. -/
def areApart {β : Type} : Fields β → Bool
  | nil => true
  | cons f fs => (f.name :: f.aliases).all (fun key => (fs.find? key).isNone) && fs.areApart

/-- An absent field stands for what it reads `null` as. -/
def ReadNull {β : Type} : Fields β → Prop
  | nil => True
  | cons f fs => (∃ a, f.absent = some a ∧ f.codec.read .null = .ok a) ∧ fs.ReadNull

theorem nameOf?_cons (f : Field α) (fs : Fields β) (key : String) :
    (cons f fs).nameOf? key = if f.isNamed key then some f.name else fs.nameOf? key := by
  rw [nameOf?, find?]
  split <;> rfl

/-- Every key, with the name of the field that it names. -/
def keys {β : Type} : Fields β → List (String × String)
  | nil => []
  | cons f fs => (f.name :: f.aliases).map (fun key => (key, f.name)) ++ fs.keys

theorem lookup_map_const {names : List String} (key name : String) :
    (names.map fun n => (n, name)).lookup key = if names.contains key then some name else none := by
  induction names with
  | nil => rfl
  | cons n names ih =>
      rw [List.map_cons, List.lookup_cons, ih, List.contains_cons]
      cases key == n <;> rfl

theorem nameOf?_eq_lookup_keys (fs : Fields β) (key : String) :
    fs.nameOf? key = fs.keys.lookup key := by
  induction fs with
  | nil => rfl
  | cons f fs ih =>
      rw [nameOf?_cons, keys, List.lookup_append, lookup_map_const, List.contains_cons, ih,
        Field.isNamed]
      cases key == f.name || f.aliases.contains key <;> rfl

/-- A field goes by its own name. -/
theorem isSome_find?_of_nameOf? {key name : String} (h : fs.nameOf? key = some name) :
    (fs.find? name).isSome := by
  induction fs with
  | nil => cases h
  | cons f fs ih =>
      rw [nameOf?_cons] at h
      rw [find?]
      split at h
      · cases h
        rw [if_pos f.isNamed_self]
        rfl
      · split
        · rfl
        · exact ih h

theorem isSome_find?_of_mem_names {name : String} (h : name ∈ fs.names) :
    (fs.find? name).isSome := by
  induction fs with
  | nil => exact absurd h List.not_mem_nil
  | cons f fs ih =>
      rw [find?]
      split
      · rfl
      · next hNamed =>
          rcases List.mem_cons.1 h with rfl | h
          · exact absurd f.isNamed_self hNamed
          · exact ih h

/-- A key of a field names none of the fields after it. -/
theorem find?_eq_none_of_areApart (h : (cons f fs).areApart = true) {key : String}
    (hNamed : f.isNamed key = true) : fs.find? key = none := by
  rw [areApart, Bool.and_eq_true, List.all_eq_true] at h
  refine Option.isNone_iff_eq_none.1 (h.1 key ?_)
  rw [Field.isNamed, Bool.or_eq_true, beq_iff_eq, List.contains_iff_mem] at hNamed
  exact List.mem_cons.2 hNamed

/-- The name of a field is no name of a field after it. -/
theorem ne_name_of_areApart (h : (cons f fs).areApart = true) {name : String}
    (hName : (fs.find? name).isSome) : name ≠ f.name := by
  rintro rfl
  rw [find?_eq_none_of_areApart h f.isNamed_self] at hName
  cases hName

theorem areApart_tail (h : (cons f fs).areApart = true) : fs.areApart = true := by
  rw [areApart, Bool.and_eq_true] at h
  exact h.2

/-- Two names of one field are accepted with the same values. -/
theorem find?_eq_of_nameOf? (hApart : fs.areApart = true) {key key' name : String}
    (h : fs.nameOf? key = some name) (h' : fs.nameOf? key' = some name) :
    fs.find? key = fs.find? key' := by
  induction fs with
  | nil => cases h
  | cons f fs ih =>
      rw [nameOf?_cons] at h h'
      have hOther : ∀ {k}, fs.nameOf? k ≠ some f.name := fun hk =>
        ne_name_of_areApart hApart (isSome_find?_of_nameOf? hk) rfl
      rw [find?, find?]
      split at h
      · cases h
        split at h'
        · next hNamed hNamed' => rw [if_pos hNamed, if_pos hNamed']
        · exact absurd h' hOther
      · split at h'
        · cases h'
          exact absurd h hOther
        · next hNamed hNamed' =>
            rw [if_neg hNamed, if_neg hNamed']
            exact ih (areApart_tail hApart) h h'

/-- Every field that may be absent accepts `null`. -/
theorem ReadNull.accepts (hNull : fs.ReadNull) {key name : String}
    (h : fs.nameOf? key = some name) : fs.Accepts (ofText key, .null) := by
  induction fs with
  | nil => cases h
  | cons f fs ih =>
      obtain ⟨⟨a, -, hRead⟩, hNull⟩ := hNull
      rw [nameOf?_cons] at h
      rw [ofText, Accepts, find?]
      split at h
      · next hNamed =>
          rw [if_pos hNamed]
          show (f.codec.read .null).map (fun _ => ()) = .ok ()
          rw [hRead]
          rfl
      · next hNamed =>
          rw [if_neg hNamed]
          exact ih hNull h

/-! ## Which objects are accepted -/

theorem entries_cons (fs : Fields β) (m : Json × Json) (ms : List (Json × Json)) :
    fs.entries (m :: ms) = (fs.named? m).toList ++ fs.entries ms := by
  rw [entries, List.filterMap_cons]
  cases fs.named? m <;> rfl

theorem entries_append (fs : Fields β) (ms ms' : List (Json × Json)) :
    fs.entries (ms ++ ms') = fs.entries ms ++ fs.entries ms' := List.filterMap_append

/-- The entry of a member with a text for its key. -/
theorem named?_ofText (fs : Fields β) (key : String) (v : Json) :
    fs.named? (ofText key, v) = (fs.nameOf? key).map fun name => (name, v) := rfl

/-- A member that is accepted, and whose field did not come before, is passed. -/
theorem scan_cons_of_accepts {m : Json × Json} (hm : fs.Accepts m) {seen : List String}
    (hNew : ∀ e ∈ fs.named? m, e.1 ∉ seen) (ms : List (Json × Json)) :
    fs.scan seen (m :: ms) = fs.scan (((fs.named? m).map Prod.fst).toList ++ seen) ms := by
  obtain ⟨k, v⟩ := m
  cases k with
  | string text =>
      cases text with
      | none => exact absurd hm id
      | some key =>
          rw [Accepts] at hm
          rw [named?, nameOf?] at hNew ⊢
          rw [scan]
          cases hFound : fs.find? key with
          | none =>
              rw [hFound] at hm
              exact if_pos hm
          | some found =>
              obtain ⟨name, accepts⟩ := found
              rw [hFound] at hm hNew
              have hUnseen : ¬seen.contains name = true := by simpa using hNew _ rfl
              have hAccepts : accepts v = .ok () := hm
              dsimp only
              rw [if_neg hUnseen, hAccepts]
              rfl
  | _ => exact absurd hm id

/-- A member that is passed is accepted, and its field did not come before. -/
theorem accepts_of_scan {m : Json × Json} {seen : List String}
    (h : fs.scan seen (m :: ms) = .ok ()) : fs.Accepts m ∧ ∀ e ∈ fs.named? m, e.1 ∉ seen := by
  obtain ⟨k, v⟩ := m
  cases k with
  | string text =>
      cases text with
      | none => cases h
      | some key =>
          rw [Accepts, named?, nameOf?]
          rw [scan] at h
          cases hFound : fs.find? key with
          | none =>
              rw [hFound] at h
              constructor
              · by_cases hWhole : v.isWhole = true
                · exact hWhole
                · rw [if_neg hWhole] at h
                  cases h
              · intro e he
                cases he
          | some found =>
              obtain ⟨name, accepts⟩ := found
              rw [hFound] at h
              dsimp only at h ⊢
              split at h
              · cases h
              · next hUnseen =>
                  split at h
                  · cases h
                  · next hAccepts =>
                      refine ⟨hAccepts, ?_⟩
                      rintro e ⟨⟩
                      simpa using hUnseen
  | _ => cases h

theorem scan_cons_eq_ok_iff {m : Json × Json} {seen : List String} :
    fs.scan seen (m :: ms) = .ok () ↔ fs.Accepts m ∧ (∀ e ∈ fs.named? m, e.1 ∉ seen) ∧
      fs.scan (((fs.named? m).map Prod.fst).toList ++ seen) ms = .ok () := by
  constructor
  · intro h
    obtain ⟨hm, hNew⟩ := accepts_of_scan h
    rw [scan_cons_of_accepts hm hNew] at h
    exact ⟨hm, hNew, h⟩
  · rintro ⟨hm, hNew, h⟩
    rw [scan_cons_of_accepts hm hNew]
    exact h

/-- An object is accepted exactly if each of its members is, and no field has two entries in it or
one beside those that came before. -/
theorem scan_eq_ok_iff {seen : List String} :
    fs.scan seen ms = .ok () ↔ (∀ m ∈ ms, fs.Accepts m) ∧ ((fs.entries ms).map Prod.fst).Nodup ∧
      ∀ name ∈ (fs.entries ms).map Prod.fst, name ∉ seen := by
  induction ms generalizing seen with
  | nil => simp [scan, entries]
  | cons m ms ih =>
      rw [scan_cons_eq_ok_iff, ih, entries_cons, List.forall_mem_cons]
      cases fs.named? m with
      | none =>
          simp only [Option.toList_none, Option.map_none, List.nil_append, and_assoc,
            Option.not_mem_none, false_implies, implies_true, true_and]
      | some e =>
          simp only [Option.toList_some, Option.map_some, List.singleton_append, List.map_cons,
            List.nodup_cons, List.mem_cons, not_or, Option.mem_some_iff, forall_eq',
            forall_eq_or_imp, forall_and]
          grind

theorem scan_append {seen : List String} (h : fs.scan seen ms = .ok ()) (ms' : List (Json × Json)) :
    fs.scan seen (ms ++ ms') =
      fs.scan (((fs.entries ms).map Prod.fst).reverse ++ seen) ms' := by
  induction ms generalizing seen with
  | nil => rfl
  | cons m ms ih =>
      obtain ⟨hm, hNew, h⟩ := scan_cons_eq_ok_iff.1 h
      rw [List.cons_append, scan_cons_of_accepts hm hNew, ih h, entries_cons]
      cases fs.named? m <;> simp

theorem scan_left {seen : List String} (h : fs.scan seen (ms ++ ms') = .ok ()) :
    fs.scan seen ms = .ok () := by
  rw [scan_eq_ok_iff, entries_append, List.map_append] at h
  obtain ⟨hAccepts, hNodup, hNew⟩ := h
  exact scan_eq_ok_iff.2 ⟨(List.forall_mem_append.1 hAccepts).1, hNodup.of_append_left,
    (List.forall_mem_append.1 hNew).1⟩

/-- A field that came before is a fault where it comes again, whatever its value. -/
theorem scan_again {seen : List String} {before : List (Json × Json)}
    (h : fs.scan seen before = .ok ()) {key name : String} (hName : fs.nameOf? key = some name)
    (hBefore : name ∈ (fs.entries before).map Prod.fst) (v : Json) (after : List (Json × Json)) :
    fs.scan seen (before ++ (ofText key, v) :: after) =
      .error (.mismatch none (.duplicateField name)) := by
  rw [scan_append h, ofText, scan]
  obtain ⟨⟨name, accepts⟩, hFound, rfl⟩ := Option.map_eq_some_iff.1 hName
  have hSeen : (((fs.entries before).map Prod.fst).reverse ++ seen).contains name = true := by
    simpa using Or.inl (List.mem_map.1 hBefore)
  rw [hFound]
  exact if_pos hSeen

/-! ## What is read of an object -/

/-- The first field finds its member under its name. -/
theorem lookup_entries_self (hApart : (cons f fs).areApart = true) (ms : List (Json × Json)) :
    ((cons f fs).entries ms).lookup f.name = (f.member? ms).map Prod.snd := by
  induction ms with
  | nil => rfl
  | cons m ms ih =>
      obtain ⟨k, v⟩ := m
      cases k with
      | string text =>
          cases text with
          | none => exact ih
          | some key =>
              rw [entries_cons, named?, nameOf?_cons, Field.member?]
              by_cases hNamed : f.isNamed key = true
              · rw [if_pos hNamed, if_pos hNamed]
                exact List.lookup_cons_self
              · rw [if_neg hNamed, if_neg hNamed]
                cases hName : fs.nameOf? key with
                | none => exact ih
                | some name =>
                    have hOther := ne_name_of_areApart hApart (isSome_find?_of_nameOf? hName)
                    have hKey : (f.name == name) = false := beq_eq_false_iff_ne.2 hOther.symm
                    show ((name, v) :: (cons f fs).entries ms).lookup f.name = _
                    rw [List.lookup_cons, hKey]
                    exact ih
      | _ => exact ih

/-- The other fields find their members as if the first were not there. -/
theorem lookup_entries_of_mem (hApart : (cons f fs).areApart = true) {name : String}
    (hName : name ∈ fs.names) (ms : List (Json × Json)) :
    ((cons f fs).entries ms).lookup name = (fs.entries ms).lookup name := by
  induction ms with
  | nil => rfl
  | cons m ms ih =>
      obtain ⟨k, v⟩ := m
      cases k with
      | string text =>
          cases text with
          | none => exact ih
          | some key =>
              rw [entries_cons, entries_cons, named?, named?, nameOf?_cons]
              by_cases hNamed : f.isNamed key = true
              · have hOther := ne_name_of_areApart hApart (isSome_find?_of_mem_names hName)
                have hKey : (name == f.name) = false := beq_eq_false_iff_ne.2 hOther
                rw [if_pos hNamed, nameOf?, find?_eq_none_of_areApart hApart hNamed]
                show ((f.name, v) :: (cons f fs).entries ms).lookup name = _
                rw [List.lookup_cons, hKey]
                exact ih
              · rw [if_neg hNamed, List.lookup_append, List.lookup_append, ih]
      | _ => exact ih

theorem values_cons (hApart : (cons f fs).areApart = true) (ms : List (Json × Json)) :
    (cons f fs).values ms = ((f.member? ms).map Prod.snd).getD .null :: fs.values ms := by
  rw [values, names, List.map_cons, lookup_entries_self hApart, values]
  congr 1
  refine List.map_congr_left fun name hName => ?_
  rw [lookup_entries_of_mem hApart hName]

/-- An object is read as the array of its values is. -/
theorem ofMembers_eq_ok_iff (hApart : fs.areApart = true) (hNull : fs.ReadNull)
    (ms : List (Json × Json)) (expected : String) (i : Nat) {b : β} :
    fs.ofMembers ms = .ok b ↔ fs.ofItems expected true i (fs.values ms) = .ok b := by
  induction fs generalizing i with
  | nil => rfl
  | cons f fs ih =>
      obtain ⟨⟨a₀, hAbsent, hRead⟩, hNull⟩ := hNull
      rw [values_cons hApart, ofMembers, ofItems]
      simp only [bind_eq_ok_iff, mapError_eq_ok_iff, Field.ofMembers_eq_ok_iff hAbsent hRead,
        ih (areApart_tail hApart) hNull (i + 1)]

/-- The items at the end of an array that are `null` can be left out. -/
theorem ofItems_of_append_null (hNull : fs.ReadNull) {expected : String} {i k : Nat}
    {items : List Json} {b : β}
    (h : fs.ofItems expected true i (items ++ List.replicate k .null) = .ok b) :
    fs.ofItems expected true i items = .ok b := by
  induction fs generalizing i items k with
  | nil =>
      cases items with
      | nil => rfl
      | cons v vs => cases h
  | cons f fs ih =>
      obtain ⟨⟨a₀, hAbsent, hRead⟩, hNull⟩ := hNull
      cases items with
      | cons v vs =>
          rw [List.cons_append, ofItems] at h
          rw [ofItems]
          obtain ⟨a, ha, h⟩ := bind_eq_ok_iff.1 h
          obtain ⟨b, hb, h⟩ := bind_eq_ok_iff.1 h
          exact bind_eq_ok_iff.2 ⟨a, ha, bind_eq_ok_iff.2 ⟨b, ih hNull hb, h⟩⟩
      | nil =>
          cases k with
          | zero => exact h
          | succ k =>
              rw [List.nil_append, List.replicate_succ, ofItems, hRead] at h
              obtain ⟨_, ⟨⟩, h⟩ := bind_eq_ok_iff.1 h
              obtain ⟨rest, hRest, h⟩ := bind_eq_ok_iff.1 h
              rw [ofItems, if_pos rfl, hAbsent]
              exact bind_eq_ok_iff.2 ⟨rest, ih hNull (k := k) hRest, h⟩

end Fields

end Admission.Json
