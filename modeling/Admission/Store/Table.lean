/-!
# Tables keyed by id

A table holds at most one value under each id, in the order in which the ids came.  Putting a value
under an id that is there replaces the value in its place; a new id goes to the end.  All reading
goes through `get?`.

## Main results

* `get?_put`: after a put the id reads as the new value and every other id as before.
* `get?_keep`, `keep_keep`: after `keep p` an id reads as its value if that satisfies `p`.
* `size_put`: a put adds one to the size exactly when the id is new.
* `put_comm`: puts under two ids can change places, if one of the ids is known.
-/

namespace Admission.Store

/-- Replace the value under an id, or append it. -/
def putEntry {α : Type} (id : String) (a : α) : List (String × α) → List (String × α)
  | [] => [(id, a)]
  | e :: es => if e.1 = id then (id, a) :: es else e :: putEntry id a es

theorem keys_putEntry {α : Type} (id : String) (a : α) (es : List (String × α)) :
    (putEntry id a es).map Prod.fst =
      if id ∈ es.map Prod.fst then es.map Prod.fst else es.map Prod.fst ++ [id] := by
  induction es with
  | nil => simp [putEntry]
  | cons e es ih =>
    by_cases h : e.1 = id
    · simp [putEntry, h]
    · have h' : id ≠ e.1 := fun h' => h h'.symm
      rw [putEntry, if_neg h, List.map_cons, ih]
      by_cases hm : id ∈ es.map Prod.fst <;> simp [hm, h']

theorem putEntry_comm {α : Type} {a b : String} (hNe : a ≠ b) (x y : α) {es : List (String × α)}
    (hKnown : a ∈ es.map Prod.fst) :
    putEntry b y (putEntry a x es) = putEntry a x (putEntry b y es) := by
  induction es with
  | nil => exact absurd hKnown List.not_mem_nil
  | cons e es ih =>
    by_cases ha : e.1 = a
    · have hb : e.1 ≠ b := ha ▸ hNe
      simp [putEntry, ha, hNe]
    · by_cases hb : e.1 = b
      · simp [putEntry, hb, hNe.symm]
      · have hRest : a ∈ es.map Prod.fst := by simpa [Ne.symm ha] using hKnown
        simp [putEntry, ha, hb, ih hRest]

/-- Values under distinct ids, oldest id first. -/
structure Table (α : Type) where
  entries : List (String × α)
  nodup : (entries.map Prod.fst).Nodup

namespace Table

variable {α : Type}

/-- No entry. -/
def empty : Table α := ⟨[], List.nodup_nil⟩

instance : Inhabited (Table α) := ⟨empty⟩

/-- The value under an id. -/
def get? (t : Table α) (id : String) : Option α := t.entries.lookup id

/-- Put a value under an id. -/
def put (t : Table α) (id : String) (a : α) : Table α where
  entries := putEntry id a t.entries
  nodup := by
    rw [keys_putEntry]
    split
    · exact t.nodup
    · next h =>
      rw [List.nodup_append]
      refine ⟨t.nodup, by simp, ?_⟩
      intro x hx y hy hxy
      rw [List.mem_singleton] at hy
      exact h (hy ▸ hxy ▸ hx)

/-- The entries whose value satisfies `p`. -/
def keep (p : α → Bool) (t : Table α) : Table α where
  entries := t.entries.filter fun e => p e.2
  nodup := t.nodup.sublist (List.filter_sublist.map _)

/-- The values, oldest id first. -/
def values (t : Table α) : List α := t.entries.map Prod.snd

/-- The number of entries. -/
def size (t : Table α) : Nat := t.entries.length

theorem ext_entries {t t' : Table α} (h : t.entries = t'.entries) : t = t' := by
  cases t
  cases t'
  cases h
  rfl

/-! ## Reading after writing -/

@[simp] theorem get?_empty (id : String) : (empty : Table α).get? id = none := rfl

private theorem lookup_cons_eq (id : String) (e : String × α) (es : List (String × α)) :
    (e :: es).lookup id = if id = e.1 then some e.2 else es.lookup id := by
  rw [List.lookup_cons]
  by_cases h : id = e.1
  · rw [if_pos h, beq_iff_eq.2 h]
  · rw [if_neg h, beq_eq_false_iff_ne.2 h]

private theorem lookup_putEntry (id id' : String) (a : α) (es : List (String × α)) :
    (putEntry id a es).lookup id' = if id' = id then some a else es.lookup id' := by
  induction es with
  | nil => rw [putEntry, lookup_cons_eq]
  | cons e es ih =>
    by_cases h : e.1 = id
    · rw [putEntry, if_pos h, lookup_cons_eq, lookup_cons_eq, h]
      split <;> simp_all
    · rw [putEntry, if_neg h, lookup_cons_eq, lookup_cons_eq, ih]
      split
      · next h' => rw [if_neg (h' ▸ h)]
      · rfl

/-- After a put the id reads as the new value and every other id as before. -/
@[simp] theorem get?_put (t : Table α) (id id' : String) (a : α) :
    (t.put id a).get? id' = if id' = id then some a else t.get? id' :=
  lookup_putEntry id id' a t.entries

theorem mem_entries_iff (t : Table α) (id : String) (a : α) :
    (id, a) ∈ t.entries ↔ t.get? id = some a := by
  obtain ⟨es, hn⟩ := t
  simp only [get?]
  induction es with
  | nil => simp
  | cons e es ih =>
    rw [List.map_cons, List.nodup_cons] at hn
    rw [List.mem_cons, lookup_cons_eq]
    by_cases h : id = e.1
    · subst h
      have hnot : (e.1, a) ∉ es := fun hm => hn.1 (List.mem_map.2 ⟨_, hm, rfl⟩)
      rw [if_pos rfl, Option.some.injEq]
      exact ⟨fun hm => hm.elim (fun he => by rw [← he]) (absurd · hnot),
        fun ha => .inl (by rw [← ha])⟩
    · have hne : ¬((id, a) = e) := fun he => h (by rw [← he])
      rw [if_neg h, ← ih hn.2]
      simp [hne]

theorem get?_isSome_iff (t : Table α) (id : String) :
    (t.get? id).isSome ↔ id ∈ t.entries.map Prod.fst := by
  constructor
  · intro h
    obtain ⟨a, ha⟩ := Option.isSome_iff_exists.1 h
    exact List.mem_map_of_mem (f := Prod.fst) ((mem_entries_iff t id a).2 ha)
  · intro h
    obtain ⟨⟨_, a⟩, he, rfl⟩ := List.mem_map.1 h
    exact Option.isSome_iff_exists.2 ⟨a, (mem_entries_iff t _ a).1 he⟩

/-- After `keep p` an id reads as its value if that satisfies `p`. -/
@[simp] theorem get?_keep (p : α → Bool) (t : Table α) (id : String) :
    (t.keep p).get? id = (t.get? id).filter p := by
  apply Option.ext
  intro a
  rw [← mem_entries_iff, Option.filter_eq_some_iff, ← mem_entries_iff]
  simp [keep]

/-- A put adds one to the size exactly when the id is new. -/
theorem size_put (t : Table α) (id : String) (a : α) :
    (t.put id a).size = if (t.get? id).isSome then t.size else t.size + 1 := by
  have h := congrArg List.length (keys_putEntry id a t.entries)
  rw [List.length_map] at h
  simp only [get?_isSome_iff]
  rw [size, put, h]
  split <;> simp [size]

/-- Puts under two ids can change places, if one of the ids is known: only new ids go to the end. -/
theorem put_comm {t : Table α} {a b : String} (hNe : a ≠ b) (x y : α)
    (hKnown : (t.get? a).isSome) : (t.put a x).put b y = (t.put b y).put a x :=
  ext_entries (putEntry_comm hNe x y ((get?_isSome_iff t a).1 hKnown))

/-! ## What is kept -/

/-- Of what satisfies `p`, what satisfies `q`. -/
theorem keep_keep (p q : α → Bool) (t : Table α) :
    (t.keep p).keep q = t.keep fun a => q a && p a :=
  ext_entries (List.filter_filter ..)

theorem keep_eq_self {p : α → Bool} {t : Table α} (h : ∀ a, p a = true) : t.keep p = t :=
  ext_entries (List.filter_eq_self.2 fun e _ => h e.2)

theorem size_keep_le (p : α → Bool) (t : Table α) : (t.keep p).size ≤ t.size :=
  List.length_filter_le ..

end Table

end Admission.Store
