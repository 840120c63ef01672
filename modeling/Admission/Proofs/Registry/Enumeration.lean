import Admission.Proofs.Registry.Unswept

/-!
# Listings and look-ups

The registry keeps its sessions in an order of its own, and a listing is drawn up by going through
them in that order.  Nothing of it shows.  A listing is strictly sorted, because every session
stands under its own id, so that no two of them tie; hence it is decided by which sessions are
live, and these are the ones that look-ups find.  Registries with the same entries in different
orders can be told apart by no operation, and no run on them can either.

## Main results

* `Keyed.pairwise_list`: a listing is strictly sorted.
* `SameEntries.step`, `SameEntries.run`: the order of the entries does not show.
* `listing_agrees_with_lookup`: the listings of any registry that a run ends with.
-/

namespace Admission

open Admission.Store Admission.Text Admission.Time

namespace Store.Table

variable {α : Type}

/-- Tables have the same entries exactly if they read alike. -/
theorem perm_entries_iff {t t' : Table α} :
    t.entries.Perm t'.entries ↔ ∀ id, t.get? id = t'.get? id := by
  constructor
  · intro hPerm id
    apply Option.ext
    intro a
    rw [← mem_entries_iff, ← mem_entries_iff, hPerm.mem_iff]
  · intro hGet
    refine (List.perm_ext_iff_of_nodup t.nodup.of_map t'.nodup.of_map).2 ?_
    rintro ⟨id, a⟩
    rw [mem_entries_iff, mem_entries_iff, hGet]

end Store.Table

/-- A session stands before another one in listings: it expires sooner, or at the same time and its
id is smaller by its bytes. -/
def Session.Precedes (a b : Session) : Prop :=
  a.expiresAt < b.expiresAt ∨ a.expiresAt = b.expiresAt ∧ utf8 a.id < utf8 b.id

/-- Of two sessions with distinct ids, the one that may stand before the other one precedes it. -/
theorem Session.precedes_of_listedBefore {a b : Session} (h : a.listedBefore b = true)
    (hIds : a.id ≠ b.id) : a.Precedes b := by
  rw [listedBefore_iff] at h
  by_cases hLt : a.expiresAt.rank < b.expiresAt.rank
  · exact .inl hLt
  · obtain ⟨hLe, hBytes⟩ := h.resolve_left hLt
    have hSame : a.expiresAt = b.expiresAt := Timestamp.eq_of_rank_eq (by omega)
    have hNe : utf8 a.id ≠ utf8 b.id := fun hEq => hIds (utf8_injective hEq)
    exact .inr ⟨hSame, Std.lt_of_le_of_ne hBytes hNe⟩

namespace Registry

variable {r r' : Registry} {now : Instant}

/-! ## One listing -/

/-- A listing is strictly sorted. -/
theorem Keyed.pairwise_list (hr : r.Keyed) (now : Instant) :
    (r.list now).Pairwise Session.Precedes := by
  have hIds := List.pairwise_map.1 (hr.nodup_list now)
  rw [list_eq_listing] at hIds ⊢
  exact (Session.pairwise_listing _).imp₂ (fun a b => Session.precedes_of_listedBefore) hIds

/-- A look-up finds a session with the id that was looked up. -/
theorem Keyed.id_eq_of_get? (hr : r.Keyed) {id : String} {s : Session}
    (h : r.get? id now = some s) : s.id = id :=
  hr id s (Option.filter_eq_some_iff.1 h).1

/-- Each live id is listed once, and no other id is. -/
theorem Keyed.count_ids_list (hr : r.Keyed) (now : Instant) (id : String) :
    ((r.list now).map Session.id).count id = if (r.get? id now).isSome then 1 else 0 := by
  have hMem : id ∈ (r.list now).map Session.id ↔ (r.get? id now).isSome := by
    rw [List.mem_map, Option.isSome_iff_exists]
    constructor
    · rintro ⟨s, hMem, rfl⟩
      exact ⟨s, (hr.mem_list_iff now s).1 hMem⟩
    · rintro ⟨s, hFound⟩
      have hId := hr.id_eq_of_get? hFound
      exact ⟨s, (hr.mem_list_iff now s).2 (by rw [hId, hFound]), hId⟩
  rw [(hr.nodup_list now).count]
  simp only [hMem]

/-! ## Entries in another order -/

/-- Two registries have the same entries, in any order. -/
def SameEntries (r r' : Registry) : Prop := r.sessions.entries.Perm r'.sessions.entries

theorem SameEntries.get?_eq (h : r.SameEntries r') (id : String) :
    r.sessions.get? id = r'.sessions.get? id :=
  Table.perm_entries_iff.1 h id

theorem SameEntries.keyed (h : r.SameEntries r') (hr : r.Keyed) : r'.Keyed := by
  intro id s hHeld
  rw [← h.get?_eq] at hHeld
  exact hr id s hHeld

theorem SameEntries.list_eq (h : r.SameEntries r') (hr : r.Keyed) (now : Instant) :
    r.list now = r'.list now := by
  have hr' := h.keyed hr
  rw [list_eq_listing, list_eq_listing]
  apply Session.listing_congr
  · exact hr.nodup_ids.sublist (List.filter_sublist.map _)
  · exact hr'.nodup_ids.sublist (List.filter_sublist.map _)
  · intro s
    rw [List.mem_filter, List.mem_filter, hr.mem_values_iff, hr'.mem_values_iff, h.get?_eq]

/-- An operation answers alike, and leaves the same entries. -/
theorem SameEntries.step (h : r.SameEntries r') (hr : r.Keyed) (now : Instant) (op : Op) :
    (r.step now op).1 = (r'.step now op).1 ∧ (r.step now op).2.SameEntries (r'.step now op).2 := by
  cases op with
  | insert s =>
      rw [step_insert, step_insert, h.get?_eq]
      split
      · exact ⟨rfl, h⟩
      · refine ⟨rfl, Table.perm_entries_iff.2 fun id => ?_⟩
        rw [Table.get?_put, Table.get?_put, h.get?_eq]
  | get id =>
      refine ⟨?_, h⟩
      show Answer.found (r.get? id now) = .found (r'.get? id now)
      rw [get?, get?, h.get?_eq]
  | list => exact ⟨congrArg Answer.listed (h.list_eq hr now), h⟩
  | sweep =>
      have hKept : (r.sweep now).2.SameEntries (r'.sweep now).2 := h.filter _
      have hCount : (r.sweep now).1 = (r'.sweep now).1 := by
        have hSize : r.size = r'.size := h.length_eq
        have hSizeKept : (r.sweep now).2.size = (r'.sweep now).2.size := hKept.length_eq
        have := r.count_sweep_add_size now
        have := r'.count_sweep_add_size now
        omega
      exact ⟨congrArg Answer.swept hCount, hKept⟩

/-- A run answers alike. -/
theorem SameEntries.run (h : r.SameEntries r') (hr : r.Keyed) (ops : List (Instant × Op)) :
    (r.run ops).1 = (r'.run ops).1 := by
  induction ops generalizing r r' with
  | nil => rfl
  | cons head ops ih =>
      obtain ⟨now, op⟩ := head
      obtain ⟨hAnswer, hAfter⟩ := h.step hr now op
      rw [run_cons, run_cons, hAnswer, ih hAfter (hr.step now op)]

/-- **Listings.**  Take the registry that any operations at any times end with, and any time.  Its
listing is strictly sorted, by the time of expiry and then by the bytes of the id.  What is listed
is what a look-up of its id finds, and each live id is listed once.  A registry with the same
entries in another order lists them alike, and answers whatever operations come next alike.  What is
listed and what a sweep would remove is all that is held. -/
theorem listing_agrees_with_lookup (ops : List (Instant × Op)) (now : Instant) :
    let r := (empty.run ops).2
    (r.list now).Pairwise Session.Precedes ∧
    (∀ s, s ∈ r.list now ↔ r.get? s.id now = some s) ∧
    (∀ id, ((r.list now).map Session.id).count id = if (r.get? id now).isSome then 1 else 0) ∧
    (∀ r' : Registry, r.sessions.entries.Perm r'.sessions.entries →
      r'.list now = r.list now ∧ ∀ more, (r'.run more).1 = (r.run more).1) ∧
    r.size = (r.list now).length + (r.sweep now).1 := by
  intro r
  have hr : r.Keyed := keyed_empty.run ops
  refine ⟨hr.pairwise_list now, hr.mem_list_iff now, hr.count_ids_list now, ?_, ?_⟩
  · intro r' hPerm
    have hSame : r.SameEntries r' := hPerm
    exact ⟨(hSame.list_eq hr now).symm, fun more => (hSame.run hr more).symm⟩
  · rw [length_list, Nat.add_comm, count_sweep_add_size]

end Registry

end Admission
