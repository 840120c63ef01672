import Admission.Proofs.Text.Bytes
import Admission.Session.Registry
import Mathlib.Data.List.Nodup

/-!
# Listings of the registry

A listing is sorted by expiry and then by id, so it does not show in which order the registry came
by its sessions: two lists of the same sessions, under distinct ids, are listed alike.  The order is
total because ids are compared by their bytes, and no two ids have the same bytes.

## Main results

* `mem_list_iff`: what is listed is what look-ups find.
* `listing_congr`: a listing is decided by which sessions are in it.
* `length_list`, `count_sweep_add_size`: what a sweep leaves and removes.
-/

namespace Admission

open Admission.Store Admission.Text Admission.Time

/-! ## The order of listings -/

namespace Session

theorem listedBefore_iff {a b : Session} :
    a.listedBefore b = true ↔
      a.expiresAt.rank < b.expiresAt.rank ∨
        a.expiresAt.rank ≤ b.expiresAt.rank ∧ utf8 a.id ≤ utf8 b.id := by
  simp [listedBefore, Timestamp.lt_def, Timestamp.le_def]

theorem listedBefore_trans {a b c : Session} (hab : a.listedBefore b = true)
    (hbc : b.listedBefore c = true) : a.listedBefore c = true := by
  rw [listedBefore_iff] at *
  rcases hab with hab | ⟨hab, hIds⟩
  · left
    omega
  · rcases hbc with hbc | ⟨hbc, hIds'⟩
    · left
      omega
    · exact .inr ⟨Int.le_trans hab hbc, List.le_trans hIds hIds'⟩

theorem listedBefore_total (a b : Session) : (a.listedBefore b || b.listedBefore a) = true := by
  rw [Bool.or_eq_true, listedBefore_iff, listedBefore_iff]
  rcases Int.lt_trichotomy a.expiresAt.rank b.expiresAt.rank with
    hLt | hEq | hGt
  · exact .inl (.inl hLt)
  · rcases List.le_total (utf8 a.id) (utf8 b.id) with hIds | hIds
    · exact .inl (.inr ⟨Int.le_of_eq hEq, hIds⟩)
    · exact .inr (.inr ⟨Int.le_of_eq hEq.symm, hIds⟩)
  · exact .inr (.inl hGt)

/-- Sessions each of which may stand before the other have the same id. -/
theorem id_eq_of_listedBefore {a b : Session} (hab : a.listedBefore b = true)
    (hba : b.listedBefore a = true) : a.id = b.id := by
  rw [listedBefore_iff] at hab hba
  rcases hab with hab | ⟨hab, hIds⟩
  · rcases hba with hba | ⟨hba, _⟩ <;> omega
  · rcases hba with hba | ⟨_, hIds'⟩
    · omega
    · exact utf8_injective (List.le_antisymm hIds hIds')

/-! ## Listings -/

/-- Sessions in the order of listings. -/
def listing (sessions : List Session) : List Session := sessions.mergeSort listedBefore

theorem listing_perm (sessions : List Session) : (listing sessions).Perm sessions :=
  List.mergeSort_perm sessions listedBefore

theorem pairwise_listing (sessions : List Session) :
    (listing sessions).Pairwise fun a b => a.listedBefore b = true := by
  unfold listing
  apply List.pairwise_mergeSort
  · intro a b c hab hbc
    exact listedBefore_trans hab hbc
  · exact listedBefore_total

/-- A listing is decided by which sessions are in it, if their ids are distinct. -/
theorem listing_congr {xs ys : List Session} (hxs : (xs.map Session.id).Nodup)
    (hys : (ys.map Session.id).Nodup) (hMem : ∀ s, s ∈ xs ↔ s ∈ ys) :
    listing xs = listing ys := by
  have hPerm : (listing xs).Perm (listing ys) := by
    refine (listing_perm xs).trans (.trans ?_ (listing_perm ys).symm)
    exact (List.perm_ext_iff_of_nodup hxs.of_map hys.of_map).2 hMem
  -- of two sessions with one id, only one can be listed
  have hUnique : ∀ a b, a ∈ listing xs → b ∈ listing ys →
      a.listedBefore b = true → b.listedBefore a = true → a = b := by
    intro a b ha hb hab hba
    have hb' : b ∈ xs := (hMem b).2 ((listing_perm ys).mem_iff.1 hb)
    exact List.inj_on_of_nodup_map hxs ((listing_perm xs).mem_iff.1 ha) hb'
      (id_eq_of_listedBefore hab hba)
  exact hPerm.eq_of_pairwise hUnique (pairwise_listing xs) (pairwise_listing ys)

end Session

namespace Registry

theorem list_eq_listing (r : Registry) (now : Instant) :
    r.list now = Session.listing (r.sessions.values.filter (·.isLive now)) :=
  rfl

/-- Every session stands under its own id. -/
def Keyed (r : Registry) : Prop := ∀ id s, r.sessions.get? id = some s → s.id = id

theorem Keyed.mem_values_iff {r : Registry} (hr : r.Keyed) (s : Session) :
    s ∈ r.sessions.values ↔ r.sessions.get? s.id = some s := by
  rw [Table.values, List.mem_map]
  constructor
  · rintro ⟨⟨id, s'⟩, hEntry, rfl⟩
    have hGet := (Table.mem_entries_iff r.sessions id s').1 hEntry
    rwa [hr id s' hGet]
  · intro hGet
    exact ⟨(s.id, s), (Table.mem_entries_iff r.sessions s.id s).2 hGet, rfl⟩

/-- No two sessions of the registry have the same id. -/
theorem Keyed.nodup_ids {r : Registry} (hr : r.Keyed) :
    (r.sessions.values.map Session.id).Nodup := by
  have hIds : r.sessions.values.map Session.id =
      r.sessions.entries.map Prod.fst := by
    rw [Table.values, List.map_map]
    refine List.map_congr_left fun e he => ?_
    exact hr e.1 e.2 ((Table.mem_entries_iff r.sessions e.1 e.2).1 he)
  rw [hIds]
  exact r.sessions.nodup

theorem Keyed.nodup_list {r : Registry} (hr : r.Keyed) (now : Instant) :
    ((r.list now).map Session.id).Nodup := by
  rw [list_eq_listing, ((Session.listing_perm _).map _).nodup_iff]
  exact hr.nodup_ids.sublist (List.filter_sublist.map _)

/-- What is listed is what look-ups find. -/
theorem Keyed.mem_list_iff {r : Registry} (hr : r.Keyed) (now : Instant)
    (s : Session) : s ∈ r.list now ↔ r.get? s.id now = some s := by
  rw [list_eq_listing, (Session.listing_perm _).mem_iff, List.mem_filter,
    hr.mem_values_iff, get?, Option.filter_eq_some_iff]

/-! ## What a sweep leaves -/

/-- A sweep leaves as many sessions as are listed. -/
theorem length_list (r : Registry) (now : Instant) :
    (r.list now).length = (r.sweep now).2.size := by
  rw [list_eq_listing, (Session.listing_perm _).length_eq, Table.values, List.filter_map,
    List.length_map]
  rfl

/-- What a sweep removes and what it leaves is what there was. -/
theorem count_sweep_add_size (r : Registry) (now : Instant) :
    (r.sweep now).1 + (r.sweep now).2.size = r.size := by
  have hLe := Table.size_keep_le (·.isLive now) r.sessions
  exact Nat.sub_add_cancel hLe

end Registry

end Admission
