import Admission.Proofs.Registry.Listing

/-!
# Sweeps do not show

Sweeping reclaims sessions past their expiry, and nobody who submits, looks up or lists sessions can
tell whether it happened.  The yardstick is a ledger that keeps for each id the session accepted
last, and is never swept.

After a sweep the registry lacks sessions that the ledger keeps.  Each of them was past its expiry
when it was swept, and so it is at every later time; since no operation after a sweep comes with an
earlier time, no operation can tell a lacking session from an expired one.  `Agrees` says this of
the times at which the two may still be asked, and every operation keeps it.

## Main results

* `sweeps_do_not_show`: the answers to everything but sweeps are those of the ledger, wherever the
  sweeps stand, and no two live sessions share an id.
-/

namespace Admission

open Admission.Store Admission.Time

/-! ## The ledger -/

/-- For each id the session accepted last, the most recent first. -/
structure Ledger where
  kept : List Session

namespace Ledger

/-- Nothing was accepted yet. -/
def empty : Ledger := ⟨[]⟩

/-- The session accepted last under an id. -/
def last? (l : Ledger) (id : String) : Option Session := l.kept.find? fun s => s.id == id

/-- Keep a session in place of the one accepted before under its id. -/
def accept (l : Ledger) (s : Session) : Ledger := ⟨s :: l.kept.filter fun other => other.id != s.id⟩

/-- Carry out one operation at a given time.  A session is refused exactly if the one kept under its
id is live; only live ones are found and listed; a sweep removes nothing. -/
def step (l : Ledger) (now : Instant) :
    Registry.Op → Registry.Answer × Ledger
  | .insert s =>
    if (l.last? s.id).any (·.isLive now) then
      (.refused (.duplicateId s.id), l)
    else (.inserted, l.accept s)
  | .get id => (.found ((l.last? id).filter (·.isLive now)), l)
  | .list => (.listed (Session.listing (l.kept.filter (·.isLive now))), l)
  | .sweep => (.swept 0, l)

/-- Carry out operations one after the other, each at its time. -/
def run (l : Ledger) :
    List (Instant × Registry.Op) → List Registry.Answer × Ledger
  | [] => ([], l)
  | (now, op) :: ops =>
    let (answer, l') := l.step now op
    let (answers, l'') := l'.run ops
    (answer :: answers, l'')

theorem id_eq_of_last? {l : Ledger} {id : String} {s : Session}
    (h : l.last? id = some s) : s.id = id := by
  have hFound := List.find?_some h
  exact eq_of_beq hFound

theorem last?_accept (l : Ledger) (s : Session) (id : String) :
    (l.accept s).last? id = if id = s.id then some s else l.last? id := by
  rw [last?, accept, List.find?_cons]
  by_cases hId : id = s.id
  · simp [hId]
  · have hOther : (s.id == id) = false := beq_eq_false_iff_ne.2 (Ne.symm hId)
    rw [hOther, if_neg hId, last?, List.find?_filter]
    -- the sessions that make way are not the ones looked for
    refine congrArg (l.kept.find? ·) (funext fun other => ?_)
    by_cases hSame : other.id = id
    · simp [hSame, hId]
    · simp [hSame]

/-- The ids of the sessions kept are distinct. -/
def Distinct (l : Ledger) : Prop := (l.kept.map Session.id).Nodup

theorem Distinct.accept {l : Ledger} (hl : l.Distinct) (s : Session) : (l.accept s).Distinct := by
  rw [Distinct, Ledger.accept, List.map_cons, List.nodup_cons]
  constructor
  · simp
  · exact hl.sublist (List.filter_sublist.map _)

theorem Distinct.mem_kept_iff {l : Ledger} (hl : l.Distinct) (s : Session) :
    s ∈ l.kept ↔ l.last? s.id = some s := by
  constructor
  · intro hMem
    obtain ⟨found, hFound⟩ : ∃ found, l.last? s.id = some found := by
      rw [← Option.isSome_iff_exists, last?, List.find?_isSome]
      exact ⟨s, hMem, beq_self_eq_true s.id⟩
    have hKept : found ∈ l.kept := List.mem_of_find?_eq_some hFound
    rw [hFound, List.inj_on_of_nodup_map hl hKept hMem (id_eq_of_last? hFound)]
  · exact List.mem_of_find?_eq_some

end Ledger

namespace Registry

/-! ## Operations without their sweeps -/

/-- Whether an operation is a sweep. -/
def Op.isSweep : Op → Bool
  | .sweep => true
  | _ => false

/-- The operations that are not sweeps. -/
def unswept (ops : List (Instant × Op)) : List (Instant × Op) :=
  ops.filter fun step => !step.2.isSweep

/-- The answers to the operations that are not sweeps. -/
def observed (ops : List (Instant × Op)) (answers : List Answer) :
    List Answer :=
  ((ops.zip answers).filter fun step => !step.1.2.isSweep).map Prod.snd

/-- No operation comes with an earlier time than a sweep before it. -/
def SweptInOrder (ops : List (Instant × Op)) : Prop :=
  ops.Pairwise fun earlier later =>
    earlier.2.isSweep = true → earlier.1 ≤ later.1

/-! ## Agreement with the ledger -/

/-- At the times in `T`, the registry and the ledger cannot be told apart: what the registry holds
the ledger kept last, and what the registry lacks is not live. -/
structure Agrees (T : Instant → Prop) (r : Registry) (l : Ledger) : Prop where
  distinct : l.Distinct
  held : ∀ id s, r.sessions.get? id = some s → l.last? id = some s
  lacking : ∀ id s, r.sessions.get? id = none → l.last? id = some s → ∀ t, T t → s.isLive t = false

variable {T T' : Instant → Prop} {r : Registry} {l : Ledger} {now t : Instant}

theorem Agrees.keyed (h : Agrees T r l) : r.Keyed := fun id s hs =>
  Ledger.id_eq_of_last? (h.held id s hs)

/-- Fewer times may be left to ask at. -/
theorem Agrees.mono (h : Agrees T r l) (hT : ∀ t, T' t → T t) :
    Agrees T' r l :=
  { h with
    lacking := fun id s hNone hKept t ht =>
      h.lacking id s hNone hKept t (hT t ht) }

/-- Look-ups find the same live session. -/
theorem Agrees.get?_eq (h : Agrees T r l) (ht : T t) (id : String) :
    r.get? id t = (l.last? id).filter (·.isLive t) := by
  rw [get?]
  cases hHeld : r.sessions.get? id with
  | some s => rw [h.held id s hHeld]
  | none =>
      cases hKept : l.last? id with
      | none => rfl
      | some s =>
          have hDead := h.lacking id s hHeld hKept t ht
          simp [Option.filter_some, hDead]

/-- Listings show the same sessions. -/
theorem Agrees.list_eq (h : Agrees T r l) (ht : T t) :
    r.list t = Session.listing (l.kept.filter (·.isLive t)) := by
  rw [list_eq_listing]
  apply Session.listing_congr
  · exact h.keyed.nodup_ids.sublist (List.filter_sublist.map _)
  · exact h.distinct.sublist (List.filter_sublist.map _)
  · intro s
    have hFound := h.get?_eq ht s.id
    rw [get?] at hFound
    have hSome := congrArg (· = some s) hFound
    simp only [Option.filter_eq_some_iff] at hSome
    rw [List.mem_filter, List.mem_filter, h.keyed.mem_values_iff, h.distinct.mem_kept_iff, hSome]

/-! ## What one operation keeps -/

theorem step_insert (r : Registry) (now : Instant) (s : Session) :
    r.step now (.insert s) =
      if (r.sessions.get? s.id).any (·.isLive now) then
        (.refused (.duplicateId s.id), r)
      else (.inserted, ⟨r.sessions.put s.id s⟩) := by
  rw [step, Registry.insert]
  cases (r.sessions.get? s.id).any (·.isLive now) <;> rfl

/-- A session is refused by both, or accepted by both. -/
theorem Agrees.insert (h : Agrees T r l) (ht : T now) (s : Session) :
    (r.step now (.insert s)).1 = (l.step now (.insert s)).1 ∧
      Agrees T (r.step now (.insert s)).2 (l.step now (.insert s)).2 := by
  have hFound := h.get?_eq ht s.id
  have hAny : (r.sessions.get? s.id).any (·.isLive now) =
      (l.last? s.id).any (·.isLive now) := by
    rw [← Option.isSome_filter, ← Option.isSome_filter]
    exact congrArg Option.isSome hFound
  rw [step_insert, Ledger.step, hAny]
  split
  · exact ⟨rfl, h⟩
  · refine ⟨rfl,
      { distinct := h.distinct.accept s
        held := ?_
        lacking := ?_ }⟩
    · intro id s' hHeld
      rw [Table.get?_put] at hHeld
      rw [Ledger.last?_accept]
      split
      · next hId => rwa [if_pos hId] at hHeld
      · next hId =>
          rw [if_neg hId] at hHeld
          exact h.held id s' hHeld
    · intro id s' hNone hKept t ht'
      rw [Table.get?_put] at hNone
      rw [Ledger.last?_accept] at hKept
      by_cases hId : id = s.id
      · rw [if_pos hId] at hNone
        cases hNone
      · rw [if_neg hId] at hNone hKept
        exact h.lacking id s' hNone hKept t ht'

/-- A sweep takes only what is past its expiry, now and at every later time. -/
theorem Agrees.sweep (h : Agrees T r l) (now : Instant) :
    Agrees (fun t => T t ∧ now ≤ t) (r.sweep now).2 l where
  distinct := h.distinct
  held := by
    intro id s hHeld
    rw [Registry.sweep, Table.get?_keep, Option.filter_eq_some_iff] at hHeld
    exact h.held id s hHeld.1
  lacking := by
    intro id s hNone hKept t ht
    rw [Registry.sweep, Table.get?_keep] at hNone
    cases hHeld : r.sessions.get? id with
    | none => exact h.lacking id s hHeld hKept t ht.1
    | some s' =>
        obtain rfl : s' = s := Option.some.inj ((h.held id s' hHeld).symm.trans hKept)
        rw [hHeld] at hNone
        have hDead : s'.isLive now = false := by simpa using hNone
        rw [Bool.eq_false_iff]
        intro hLive
        rw [Session.isLive_of_le hLive ht.2] at hDead
        cases hDead

/-- An operation that is no sweep is answered alike. -/
theorem Agrees.step (h : Agrees T r l) (ht : T now) {op : Op}
    (hOp : op.isSweep = false) :
    (r.step now op).1 = (l.step now op).1 ∧ Agrees T (r.step now op).2 (l.step now op).2 := by
  cases op with
  | insert s => exact h.insert ht s
  | get id => exact ⟨congrArg Answer.found (h.get?_eq ht id), h⟩
  | list => exact ⟨congrArg Answer.listed (h.list_eq ht), h⟩
  | sweep => cases hOp

/-! ## What a run keeps -/

theorem observed_cons (now : Instant) (op : Op) (ops : List (Instant × Op))
    (answer : Answer) (answers : List Answer) :
    observed ((now, op) :: ops) (answer :: answers) =
      if op.isSweep then observed ops answers
      else answer :: observed ops answers := by
  cases hOp : op.isSweep <;> simp [observed, hOp]

theorem unswept_cons (now : Instant) (op : Op) (ops : List (Instant × Op)) :
    unswept ((now, op) :: ops) =
      if op.isSweep then unswept ops else (now, op) :: unswept ops := by
  cases hOp : op.isSweep <;> simp [unswept, hOp]

/-- The times of the operations that are still to come. -/
def TimeOf (ops : List (Instant × Op)) (t : Instant) : Prop := ∃ op, (t, op) ∈ ops

theorem Agrees.run {ops : List (Instant × Op)} (hOrder : SweptInOrder ops)
    {r : Registry} {l : Ledger} (h : Agrees (TimeOf ops) r l) :
    observed ops (r.run ops).1 = (l.run (unswept ops)).1 := by
  induction ops generalizing r l with
  | nil => rfl
  | cons head ops ih =>
      obtain ⟨now, op⟩ := head
      obtain ⟨hHead, hRest⟩ := List.pairwise_cons.1 hOrder
      have hNow : TimeOf ((now, op) :: ops) now := ⟨op, by simp⟩
      have hLater : ∀ t, TimeOf ops t → TimeOf ((now, op) :: ops) t := by
        rintro t ⟨op', hMem⟩
        exact ⟨op', List.mem_cons_of_mem _ hMem⟩
      rw [Registry.run, observed_cons, unswept_cons]
      cases hOp : op.isSweep with
      | true =>
          obtain rfl : op = .sweep := by cases op <;> first | rfl | cases hOp
          refine ih hRest ((h.sweep now).mono ?_)
          rintro t ⟨op', hMem⟩
          exact ⟨hLater t ⟨op', hMem⟩, hHead (t, op') hMem rfl⟩
      | false =>
          obtain ⟨hAnswer, hAfter⟩ := h.step hNow hOp
          have hTail := ih hRest (hAfter.mono hLater)
          show (r.step now op).1 :: observed ops _ = (l.step now op).1 :: _
          rw [hAnswer, hTail]
          rfl

theorem agrees_empty (T : Instant → Prop) : Agrees T empty .empty where
  distinct := List.nodup_nil
  held := by
    intro id s hHeld
    cases hHeld
  lacking := by
    intro id s _ hKept
    cases hKept

/-! ## No id has two sessions -/

theorem Keyed.step (hr : r.Keyed) (now : Instant) (op : Op) :
    (r.step now op).2.Keyed := by
  cases op with
  | insert s =>
      rw [step_insert]
      split
      · exact hr
      · intro id s' hHeld
        rw [Table.get?_put] at hHeld
        split at hHeld
        · next hId =>
            cases hHeld
            exact hId.symm
        · exact hr id s' hHeld
  | get id => exact hr
  | list => exact hr
  | sweep =>
      intro id s hHeld
      rw [Registry.step, Registry.sweep, Table.get?_keep, Option.filter_eq_some_iff] at hHeld
      exact hr id s hHeld.1

theorem Keyed.run (hr : r.Keyed) (ops : List (Instant × Op)) :
    (r.run ops).2.Keyed := by
  induction ops generalizing r with
  | nil => exact hr
  | cons head ops ih => exact ih (hr.step head.1 head.2)

theorem keyed_empty : empty.Keyed := by
  intro id s hHeld
  cases hHeld

/-- **Sweeps do not show.**  Take operations on the empty registry of which none comes with an
earlier time than a sweep before it.  The answers to the submissions, look-ups and listings are
those of the ledger, which is never swept; so they are the same for any other way to put sweeps
between these operations; and at no time are two live sessions listed under one id. -/
theorem sweeps_do_not_show {ops : List (Instant × Op)} (hOrder : SweptInOrder ops) :
    observed ops (empty.run ops).1 = (Ledger.empty.run (unswept ops)).1 ∧
      (∀ ops', SweptInOrder ops' → unswept ops' = unswept ops →
        observed ops' (empty.run ops').1 = observed ops (empty.run ops).1) ∧
      ∀ now, (((empty.run ops).2.list now).map Session.id).Nodup := by
  have hAnswers : ∀ ops', SweptInOrder ops' →
      observed ops' (empty.run ops').1 = (Ledger.empty.run (unswept ops')).1 := by
    intro ops' hOrder'
    exact (agrees_empty _).run hOrder'
  refine ⟨hAnswers ops hOrder, ?_, ?_⟩
  · intro ops' hOrder' hSame
    rw [hAnswers ops hOrder, hAnswers ops' hOrder', hSame]
  · intro now
    exact (keyed_empty.run ops).nodup_list now

/-- The id `a` is taken until its session ends.  It is swept at that very instant and given to
another session, already past its expiry when it comes, which a look-up with an earlier time still
finds. -/
theorem swept_id_is_given_again :
    let start : Instant := .epoch
    let before : Instant := ⟨9, by decide, by decide⟩
    let expiry : Instant := ⟨10, by decide, by decide⟩
    let after : Instant := ⟨11, by decide, by decide⟩
    let later : Instant := ⟨12, by decide, by decide⟩
    let first : Session := ⟨"a", ⟨"t", "a", "p"⟩, 1, start, expiry⟩
    let second : Session := { first with expiresAt := later }
    let ops : List (Instant × Op) :=
      [(start, .insert first), (before, .insert second), (expiry, .sweep),
        (later, .insert second), (after, .get "a"), (later, .get "a")]
    SweptInOrder ops ∧
      observed ops (empty.run ops).1 = (Ledger.empty.run (unswept ops)).1 ∧
      observed ops (empty.run ops).1 =
        [.inserted, .refused (.duplicateId "a"), .inserted, .found second, .found none] := by
  intro start before expiry after later first second ops
  have hOrder : SweptInOrder ops := by
    unfold SweptInOrder
    decide
  have hAnswers := (sweeps_do_not_show hOrder).1
  refine ⟨hOrder, hAnswers, ?_⟩
  rw [hAnswers]
  rfl

end Registry

end Admission
