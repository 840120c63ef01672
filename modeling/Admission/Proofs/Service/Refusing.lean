import Admission.Proofs.Form.Faults
import Admission.Proofs.Service.Storing

/-!
# What an admission is refused for

An admission checks the form, then, for a session, the end of its lifetime, and last whether the id
is free.  What it is refused for is what the first of these finds.  A taken id is the caller's
mistake if the caller chose it, and else the service's.

## Main results

* `Plane.cause?_admitJob`, `Plane.cause?_admitSession`: what an admission is refused for.
-/

namespace Admission

open Admission.Store Admission.Text Admission.Time

/-- The only reason to refuse a session is that a live one has its id. -/
theorem Registry.insert_eq_error_iff {r : Registry} {s : Session}
    {now : Instant} {e : RegistryError} :
    r.insert s now = .error e ↔ (r.get? s.id now).isSome ∧ e = .duplicateId s.id := by
  cases hInsert : r.insert s now with
  | ok r' =>
      rw [Registry.insert_eq_ok_iff] at hInsert
      simp [hInsert.1]
  | error e' =>
      unfold Registry.insert at hInsert
      split at hInsert
      · next hTaken =>
          cases hInsert
          rw [← Option.isSome_filter] at hTaken
          rw [Registry.get?, hTaken]
          simp [eq_comm]
      · cases hInsert

/-! ## Lifetimes -/

/-- What a lifetime is refused for if it ends past the calendar. -/
def SessionForm.calendarFault? (form : SessionForm) (now : Instant) :
    Option FormError :=
  form.ttlSeconds.bind fun ttl =>
    if lastNs < now.ns + ttl.toInt * nsPerSecond then some (.ttlOutOfRange ttl)
    else none

/-- A form that is accepted is stamped, unless its lifetime ends past the calendar. -/
theorem SessionForm.cause?_stamp {form : SessionForm} {draft : SessionDraft}
    (hCheck : form.check = .ok draft) (id : String) (now : Instant) :
    cause? (draft.stamp id now) = form.calendarFault? now := by
  obtain ⟨_, _, hTtl⟩ := SessionForm.check_eq_ok_iff.1 hCheck
  obtain ⟨ttl, hSome, hPos, _, hUnsigned⟩ := requiredTtl_eq_ok_iff.1 hTtl
  have hSigned : draft.ttlSeconds.toInt64 = ttl := by
    rw [hUnsigned, Int64.toInt64_toUInt64]
  have hEnds := exists_expiry?_iff hPos now
  rw [SessionDraft.stamp, hSigned, calendarFault?, hSome, Option.bind_some]
  cases hExpiry : SessionDraft.expiry? ttl now with
  | none =>
      rw [if_pos]
      · rfl
      · rw [hExpiry] at hEnds
        simpa using hEnds
  | some expiry =>
      rw [if_neg]
      · rfl
      · exact Int.not_lt.2 (hEnds.1 ⟨expiry, hExpiry⟩)

namespace Plane

variable {p : Plane} {now : Instant} {fresh : String}

/-! ## Jobs -/

section Jobs

variable {form : JobForm}

/-- The refusal of a job whose id is taken. -/
def jobTaken (chosen : Option String) (fresh : String) : Refusal :=
  match chosen with
  | some id => .conflict (QueueError.duplicateId id).message
  | none => .internal ("generated job id collided: " ++ fresh)

theorem admitJob_of_taken {draft : JobDraft} (hCheck : form.check = .ok draft)
    (hTaken : (p.jobs.get? (draft.id.getD fresh)).isSome) :
    p.admitJob now fresh form = .error (jobTaken draft.id fresh) := by
  have hEnqueue : p.jobs.enqueue (draft.toJob (draft.id.getD fresh) now) =
      .error (.duplicateId (draft.id.getD fresh)) :=
    Queue.enqueue_eq_error_iff.2 ⟨hTaken, rfl⟩
  simp only [admitJob, hCheck, hEnqueue]
  cases draft.id <;> rfl

/-- A form for a job is refused for a field, or because its id is taken. -/
theorem cause?_admitJob (p : Plane) (now : Instant) (fresh : String)
    (form : JobForm) :
    cause? (p.admitJob now fresh form) =
      ((cause? form.check).map .form).or
        (if (p.jobs.get? ((form.id.map trim).getD fresh)).isSome then
          some (jobTaken (form.id.map trim) fresh)
        else none) := by
  cases hCheck : form.check with
  | error e =>
      simp only [admitJob, hCheck]
      rfl
  | ok draft =>
      have hId := (callerId_eq_ok_iff.1 (JobForm.check_eq_ok_iff.1 hCheck).1).2
      split
      · next hTaken =>
          rw [hId] at hTaken ⊢
          rw [admitJob_of_taken hCheck hTaken]
          rfl
      · next hFree =>
          have hNone := Option.not_isSome_iff_eq_none.1 hFree
          exact cause?_eq_none_iff.2 ((admitJob_succeeds_iff now).2
            ⟨JobForm.acceptable_iff.2 ⟨draft, hCheck⟩, hNone⟩)

end Jobs

/-! ## Sessions -/

section Sessions

variable {form : SessionForm}

/-- The refusal of a session whose id is taken. -/
def sessionTaken (chosen : Option String) (fresh : String) : Refusal :=
  match chosen with
  | some id => .conflict (RegistryError.duplicateId id).message
  | none => .internal ("generated session id collided: " ++
      (RegistryError.duplicateId fresh).message)

theorem admitSession_of_taken {draft : SessionDraft} {session : Session}
    (hCheck : form.check = .ok draft) (hStamp : draft.stamp (draft.id.getD fresh) now = .ok session)
    (hTaken : (p.sessions.get? (draft.id.getD fresh) now).isSome) :
    p.admitSession now fresh form = .error (sessionTaken draft.id fresh) := by
  have hId : session.id = draft.id.getD fresh := by
    obtain ⟨_, _, rfl⟩ := SessionDraft.stamp_eq_ok_iff.1 hStamp
    rfl
  rw [← hId] at hTaken
  have hInsert : p.sessions.insert session now =
      .error (.duplicateId session.id) :=
    Registry.insert_eq_error_iff.2 ⟨hTaken, rfl⟩
  simp only [admitSession, hCheck, hStamp, hInsert, hId]
  cases draft.id <;> rfl

/-- A form for a session is refused for a field, or because its lifetime ends past the calendar, or
because its id is taken. -/
theorem cause?_admitSession (p : Plane) (now : Instant) (fresh : String)
    (form : SessionForm) :
    cause? (p.admitSession now fresh form) =
      ((cause? form.check).map .form).or
        (((form.calendarFault? now).map .form).or
          (if (p.sessions.get? ((form.id.map trim).getD fresh) now).isSome then
            some (sessionTaken (form.id.map trim) fresh)
          else none)) := by
  cases hCheck : form.check with
  | error e =>
      simp only [admitSession, hCheck]
      rfl
  | ok draft =>
      have hId := (callerId_eq_ok_iff.1 (SessionForm.check_eq_ok_iff.1 hCheck).1).2
      have hCalendar := SessionForm.cause?_stamp hCheck (draft.id.getD fresh) now
      rw [← hCalendar]
      cases hStamp : draft.stamp (draft.id.getD fresh) now with
      | error e =>
          simp only [admitSession, hCheck, hStamp]
          rfl
      | ok session =>
          split
          · next hTaken =>
              rw [hId] at hTaken ⊢
              rw [admitSession_of_taken hCheck hStamp hTaken]
              rfl
          · next hFree =>
              have hNone := Option.not_isSome_iff_eq_none.1 hFree
              have hAccept := (SessionForm.acceptableAt_iff fresh).2
                ⟨draft, session, hCheck, hStamp⟩
              exact cause?_eq_none_iff.2 (admitSession_succeeds_iff.2 ⟨hAccept, hNone⟩)

end Sessions

end Plane

end Admission
