import Admission.Proofs.Service.Refusing
import Admission.Time.Rfc3339

/-!
# Lifetimes that are given

A lifetime is checked in two places.  The check of a form refuses it if it is not positive, or no
span; stamping the draft refuses it if it ends past the calendar.  In between it is kept as a number
without a sign.  The two come to one boundary, because the calendar is shorter than the longest
span, and nothing is lost in between, because what is kept is positive.

## Main results

* `SessionForm.cause?_build`: what a form is refused for whose other fields are in order.
* `lifetime_is_exact`: which lifetimes are refused, and when the others end.
-/

namespace Admission

open Admission.Text Admission.Time

/-- The last instant of the calendar. -/
def Time.Instant.last : Instant := ⟨lastNs, by decide, Int.le_refl lastNs⟩

/-- The session that a form comes to under an id: the form is checked, and its draft stamped with
the time. -/
def SessionForm.build (form : SessionForm) (id : String) (now : Instant) :
    Except FormError Session := do
  let draft ← form.check
  draft.stamp id now

/-! ## One boundary -/

/-- What a lifetime is refused for at a time. -/
def lifetimeFault? (ttl : Int64) (now : Instant) : Option FormError :=
  if ttl.toInt ≤ 0 then some (.nonPositiveTtl ttl)
  else if Instant.last.ns < now.ns + ttl.toInt * nsPerSecond then some (.ttlOutOfRange ttl)
  else none

theorem lifetimeFault?_eq_nonPositiveTtl_iff {ttl seconds : Int64} {now : Instant} :
    lifetimeFault? ttl now = some (.nonPositiveTtl seconds) ↔ seconds = ttl ∧ ttl.toInt ≤ 0 := by
  unfold lifetimeFault?
  split
  · next hSign => simp [hSign, eq_comm]
  · next hSign => split <;> simp [hSign]

theorem lifetimeFault?_eq_ttlOutOfRange_iff {ttl seconds : Int64} {now : Instant} :
    lifetimeFault? ttl now = some (.ttlOutOfRange seconds) ↔
      seconds = ttl ∧ 0 < ttl.toInt ∧ Instant.last.ns < now.ns + ttl.toInt * nsPerSecond := by
  unfold lifetimeFault?
  split
  · next hSign => simp [Int.not_lt.2 hSign]
  · next hSign =>
      split
      · next hPast => simp [Int.not_le.1 hSign, hPast, eq_comm]
      · next hPast => simp [hPast]

theorem lifetimeFault?_eq_none_iff {ttl : Int64} {now : Instant} :
    lifetimeFault? ttl now = none ↔
      0 < ttl.toInt ∧ now.ns + ttl.toInt * nsPerSecond ≤ Instant.last.ns := by
  unfold lifetimeFault?
  split
  · next hSign => simp [Int.not_lt.2 hSign]
  · next hSign => split <;> simp <;> omega

/-- A positive lifetime that ends within the calendar at some time is a span. -/
theorem le_longestSpan_of_le_last {ttl : Int64} {now : Instant} (hPos : 0 < ttl.toInt)
    (hEnds : now.ns + ttl.toInt * nsPerSecond ≤ Instant.last.ns) : ttl.toInt ≤ longestSpan := by
  obtain ⟨expiry, hExpiry⟩ := (exists_expiry?_iff hPos now).2 hEnds
  exact le_longestSpan_of_expiry hExpiry

theorem cause?_requiredTtl (ttl : Int64) :
    cause? (requiredTtl (some ttl)) =
      if ttl.toInt ≤ 0 then some (.nonPositiveTtl ttl)
      else if longestSpan < ttl.toInt then some (.ttlOutOfRange ttl)
      else none := by
  rw [requiredTtl_some]
  split
  · rfl
  · split <;> rfl

namespace SessionForm

variable {form : SessionForm} {ttl : Int64}

/-- A form with nothing else at fault is refused for what its lifetime is refused for. -/
theorem cause?_build (hTtl : form.ttlSeconds = some ttl)
    (hOther : ∀ field, form.Faulty field → field = .ttlSeconds) (id : String) (now : Instant) :
    cause? (form.build id now) = lifetimeFault? ttl now := by
  have hNone : ∀ field, field ≠ .ttlSeconds → form.fault? field = none := by
    intro field hField
    rw [← Option.not_isSome_iff_eq_none, fault?_isSome_iff]
    exact fun hFaulty => hField (hOther field hFaulty)
  have hCheck : cause? form.check = cause? (requiredTtl (some ttl)) := by
    rw [cause?_check, ← hTtl]
    simp only [fields, findSome?_cons_or, List.findSome?_nil, Option.or_none]
    rw [hNone .id (by decide), hNone .tenantId (by decide), hNone .agentId (by decide),
      hNone .policyId (by decide)]
    rfl
  have hStamp : form.calendarFault? now =
      if Instant.last.ns < now.ns + ttl.toInt * nsPerSecond then some (.ttlOutOfRange ttl)
      else none := by
    rw [calendarFault?, hTtl]
    rfl
  rw [build, cause?_bind fun draft h => cause?_stamp h id now, hCheck, cause?_requiredTtl, hStamp,
    lifetimeFault?]
  split
  · rfl
  · next hSign =>
      split
      · next hLong =>
          -- what is no span ends past the calendar
          have hPast : Instant.last.ns < now.ns + ttl.toInt * nsPerSecond := by
            rw [← Int.not_le]
            intro hEnds
            exact Int.not_le.2 hLong (le_longestSpan_of_le_last (Int.not_le.1 hSign) hEnds)
          rw [if_pos hPast]
          rfl
      · rfl

/-- A form that is accepted keeps its lifetime, without a sign. -/
theorem ttlSeconds_of_check (hTtl : form.ttlSeconds = some ttl) {draft : SessionDraft}
    (hCheck : form.check = .ok draft) :
    draft.ttlSeconds.toInt64 = ttl ∧ (draft.ttlSeconds.toNat : Int) = ttl.toInt := by
  obtain ⟨ttl', hSome, hPos, _, hUnsigned⟩ :=
    requiredTtl_eq_ok_iff.1 (check_eq_ok_iff.1 hCheck).2.2
  obtain rfl : ttl' = ttl := Option.some.inj (hSome.symm.trans hTtl)
  rw [hUnsigned]
  exact ⟨Int64.toInt64_toUInt64 ttl', toNat_toUInt64_of_pos hPos⟩

end SessionForm

/-! ## The end of a lifetime -/

/-- **Lifetimes are exact.**  Take any form that asks for a lifetime and has nothing else at fault,
any id and any time.  The form is refused for a lifetime that is not positive exactly if it is not,
and for one that is out of range exactly if it is positive and ends past the last instant of the
calendar; either refusal tells the lifetime that was asked for.  Otherwise it comes to a session
with this lifetime, which starts now and ends later by just as many seconds.  The check of the form
on its own refuses no lifetime that ends within the calendar at some time, and what it keeps is the
lifetime. -/
theorem lifetime_is_exact {form : SessionForm} {ttl : Int64} (hTtl : form.ttlSeconds = some ttl)
    (hOther : ∀ field, form.Faulty field → field = .ttlSeconds) (id : String) (now : Instant) :
    let last := Instant.last
    let built := form.build id now
    (Timestamp.ofInstant last).text = "+262142-12-31T23:59:59.999999999Z" ∧
    (∀ seconds, built = .error (.nonPositiveTtl seconds) ↔ seconds = ttl ∧ ttl.toInt ≤ 0) ∧
    (∀ seconds, built = .error (.ttlOutOfRange seconds) ↔
      seconds = ttl ∧ 0 < ttl.toInt ∧ last.ns < now.ns + ttl.toInt * nsPerSecond) ∧
    (0 < ttl.toInt → now.ns + ttl.toInt * nsPerSecond ≤ last.ns →
      ∃ session, ∃ expiry : Instant, built = .ok session ∧ session.id = id ∧
        session.ttlSeconds.toNat = ttl.toInt ∧ session.createdAt = now ∧
        session.expiresAt = expiry ∧ expiry.ns = now.ns + ttl.toInt * nsPerSecond ∧
        now < expiry) ∧
    ∀ clock : Instant, 0 < ttl.toInt → clock.ns + ttl.toInt * nsPerSecond ≤ last.ns →
      ∃ draft, form.check = .ok draft ∧ draft.ttlSeconds.toInt64 = ttl ∧
        draft.ttlSeconds.toNat = ttl.toInt := by
  intro last built
  have hCause : ∀ now, cause? (form.build id now) = lifetimeFault? ttl now :=
    SessionForm.cause?_build hTtl hOther id
  -- a form that is built was accepted and stamped
  have hBuilt : ∀ now : Instant, 0 < ttl.toInt → now.ns + ttl.toInt * nsPerSecond ≤ last.ns →
      ∃ session draft, form.build id now = .ok session ∧ form.check = .ok draft ∧
        draft.stamp id now = .ok session := by
    intro now hPos hEnds
    have hNone := (hCause now).trans (lifetimeFault?_eq_none_iff.2 ⟨hPos, hEnds⟩)
    obtain ⟨session, hSession⟩ := cause?_eq_none_iff.1 hNone
    obtain ⟨draft, hCheck, hStamp⟩ := bind_eq_ok_iff.1 hSession
    exact ⟨session, draft, hSession, hCheck, hStamp⟩
  refine ⟨by decide +kernel, ?_, ?_, ?_, ?_⟩
  · intro seconds
    rw [← cause?_eq_some_iff, hCause, lifetimeFault?_eq_nonPositiveTtl_iff]
  · intro seconds
    rw [← cause?_eq_some_iff, hCause, lifetimeFault?_eq_ttlOutOfRange_iff]
  · intro hPos hEnds
    obtain ⟨session, draft, hSession, hCheck, hStamp⟩ := hBuilt now hPos hEnds
    obtain ⟨hSigned, hNat⟩ := SessionForm.ttlSeconds_of_check hTtl hCheck
    obtain ⟨expiry, hExpiry, rfl⟩ := SessionDraft.stamp_eq_ok_iff.1 hStamp
    rw [hSigned] at hExpiry
    have hSum := (SessionDraft.expiry?_eq_some_iff.1 hExpiry).2
    have hLater : now < expiry := by
      rw [Instant.lt_def, hSum]
      unfold nsPerSecond
      omega
    exact ⟨_, expiry, hSession, rfl, hNat, rfl, rfl, hSum, hLater⟩
  · intro clock hPos hEnds
    obtain ⟨_, draft, _, hCheck, _⟩ := hBuilt clock hPos hEnds
    exact ⟨draft, hCheck, SessionForm.ttlSeconds_of_check hTtl hCheck⟩

/-- At the last nanosecond of the first second of 1970, a lifetime can end at the last instant of
the calendar, and cannot be a second longer. -/
theorem calendar_is_used_up :
    let form := fun ttl => (⟨none, some "t", some "a", some "p", some ttl⟩ : SessionForm)
    let now : Instant := ⟨999999999, by decide, by decide⟩
    (∀ ttl field, (form ttl).Faulty field → field = .ttlSeconds) ∧
      (∃ session, (form 8210266876799).build "s" now = .ok session ∧
        session.expiresAt = Instant.last) ∧
      (form 8210266876800).build "s" now = .error (.ttlOutOfRange 8210266876800) := by
  intro form now
  have hOther : ∀ ttl field, (form ttl).Faulty field → field = .ttlSeconds := by
    intro ttl field hFaulty
    cases field with
    | id =>
        obtain ⟨s, hSome, _⟩ := hFaulty
        cases hSome
    | tenantId => exact absurd ⟨"t", rfl, by decide⟩ hFaulty
    | agentId => exact absurd ⟨"a", rfl, by decide⟩ hFaulty
    | policyId => exact absurd ⟨"p", rfl, by decide⟩ hFaulty
    | ttlSeconds => rfl
    | language => exact absurd hFaulty id
    | code => exact absurd hFaulty id
  have hLongest : (8210266876799 : Int64).toInt = 8210266876799 := by decide
  have hLonger : (8210266876800 : Int64).toInt = 8210266876800 := by decide
  refine ⟨hOther, ?_, ?_⟩
  · have hTtl : (form 8210266876799).ttlSeconds = some 8210266876799 := rfl
    have hAll := lifetime_is_exact hTtl (hOther _) "s" now
    rw [hLongest] at hAll
    obtain ⟨session, expiry, hBuilt, _, _, _, hExpiry, hSum, _⟩ :=
      hAll.2.2.2.1 (by decide) (by decide)
    have hLast : expiry = Instant.last := Instant.ext_ns hSum
    exact ⟨session, hBuilt, hExpiry.trans (congrArg Timestamp.ofInstant hLast)⟩
  · have hTtl : (form 8210266876800).ttlSeconds = some 8210266876800 := rfl
    have hAll := lifetime_is_exact hTtl (hOther _) "s" now
    rw [hLonger] at hAll
    exact (hAll.2.2.1 _).2 ⟨rfl, by decide, by decide⟩

end Admission
