import Admission.Proofs.Form.Acceptance

/-!
# Lifetimes that were not checked

A draft keeps its lifetime as a word, and stamping reads the word with a sign.  For a draft that a
form came to nothing is lost in between.  A draft that was put together in another way can hold any
word, and those of the upper half are read as negative numbers of seconds: the session they come to
ends before it starts.  Which words are refused is decided by two limits, that on durations, which
is the same in both directions, and the calendar, which is not.

## Main results

* `toInt_toInt64`: the number that a word is read as.
* `SessionDraft.stamp_of_fits`, `SessionDraft.stamp_of_not_fits`: which drafts are stamped, and what
  the others are refused for.
* `SessionDraft.lastsAsTold_iff`: a session lasts for its lifetime exactly if its word is of the
  lower half.
* `unchecked_lifetime_has_a_sign`: any draft, stamped at any time.
-/

namespace Admission

open Admission.Time

/-! ## Words read with a sign -/

/-- The number that a word stands for when it is read with a sign: the upper half of the words
stands for negative numbers. -/
def signedSeconds (n : UInt64) : Int :=
  if n.toNat < 0x8000000000000000 then n.toNat else n.toNat - 0x10000000000000000

/-- A word of the type with a sign stands for the same number. -/
theorem toInt_toInt64 (n : UInt64) : n.toInt64.toInt = signedSeconds n := by
  have hCases := BitVec.toInt_eq_toNat_cond n.toBitVec
  rw [← Int64.toInt_toBitVec, UInt64.toBitVec_toInt64, hCases, UInt64.toNat_toBitVec,
    signedSeconds]
  split <;> split <;> omega

/-- A word of the lower half stands for itself. -/
theorem signedSeconds_eq_toNat_iff {n : UInt64} :
    signedSeconds n = n.toNat ↔ n.toNat < 0x8000000000000000 := by
  unfold signedSeconds
  split <;> omega

/-- A word of the upper half stands for a negative number. -/
theorem signedSeconds_neg_iff {n : UInt64} :
    signedSeconds n < 0 ↔ 0x8000000000000000 ≤ n.toNat := by
  have hLt := n.toNat_lt
  unfold signedSeconds
  split <;> omega

/-! ## Stamping -/

/-- A session lasts for its lifetime, from its creation on. -/
def Session.LastsAsTold (s : Session) : Prop :=
  ∃ created expiry : Instant, s.createdAt = created ∧ s.expiresAt = expiry ∧
    expiry.ns = created.ns + s.ttlSeconds.toNat * nsPerSecond

namespace SessionDraft

variable {draft : SessionDraft} {id : String} {now : Instant} {session : Session}

/-- Where the lifetime of a draft ends, in nanoseconds since 1970, on the calendar or not. -/
def endNs (draft : SessionDraft) (now : Instant) : Int :=
  now.ns + signedSeconds draft.ttlSeconds * nsPerSecond

/-- The lifetime of a draft is not longer than any duration, in either direction, and ends on the
calendar. -/
structure Fits (draft : SessionDraft) (now : Instant) : Prop where
  span : (signedSeconds draft.ttlSeconds).natAbs ≤ 9223372036854775
  first_le : firstNs ≤ draft.endNs now
  le_last : draft.endNs now ≤ lastNs

theorem isSpan_iff {seconds : Int} : IsSpan seconds ↔ seconds.natAbs ≤ 9223372036854775 := by
  unfold IsSpan longestSpan
  omega

/-- What the lifetime of a draft ends at, if it fits. -/
theorem expiry?_eq_some_iff_endNs {expiry : Instant} :
    expiry? draft.ttlSeconds.toInt64 now = some expiry ↔
      draft.Fits now ∧ expiry.ns = draft.endNs now := by
  rw [expiry?_eq_some_iff, toInt_toInt64, isSpan_iff]
  constructor
  · rintro ⟨hSpan, hSum⟩
    have hEnd : expiry.ns = draft.endNs now := hSum
    exact ⟨⟨hSpan, hEnd ▸ expiry.first_le, hEnd ▸ expiry.le_last⟩, hEnd⟩
  · rintro ⟨hFits, hEnd⟩
    exact ⟨hFits.span, hEnd⟩

/-- A draft that fits becomes a session with its names and its lifetime, which is created now and
ends where the lifetime does. -/
theorem stamp_of_fits (hFits : draft.Fits now) (id : String) :
    ∃ expiry : Instant, expiry.ns = draft.endNs now ∧
      draft.stamp id now = .ok ⟨id, draft.principal, draft.ttlSeconds, now, expiry⟩ := by
  let expiry : Instant := ⟨draft.endNs now, hFits.first_le, hFits.le_last⟩
  have hExpiry : expiry? draft.ttlSeconds.toInt64 now = some expiry :=
    expiry?_eq_some_iff_endNs.2 ⟨hFits, rfl⟩
  exact ⟨expiry, rfl, stamp_eq_ok_iff.2 ⟨expiry, hExpiry, rfl⟩⟩

/-- A draft that does not fit is refused for the number that its lifetime is read as. -/
theorem stamp_of_not_fits (hFits : ¬draft.Fits now) (id : String) :
    draft.stamp id now = .error (.ttlOutOfRange draft.ttlSeconds.toInt64) := by
  have hNone : expiry? draft.ttlSeconds.toInt64 now = none := by
    rw [Option.eq_none_iff_forall_ne_some]
    intro expiry hExpiry
    exact hFits (expiry?_eq_some_iff_endNs.1 hExpiry).1
  rw [stamp, hNone]

/-- What is stamped fits, and ends where the lifetime does. -/
theorem fits_of_stamp (h : draft.stamp id now = .ok session) :
    draft.Fits now ∧ ∃ expiry : Instant, expiry.ns = draft.endNs now ∧
      session = ⟨id, draft.principal, draft.ttlSeconds, now, expiry⟩ := by
  obtain ⟨expiry, hExpiry, rfl⟩ := stamp_eq_ok_iff.1 h
  obtain ⟨hFits, hEnd⟩ := expiry?_eq_some_iff_endNs.1 hExpiry
  exact ⟨hFits, expiry, hEnd, rfl⟩

/-! ### How long a session lasts -/

/-- A session lasts for its lifetime exactly if its word is of the lower half. -/
theorem lastsAsTold_iff (h : draft.stamp id now = .ok session) :
    session.LastsAsTold ↔ draft.ttlSeconds.toNat < 0x8000000000000000 := by
  obtain ⟨_, expiry, hEnd, rfl⟩ := fits_of_stamp h
  rw [← signedSeconds_eq_toNat_iff]
  unfold endNs at hEnd
  constructor
  · rintro ⟨created, expiry', hCreated, hExpiry, hSum⟩
    obtain rfl : now = created := congrArg (·.instant) hCreated
    obtain rfl : expiry = expiry' := congrArg (·.instant) hExpiry
    have hNs : signedSeconds draft.ttlSeconds * nsPerSecond =
        draft.ttlSeconds.toNat * nsPerSecond := by
      have hSum' : expiry.ns = now.ns + draft.ttlSeconds.toNat * nsPerSecond := hSum
      omega
    exact Int.eq_of_mul_eq_mul_right (by decide) hNs
  · intro hSame
    refine ⟨now, expiry, rfl, rfl, ?_⟩
    show expiry.ns = now.ns + draft.ttlSeconds.toNat * nsPerSecond
    rw [hEnd, hSame]

/-- A session is live when it is created exactly if its lifetime is read as a positive number. -/
theorem isLive_creation_iff (h : draft.stamp id now = .ok session) :
    session.isLive now = true ↔ 0 < signedSeconds draft.ttlSeconds := by
  obtain ⟨_, expiry, hEnd, rfl⟩ := fits_of_stamp h
  rw [Session.isLive_iff_lt rfl, Instant.lt_def, hEnd, endNs, nsPerSecond]
  omega

end SessionDraft

/-- **Unchecked lifetimes.**  Take any draft, whatever word its lifetime is, any id and any time,
and read the word with a sign.  The draft is stamped exactly if the number of seconds is within the
longest duration and ends on the calendar; the session then has the lifetime as it was, is created
now, and ends that many seconds later or, if the number is negative, earlier.  Otherwise it is
refused as out of range, with the number that the word was read as.  So a session lasts for its
lifetime exactly if the word is of the lower half, and with a word of the upper half it has expired
when it is created. -/
theorem unchecked_lifetime_has_a_sign (draft : SessionDraft) (id : String) (now : Instant) :
    let n := draft.ttlSeconds.toNat
    let seconds : Int := if n < 0x8000000000000000 then n else n - 0x10000000000000000
    let ends := now.ns + seconds * nsPerSecond
    let fits := seconds.natAbs ≤ 9223372036854775 ∧ firstNs ≤ ends ∧ ends ≤ lastNs
    let stamped := draft.stamp id now
    (fits → ∃ expiry : Instant, expiry.ns = ends ∧
      stamped = .ok ⟨id, draft.principal, draft.ttlSeconds, now, expiry⟩) ∧
    (¬fits → ∃ ttl : Int64, ttl.toInt = seconds ∧ stamped = .error (.ttlOutOfRange ttl)) ∧
    ∀ session, stamped = .ok session →
      (session.LastsAsTold ↔ n < 0x8000000000000000) ∧
      (0x8000000000000000 ≤ n → session.createdAt = now ∧ session.expiresAt < session.createdAt ∧
        session.status now = .expired) := by
  intro n seconds ends fits stamped
  have hFits : draft.Fits now ↔ fits :=
    ⟨fun h => ⟨h.span, h.first_le, h.le_last⟩, fun h => ⟨h.1, h.2.1, h.2.2⟩⟩
  refine ⟨?_, ?_, ?_⟩
  · intro h
    exact SessionDraft.stamp_of_fits (hFits.2 h) id
  · intro h
    exact ⟨draft.ttlSeconds.toInt64, toInt_toInt64 _,
      SessionDraft.stamp_of_not_fits (fun hDraft => h (hFits.1 hDraft)) id⟩
  · intro session hStamped
    refine ⟨SessionDraft.lastsAsTold_iff hStamped, ?_⟩
    intro hUpper
    have hNegative := signedSeconds_neg_iff.2 hUpper
    have hDead : session.isLive now = false := by
      rw [Bool.eq_false_iff, Ne, SessionDraft.isLive_creation_iff hStamped]
      omega
    obtain ⟨_, expiry, hEnd, rfl⟩ := SessionDraft.fits_of_stamp hStamped
    refine ⟨rfl, ?_, ?_⟩
    · rw [Timestamp.ofInstant_lt_ofInstant_iff, Instant.lt_def, hEnd, SessionDraft.endNs,
        nsPerSecond]
      omega
    · rw [Session.status, hDead]
      rfl

end Admission
