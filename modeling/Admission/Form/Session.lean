import Admission.Form.Field
import Admission.Session.Basic

/-!
# Requests for sessions

Checking names the first field at fault in the order id, tenantId, agentId, policyId, ttlSeconds.
The lifetime must be positive and within the longest span that durations have; whether the expiry
lies within the calendar is known only when the session is stamped with the time.
-/

namespace Admission

open Admission.Time

/-- A request to admit a session, as it came. -/
structure SessionForm where
  id : Option String
  tenantId : Option String
  agentId : Option String
  policyId : Option String
  ttlSeconds : Option Int64
  deriving DecidableEq, Repr

/-- A request that passed every check. -/
structure SessionDraft where
  id : Option String
  principal : Principal
  ttlSeconds : UInt64
  deriving DecidableEq, Repr

/-- The most whole seconds that a duration has, in either direction: those of 2 ^ 63 - 1
milliseconds. -/
def longestSpan : Int := 0x7FFFFFFFFFFFFFFF / 1000

/-- A number of seconds that a duration can have. -/
def IsSpan (seconds : Int) : Prop := -longestSpan ≤ seconds ∧ seconds ≤ longestSpan

instance (seconds : Int) : Decidable (IsSpan seconds) :=
  inferInstanceAs (Decidable (_ ∧ _))

/-- A lifetime must be positive and a span. -/
def requiredTtl : Option Int64 → Except FormError UInt64
  | none => .error (.missingField "ttlSeconds")
  | some ttl =>
    if ttl ≤ 0 then .error (.nonPositiveTtl ttl)
    else if IsSpan ttl.toInt then .ok ttl.toUInt64
    else .error (.ttlOutOfRange ttl)

namespace SessionForm

/-- Check every field in order. -/
def check (form : SessionForm) : Except FormError SessionDraft := do
  let id ← callerId form.id
  let principal ← requiredPrincipal form.tenantId form.agentId form.policyId
  let ttl ← requiredTtl form.ttlSeconds
  return ⟨id, principal, ttl⟩

end SessionForm

namespace SessionDraft

/-- The end of a lifetime, taken as a signed number of seconds, that starts at a given time. -/
def expiry? (ttl : Int64) (now : Instant) : Option Instant :=
  if IsSpan ttl.toInt then now.addSeconds? ttl.toInt else none

/-- The session under an id, admitted at a given time. -/
def stamp (draft : SessionDraft) (id : String) (now : Instant) : Except FormError Session :=
  match expiry? draft.ttlSeconds.toInt64 now with
  | some expiry => .ok ⟨id, draft.principal, draft.ttlSeconds, now, expiry⟩
  | none => .error (.ttlOutOfRange draft.ttlSeconds.toInt64)

/-- The request that asks for the draft. -/
def form (draft : SessionDraft) : SessionForm :=
  ⟨draft.id, some draft.principal.tenantId, some draft.principal.agentId,
    some draft.principal.policyId, some draft.ttlSeconds.toInt64⟩

end SessionDraft

end Admission
