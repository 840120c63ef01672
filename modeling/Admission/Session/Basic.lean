import Admission.Principal
import Admission.Time.Instant

/-!
# Sessions

A session registers an agent for a lifetime.  It is live while the clock is before its expiry; what
callers see of it is a `SessionView`, which says whether it is.
-/

namespace Admission

open Admission.Time

/-- Whether a session is live. -/
inductive SessionStatus where
  | active
  | expired
  deriving DecidableEq, Repr

namespace SessionStatus

/-- Both statuses. -/
def all : List SessionStatus := [.active, .expired]

/-- The name in records. -/
def name : SessionStatus → String
  | .active => "active"
  | .expired => "expired"

/-- The status with a given name in records. -/
def ofName? (s : String) : Option SessionStatus := all.find? fun x => x.name == s

@[simp] theorem ofName?_name (x : SessionStatus) : ofName? x.name = some x := by cases x <;> rfl

end SessionStatus

/-- An agent registered for a lifetime. -/
structure Session where
  id : String
  principal : Principal
  ttlSeconds : UInt64
  createdAt : Timestamp
  expiresAt : Timestamp
  deriving DecidableEq, Repr

namespace Session

/-- A session is live before its expiry, and not at it. -/
def isLive (s : Session) (now : Instant) : Bool := (now : Timestamp) < s.expiresAt

/-- The status at a given time. -/
def status (s : Session) (now : Instant) : SessionStatus :=
  if s.isLive now then .active else .expired

/-- A session that is live at a time was live at every earlier time. -/
theorem isLive_of_le {s : Session} {t u : Instant} (hLive : s.isLive t = true) (h : u ≤ t) :
    s.isLive u = true := by
  have hle := Timestamp.ofInstant_le_ofInstant_iff.2 h
  rw [isLive, decide_eq_true_eq, Timestamp.lt_def] at hLive ⊢
  rw [Timestamp.le_def] at hle
  omega

/-- A session whose expiry the clock can show is live just before it. -/
theorem isLive_iff_lt {s : Session} {expiry : Instant} (h : s.expiresAt = expiry) (now : Instant) :
    s.isLive now = true ↔ now < expiry := by
  rw [isLive, decide_eq_true_eq, h, Timestamp.ofInstant_lt_ofInstant_iff]

end Session

/-- What callers see of a session. -/
structure SessionView where
  id : String
  principal : Principal
  ttlSeconds : UInt64
  createdAt : Timestamp
  expiresAt : Timestamp
  status : SessionStatus
  deriving DecidableEq, Repr

/-- A session with its status at a given time. -/
def Session.view (s : Session) (now : Instant) : SessionView :=
  ⟨s.id, s.principal, s.ttlSeconds, s.createdAt, s.expiresAt, s.status now⟩

/-- The answer to an admitted session. -/
structure SessionCreated where
  id : String
  expiresAt : Timestamp
  status : SessionStatus
  deriving DecidableEq, Repr

end Admission
