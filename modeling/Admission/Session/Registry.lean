import Admission.Session.Basic
import Admission.Store.Table
import Admission.Text.Bytes

/-!
# The registry of sessions

The registry holds one session under each id.  A session past its expiry reads as absent and does
not block its id; sweeping removes it.

## Main results

* `sweep_sweep`: a second sweep at the same time finds nothing.
-/

namespace Admission

open Admission.Store Admission.Text Admission.Time

/-- Why the registry refuses a session. -/
inductive RegistryError where
  | duplicateId (id : String)
  deriving DecidableEq, Repr

/-- The wording of a refusal. -/
def RegistryError.message : RegistryError → String
  | .duplicateId id => "session id already in use: " ++ id

namespace Session

/-- The order of listings: sooner expiry first, then the smaller id by its bytes. -/
def listedBefore (a b : Session) : Bool :=
  a.expiresAt < b.expiresAt || (a.expiresAt ≤ b.expiresAt && utf8 a.id ≤ utf8 b.id)

end Session

/-- Sessions under their ids, live or not. -/
structure Registry where
  sessions : Table Session

namespace Registry

/-- No session. -/
def empty : Registry := ⟨.empty⟩

instance : Inhabited Registry := ⟨empty⟩

/-- Hold a session, unless one that is live holds its id. -/
def insert (r : Registry) (s : Session) (now : Instant) : Except RegistryError Registry :=
  if (r.sessions.get? s.id).any (·.isLive now) then .error (.duplicateId s.id)
  else .ok ⟨r.sessions.put s.id s⟩

/-- The live session with an id. -/
def get? (r : Registry) (id : String) (now : Instant) : Option Session :=
  (r.sessions.get? id).filter (·.isLive now)

/-- The live sessions, soonest expiry first. -/
def list (r : Registry) (now : Instant) : List Session :=
  (r.sessions.values.filter (·.isLive now)).mergeSort Session.listedBefore

/-- Remove every session that is not live; the number removed comes first. -/
def sweep (r : Registry) (now : Instant) : Nat × Registry :=
  let kept := r.sessions.keep (·.isLive now)
  (r.sessions.size - kept.size, ⟨kept⟩)

/-- The number of sessions held, live or not. -/
def size (r : Registry) : Nat := r.sessions.size

/-! ## Operations as a run -/

/-- An operation on the registry. -/
inductive Op where
  | insert (session : Session)
  | get (id : String)
  | list
  | sweep
  deriving DecidableEq, Repr

/-- What an operation answers. -/
inductive Answer where
  | inserted
  | found (session : Option Session)
  | listed (sessions : List Session)
  | swept (count : Nat)
  | refused (error : RegistryError)
  deriving DecidableEq, Repr

/-- Carry out one operation at a given time. -/
def step (r : Registry) (now : Instant) : Op → Answer × Registry
  | .insert s =>
    match r.insert s now with
    | .ok r' => (.inserted, r')
    | .error e => (.refused e, r)
  | .get id => (.found (r.get? id now), r)
  | .list => (.listed (r.list now), r)
  | .sweep => (.swept (r.sweep now).1, (r.sweep now).2)

/-- Carry out operations one after the other, each at its time. -/
def run (r : Registry) : List (Instant × Op) → List Answer × Registry
  | [] => ([], r)
  | (now, op) :: ops =>
    let (answer, r') := r.step now op
    let (answers, r'') := r'.run ops
    (answer :: answers, r'')

theorem run_cons (r : Registry) (now : Instant) (op : Op) (ops : List (Instant × Op)) :
    r.run ((now, op) :: ops) =
      ((r.step now op).1 :: ((r.step now op).2.run ops).1, ((r.step now op).2.run ops).2) := rfl

@[simp] theorem get?_empty (id : String) (now : Instant) : empty.get? id now = none := rfl

/-- At one time of the clock, a second sweep finds nothing. -/
theorem sweep_sweep (r : Registry) (now : Instant) :
    ((r.sweep now).2.sweep now).2 = (r.sweep now).2 := by
  show Registry.mk ((r.sessions.keep (·.isLive now)).keep (·.isLive now)) =
    ⟨r.sessions.keep (·.isLive now)⟩
  rw [Table.keep_keep]
  simp

end Registry

end Admission
