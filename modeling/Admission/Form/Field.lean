import Admission.Form.Error
import Admission.Principal
import Admission.Text.Blank

/-!
# Fields that requests share

An id that a caller supplies, and the names a request is made under.  Names and ids lose the blanks
around them; a field of blanks alone counts as absent, save that a caller who supplies an id must
not supply a blank one.

## Main results

* `requiredName_eq_ok_iff`: a name is accepted exactly if it is there and not blank, and is trimmed.
* `callerId_eq_error_iff`: the only fault of an id is to be blank.
-/

namespace Admission

open Admission.Text

/-- A name that must be there. -/
def requiredName (field : String) : Option String → Except FormError String
  | none => .error (.missingField field)
  | some s => if isBlank s then .error (.missingField field) else .ok (trim s)

/-- An id that may be left to the service. -/
def callerId : Option String → Except FormError (Option String)
  | none => .ok none
  | some s => if isBlank s then .error .blankId else .ok (some (trim s))

/-- The three names of a principal, in order. -/
def requiredPrincipal (tenantId agentId policyId : Option String) :
    Except FormError Principal := do
  let tenant ← requiredName "tenantId" tenantId
  let agent ← requiredName "agentId" agentId
  let policy ← requiredName "policyId" policyId
  return ⟨tenant, agent, policy⟩

/-! ## What is accepted -/

theorem requiredName_eq_ok_iff {field : String} {v : Option String} {name : String} :
    requiredName field v = .ok name ↔ ∃ s, v = some s ∧ isBlank s = false ∧ trim s = name := by
  cases v with
  | none => simp [requiredName]
  | some s => by_cases h : isBlank s = true <;> simp [requiredName, h]

theorem callerId_eq_error_iff {v : Option String} {e : FormError} :
    callerId v = .error e ↔ e = .blankId ∧ ∃ s, v = some s ∧ isBlank s = true := by
  cases v with
  | none => simp [callerId]
  | some s =>
    by_cases h : isBlank s = true
    · simpa [callerId, h] using eq_comm
    · simp [callerId, h]

end Admission
