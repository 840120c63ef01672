import Admission.Form.Field
import Admission.Job.Basic

/-!
# Requests for jobs

A request form has every field optional, so that what is missing is reported by name.  Checking
turns it into a draft, or names the first field at fault in the order id, tenantId, agentId,
policyId, language, code.  A draft becomes a job under an id and at a time.
-/

namespace Admission

open Admission.Text Admission.Time

/-- A request to admit a job, as it came. -/
structure JobForm where
  id : Option String
  tenantId : Option String
  agentId : Option String
  policyId : Option String
  language : Option String
  code : Option String
  deriving DecidableEq, Repr

/-- A request that passed every check. -/
structure JobDraft where
  id : Option String
  principal : Principal
  language : Language
  code : String
  deriving DecidableEq, Repr

/-- A language by any of its names. -/
def requiredLanguage (v : Option String) : Except FormError Language := do
  let name ← requiredName "language" v
  match Language.ofName? name with
  | some language => return language
  | none => throw (.unsupportedLanguage name)

/-- Code must not be blank, and is kept as it came. -/
def requiredCode : Option String → Except FormError String
  | none => .error (.missingField "code")
  | some s => if isBlank s then .error (.missingField "code") else .ok s

namespace JobForm

/-- Check every field in order. -/
def check (form : JobForm) : Except FormError JobDraft := do
  let id ← callerId form.id
  let principal ← requiredPrincipal form.tenantId form.agentId form.policyId
  let language ← requiredLanguage form.language
  let code ← requiredCode form.code
  return ⟨id, principal, language, code⟩

end JobForm

namespace JobDraft

/-- The pending job under an id, admitted at a given time. -/
def toJob (draft : JobDraft) (id : String) (now : Instant) : Job :=
  ⟨id, draft.principal, draft.language, draft.code, .pending, now⟩

/-- The request that asks for the draft in canonical spelling. -/
def form (draft : JobDraft) : JobForm :=
  ⟨draft.id, some draft.principal.tenantId, some draft.principal.agentId,
    some draft.principal.policyId, some draft.language.name, some draft.code⟩

end JobDraft

end Admission
