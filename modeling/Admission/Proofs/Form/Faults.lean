import Admission.Proofs.Form.Acceptance

/-!
# Which fault of a form is told

Each field of a form is at fault or not, whatever the other fields hold.  A form that is refused is
refused for the first of its fields, in the order of the wire, that is at fault, and the refusal
names that field.

## Main results

* `JobForm.cause?_check`, `SessionForm.cause?_check`: a form is refused for its first field at
  fault.
* `JobForm.fault?_isSome_iff`, `SessionForm.fault?_isSome_iff`: which fields are at fault.
* `JobForm.eq_blame_of_fault?`, `SessionForm.eq_blame_of_fault?`: what a field at fault is refused
  for.
* `JobForm.field?_of_fault?`, `SessionForm.field?_of_fault?`: a refusal names its field.
-/

namespace Admission

open Admission.Text Admission.Time

/-- A field of a form. -/
inductive FieldName where
  | id
  | tenantId
  | agentId
  | policyId
  | language
  | code
  | ttlSeconds
  deriving DecidableEq, Repr

/-- The name of a field in requests. -/
def FieldName.text : FieldName → String
  | .id => "id"
  | .tenantId => "tenantId"
  | .agentId => "agentId"
  | .policyId => "policyId"
  | .language => "language"
  | .code => "code"
  | .ttlSeconds => "ttlSeconds"

/-! ## One field -/

/-- An id that is there and blank. -/
def IsBlankId (v : Option String) : Prop := ∃ s, v = some s ∧ isBlank s = true

/-- The name of a language. -/
def NamesLanguage (v : Option String) : Prop :=
  ∃ name, v = some name ∧ ∃ l : Language, asciiLower (trim name) ∈ l.names

/-- A lifetime that is positive and no longer than the longest span. -/
def IsLifetime (v : Option Int64) : Prop :=
  ∃ ttl, v = some ttl ∧ 0 < ttl.toInt ∧ ttl.toInt ≤ longestSpan

theorem callerId_refuses_iff {v : Option String} : (cause? (callerId v)).isSome ↔ IsBlankId v := by
  rw [Option.isSome_iff_exists]
  simp only [cause?_eq_some_iff, callerId_eq_error_iff, IsBlankId, exists_eq_left]

theorem requiredName_refuses_iff {field : String} {v : Option String} :
    (cause? (requiredName field v)).isSome ↔ ¬IsGiven v := by
  rw [cause?_isSome_iff, isGiven_iff]

theorem requiredLanguage_refuses_iff {v : Option String} :
    (cause? (requiredLanguage v)).isSome ↔ ¬NamesLanguage v := by
  have hAccepts : (∃ l, requiredLanguage v = .ok l) ↔ NamesLanguage v := by
    simp only [requiredLanguage_eq_ok_iff]
    constructor
    · rintro ⟨l, name, hSome, hMem⟩
      exact ⟨name, hSome, l, hMem⟩
    · rintro ⟨name, hSome, l, hMem⟩
      exact ⟨l, name, hSome, hMem⟩
  rw [cause?_isSome_iff, hAccepts]

theorem requiredCode_refuses_iff {v : Option String} :
    (cause? (requiredCode v)).isSome ↔ ¬IsGiven v := by
  have hAccepts : (∃ code, requiredCode v = .ok code) ↔ IsGiven v := by
    simp only [requiredCode_eq_ok_iff, IsGiven]
  rw [cause?_isSome_iff, hAccepts]

theorem requiredTtl_refuses_iff {v : Option Int64} :
    (cause? (requiredTtl v)).isSome ↔ ¬IsLifetime v := by
  have hAccepts : (∃ n, requiredTtl v = .ok n) ↔ IsLifetime v := by
    simp only [requiredTtl_eq_ok_iff]
    constructor
    · rintro ⟨_, ttl, hSome, hPos, hSpan, _⟩
      exact ⟨ttl, hSome, hPos, hSpan⟩
    · rintro ⟨ttl, hSome, hPos, hSpan⟩
      exact ⟨_, ttl, hSome, hPos, hSpan, rfl⟩
  rw [cause?_isSome_iff, hAccepts]

/-- A refused id is refused as blank. -/
theorem eq_of_callerId {v : Option String} {e : FormError}
    (h : cause? (callerId v) = some e) : e = .blankId := by
  rw [cause?_eq_some_iff, callerId_eq_error_iff] at h
  exact h.1

/-- A refused name is refused as missing, under its own name. -/
theorem eq_of_requiredName {field : String} {v : Option String}
    {e : FormError} (h : cause? (requiredName field v) = some e) :
    e = .missingField field := by
  rw [cause?_eq_some_iff] at h
  unfold requiredName at h
  split at h
  · cases h
    rfl
  · split at h <;> cases h
    rfl

/-- What a language that is at fault is refused for: as missing if there is none, or else as
unsupported, without the blanks around it. -/
def languageFault (v : Option String) : FormError :=
  match v with
  | none => .missingField "language"
  | some s =>
    if isBlank s then .missingField "language"
    else .unsupportedLanguage (trim s)

theorem eq_of_requiredLanguage {v : Option String} {e : FormError}
    (h : cause? (requiredLanguage v) = some e) : e = languageFault v := by
  rw [cause?_eq_some_iff] at h
  cases v with
  | none =>
      cases h
      rfl
  | some s =>
      by_cases hBlank : isBlank s = true
      · have hName : requiredName "language" (some s) =
            .error (.missingField "language") := if_pos hBlank
        have hFault : languageFault (some s) = .missingField "language" := if_pos hBlank
        rw [requiredLanguage, hName] at h
        rw [hFault]
        cases h
        rfl
      · have hName : requiredName "language" (some s) = .ok (trim s) := if_neg hBlank
        have hFault : languageFault (some s) = .unsupportedLanguage (trim s) := if_neg hBlank
        rw [requiredLanguage, hName, ok_bind] at h
        rw [hFault]
        cases hLanguage : Language.ofName? (trim s) with
        | none =>
            rw [hLanguage] at h
            cases h
            rfl
        | some language =>
            rw [hLanguage] at h
            cases h

/-- Code is refused as missing, blank or not there. -/
theorem eq_of_requiredCode {v : Option String} {e : FormError}
    (h : cause? (requiredCode v) = some e) : e = .missingField "code" := by
  rw [cause?_eq_some_iff] at h
  unfold requiredCode at h
  split at h
  · cases h
    rfl
  · split at h <;> cases h
    rfl

/-- What a lifetime that is at fault is refused for: as missing if there is none, or else for its
number, which is too small or too large. -/
def ttlFault (v : Option Int64) : FormError :=
  match v with
  | none => .missingField "ttlSeconds"
  | some ttl => if ttl.toInt ≤ 0 then .nonPositiveTtl ttl else .ttlOutOfRange ttl

theorem eq_of_requiredTtl {v : Option Int64} {e : FormError}
    (h : cause? (requiredTtl v) = some e) : e = ttlFault v := by
  rw [cause?_eq_some_iff] at h
  cases v with
  | none =>
      cases h
      rfl
  | some ttl =>
      rw [requiredTtl_some] at h
      unfold ttlFault
      split at h
      · next hSign =>
          cases h
          exact (if_pos hSign).symm
      · next hSign =>
          split at h <;> cases h
          exact (if_neg hSign).symm

/-- A language at fault is told under its name. -/
theorem field?_languageFault (v : Option String) :
    (languageFault v).field? = some FieldName.language.text := by
  unfold languageFault
  split
  · rfl
  · split <;> rfl

/-- A lifetime at fault is told under its name. -/
theorem field?_ttlFault (v : Option Int64) :
    (ttlFault v).field? = some FieldName.ttlSeconds.text := by
  unfold ttlFault
  split
  · rfl
  · split <;> rfl

/-- The three names of a principal, one after the other. -/
theorem cause?_requiredPrincipal (tenantId agentId policyId : Option String) :
    cause? (requiredPrincipal tenantId agentId policyId) =
      (cause? (requiredName "tenantId" tenantId)).or
        ((cause? (requiredName "agentId" agentId)).or
          (cause? (requiredName "policyId" policyId))) := by
  rw [← Option.or_none (o := cause? (requiredName "policyId" policyId))]
  exact cause?_bind fun _ _ => cause?_bind fun _ _ => cause?_bind fun _ _ => rfl

/-! ## Forms for jobs -/

namespace JobForm

/-- The fields in the order of the wire. -/
def fields : List FieldName := [.id, .tenantId, .agentId, .policyId, .language, .code]

/-- A field at fault, whatever the others hold. -/
def Faulty (form : JobForm) : FieldName → Prop
  | .id => IsBlankId form.id
  | .tenantId => ¬IsGiven form.tenantId
  | .agentId => ¬IsGiven form.agentId
  | .policyId => ¬IsGiven form.policyId
  | .language => ¬NamesLanguage form.language
  | .code => ¬IsGiven form.code
  | .ttlSeconds => False

/-- What a field is refused for, whatever the others hold. -/
def fault? (form : JobForm) : FieldName → Option FormError
  | .id => cause? (callerId form.id)
  | .tenantId => cause? (requiredName "tenantId" form.tenantId)
  | .agentId => cause? (requiredName "agentId" form.agentId)
  | .policyId => cause? (requiredName "policyId" form.policyId)
  | .language => cause? (requiredLanguage form.language)
  | .code => cause? (requiredCode form.code)
  | .ttlSeconds => none

theorem fault?_isSome_iff {form : JobForm} {field : FieldName} :
    (form.fault? field).isSome ↔ form.Faulty field := by
  cases field with
  | id => exact callerId_refuses_iff
  | tenantId => exact requiredName_refuses_iff
  | agentId => exact requiredName_refuses_iff
  | policyId => exact requiredName_refuses_iff
  | language => exact requiredLanguage_refuses_iff
  | code => exact requiredCode_refuses_iff
  | ttlSeconds => simp [fault?, Faulty]

/-- What a field is refused for, if it is at fault. -/
def blame (form : JobForm) : FieldName → FormError
  | .id => .blankId
  | .language => languageFault form.language
  | field => .missingField field.text

/-- A field at fault is refused for what it holds. -/
theorem eq_blame_of_fault? {form : JobForm} {field : FieldName} {e : FormError}
    (h : form.fault? field = some e) : e = form.blame field := by
  cases field with
  | id => exact eq_of_callerId h
  | tenantId => exact eq_of_requiredName h
  | agentId => exact eq_of_requiredName h
  | policyId => exact eq_of_requiredName h
  | language => exact eq_of_requiredLanguage h
  | code => exact eq_of_requiredCode h
  | ttlSeconds => cases h

theorem field?_blame (form : JobForm) (field : FieldName) :
    (form.blame field).field? = some field.text := by
  cases field with
  | language => exact field?_languageFault form.language
  | _ => rfl

theorem field?_of_fault? {form : JobForm} {field : FieldName} {e : FormError}
    (h : form.fault? field = some e) : e.field? = some field.text := by
  rw [eq_blame_of_fault? h]
  exact form.field?_blame field

/-- A form is refused for its first field at fault. -/
theorem cause?_check (form : JobForm) :
    cause? form.check = fields.findSome? form.fault? := by
  have hRow : cause? form.check =
      (cause? (callerId form.id)).or
        ((cause? (requiredPrincipal form.tenantId form.agentId
          form.policyId)).or
          ((cause? (requiredLanguage form.language)).or
            ((cause? (requiredCode form.code)).or none))) :=
    cause?_bind fun _ _ => cause?_bind fun _ _ => cause?_bind fun _ _ =>
      cause?_bind fun _ _ => rfl
  rw [hRow, cause?_requiredPrincipal]
  simp only [fields, findSome?_cons_or, List.findSome?_nil, fault?, Option.or_assoc]

end JobForm

/-! ## Forms for sessions -/

namespace SessionForm

/-- The fields in the order of the wire. -/
def fields : List FieldName := [.id, .tenantId, .agentId, .policyId, .ttlSeconds]

/-- A field at fault, whatever the others hold. -/
def Faulty (form : SessionForm) : FieldName → Prop
  | .id => IsBlankId form.id
  | .tenantId => ¬IsGiven form.tenantId
  | .agentId => ¬IsGiven form.agentId
  | .policyId => ¬IsGiven form.policyId
  | .ttlSeconds => ¬IsLifetime form.ttlSeconds
  | .language => False
  | .code => False

/-- What a field is refused for, whatever the others hold. -/
def fault? (form : SessionForm) : FieldName → Option FormError
  | .id => cause? (callerId form.id)
  | .tenantId => cause? (requiredName "tenantId" form.tenantId)
  | .agentId => cause? (requiredName "agentId" form.agentId)
  | .policyId => cause? (requiredName "policyId" form.policyId)
  | .ttlSeconds => cause? (requiredTtl form.ttlSeconds)
  | .language => none
  | .code => none

theorem fault?_isSome_iff {form : SessionForm} {field : FieldName} :
    (form.fault? field).isSome ↔ form.Faulty field := by
  cases field with
  | id => exact callerId_refuses_iff
  | tenantId => exact requiredName_refuses_iff
  | agentId => exact requiredName_refuses_iff
  | policyId => exact requiredName_refuses_iff
  | ttlSeconds => exact requiredTtl_refuses_iff
  | language => simp [fault?, Faulty]
  | code => simp [fault?, Faulty]

/-- What a field is refused for, if it is at fault. -/
def blame (form : SessionForm) : FieldName → FormError
  | .id => .blankId
  | .ttlSeconds => ttlFault form.ttlSeconds
  | field => .missingField field.text

/-- A field at fault is refused for what it holds. -/
theorem eq_blame_of_fault? {form : SessionForm} {field : FieldName}
    {e : FormError} (h : form.fault? field = some e) : e = form.blame field := by
  cases field with
  | id => exact eq_of_callerId h
  | tenantId => exact eq_of_requiredName h
  | agentId => exact eq_of_requiredName h
  | policyId => exact eq_of_requiredName h
  | ttlSeconds => exact eq_of_requiredTtl h
  | language => cases h
  | code => cases h

theorem field?_blame (form : SessionForm) (field : FieldName) :
    (form.blame field).field? = some field.text := by
  cases field with
  | ttlSeconds => exact field?_ttlFault form.ttlSeconds
  | _ => rfl

theorem field?_of_fault? {form : SessionForm} {field : FieldName}
    {e : FormError} (h : form.fault? field = some e) :
    e.field? = some field.text := by
  rw [eq_blame_of_fault? h]
  exact form.field?_blame field

/-- A form is refused for its first field at fault. -/
theorem cause?_check (form : SessionForm) :
    cause? form.check = fields.findSome? form.fault? := by
  have hRow : cause? form.check =
      (cause? (callerId form.id)).or
        ((cause? (requiredPrincipal form.tenantId form.agentId
          form.policyId)).or
          ((cause? (requiredTtl form.ttlSeconds)).or none)) :=
    cause?_bind fun _ _ => cause?_bind fun _ _ => cause?_bind fun _ _ => rfl
  rw [hRow, cause?_requiredPrincipal]
  simp only [fields, findSome?_cons_or, List.findSome?_nil, fault?, Option.or_assoc]

end SessionForm

end Admission
