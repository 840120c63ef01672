import Admission.Proofs.Form.Faults

/-!
# What a refused form is told

A form can be wrong in several fields at once, and in several ways in each.  Its check goes through
the fields in the order of the wire and stops at the first that is at fault, so one fault is told,
and what comes after the field it is about plays no part.  Both checks do this, each over its own
fields; that a check does it is one notion here, and it follows for both from their rows of faults.

## Main results

* `BlamesFirst.of_row`: a check that is a row of faults blames the first field at fault.
* `JobForm.blamesFirst`, `SessionForm.blamesFirst`: the two checks do.
* `JobForm.faultless_iff`, `SessionForm.faultless_iff`: the forms without a fault, spelled out.
* `first_faulty_field_is_blamed`: all of it, down to which characters are blank.
-/

namespace Admission

open Admission.Text

/-! ## Checks that blame the first field -/

/-- What a field holds. -/
inductive FieldValue where
  | text (v : Option String)
  | seconds (v : Option Int64)

/-- A field at fault with none at fault before it. -/
def IsFirstFault (fields : List FieldName) (Faulty : FieldName → Prop) (field : FieldName) : Prop :=
  ∃ before after, fields = before ++ field :: after ∧ Faulty field ∧
    ∀ earlier ∈ before, ¬Faulty earlier

variable {Form Draft : Type}

/-- A check goes through some fields in order, and tells what the first of them that is at fault is
to be blamed for. -/
structure BlamesFirst (check : Form → Except FormError Draft) (fields : List FieldName)
    (value? : Form → FieldName → Option FieldValue) (Faulty : Form → FieldName → Prop)
    (blame : Form → FieldName → FormError) : Prop where
  /-- The forms without a fault are accepted, and no others. -/
  accepts_iff (form : Form) :
    (∃ draft, check form = .ok draft) ↔ ∀ field ∈ fields, ¬Faulty form field
  /-- The others are refused for their first field at fault. -/
  refuses_iff (form : Form) (e : FormError) :
    check form = .error e ↔
      ∃ field, IsFirstFault fields (Faulty form) field ∧ e = blame form field
  /-- A refusal names the field that it blames. -/
  names_field (form : Form) (field : FieldName) : (blame form field).field? = some field.text
  /-- What comes after a field at fault plays no part. -/
  ignores_later (form form' : Form) (before after : List FieldName) (field : FieldName) :
    fields = before ++ field :: after → Faulty form field →
    (∀ name ∈ before ++ [field], value? form' name = value? form name) →
    check form' = check form

section Row

variable {check : Form → Except FormError Draft} {fields : List FieldName}
  {fault? : Form → FieldName → Option FormError} {Faulty : Form → FieldName → Prop}

/-- The fields without a fault are those that are not at fault. -/
theorem fault?_eq_none_iff (hFaulty : ∀ form field, (fault? form field).isSome ↔ Faulty form field)
    (form : Form) (field : FieldName) : fault? form field = none ↔ ¬Faulty form field := by
  rw [← hFaulty, Option.not_isSome_iff_eq_none]

/-- Two forms with the same faults up to a field at fault are refused alike. -/
theorem check_eq_of_faults_eq
    (hRow : ∀ form, cause? (check form) = fields.findSome? (fault? form))
    {form form' : Form} {before after : List FieldName} {field : FieldName}
    (hFields : fields = before ++ field :: after) (hFault : (fault? form field).isSome)
    (hSame : ∀ name ∈ before ++ [field], fault? form' name = fault? form name) :
    check form' = check form := by
  have hSplit : fields = (before ++ [field]) ++ after := by
    rw [hFields, List.append_assoc, List.singleton_append]
  obtain ⟨e, hFirst⟩ : ∃ e, (before ++ [field]).findSome? (fault? form) = some e :=
    Option.isSome_iff_exists.1 (List.findSome?_isSome_iff.2 ⟨field, by simp, hFault⟩)
  have hFirst' : (before ++ [field]).findSome? (fault? form') = some e := by
    rw [← hFirst]
    exact findSome?_congr hSame
  have hError : check form = .error e := by
    rw [← cause?_eq_some_iff, hRow, hSplit, List.findSome?_append, hFirst, Option.some_or]
  have hError' : check form' = .error e := by
    rw [← cause?_eq_some_iff, hRow, hSplit, List.findSome?_append, hFirst', Option.some_or]
  rw [hError, hError']

/-- A check that is refused for the first fault of its fields blames the first field at fault, if
the fault of a field depends on what the field holds and on nothing else. -/
theorem BlamesFirst.of_row {value? : Form → FieldName → Option FieldValue}
    {blame : Form → FieldName → FormError}
    (hRow : ∀ form, cause? (check form) = fields.findSome? (fault? form))
    (hFaulty : ∀ form field, (fault? form field).isSome ↔ Faulty form field)
    (hBlame : ∀ form field e, fault? form field = some e → e = blame form field)
    (hNames : ∀ form field, (blame form field).field? = some field.text)
    (hValue : ∀ form form' field, value? form' field = value? form field →
      fault? form' field = fault? form field) :
    BlamesFirst check fields value? Faulty blame where
  accepts_iff form := by
    rw [← cause?_eq_none_iff, hRow, List.findSome?_eq_none_iff]
    simp only [fault?_eq_none_iff hFaulty]
  refuses_iff form e := by
    rw [← cause?_eq_some_iff, hRow, List.findSome?_eq_some_iff]
    simp only [fault?_eq_none_iff hFaulty]
    constructor
    · rintro ⟨before, field, after, hFields, hFault, hEarlier⟩
      have hAt : Faulty form field := by
        rw [← hFaulty, hFault]
        rfl
      exact ⟨field, ⟨before, after, hFields, hAt, hEarlier⟩, hBlame form field e hFault⟩
    · rintro ⟨field, ⟨before, after, hFields, hAt, hEarlier⟩, rfl⟩
      obtain ⟨e, hFault⟩ := Option.isSome_iff_exists.1 ((hFaulty form field).2 hAt)
      rw [← hBlame form field e hFault]
      exact ⟨before, field, after, hFields, hFault, hEarlier⟩
  names_field := hNames
  ignores_later form form' before after field hFields hAt hSame :=
    check_eq_of_faults_eq hRow hFields ((hFaulty form field).2 hAt) fun name hName =>
      hValue form form' name (hSame name hName)

end Row

/-! ## Fields without a fault -/

theorem not_isBlankId_iff {v : Option String} :
    ¬IsBlankId v ↔ ∀ id, v = some id → isBlank id = false := by
  simp only [IsBlankId, not_exists, not_and, Bool.not_eq_true]

/-- The seven names that languages have, the case of ASCII letters and blanks around them aside. -/
theorem namesLanguage_iff {v : Option String} :
    NamesLanguage v ↔ ∃ name, v = some name ∧ asciiLower (trim name) ∈
      ["python", "python3", "py", "node", "nodejs", "javascript", "js"] := by
  have hNames (name : String) : (∃ l : Language, name ∈ l.names) ↔
      name ∈ ["python", "python3", "py", "node", "nodejs", "javascript", "js"] := by
    constructor
    · rintro ⟨l, hMem⟩
      cases l with
      | python => exact List.mem_append_left Language.node.names hMem
      | node => exact List.mem_append_right Language.python.names hMem
    · intro hMem
      rcases List.mem_append (s := Language.python.names).1 hMem with hPython | hNode
      · exact ⟨.python, hPython⟩
      · exact ⟨.node, hNode⟩
  simp only [NamesLanguage, hNames]

/-! ## The two forms -/

namespace JobForm

/-- What a field of a form holds, for the fields that forms for jobs have. -/
def value? (form : JobForm) : FieldName → Option FieldValue
  | .id => some (.text form.id)
  | .tenantId => some (.text form.tenantId)
  | .agentId => some (.text form.agentId)
  | .policyId => some (.text form.policyId)
  | .language => some (.text form.language)
  | .code => some (.text form.code)
  | .ttlSeconds => none

/-- The fault of a field depends on what it holds and on nothing else. -/
theorem fault?_eq_of_value?_eq {form form' : JobForm} {field : FieldName}
    (h : form'.value? field = form.value? field) : form'.fault? field = form.fault? field := by
  cases field <;>
    simp only [value?, Option.some.injEq, FieldValue.text.injEq] at h <;>
    simp only [fault?, h]

theorem blamesFirst : BlamesFirst check fields value? Faulty blame :=
  .of_row cause?_check (fun _ _ => fault?_isSome_iff) (fun _ _ _ => eq_blame_of_fault?) field?_blame
    fun _ _ _ => fault?_eq_of_value?_eq

theorem faultless_iff (form : JobForm) :
    (∀ field ∈ fields, ¬form.Faulty field) ↔
      (∀ id, form.id = some id → isBlank id = false) ∧
      IsGiven form.tenantId ∧ IsGiven form.agentId ∧ IsGiven form.policyId ∧
      (∃ name, form.language = some name ∧ asciiLower (trim name) ∈
        ["python", "python3", "py", "node", "nodejs", "javascript", "js"]) ∧
      IsGiven form.code := by
  simp only [fields, List.forall_mem_cons, List.not_mem_nil, false_imp_iff, implies_true, and_true,
    Faulty, Classical.not_not, not_isBlankId_iff, namesLanguage_iff]

end JobForm

namespace SessionForm

/-- What a field of a form holds, for the fields that forms for sessions have. -/
def value? (form : SessionForm) : FieldName → Option FieldValue
  | .id => some (.text form.id)
  | .tenantId => some (.text form.tenantId)
  | .agentId => some (.text form.agentId)
  | .policyId => some (.text form.policyId)
  | .ttlSeconds => some (.seconds form.ttlSeconds)
  | .language => none
  | .code => none

/-- The fault of a field depends on what it holds and on nothing else. -/
theorem fault?_eq_of_value?_eq {form form' : SessionForm} {field : FieldName}
    (h : form'.value? field = form.value? field) : form'.fault? field = form.fault? field := by
  cases field <;>
    simp only [value?, Option.some.injEq, FieldValue.text.injEq, FieldValue.seconds.injEq] at h <;>
    simp only [fault?, h]

theorem blamesFirst : BlamesFirst check fields value? Faulty blame :=
  .of_row cause?_check (fun _ _ => fault?_isSome_iff) (fun _ _ _ => eq_blame_of_fault?) field?_blame
    fun _ _ _ => fault?_eq_of_value?_eq

theorem faultless_iff (form : SessionForm) :
    (∀ field ∈ fields, ¬form.Faulty field) ↔
      (∀ id, form.id = some id → isBlank id = false) ∧
      IsGiven form.tenantId ∧ IsGiven form.agentId ∧ IsGiven form.policyId ∧
      ∃ ttl, form.ttlSeconds = some ttl ∧ 1 ≤ ttl.toInt ∧ ttl.toInt ≤ 9223372036854775 := by
  simp only [fields, List.forall_mem_cons, List.not_mem_nil, false_imp_iff, implies_true, and_true,
    Faulty, Classical.not_not, not_isBlankId_iff]
  rfl

end SessionForm

/-- **Blame.**  The check of a form accepts it exactly if none of its fields is at fault: for jobs,
an id only if it is not blank, the three names, the name of a language, and code; for sessions,
after the names, a positive lifetime within the longest duration.  Otherwise it refuses the form for
the first field at fault, in the order of the wire, with the error that this field alone calls for
and that names it, whatever comes after the field.  Blank is what has no characters but those with
the property White_Space. -/
theorem first_faulty_field_is_blamed :
    (BlamesFirst JobForm.check [.id, .tenantId, .agentId, .policyId, .language, .code]
        JobForm.value? JobForm.Faulty JobForm.blame ∧
      ∀ form : JobForm, (∃ draft, form.check = .ok draft) ↔
        (∀ id, form.id = some id → isBlank id = false) ∧
        IsGiven form.tenantId ∧ IsGiven form.agentId ∧ IsGiven form.policyId ∧
        (∃ name, form.language = some name ∧ asciiLower (trim name) ∈
          ["python", "python3", "py", "node", "nodejs", "javascript", "js"]) ∧
        IsGiven form.code) ∧
    (BlamesFirst SessionForm.check [.id, .tenantId, .agentId, .policyId, .ttlSeconds]
        SessionForm.value? SessionForm.Faulty SessionForm.blame ∧
      ∀ form : SessionForm, (∃ draft, form.check = .ok draft) ↔
        (∀ id, form.id = some id → isBlank id = false) ∧
        IsGiven form.tenantId ∧ IsGiven form.agentId ∧ IsGiven form.policyId ∧
        ∃ ttl, form.ttlSeconds = some ttl ∧ 1 ≤ ttl.toInt ∧ ttl.toInt ≤ 9223372036854775) ∧
    ∀ s, isBlank s = true ↔ ∀ c ∈ s.toList, c.toNat ∈ whiteSpace := by
  refine ⟨⟨JobForm.blamesFirst, ?_⟩, ⟨SessionForm.blamesFirst, ?_⟩, ?_⟩
  · intro form
    exact (JobForm.blamesFirst.accepts_iff form).trans form.faultless_iff
  · intro form
    exact (SessionForm.blamesFirst.accepts_iff form).trans form.faultless_iff
  · intro s
    exact isBlank_iff

/-- Of a language and code that are both at fault, the language is told, without its blanks. -/
example : cause? (⟨none, some "t", some "a", some "p", some " Ruby ", none⟩ : JobForm).check =
    some (.unsupportedLanguage "Ruby") := by
  decide +kernel

end Admission
