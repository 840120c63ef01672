import Admission.Form.Job
import Admission.Form.Session
import Admission.Proofs.Checks

/-!
# Which forms are accepted

A form is checked field by field, and the first check that fails ends it.  Read from the other end,
a form is accepted exactly if every field passes, and the draft holds what each check returned.
This file says so for each check and for the two forms, so that nothing after it unfolds a check.

## Main results

* `JobForm.check_eq_ok_iff`, `SessionForm.check_eq_ok_iff`: as what a form is accepted.
* `JobForm.acceptable_iff`, `SessionForm.acceptableAt_iff`: which forms are accepted, for sessions
  also with a lifetime that ends within the calendar.
-/

namespace Admission

open Admission.Text Admission.Time

/-! ## Fields -/

theorem callerId_eq_ok_iff {v id : Option String} :
    callerId v = .ok id ↔ (∀ s, v = some s → isBlank s = false) ∧ v.map trim = id := by
  cases v with
  | none => simp [callerId]
  | some s =>
      by_cases hBlank : isBlank s = true
      · simp [callerId, hBlank]
      · simp [callerId, hBlank]

theorem requiredPrincipal_eq_ok_iff {tenantId agentId policyId : Option String}
    {principal : Principal} :
    requiredPrincipal tenantId agentId policyId = .ok principal ↔
      requiredName "tenantId" tenantId = .ok principal.tenantId ∧
        requiredName "agentId" agentId = .ok principal.agentId ∧
        requiredName "policyId" policyId = .ok principal.policyId := by
  simp only [requiredPrincipal, bind_eq_ok_iff, pure_eq_ok_iff]
  constructor
  · rintro ⟨tenant, hTenant, agent, hAgent, policy, hPolicy, rfl⟩
    exact ⟨hTenant, hAgent, hPolicy⟩
  · rintro ⟨hTenant, hAgent, hPolicy⟩
    exact ⟨_, hTenant, _, hAgent, _, hPolicy, rfl⟩

/-- A name is read as a language exactly if it is, trimmed and in lower case, one of the language's
names. -/
theorem Language.ofName?_eq_some_iff {s : String} {l : Language} :
    Language.ofName? s = some l ↔ asciiLower (trim s) ∈ l.names := by
  rw [Language.ofName?]
  generalize asciiLower (trim s) = name
  -- the two lists of names have nothing in common
  have hApart : name ∈ Language.node.names →
      name ∉ Language.python.names := by
    simp only [Language.names, List.mem_cons, List.not_mem_nil, or_false]
    rintro (rfl | rfl | rfl | rfl) <;> decide
  by_cases hPython : name ∈ Language.python.names
  · have hNode : name ∉ Language.node.names := fun h => hApart h hPython
    cases l <;> simp [Language.all, hPython, hNode]
  · by_cases hNode : name ∈ Language.node.names
    · cases l <;> simp [Language.all, hPython, hNode]
    · cases l <;> simp [Language.all, hPython, hNode]

/-- The empty text is no language's name. -/
private theorem asciiLower_empty_not_mem (l : Language) :
    asciiLower "" ∉ l.names := by
  cases l <;> decide +kernel

theorem requiredLanguage_eq_ok_iff {v : Option String} {l : Language} :
    requiredLanguage v = .ok l ↔ ∃ s, v = some s ∧ asciiLower (trim s) ∈ l.names := by
  simp only [requiredLanguage, bind_eq_ok_iff, requiredName_eq_ok_iff]
  constructor
  · rintro ⟨name, ⟨s, hSome, _, rfl⟩, hFound⟩
    refine ⟨s, hSome, ?_⟩
    cases hName : Language.ofName? (trim s) with
    | none =>
        rw [hName] at hFound
        cases hFound
    | some language =>
        rw [hName] at hFound
        cases hFound
        rw [← trim_trim s]
        exact Language.ofName?_eq_some_iff.1 hName
  · rintro ⟨s, hSome, hName⟩
    refine ⟨trim s, ⟨s, hSome, ?_, rfl⟩, ?_⟩
    · rw [Bool.eq_false_iff]
      intro hBlank
      rw [(trim_eq_empty_iff s).2 hBlank] at hName
      exact asciiLower_empty_not_mem l hName
    · rw [← trim_trim s] at hName
      rw [Language.ofName?_eq_some_iff.2 hName]
      rfl

theorem requiredCode_eq_ok_iff {v : Option String} {code : String} :
    requiredCode v = .ok code ↔ v = some code ∧ isBlank code = false := by
  cases v with
  | none => simp [requiredCode]
  | some s =>
      by_cases hBlank : isBlank s = true
      · simp only [requiredCode, hBlank, if_true]
        constructor
        · intro h
          cases h
        · rintro ⟨hSome, hCode⟩
          rw [Option.some.inj hSome, hCode] at hBlank
          cases hBlank
      · simp only [requiredCode, hBlank]
        constructor
        · intro h
          cases h
          exact ⟨rfl, Bool.eq_false_iff.2 hBlank⟩
        · rintro ⟨hSome, _⟩
          cases hSome
          rfl

/-- The check of a lifetime, in numbers. -/
theorem requiredTtl_some (ttl : Int64) :
    requiredTtl (some ttl) =
      if ttl.toInt ≤ 0 then .error (.nonPositiveTtl ttl)
      else if longestSpan < ttl.toInt then .error (.ttlOutOfRange ttl)
      else .ok ttl.toUInt64 := by
  have hSign : ttl ≤ 0 ↔ ttl.toInt ≤ 0 := by
    rw [Int64.le_iff_toInt_le, Int64.toInt_zero]
  simp only [requiredTtl, hSign]
  split
  · rfl
  · next hPos =>
      have hSpan : IsSpan ttl.toInt ↔ ¬longestSpan < ttl.toInt := by
        unfold IsSpan longestSpan
        omega
      simp only [hSpan, ite_not]

/-- A lifetime is accepted exactly if it is positive and a span. -/
theorem requiredTtl_eq_ok_iff {v : Option Int64} {n : UInt64} :
    requiredTtl v = .ok n ↔
      ∃ ttl, v = some ttl ∧ 0 < ttl.toInt ∧ ttl.toInt ≤ longestSpan ∧ n = ttl.toUInt64 := by
  cases v with
  | none => simp [requiredTtl]
  | some ttl =>
      rw [requiredTtl_some]
      split
      · next hSign => simp [Int.not_lt.2 hSign]
      · next hSign =>
          split
          · next hLong => simp [Int.not_le.2 hLong]
          · next hLong =>
              simp [Int.not_le.1 hSign, Int.not_lt.1 hLong, eq_comm]

/-! ## Forms -/

/-- A form for a job is accepted exactly if each of its fields is. -/
theorem JobForm.check_eq_ok_iff {form : JobForm} {draft : JobDraft} :
    form.check = .ok draft ↔
      callerId form.id = .ok draft.id ∧
        requiredPrincipal form.tenantId form.agentId form.policyId = .ok draft.principal ∧
        requiredLanguage form.language = .ok draft.language ∧
        requiredCode form.code = .ok draft.code := by
  simp only [JobForm.check, bind_eq_ok_iff, pure_eq_ok_iff]
  constructor
  · rintro ⟨id, hId, principal, hPrincipal, language, hLanguage, code, hCode, rfl⟩
    exact ⟨hId, hPrincipal, hLanguage, hCode⟩
  · rintro ⟨hId, hPrincipal, hLanguage, hCode⟩
    exact ⟨_, hId, _, hPrincipal, _, hLanguage, _, hCode, rfl⟩

/-- A form for a session is accepted exactly if each of its fields is. -/
theorem SessionForm.check_eq_ok_iff {form : SessionForm} {draft : SessionDraft} :
    form.check = .ok draft ↔
      callerId form.id = .ok draft.id ∧
        requiredPrincipal form.tenantId form.agentId form.policyId = .ok draft.principal ∧
        requiredTtl form.ttlSeconds = .ok draft.ttlSeconds := by
  simp only [SessionForm.check, bind_eq_ok_iff, pure_eq_ok_iff]
  constructor
  · rintro ⟨id, hId, principal, hPrincipal, ttl, hTtl, rfl⟩
    exact ⟨hId, hPrincipal, hTtl⟩
  · rintro ⟨hId, hPrincipal, hTtl⟩
    exact ⟨_, hId, _, hPrincipal, _, hTtl, rfl⟩

/-! ## Lifetimes -/

/-- A lifetime ends at the exact sum, if it is a span and the sum an instant. -/
theorem SessionDraft.expiry?_eq_some_iff {ttl : Int64} {now expiry : Instant} :
    SessionDraft.expiry? ttl now = some expiry ↔
      IsSpan ttl.toInt ∧ expiry.ns = now.ns + ttl.toInt * nsPerSecond := by
  unfold SessionDraft.expiry?
  split
  · next hSpan =>
      rw [Instant.addSeconds?, Instant.ns_add?]
      simp [hSpan]
  · next hSpan => simp [hSpan]

/-- A draft becomes a session exactly if its lifetime ends within the calendar. -/
theorem SessionDraft.stamp_eq_ok_iff {draft : SessionDraft} {id : String}
    {now : Instant} {session : Session} :
    draft.stamp id now = .ok session ↔
      ∃ expiry, SessionDraft.expiry? draft.ttlSeconds.toInt64 now =
          some expiry ∧
        session = ⟨id, draft.principal, draft.ttlSeconds, now, expiry⟩ := by
  unfold SessionDraft.stamp
  cases hExpiry : SessionDraft.expiry? draft.ttlSeconds.toInt64 now with
  | none => simp
  | some expiry => simp [eq_comm]

/-! ## Acceptable forms -/

/-- A field that is there and not blank. -/
def IsGiven (v : Option String) : Prop := ∃ s, v = some s ∧ isBlank s = false

/-- A form with nothing at fault: an id only if it is not blank, the three names, the name of a
language, and code. -/
structure JobForm.Acceptable (form : JobForm) : Prop where
  id : ∀ s, form.id = some s → isBlank s = false
  tenantId : IsGiven form.tenantId
  agentId : IsGiven form.agentId
  policyId : IsGiven form.policyId
  language : ∃ name, form.language = some name ∧ ∃ l : Language, asciiLower (trim name) ∈ l.names
  code : IsGiven form.code

/-- A form with nothing at fault at a time: an id only if it is not blank, the three names, and a
positive lifetime that ends within the calendar. -/
structure SessionForm.AcceptableAt (form : SessionForm) (now : Instant) :
    Prop where
  id : ∀ s, form.id = some s → isBlank s = false
  tenantId : IsGiven form.tenantId
  agentId : IsGiven form.agentId
  policyId : IsGiven form.policyId
  ttl : ∃ ttl, form.ttlSeconds = some ttl ∧ 0 < ttl.toInt ∧
    now.ns + ttl.toInt * nsPerSecond ≤ lastNs

theorem isGiven_iff {field : String} {v : Option String} :
    IsGiven v ↔ ∃ name, requiredName field v = .ok name := by
  constructor
  · rintro ⟨s, hSome, hBlank⟩
    exact ⟨trim s, requiredName_eq_ok_iff.2 ⟨s, hSome, hBlank, rfl⟩⟩
  · rintro ⟨name, hName⟩
    obtain ⟨s, hSome, hBlank, _⟩ := requiredName_eq_ok_iff.1 hName
    exact ⟨s, hSome, hBlank⟩

/-- The three names of a principal are accepted exactly if all are given. -/
theorem isGiven_principal_iff {tenantId agentId policyId : Option String} :
    (IsGiven tenantId ∧ IsGiven agentId ∧ IsGiven policyId) ↔
      ∃ principal, requiredPrincipal tenantId agentId policyId = .ok principal := by
  constructor
  · rintro ⟨hTenant, hAgent, hPolicy⟩
    obtain ⟨tenant, hTenant⟩ := isGiven_iff.1 hTenant
    obtain ⟨agent, hAgent⟩ := isGiven_iff.1 hAgent
    obtain ⟨policy, hPolicy⟩ := isGiven_iff.1 hPolicy
    exact ⟨⟨tenant, agent, policy⟩, requiredPrincipal_eq_ok_iff.2 ⟨hTenant, hAgent, hPolicy⟩⟩
  · rintro ⟨principal, hPrincipal⟩
    obtain ⟨hTenant, hAgent, hPolicy⟩ := requiredPrincipal_eq_ok_iff.1 hPrincipal
    exact ⟨isGiven_iff.2 ⟨_, hTenant⟩, isGiven_iff.2 ⟨_, hAgent⟩, isGiven_iff.2 ⟨_, hPolicy⟩⟩

/-- The forms for jobs that are accepted are the acceptable ones. -/
theorem JobForm.acceptable_iff {form : JobForm} :
    form.Acceptable ↔ ∃ draft, form.check = .ok draft := by
  constructor
  · rintro ⟨hId, hTenant, hAgent, hPolicy, ⟨name, hName, l, hMem⟩, code, hCode, hBlank⟩
    obtain ⟨principal, hPrincipal⟩ := isGiven_principal_iff.1 ⟨hTenant, hAgent, hPolicy⟩
    exact ⟨⟨form.id.map trim, principal, l, code⟩, JobForm.check_eq_ok_iff.2
      ⟨callerId_eq_ok_iff.2 ⟨hId, rfl⟩, hPrincipal,
        requiredLanguage_eq_ok_iff.2 ⟨name, hName, hMem⟩, requiredCode_eq_ok_iff.2 ⟨hCode, hBlank⟩⟩⟩
  · rintro ⟨draft, hCheck⟩
    obtain ⟨hId, hPrincipal, hLanguage, hCode⟩ := JobForm.check_eq_ok_iff.1 hCheck
    obtain ⟨hTenant, hAgent, hPolicy⟩ := isGiven_principal_iff.2 ⟨_, hPrincipal⟩
    obtain ⟨name, hName, hMem⟩ := requiredLanguage_eq_ok_iff.1 hLanguage
    exact
      { id := (callerId_eq_ok_iff.1 hId).1
        tenantId := hTenant
        agentId := hAgent
        policyId := hPolicy
        language := ⟨name, hName, draft.language, hMem⟩
        code := ⟨draft.code, requiredCode_eq_ok_iff.1 hCode⟩ }

/-- The calendar is shorter than the longest span, so that a positive lifetime is only ever too long
for the calendar. -/
theorem exists_expiry?_iff {ttl : Int64} (hPos : 0 < ttl.toInt) (now : Instant) :
    (∃ expiry, SessionDraft.expiry? ttl now = some expiry) ↔
      now.ns + ttl.toInt * nsPerSecond ≤ lastNs := by
  have hFirst := now.first_le
  constructor
  · rintro ⟨expiry, hExpiry⟩
    rw [← (SessionDraft.expiry?_eq_some_iff.1 hExpiry).2]
    exact expiry.le_last
  · intro hLast
    have hSum : firstNs ≤ now.ns + ttl.toInt * nsPerSecond := by
      unfold nsPerSecond
      omega
    refine ⟨⟨now.ns + ttl.toInt * nsPerSecond, hSum, hLast⟩,
      SessionDraft.expiry?_eq_some_iff.2 ⟨?_, rfl⟩⟩
    unfold IsSpan longestSpan
    unfold firstNs at hFirst
    unfold lastNs at hLast
    unfold nsPerSecond at hFirst hLast
    omega

/-- A positive lifetime has the same number of seconds without a sign. -/
theorem toNat_toUInt64_of_pos {ttl : Int64} (hPos : 0 < ttl.toInt) :
    (ttl.toUInt64.toNat : Int) = ttl.toInt := by
  have hLe : (0 : Int64) ≤ ttl := by
    rw [Int64.le_iff_toInt_le, Int64.toInt_zero]
    omega
  rw [Int64.toNat_toUInt64_of_le hLe, ← Int64.toNat_toInt]
  omega

theorem le_longestSpan_of_expiry {ttl : Int64} {now expiry : Instant}
    (h : SessionDraft.expiry? ttl now = some expiry) :
    ttl.toInt ≤ longestSpan :=
  (SessionDraft.expiry?_eq_some_iff.1 h).1.2

/-- The forms for sessions that are accepted and stamped are the acceptable ones. -/
theorem SessionForm.acceptableAt_iff {form : SessionForm} {now : Instant} (fresh : String) :
    form.AcceptableAt now ↔
      ∃ draft session, form.check = .ok draft ∧
        draft.stamp (draft.id.getD fresh) now = .ok session := by
  constructor
  · rintro ⟨hId, hTenant, hAgent, hPolicy, ttl, hTtl, hPos, hLast⟩
    obtain ⟨principal, hPrincipal⟩ := isGiven_principal_iff.1 ⟨hTenant, hAgent, hPolicy⟩
    obtain ⟨expiry, hExpiry⟩ := (exists_expiry?_iff hPos now).2 hLast
    have hSpan := le_longestSpan_of_expiry hExpiry
    rw [← Int64.toInt64_toUInt64 ttl] at hExpiry
    refine ⟨⟨form.id.map trim, principal, ttl.toUInt64⟩, _,
      SessionForm.check_eq_ok_iff.2 ⟨callerId_eq_ok_iff.2 ⟨hId, rfl⟩,
        hPrincipal, requiredTtl_eq_ok_iff.2 ⟨ttl, hTtl, hPos, hSpan, rfl⟩⟩,
      SessionDraft.stamp_eq_ok_iff.2 ⟨expiry, hExpiry, rfl⟩⟩
  · rintro ⟨draft, session, hCheck, hStamp⟩
    obtain ⟨hId, hPrincipal, hTtl⟩ := SessionForm.check_eq_ok_iff.1 hCheck
    obtain ⟨hTenant, hAgent, hPolicy⟩ := isGiven_principal_iff.2 ⟨_, hPrincipal⟩
    obtain ⟨ttl, hSome, hPos, _, hUnsigned⟩ := requiredTtl_eq_ok_iff.1 hTtl
    obtain ⟨expiry, hExpiry, _⟩ := SessionDraft.stamp_eq_ok_iff.1 hStamp
    rw [hUnsigned, Int64.toInt64_toUInt64] at hExpiry
    exact
      { id := (callerId_eq_ok_iff.1 hId).1
        tenantId := hTenant
        agentId := hAgent
        policyId := hPolicy
        ttl := ⟨ttl, hSome, hPos, (exists_expiry?_iff hPos now).1 ⟨expiry, hExpiry⟩⟩ }

end Admission
