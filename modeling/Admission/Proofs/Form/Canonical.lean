import Admission.Proofs.Queue.History
import Admission.Proofs.Registry.Unswept
import Admission.Proofs.Service.Refusing
import Admission.Proofs.Text.Trim
import Mathlib.Logic.Relation

/-!
# Canonical forms

One request can be spelled in many ways: blanks around an id or a name do not count, nor does the
case of the name of a language, and a language has several names.  A check undoes all of this.  The
form that asks for its draft is accepted as the same draft, and so are just those forms that come
from the accepted one by respelling it, one field at a time.

Because the stores see the draft and not the form, an id is one key however it is spelled.

## Main results

* `JobForm.respelled_iff`, `SessionForm.respelled_iff`: the forms for one draft are the spellings of
  one form.
* `Plane.job_collides`, `Plane.session_collides`: another spelling of an id that is taken.
* `checks_are_canonical`: all of it.
-/

namespace Admission

open Admission.Store Admission.Text Admission.Time Relation

/-! ## Respelling a field -/

/-- Blanks around a text that is there are added or taken away. -/
inductive NameRespelling : Option String → Option String → Prop
  | blanks {s t : String} (h : SameButBlanks s t) : NameRespelling (some s) (some t)

/-- The name of a language gets other blanks around it, or another case, or is replaced by a name of
the same language. -/
inductive LanguageRespelling : Option String → Option String → Prop
  | blanks {s t : String} (h : SameButBlanks s t) : LanguageRespelling (some s) (some t)
  | case {s t : String} (h : SameButCase s t) : LanguageRespelling (some s) (some t)
  | renamed {s t : String} {l : Language} (hs : asciiLower (trim s) ∈ l.names)
      (ht : t ∈ l.names) : LanguageRespelling (some s) (some t)

theorem NameRespelling.map_trim {v v' : Option String} (h : NameRespelling v v') :
    v.map trim = v'.map trim := by
  obtain ⟨hBlanks⟩ := h
  exact congrArg some (sameButBlanks_iff.1 hBlanks)

theorem nameRespelling_of_trim {s t : String} (h : trim s = trim t) :
    NameRespelling (some s) (some t) :=
  .blanks (sameButBlanks_iff.2 h)

/-- An id is checked as what it trims to. -/
theorem callerId_trim (v : Option String) : callerId (v.map trim) = callerId v := by
  cases v with
  | none => rfl
  | some s =>
      have hTrim : trim (trim s) = trim s := trim_trim s
      rw [Option.map_some, callerId, callerId, isBlank_congr hTrim, hTrim]

/-- A name is checked as what it trims to. -/
theorem requiredName_trim (field : String) (v : Option String) :
    requiredName field (v.map trim) = requiredName field v := by
  cases v with
  | none => rfl
  | some s =>
      have hTrim : trim (trim s) = trim s := trim_trim s
      rw [Option.map_some, requiredName, requiredName, isBlank_congr hTrim, hTrim]

theorem callerId_congr {v v' : Option String} (h : v.map trim = v'.map trim) :
    callerId v = callerId v' := by
  rw [← callerId_trim, h, callerId_trim]

theorem requiredName_congr (field : String) {v v' : Option String} (h : v.map trim = v'.map trim) :
    requiredName field v = requiredName field v' := by
  rw [← requiredName_trim, h, requiredName_trim]

/-- The three names are checked by what they trim to. -/
theorem requiredPrincipal_congr {tenant agent policy tenant' agent' policy' : Option String}
    (hTenant : tenant.map trim = tenant'.map trim) (hAgent : agent.map trim = agent'.map trim)
    (hPolicy : policy.map trim = policy'.map trim) :
    requiredPrincipal tenant agent policy = requiredPrincipal tenant' agent' policy' := by
  rw [requiredPrincipal, requiredPrincipal, requiredName_congr _ hTenant,
    requiredName_congr _ hAgent, requiredName_congr _ hPolicy]

/-- What an id was accepted as is accepted as itself. -/
theorem callerId_idem {id chosen : Option String} (h : callerId id = .ok chosen) :
    callerId chosen = .ok chosen := by
  obtain ⟨-, rfl⟩ := callerId_eq_ok_iff.1 h
  exact (callerId_trim id).trans h

/-- What a name was accepted as is accepted as itself. -/
theorem requiredName_idem {field name : String} {v : Option String}
    (h : requiredName field v = .ok name) : requiredName field (some name) = .ok name := by
  obtain ⟨s, rfl, -, rfl⟩ := requiredName_eq_ok_iff.1 h
  exact (requiredName_trim field (some s)).trans h

theorem requiredPrincipal_idem {tenant agent policy : Option String} {principal : Principal}
    (h : requiredPrincipal tenant agent policy = .ok principal) :
    requiredPrincipal (some principal.tenantId) (some principal.agentId) (some principal.policyId) =
      .ok principal := by
  obtain ⟨hTenant, hAgent, hPolicy⟩ := requiredPrincipal_eq_ok_iff.1 h
  exact requiredPrincipal_eq_ok_iff.2
    ⟨requiredName_idem hTenant, requiredName_idem hAgent, requiredName_idem hPolicy⟩

/-- Every name of a language is one in lower case without blanks around it. -/
theorem Language.asciiLower_trim_of_mem {l : Language} {name : String} (h : name ∈ l.names) :
    asciiLower (Text.trim name) = name := by
  cases l <;> simp only [names, List.mem_cons, List.not_mem_nil, or_false] at h
  · rcases h with rfl | rfl | rfl <;> decide +kernel
  · rcases h with rfl | rfl | rfl | rfl <;> decide +kernel

theorem Language.name_mem (l : Language) : l.name ∈ l.names := by
  cases l <;> decide

/-- A language is read from each spelling of its names. -/
theorem LanguageRespelling.required {v v' : Option String} {l : Language}
    (h : LanguageRespelling v v') (hv : requiredLanguage v = .ok l) :
    requiredLanguage v' = .ok l := by
  obtain ⟨s, rfl, hMem⟩ := requiredLanguage_eq_ok_iff.1 hv
  rw [requiredLanguage_eq_ok_iff]
  cases h with
  | @blanks _ t hBlanks =>
      rw [sameButBlanks_iff.1 hBlanks] at hMem
      exact ⟨t, rfl, hMem⟩
  | @case _ t hCase =>
      rw [hCase.trim] at hMem
      exact ⟨t, rfl, hMem⟩
  | @renamed _ t l' hs ht =>
      -- the name stands for one language only
      have hSame : l' = l := Option.some.inj
        ((Language.ofName?_eq_some_iff.2 hs).symm.trans (Language.ofName?_eq_some_iff.2 hMem))
      refine ⟨t, rfl, ?_⟩
      rw [Language.asciiLower_trim_of_mem ht, ← hSame]
      exact ht

/-- An accepted name can be respelled as any other spelling of the same draft. -/
theorem nameRespelling_of_required {field : String} {v v' : Option String} {name : String}
    (h : requiredName field v = .ok name) (h' : requiredName field v' = .ok name) :
    ReflTransGen NameRespelling v v' := by
  obtain ⟨s, rfl, -, hs⟩ := requiredName_eq_ok_iff.1 h
  obtain ⟨t, rfl, -, ht⟩ := requiredName_eq_ok_iff.1 h'
  exact .single (nameRespelling_of_trim (hs.trans ht.symm))

theorem nameRespelling_of_callerId {v v' id : Option String} (h : callerId v = .ok id)
    (h' : callerId v' = .ok id) : ReflTransGen NameRespelling v v' := by
  obtain ⟨-, hv⟩ := callerId_eq_ok_iff.1 h
  obtain ⟨-, hv'⟩ := callerId_eq_ok_iff.1 h'
  cases v with
  | none =>
      cases v' with
      | none => exact .refl
      | some t => rw [← hv] at hv'; cases hv'
  | some s =>
      cases v' with
      | none => rw [← hv] at hv'; cases hv'
      | some t => exact .single (nameRespelling_of_trim (Option.some.inj (hv.trans hv'.symm)))

/-- The name of a language can be respelled as every other name of it: by the name in lower case
and without blanks, then its case, then the blanks around it. -/
theorem languageRespelling_of_required {v v' : Option String} {l : Language}
    (h : requiredLanguage v = .ok l) (h' : requiredLanguage v' = .ok l) :
    ReflTransGen LanguageRespelling v v' := by
  obtain ⟨s, rfl, hs⟩ := requiredLanguage_eq_ok_iff.1 h
  obtain ⟨t, rfl, ht⟩ := requiredLanguage_eq_ok_iff.1 h'
  have hName : LanguageRespelling (some s) (some (asciiLower (trim t))) := .renamed hs ht
  have hCase : LanguageRespelling (some (asciiLower (trim t))) (some (trim t)) :=
    .case (asciiLower_asciiLower _)
  have hBlanks : LanguageRespelling (some (trim t)) (some t) :=
    .blanks (sameButBlanks_iff.2 (trim_trim t))
  exact ((ReflTransGen.single hName).tail hCase).tail hBlanks

/-! ## Respelling a form -/

/-- The names of a request, however a form is made from its id and its three names: each of them
can be respelled on its own. -/
structure RespellsNames {Form : Type} (R : Form → Form → Prop)
    (form : Option String → Option String → Option String → Option String → Form) : Prop where
  id : ∀ tenant agent policy {v v'}, NameRespelling v v' →
    R (form v tenant agent policy) (form v' tenant agent policy)
  tenantId : ∀ id agent policy {v v'}, NameRespelling v v' →
    R (form id v agent policy) (form id v' agent policy)
  agentId : ∀ id tenant policy {v v'}, NameRespelling v v' →
    R (form id tenant v policy) (form id tenant v' policy)
  policyId : ∀ id tenant agent {v v'}, NameRespelling v v' →
    R (form id tenant agent v) (form id tenant agent v')

/-- Accepted names that give the same id and principal are respelled one after the other. -/
theorem RespellsNames.respelled {Form : Type} {R : Form → Form → Prop}
    {form : Option String → Option String → Option String → Option String → Form}
    (hR : RespellsNames R form) {id tenant agent policy id' tenant' agent' policy' : Option String}
    {chosen : Option String} {principal : Principal}
    (hId : callerId id = .ok chosen) (hId' : callerId id' = .ok chosen)
    (hNames : requiredPrincipal tenant agent policy = .ok principal)
    (hNames' : requiredPrincipal tenant' agent' policy' = .ok principal) :
    ReflTransGen R (form id tenant agent policy) (form id' tenant' agent' policy') := by
  obtain ⟨hTenant, hAgent, hPolicy⟩ := requiredPrincipal_eq_ok_iff.1 hNames
  obtain ⟨hTenant', hAgent', hPolicy'⟩ := requiredPrincipal_eq_ok_iff.1 hNames'
  have hIds : ReflTransGen R (form id tenant agent policy) (form id' tenant agent policy) :=
    (nameRespelling_of_callerId hId hId').lift (form · tenant agent policy)
      fun _ _ h => hR.id tenant agent policy h
  have hTenants : ReflTransGen R (form id' tenant agent policy) (form id' tenant' agent policy) :=
    (nameRespelling_of_required hTenant hTenant').lift (form id' · agent policy)
      fun _ _ h => hR.tenantId id' agent policy h
  have hAgents : ReflTransGen R (form id' tenant' agent policy) (form id' tenant' agent' policy) :=
    (nameRespelling_of_required hAgent hAgent').lift (form id' tenant' · policy)
      fun _ _ h => hR.agentId id' tenant' policy h
  have hPolicies : ReflTransGen R (form id' tenant' agent' policy)
      (form id' tenant' agent' policy') :=
    (nameRespelling_of_required hPolicy hPolicy').lift (form id' tenant' agent' ·)
      fun _ _ h => hR.policyId id' tenant' agent' h
  exact ((hIds.trans hTenants).trans hAgents).trans hPolicies

/-! ## Forms for jobs -/

namespace JobForm

/-- One field of a form is respelled, and the others stay: the id or a name with other blanks around
it, or the language with another name of it. -/
inductive Respelling : JobForm → JobForm → Prop
  | id {form : JobForm} {v : Option String} (h : NameRespelling form.id v) :
      Respelling form { form with id := v }
  | tenantId {form : JobForm} {v : Option String} (h : NameRespelling form.tenantId v) :
      Respelling form { form with tenantId := v }
  | agentId {form : JobForm} {v : Option String} (h : NameRespelling form.agentId v) :
      Respelling form { form with agentId := v }
  | policyId {form : JobForm} {v : Option String} (h : NameRespelling form.policyId v) :
      Respelling form { form with policyId := v }
  | language {form : JobForm} {v : Option String} (h : LanguageRespelling form.language v) :
      Respelling form { form with language := v }

variable {form form' : JobForm} {draft : JobDraft}

theorem respellsNames (language code : Option String) :
    RespellsNames Respelling (JobForm.mk · · · · language code) where
  id _ _ _ _ _ h := Respelling.id h
  tenantId _ _ _ _ _ h := Respelling.tenantId h
  agentId _ _ _ _ _ h := Respelling.agentId h
  policyId _ _ _ _ _ h := Respelling.policyId h

/-- One respelling does not change what an accepted form is accepted as. -/
theorem Respelling.check_eq (h : Respelling form form') (hCheck : form.check = .ok draft) :
    form'.check = .ok draft := by
  rw [check_eq_ok_iff] at hCheck ⊢
  obtain ⟨hId, hNames, hLanguage, hCode⟩ := hCheck
  cases h with
  | id h => exact ⟨callerId_congr h.map_trim ▸ hId, hNames, hLanguage, hCode⟩
  | tenantId h =>
      exact ⟨hId, requiredPrincipal_congr h.map_trim rfl rfl ▸ hNames, hLanguage, hCode⟩
  | agentId h =>
      exact ⟨hId, requiredPrincipal_congr rfl h.map_trim rfl ▸ hNames, hLanguage, hCode⟩
  | policyId h =>
      exact ⟨hId, requiredPrincipal_congr rfl rfl h.map_trim ▸ hNames, hLanguage, hCode⟩
  | language h => exact ⟨hId, hNames, h.required hLanguage, hCode⟩

/-- Two forms that are accepted as the same draft are spellings of each other. -/
theorem respelled_of_check (h : form.check = .ok draft) (h' : form'.check = .ok draft) :
    ReflTransGen Respelling form form' := by
  obtain ⟨hId, hNames, hLanguage, hCode⟩ := check_eq_ok_iff.1 h
  obtain ⟨hId', hNames', hLanguage', hCode'⟩ := check_eq_ok_iff.1 h'
  have hSameCode : form.code = form'.code :=
    (requiredCode_eq_ok_iff.1 hCode).1.trans (requiredCode_eq_ok_iff.1 hCode').1.symm
  obtain ⟨id, tenant, agent, policy, language, code⟩ := form
  obtain ⟨id', tenant', agent', policy', language', code'⟩ := form'
  obtain rfl : code = code' := hSameCode
  have hRespelled : ReflTransGen Respelling ⟨id, tenant, agent, policy, language, code⟩
      ⟨id', tenant', agent', policy', language, code⟩ :=
    (respellsNames language code).respelled hId hId' hNames hNames'
  have hLanguages : ReflTransGen Respelling ⟨id', tenant', agent', policy', language, code⟩
      ⟨id', tenant', agent', policy', language', code⟩ :=
    (languageRespelling_of_required hLanguage hLanguage').lift
      (JobForm.mk id' tenant' agent' policy' · code) fun _ _ h => Respelling.language h
  exact hRespelled.trans hLanguages

/-- The forms that are accepted as the draft of a form are the spellings of the form. -/
theorem respelled_iff (h : form.check = .ok draft) :
    ReflTransGen Respelling form form' ↔ form'.check = .ok draft := by
  constructor
  · intro hSpelled
    induction hSpelled with
    | refl => exact h
    | tail _ hStep ih => exact hStep.check_eq ih
  · exact respelled_of_check h

/-- The canonical spelling of a draft asks for the draft. -/
theorem check_form (h : form.check = .ok draft) : draft.form.check = .ok draft := by
  obtain ⟨hId, hNames, -, hCode⟩ := check_eq_ok_iff.1 h
  refine check_eq_ok_iff.2 ⟨callerId_idem hId, requiredPrincipal_idem hNames, ?_, ?_⟩
  · -- the canonical name of a language is one of its names
    refine requiredLanguage_eq_ok_iff.2 ⟨draft.language.name, rfl, ?_⟩
    rw [Language.asciiLower_trim_of_mem draft.language.name_mem]
    exact draft.language.name_mem
  · exact requiredCode_eq_ok_iff.2 ⟨rfl, (requiredCode_eq_ok_iff.1 hCode).2⟩

end JobForm

/-! ## Forms for sessions -/

namespace SessionForm

/-- One field of a form is respelled, and the others stay: the id or a name with other blanks around
it. -/
inductive Respelling : SessionForm → SessionForm → Prop
  | id {form : SessionForm} {v : Option String} (h : NameRespelling form.id v) :
      Respelling form { form with id := v }
  | tenantId {form : SessionForm} {v : Option String} (h : NameRespelling form.tenantId v) :
      Respelling form { form with tenantId := v }
  | agentId {form : SessionForm} {v : Option String} (h : NameRespelling form.agentId v) :
      Respelling form { form with agentId := v }
  | policyId {form : SessionForm} {v : Option String} (h : NameRespelling form.policyId v) :
      Respelling form { form with policyId := v }

variable {form form' : SessionForm} {draft : SessionDraft}

theorem respellsNames (ttl : Option Int64) :
    RespellsNames Respelling (SessionForm.mk · · · · ttl) where
  id _ _ _ _ _ h := Respelling.id h
  tenantId _ _ _ _ _ h := Respelling.tenantId h
  agentId _ _ _ _ _ h := Respelling.agentId h
  policyId _ _ _ _ _ h := Respelling.policyId h

/-- One respelling does not change what an accepted form is accepted as. -/
theorem Respelling.check_eq (h : Respelling form form') (hCheck : form.check = .ok draft) :
    form'.check = .ok draft := by
  rw [check_eq_ok_iff] at hCheck ⊢
  obtain ⟨hId, hNames, hTtl⟩ := hCheck
  cases h with
  | id h => exact ⟨callerId_congr h.map_trim ▸ hId, hNames, hTtl⟩
  | tenantId h => exact ⟨hId, requiredPrincipal_congr h.map_trim rfl rfl ▸ hNames, hTtl⟩
  | agentId h => exact ⟨hId, requiredPrincipal_congr rfl h.map_trim rfl ▸ hNames, hTtl⟩
  | policyId h => exact ⟨hId, requiredPrincipal_congr rfl rfl h.map_trim ▸ hNames, hTtl⟩

/-- An accepted lifetime is the one in the draft, since positive numbers are kept as they are. -/
theorem ttlSeconds_eq_some_of_check (h : form.check = .ok draft) :
    form.ttlSeconds = some draft.ttlSeconds.toInt64 := by
  obtain ⟨-, -, hTtl⟩ := check_eq_ok_iff.1 h
  obtain ⟨ttl, hSome, -, -, hUnsigned⟩ := requiredTtl_eq_ok_iff.1 hTtl
  rw [hSome, hUnsigned, Int64.toInt64_toUInt64]

/-- Two forms that are accepted as the same draft are spellings of each other. -/
theorem respelled_of_check (h : form.check = .ok draft) (h' : form'.check = .ok draft) :
    ReflTransGen Respelling form form' := by
  obtain ⟨hId, hNames, -⟩ := check_eq_ok_iff.1 h
  obtain ⟨hId', hNames', -⟩ := check_eq_ok_iff.1 h'
  have hSameTtl : form.ttlSeconds = form'.ttlSeconds :=
    (ttlSeconds_eq_some_of_check h).trans (ttlSeconds_eq_some_of_check h').symm
  obtain ⟨id, tenant, agent, policy, ttl⟩ := form
  obtain ⟨id', tenant', agent', policy', ttl'⟩ := form'
  obtain rfl : ttl = ttl' := hSameTtl
  exact (respellsNames ttl).respelled hId hId' hNames hNames'

/-- The forms that are accepted as the draft of a form are the spellings of the form. -/
theorem respelled_iff (h : form.check = .ok draft) :
    ReflTransGen Respelling form form' ↔ form'.check = .ok draft := by
  constructor
  · intro hSpelled
    induction hSpelled with
    | refl => exact h
    | tail _ hStep ih => exact hStep.check_eq ih
  · exact respelled_of_check h

/-- The canonical spelling of a draft asks for the draft. -/
theorem check_form (h : form.check = .ok draft) : draft.form.check = .ok draft := by
  obtain ⟨hId, hNames, hTtl⟩ := check_eq_ok_iff.1 h
  rw [ttlSeconds_eq_some_of_check h] at hTtl
  exact check_eq_ok_iff.2 ⟨callerId_idem hId, requiredPrincipal_idem hNames, hTtl⟩

end SessionForm

/-! ## One key for every spelling of an id -/

/-- A session that is live at the time of an operation is held after it. -/
theorem Registry.held_step {r : Registry} {id : String} {s : Session} {now : Instant}
    (hHeld : r.sessions.get? id = some s) (hLive : s.isLive now = true) (op : Registry.Op) :
    (r.step now op).2.sessions.get? id = some s := by
  cases op with
  | insert other =>
      rw [step_insert]
      split
      · exact hHeld
      · next hFree =>
          have hOther : id ≠ other.id := by
            rintro rfl
            exact hFree (by rw [hHeld]; exact hLive)
          exact (Table.get?_put _ _ _ _).trans ((if_neg hOther).trans hHeld)
  | get _ => exact hHeld
  | list => exact hHeld
  | sweep =>
      show (r.sessions.keep (·.isLive now)).get? id = some s
      rw [Table.get?_keep, hHeld, Option.filter_some, if_pos hLive]

/-- A session is held for as long as it is live, whatever operations come. -/
theorem Registry.held_run {r : Registry} {id : String} {s : Session}
    (hHeld : r.sessions.get? id = some s) {ops : List (Instant × Registry.Op)}
    (hLive : ∀ timed ∈ ops, s.isLive timed.1 = true) :
    (r.run ops).2.sessions.get? id = some s := by
  induction ops generalizing r with
  | nil => exact hHeld
  | cons timed ops ih =>
      obtain ⟨hNow, hLater⟩ := List.forall_mem_cons.1 hLive
      exact ih (held_step hHeld hNow timed.2) hLater

namespace Plane

variable {p p' : Plane} {now now' : Instant} {fresh fresh' s t : String}

/-- An accepted form that brings an id is accepted under what the id trims to. -/
theorem id_of_callerId {id : Option String} {chosen : Option String} (h : callerId id = .ok chosen)
    (hId : id = some s) : chosen = some (trim s) := by
  rw [← (callerId_eq_ok_iff.1 h).2, hId]
  rfl

/-- After a job is admitted, whatever the queue does, no other spelling of its id is admitted. -/
theorem job_collides {form form' : JobForm} {draft : JobDraft} {accepted : JobAccepted}
    (hAdmit : p.admitJob now fresh form = .ok (accepted, p')) (hs : form.id = some s)
    (ht : form'.id = some t) (hSame : SameButBlanks s t) (hCheck : form'.check = .ok draft)
    (ops : List Queue.Op) (sessions : Registry) :
    admitJob ⟨(p'.jobs.run ops).2, sessions⟩ now' fresh' form' =
      .error (.conflict (QueueError.duplicateId (trim s)).message) := by
  obtain ⟨job, hJob, -, hStored⟩ := admitJob_eq_ok hAdmit
  have hKey : job.id = trim s := by
    rw [hJob.id_eq, hs]
    rfl
  have hHeld : (p'.jobs.get? (trim s)).isSome := by
    rw [hStored.get?_eq, if_pos hKey.symm]
    rfl
  have hChosen : draft.id = some (trim s) := by
    rw [sameButBlanks_iff.1 hSame]
    exact id_of_callerId (JobForm.check_eq_ok_iff.1 hCheck).1 ht
  have hTaken : ((p'.jobs.run ops).2.get? (draft.id.getD fresh')).isSome := by
    rw [hChosen]
    exact Queue.isSome_get?_run hHeld ops
  rw [admitJob_of_taken hCheck hTaken, hChosen]
  rfl

/-- While an admitted session is live, whatever the registry does, no other spelling of its id is
admitted. -/
theorem session_collides {form form' : SessionForm} {created : SessionCreated}
    (hAdmit : p.admitSession now fresh form = .ok (created, p')) (hs : form.id = some s)
    (ht : form'.id = some t) (hSame : SameButBlanks s t) (hForm : form'.AcceptableAt now')
    {ops : List (Instant × Registry.Op)}
    (hLive : ∀ timed ∈ ops, (timed.1 : Timestamp) < created.expiresAt)
    (hLive' : (now' : Timestamp) < created.expiresAt) (jobs : Queue) :
    admitSession ⟨jobs, (p'.sessions.run ops).2⟩ now' fresh' form' =
      .error (.conflict (RegistryError.duplicateId (trim s)).message) := by
  obtain ⟨session, hSession, rfl, hStored⟩ := admitSession_eq_ok hAdmit
  have hKey : session.id = trim s := by
    rw [hSession.id_eq, hs]
    rfl
  have hHeld : p'.sessions.sessions.get? (trim s) = some session := by
    rw [hStored.entry_eq, if_pos hKey.symm]
  have hHeldLater := Registry.held_run hHeld fun timed h => decide_eq_true (hLive timed h)
  obtain ⟨draft, _, hCheck, hStamp⟩ := (SessionForm.acceptableAt_iff fresh').1 hForm
  have hChosen : draft.id = some (trim s) := by
    rw [sameButBlanks_iff.1 hSame]
    exact id_of_callerId (SessionForm.check_eq_ok_iff.1 hCheck).1 ht
  have hNow : session.isLive now' = true := decide_eq_true hLive'
  have hTaken : ((p'.sessions.run ops).2.get? (draft.id.getD fresh') now').isSome := by
    rw [hChosen, Option.getD_some, Registry.get?, hHeldLater, Option.filter_some, if_pos hNow]
    rfl
  rw [admitSession_of_taken hCheck hStamp hTaken, hChosen]
  rfl

end Plane

/-- **Checks are canonical.**  A form for a job that is accepted is accepted as a draft that keeps
its code; the canonical spelling of the draft is accepted as the same draft; and so are just those
forms that come from the accepted one by respelling a field any number of times.  The same holds of
forms for sessions.  So an id is one key in all its spellings: after an admission under one of them,
whatever happens in the store, an admission under another is refused, for a session as long as the
admitted one is live. -/
theorem checks_are_canonical :
    (∀ (form : JobForm) (draft : JobDraft), form.check = .ok draft →
      draft.form.check = .ok draft ∧ form.code = some draft.code ∧
        ∀ form', ReflTransGen JobForm.Respelling form form' ↔ form'.check = .ok draft) ∧
    (∀ (form : SessionForm) (draft : SessionDraft), form.check = .ok draft →
      draft.form.check = .ok draft ∧
        ∀ form', ReflTransGen SessionForm.Respelling form form' ↔ form'.check = .ok draft) ∧
    (∀ (p p' : Plane) (now now' : Instant) (fresh fresh' : String) (form form' : JobForm)
      (accepted : JobAccepted) (s t : String),
      p.admitJob now fresh form = .ok (accepted, p') → form.id = some s → form'.id = some t →
      SameButBlanks s t → form'.Acceptable →
      ∀ (ops : List Queue.Op) (sessions : Registry),
        Plane.admitJob ⟨(p'.jobs.run ops).2, sessions⟩ now' fresh' form' =
          .error (.conflict (QueueError.duplicateId (trim s)).message)) ∧
    (∀ (p p' : Plane) (now now' : Instant) (fresh fresh' : String) (form form' : SessionForm)
      (created : SessionCreated) (s t : String),
      p.admitSession now fresh form = .ok (created, p') → form.id = some s → form'.id = some t →
      SameButBlanks s t → form'.AcceptableAt now' → (now' : Timestamp) < created.expiresAt →
      ∀ (ops : List (Instant × Registry.Op)) (jobs : Queue),
        (∀ timed ∈ ops, (timed.1 : Timestamp) < created.expiresAt) →
        Plane.admitSession ⟨jobs, (p'.sessions.run ops).2⟩ now' fresh' form' =
          .error (.conflict (RegistryError.duplicateId (trim s)).message)) := by
  refine ⟨?_, ?_, ?_, ?_⟩
  · intro form draft h
    obtain ⟨-, -, -, hCode⟩ := JobForm.check_eq_ok_iff.1 h
    exact ⟨JobForm.check_form h, (requiredCode_eq_ok_iff.1 hCode).1, fun _ =>
      JobForm.respelled_iff h⟩
  · intro form draft h
    exact ⟨SessionForm.check_form h, fun _ => SessionForm.respelled_iff h⟩
  · intro p p' now now' fresh fresh' form form' accepted s t hAdmit hs ht hSame hForm ops sessions
    obtain ⟨draft, hCheck⟩ := JobForm.acceptable_iff.1 hForm
    exact Plane.job_collides hAdmit hs ht hSame hCheck ops sessions
  · intro p p' now now' fresh fresh' form form' created s t hAdmit hs ht hSame hForm hNow ops jobs
      hLive
    exact Plane.session_collides hAdmit hs ht hSame hForm hLive hNow jobs

/-- The id `job-7` between an ideographic space and a tab, and Python by two of its names: one
draft, so that after the job was admitted and claimed the other spelling is refused.  A session of
five seconds keeps its id for four seconds under another spelling. -/
theorem padded_python3_is_py :
    let form : JobForm :=
      ⟨some "\u3000job-7", some "acme\n", some "a", some " p ", some " Python3\t", some " 1 "⟩
    let form' : JobForm := ⟨some "job-7\t", some " acme", some "a", some "p", some "PY", some " 1 "⟩
    let draft : JobDraft := ⟨some "job-7", ⟨"acme", "a", "p"⟩, .python, " 1 "⟩
    let session : SessionForm := ⟨some " s", some "acme", some "a", some "p", some 5⟩
    let session' : SessionForm := ⟨some "s\u00a0", some "b", some "a", some "p", some 9⟩
    let later : Instant := ⟨4000000000, by decide, by decide⟩
    let expiry : Instant := ⟨5000000000, by decide, by decide⟩
    form.check = .ok draft ∧ draft.form.check = .ok draft ∧
      ReflTransGen JobForm.Respelling form form' ∧ form'.check = .ok draft ∧
      (∃ accepted p, Plane.empty.admitJob .epoch "f" form = .ok (accepted, p) ∧
        Plane.admitJob ⟨(p.jobs.run [.claimNext]).2, .empty⟩ later "f" form' =
          .error (.conflict "job id already used: job-7")) ∧
      ∃ p, Plane.empty.admitSession .epoch "f" session = .ok (⟨"s", expiry, .active⟩, p) ∧
        Plane.admitSession ⟨.empty, (p.sessions.run [(later, .sweep)]).2⟩ later "f" session' =
          .error (.conflict "session id already in use: s") := by
  intro form form' draft session session' later expiry
  obtain ⟨hJobs, -, hJobIds, hSessionIds⟩ := checks_are_canonical
  have hCheck : form.check = .ok draft := by decide +kernel
  have hCheck' : form'.check = .ok draft := by decide +kernel
  have hJobKey : trim "\u3000job-7" = "job-7" := by decide +kernel
  have hJobId : SameButBlanks "\u3000job-7" "job-7\t" :=
    sameButBlanks_iff.2 (hJobKey.trans (by decide +kernel))
  have hSessionKey : trim " s" = "s" := by decide +kernel
  have hSessionId : SameButBlanks " s" "s\u00a0" :=
    sameButBlanks_iff.2 (hSessionKey.trans (by decide +kernel))
  obtain ⟨hDraft, -, hSpellings⟩ := hJobs form draft hCheck
  refine ⟨hCheck, hDraft, (hSpellings form').2 hCheck', hCheck', ?_, ?_⟩
  · have hForm : form.Acceptable := JobForm.acceptable_iff.2 ⟨draft, hCheck⟩
    have hForm' : form'.Acceptable := JobForm.acceptable_iff.2 ⟨draft, hCheck'⟩
    have hAdmitted : ∃ result, Plane.empty.admitJob .epoch "f" form = .ok result :=
      (Plane.admitJob_succeeds_iff .epoch).2 ⟨hForm, rfl⟩
    obtain ⟨⟨accepted, p⟩, hAdmit⟩ := hAdmitted
    have hRefused := hJobIds _ _ _ later _ "f" _ form' _ _ _ hAdmit rfl rfl hJobId hForm'
      [.claimNext] .empty
    rw [hJobKey] at hRefused
    exact ⟨accepted, p, hAdmit, hRefused⟩
  · let held : Session := ⟨"s", ⟨"acme", "a", "p"⟩, 5, .ofInstant .epoch, expiry⟩
    let ends : Instant := ⟨13000000000, by decide, by decide⟩
    have hAdmit : Plane.empty.admitSession .epoch "f" session = .ok
        (⟨"s", expiry, .active⟩, ⟨.empty, ⟨Table.empty.put "s" held⟩⟩) := rfl
    have hForm' : session'.AcceptableAt later := (SessionForm.acceptableAt_iff "f").2
      ⟨⟨some "s", ⟨"b", "a", "p"⟩, 9⟩, ⟨"s", ⟨"b", "a", "p"⟩, 9, later, ends⟩, rfl, rfl⟩
    have hRefused := hSessionIds _ _ _ later _ "f" _ session' _ _ _ hAdmit rfl rfl hSessionId
      hForm' (by decide) [(later, .sweep)] .empty (by decide)
    rw [hSessionKey] at hRefused
    exact ⟨_, hAdmit, hRefused⟩

end Admission
