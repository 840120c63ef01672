import Admission.Proofs.Json.Spelling
import Admission.Wire.Request

/-!
# Spellings of requests

Every field of a create request may be absent, and those of more than one word go by a second name.
So requests are read alike in all their spellings, as objects and as arrays.

## Main results

* `requests_read_alike`: the spellings of requests for jobs and for sessions.
-/

namespace Admission

open Admission.Json Relation

/-- The keys of a request for a job, each with the field that it names. -/
def JobForm.keys : List (String × String) :=
  [("id", "id"), ("tenantId", "tenantId"), ("tenant_id", "tenantId"), ("agentId", "agentId"),
    ("agent_id", "agentId"), ("policyId", "policyId"), ("policy_id", "policyId"),
    ("language", "language"), ("code", "code")]

/-- The keys of a request for a session, each with the field that it names. -/
def SessionForm.keys : List (String × String) :=
  [("id", "id"), ("tenantId", "tenantId"), ("tenant_id", "tenantId"), ("agentId", "agentId"),
    ("agent_id", "agentId"), ("policyId", "policyId"), ("policy_id", "policyId"),
    ("ttlSeconds", "ttlSeconds"), ("ttl_seconds", "ttlSeconds")]

theorem JobForm.readNull : JobForm.record.fields.ReadNull :=
  ⟨⟨_, rfl, rfl⟩, ⟨_, rfl, rfl⟩, ⟨_, rfl, rfl⟩, ⟨_, rfl, rfl⟩, ⟨_, rfl, rfl⟩, ⟨_, rfl, rfl⟩,
    trivial⟩

theorem SessionForm.readNull : SessionForm.record.fields.ReadNull :=
  ⟨⟨_, rfl, rfl⟩, ⟨_, rfl, rfl⟩, ⟨_, rfl, rfl⟩, ⟨_, rfl, rfl⟩, ⟨_, rfl, rfl⟩, trivial⟩

/-- **Requests are read alike in all their spellings.**  The members of an object may come in any
order, each field under any of its names, an absent one as `null` or not at all, and between them
members that no field goes by, with any value that has no fault; or the values of the fields come as
an array, in the order of the record, up to the last that is not absent or further.  What is decoded
is the same request.  But a field that comes twice, under one name or two, is refused as such. -/
theorem requests_read_alike :
    JobForm.record.SpellingsAgree ∧ SessionForm.record.SpellingsAgree ∧
      (∀ key, JobForm.record.fields.nameOf? key = JobForm.keys.lookup key) ∧
      (∀ key, SessionForm.record.fields.nameOf? key = SessionForm.keys.lookup key) ∧
      ∀ v : Json, v.IsSound → v.isWhole = true :=
  ⟨Record.spellings_agree (by decide) JobForm.readNull,
    Record.spellings_agree (by decide) SessionForm.readNull,
    Fields.nameOf?_eq_lookup_keys _, Fields.nameOf?_eq_lookup_keys _, fun _ hv => hv.isWhole⟩

/-- A request of a tenant's agent for a job, with nothing else: in another order, with another name
for the agent, an id of `null`, and a member that no field goes by; as an array of its first three
values; and with the tenant a second time. -/
theorem reordered_request_reads_alike :
    let form : JobForm := ⟨none, some "t", some "a", none, none, none⟩
    let plain := "\x7b\"tenantId\":\"t\",\"agentId\":\"a\"\x7d"
    let respelled :=
      "\x7b\"x\":\x7b\"id\":1\x7d,\"agent_id\":\"a\",\"tenantId\":\"t\",\"id\":null\x7d"
    let array := "[null,\"t\",\"a\"]"
    let twice := "\x7b\"tenantId\":\"t\",\"agentId\":\"a\",\"tenant_id\":7\x7d"
    JobForm.codec.decodeText plain = .ok form ∧ JobForm.codec.decodeText respelled = .ok form ∧
      JobForm.codec.decodeText array = .ok form ∧
      JobForm.codec.decodeText twice = .error (.mismatch none (.duplicateField "tenantId")) := by
  intro form plain respelled array twice
  obtain ⟨⟨hRespelled, hArray, hDuplicate⟩, -, -, -, hWhole⟩ := requests_read_alike
  let agent := (ofText "agentId", ofText "a")
  let agent' := (ofText "agent_id", ofText "a")
  let tenant := (ofText "tenantId", ofText "t")
  let tenant' := (ofText "tenant_id", ofInt 7)
  let noId := (ofText "id", Json.null)
  let unknown := (ofText "x", Json.ofMembers [("id", ofInt 1)])
  have hUnknown : unknown.2.IsSound := isSound_ofMembers (by simp [isSound_ofInt])
  have hPlain : Json.ofSymbols (plain.toList.map some) = (.object [tenant, agent] true, []) := by
    have hSound : (Json.ofMembers [("tenantId", ofText "t"), ("agentId", ofText "a")]).IsSound :=
      isSound_ofMembers (by simp [isSound_ofText])
    exact hSound.ofSymbols_text (by decide +kernel)
  have hText : Json.ofSymbols (respelled.toList.map some) =
      (.object [unknown, agent', tenant, noId] true, []) := by
    have hSound : (Json.ofMembers [("x", unknown.2), ("agent_id", ofText "a"),
        ("tenantId", ofText "t"), ("id", .null)]).IsSound :=
      isSound_ofMembers (by simp [isSound_ofText, hUnknown, IsSound.null])
    exact hSound.ofSymbols_text (by decide +kernel)
  have hItems : Json.ofSymbols (array.toList.map some) =
      (.array [.null, ofText "t", ofText "a"] true, []) := by
    have hSound : (Json.array [.null, ofText "t", ofText "a"] true).IsSound :=
      .array (by simp [isSound_ofText, IsSound.null])
    exact hSound.ofSymbols_text (by decide +kernel)
  have hTwice : Json.ofSymbols (twice.toList.map some) =
      (.object [tenant, agent, tenant'] true, []) := by
    have hSound : (Json.ofMembers [("tenantId", ofText "t"), ("agentId", ofText "a"),
        ("tenant_id", ofInt 7)]).IsSound :=
      isSound_ofMembers (by simp [isSound_ofText, isSound_ofInt])
    exact hSound.ofSymbols_text (by decide +kernel)
  have hForm : JobForm.codec.decodeText plain = .ok form :=
    (JobForm.codec.decode_of_ofSymbols hPlain).trans rfl
  have hLacks : JobForm.record.fields.Lacks [tenant, agent'] "id" := Fields.lacks_iff.2 (by decide)
  have hRenamed : JobForm.record.fields.Respelling [tenant, agent] [tenant, agent'] :=
    .renamed [tenant] [] (ofText "a") rfl rfl
  have hNull : JobForm.record.fields.Respelling [tenant, agent'] [tenant, agent', noId] :=
    .nullAdded [tenant, agent'] [] rfl hLacks
  have hAdded : JobForm.record.fields.Respelling [tenant, agent', noId]
      [unknown, tenant, agent', noId] :=
    .unknownAdded [] [tenant, agent', noId] rfl (hWhole _ hUnknown)
  have hSwapped : JobForm.record.fields.Respelling [unknown, tenant, agent', noId]
      [unknown, agent', tenant, noId] := .permuted ((List.Perm.swap _ _ _).cons _)
  have hSteps := (((ReflTransGen.single hRenamed).tail hNull).tail hAdded).tail hSwapped
  refine ⟨hForm, hRespelled hPlain hText hSteps hForm, ?_, ?_⟩
  · exact hArray (k := 3) hPlain hItems rfl hForm
  · exact hDuplicate [] [agent] [] rfl rfl hTwice rfl

end Admission
