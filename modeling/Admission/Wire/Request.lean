import Admission.Form.Job
import Admission.Form.Session
import Admission.Json.Record

/-!
# Requests as JSON

The fields of create requests may all be missing.  Those of more than one word have a second name,
in lower case with underscores.  A missing id is left out in writing, every other missing field is
written as `null`.
-/

namespace Admission

open Admission.Json

/-- The fields of a request for a job. -/
def JobForm.record : Record JobForm where
  name := "JobCreateRequest"
  fields :=
    .cons (.omissible "id" .text) <|
    .cons (.nullable "tenantId" ["tenant_id"] .text) <|
    .cons (.nullable "agentId" ["agent_id"] .text) <|
    .cons (.nullable "policyId" ["policy_id"] .text) <|
    .cons (.nullable "language" [] .text) <|
    .cons (.nullable "code" [] .text) .nil
  pack := fun (id, tenantId, agentId, policyId, language, code, ()) =>
    ⟨id, tenantId, agentId, policyId, language, code⟩
  unpack := fun r => (r.id, r.tenantId, r.agentId, r.policyId, r.language, r.code, ())

/-- Requests for jobs as JSON. -/
def JobForm.codec : Codec JobForm := JobForm.record.codec

/-- The fields of a request for a session. -/
def SessionForm.record : Record SessionForm where
  name := "SessionCreateRequest"
  fields :=
    .cons (.omissible "id" .text) <|
    .cons (.nullable "tenantId" ["tenant_id"] .text) <|
    .cons (.nullable "agentId" ["agent_id"] .text) <|
    .cons (.nullable "policyId" ["policy_id"] .text) <|
    .cons (.nullable "ttlSeconds" ["ttl_seconds"] .signed) .nil
  pack := fun (id, tenantId, agentId, policyId, ttlSeconds, ()) =>
    ⟨id, tenantId, agentId, policyId, ttlSeconds⟩
  unpack := fun r => (r.id, r.tenantId, r.agentId, r.policyId, r.ttlSeconds, ())

/-- Requests for sessions as JSON. -/
def SessionForm.codec : Codec SessionForm := SessionForm.record.codec

end Admission
