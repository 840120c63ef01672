import Admission.Json.Record
import Admission.Service.Refusal

/-!
# Answers as JSON

Every field of an answer must be there, save the field that an error is about.
-/

namespace Admission

open Admission.Json

/-- Languages by their canonical names. -/
def Language.codec : Codec Language := .enumeration Language.all Language.name

/-- Job statuses by their names. -/
def JobStatus.codec : Codec JobStatus := .enumeration JobStatus.all JobStatus.name

/-- Session statuses by their names. -/
def SessionStatus.codec : Codec SessionStatus := .enumeration SessionStatus.all SessionStatus.name

/-- Error codes by their names. -/
def ErrorCode.codec : Codec ErrorCode := .enumeration ErrorCode.all ErrorCode.name

/-- The fields of a job. -/
def Job.record : Record Job where
  name := "Job"
  fields :=
    .cons (.required "id" .text) <|
    .cons (.required "tenantId" .text) <|
    .cons (.required "agentId" .text) <|
    .cons (.required "policyId" .text) <|
    .cons (.required "language" Language.codec) <|
    .cons (.required "code" .text) <|
    .cons (.required "status" JobStatus.codec) <|
    .cons (.required "createdAt" .timestamp) .nil
  pack := fun (id, tenantId, agentId, policyId, language, code, status, createdAt, ()) =>
    ⟨id, ⟨tenantId, agentId, policyId⟩, language, code, status, createdAt⟩
  unpack := fun j => (j.id, j.principal.tenantId, j.principal.agentId, j.principal.policyId,
    j.language, j.code, j.status, j.createdAt, ())

/-- Jobs as JSON. -/
def Job.codec : Codec Job := Job.record.codec

/-- The fields of what callers see of a job. -/
def JobView.record : Record JobView where
  name := "JobView"
  fields :=
    .cons (.required "id" .text) <|
    .cons (.required "tenantId" .text) <|
    .cons (.required "agentId" .text) <|
    .cons (.required "policyId" .text) <|
    .cons (.required "language" Language.codec) <|
    .cons (.required "status" JobStatus.codec) <|
    .cons (.required "createdAt" .timestamp) .nil
  pack := fun (id, tenantId, agentId, policyId, language, status, createdAt, ()) =>
    ⟨id, ⟨tenantId, agentId, policyId⟩, language, status, createdAt⟩
  unpack := fun j => (j.id, j.principal.tenantId, j.principal.agentId, j.principal.policyId,
    j.language, j.status, j.createdAt, ())

/-- What callers see of jobs, as JSON. -/
def JobView.codec : Codec JobView := JobView.record.codec

/-- The fields of the answer to an admitted job. -/
def JobAccepted.record : Record JobAccepted where
  name := "JobAccepted"
  fields :=
    .cons (.required "id" .text) <|
    .cons (.required "status" JobStatus.codec) .nil
  pack := fun (id, status, ()) => ⟨id, status⟩
  unpack := fun a => (a.id, a.status, ())

/-- Answers to admitted jobs as JSON. -/
def JobAccepted.codec : Codec JobAccepted := JobAccepted.record.codec

/-- The fields of a session. -/
def Session.record : Record Session where
  name := "Session"
  fields :=
    .cons (.required "id" .text) <|
    .cons (.required "tenantId" .text) <|
    .cons (.required "agentId" .text) <|
    .cons (.required "policyId" .text) <|
    .cons (.required "ttlSeconds" .unsigned) <|
    .cons (.required "createdAt" .timestamp) <|
    .cons (.required "expiresAt" .timestamp) .nil
  pack := fun (id, tenantId, agentId, policyId, ttlSeconds, createdAt, expiresAt, ()) =>
    ⟨id, ⟨tenantId, agentId, policyId⟩, ttlSeconds, createdAt, expiresAt⟩
  unpack := fun s => (s.id, s.principal.tenantId, s.principal.agentId, s.principal.policyId,
    s.ttlSeconds, s.createdAt, s.expiresAt, ())

/-- Sessions as JSON. -/
def Session.codec : Codec Session := Session.record.codec

/-- The fields of what callers see of a session. -/
def SessionView.record : Record SessionView where
  name := "SessionView"
  fields :=
    .cons (.required "id" .text) <|
    .cons (.required "tenantId" .text) <|
    .cons (.required "agentId" .text) <|
    .cons (.required "policyId" .text) <|
    .cons (.required "ttlSeconds" .unsigned) <|
    .cons (.required "createdAt" .timestamp) <|
    .cons (.required "expiresAt" .timestamp) <|
    .cons (.required "status" SessionStatus.codec) .nil
  pack := fun (id, tenantId, agentId, policyId, ttlSeconds, createdAt, expiresAt, status, ()) =>
    ⟨id, ⟨tenantId, agentId, policyId⟩, ttlSeconds, createdAt, expiresAt, status⟩
  unpack := fun s => (s.id, s.principal.tenantId, s.principal.agentId, s.principal.policyId,
    s.ttlSeconds, s.createdAt, s.expiresAt, s.status, ())

/-- What callers see of sessions, as JSON. -/
def SessionView.codec : Codec SessionView := SessionView.record.codec

/-- The fields of the answer to an admitted session. -/
def SessionCreated.record : Record SessionCreated where
  name := "SessionCreated"
  fields :=
    .cons (.required "id" .text) <|
    .cons (.required "expiresAt" .timestamp) <|
    .cons (.required "status" SessionStatus.codec) .nil
  pack := fun (id, expiresAt, status, ()) => ⟨id, expiresAt, status⟩
  unpack := fun s => (s.id, s.expiresAt, s.status, ())

/-- Answers to admitted sessions as JSON. -/
def SessionCreated.codec : Codec SessionCreated := SessionCreated.record.codec

/-- The fields of the body of an answer that refuses. -/
def ErrorBody.record : Record ErrorBody where
  name := "ErrorBody"
  fields :=
    .cons (.required "error" ErrorCode.codec) <|
    .cons (.required "message" .text) <|
    .cons (.omissible "field" .text) .nil
  pack := fun (error, message, field, ()) => ⟨error, message, field⟩
  unpack := fun b => (b.error, b.message, b.field, ())

/-- Bodies of answers that refuse, as JSON. -/
def ErrorBody.codec : Codec ErrorBody := ErrorBody.record.codec

end Admission
