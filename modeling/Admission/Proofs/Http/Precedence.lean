import Admission.Proofs.Http.Endpoints
import Admission.Proofs.Service.Refusing

/-!
# Which fault is told

A post goes through a row of stages: the gate, the media type, the length and the decoding of the
body, the fields in the order of the wire, for a session the end of its lifetime, and the id.  A
request can fail many of them at once, and is told of the first.

Each stage is described on its own: when it fails, whatever the others say, what it looks at, and
what callers are told if it is the first that fails.  The row of checks that answers a post is then
shown to be the row of stages.

## Main results

* `answer_of_refusal`, `accepts_of_none`: an answer is the first refusal in the row of stages, or
  tells what was admitted.
* `first_fault_decides`: the first stage that fails decides what is told, and no later stage has a
  part in it.
-/

namespace Admission

open Admission.Http Admission.Json Admission.Text Admission.Time

/-- What callers are told of a refusal: the status, the error code, and the field at fault. -/
structure Verdict where
  status : Nat
  code : ErrorCode
  field : Option String
  deriving DecidableEq, Repr

/-- What callers are told of a refusal. -/
def Refusal.verdict (refusal : Refusal) : Verdict := ⟨refusal.status, refusal.code, refusal.field?⟩

namespace Http

/-! ## Stages -/

/-- A stage that a post goes through. -/
inductive Stage where
  | gate
  | mediaType
  | length
  | decoding
  | field (name : FieldName)
  | calendar
  | identity
  deriving DecidableEq, Repr

/-- What callers are told if the stage is the first that fails.  That an id is taken is their fault
only if they chose it. -/
def Stage.verdict (chosen : Bool) : Stage → Verdict
  | .gate => ⟨401, .unauthorized, none⟩
  | .mediaType => ⟨400, .invalidInput, none⟩
  | .length => ⟨413, .invalidInput, none⟩
  | .decoding => ⟨400, .invalidInput, none⟩
  | .field name => ⟨400, .invalidInput, some name.text⟩
  | .calendar => ⟨400, .invalidInput, some "ttlSeconds"⟩
  | .identity =>
    if chosen then ⟨409, .conflict, none⟩ else ⟨500, .internal, none⟩

/-- All that an answer may depend on. -/
structure Situation where
  config : Config
  now : Instant
  fresh : String
  request : Request
  plane : Plane

/-- The answer to the request, and the stores after it. -/
def Situation.answer (s : Situation) : Response × Plane :=
  Http.answer s.config s.now s.fresh s.request s.plane

/-- What is asked for by a post. -/
inductive Kind where
  | job
  | session
  deriving DecidableEq, Repr

namespace Kind

/-- Where it is posted to. -/
def path : Kind → String
  | .job => "/jobs"
  | .session => "/sessions"

/-- The stages that a form goes through, in order. -/
def formStages : Kind → List Stage
  | .job => [.field .id, .field .tenantId, .field .agentId, .field .policyId,
      .field .language, .field .code, .identity]
  | .session => [.field .id, .field .tenantId, .field .agentId,
      .field .policyId, .field .ttlSeconds, .calendar, .identity]

/-- The stages in order. -/
def stages (k : Kind) : List Stage := [.gate, .mediaType, .length, .decoding] ++ k.formStages

/-- The forms that are posted. -/
def Form : Kind → Type
  | .job => JobForm
  | .session => SessionForm

/-- Forms as JSON. -/
def codec : (k : Kind) → Codec k.Form
  | .job => JobForm.codec
  | .session => SessionForm.codec

/-- The form in the body, if there is one. -/
def form? (k : Kind) (s : Situation) : Option k.Form :=
  (k.codec.decodeBytes s.request.body).toOption

/-- A field at fault, whatever the others hold. -/
def Faulty : (k : Kind) → k.Form → FieldName → Prop
  | .job => JobForm.Faulty
  | .session => SessionForm.Faulty

/-- The id that a form chooses, without the blanks around it. -/
def chosen? : (k : Kind) → k.Form → Option String
  | .job, form => (JobForm.id form).map trim
  | .session, form => (SessionForm.id form).map trim

/-- The lifetime that a form asks for. -/
def seconds? : (k : Kind) → k.Form → Option Int
  | .job, _ => none
  | .session, form => (SessionForm.ttlSeconds form).map Int64.toInt

/-- Whether an id is taken: by a job in any state, or by a live session. -/
def isTaken : Kind → Plane → Instant → String → Bool
  | .job, p, _, id => (p.jobs.get? id).isSome
  | .session, p, now, id => (p.sessions.get? id now).isSome

/-- Whether a stage fails, whatever the others say. -/
def Fails (k : Kind) (s : Situation) : Stage → Prop
  | .gate => passGate s.config.authToken s.request ≠ .ok ()
  | .mediaType => hasJsonBody s.request = false
  | .length => s.config.maxBodyBytes < s.request.body.length
  | .decoding => k.form? s = none
  | .field name => ∃ form, k.form? s = some form ∧ k.Faulty form name
  | .calendar => ∃ form seconds, k.form? s = some form ∧
      k.seconds? form = some seconds ∧
      lastNs < s.now.ns + seconds * nsPerSecond
  | .identity => ∃ form, k.form? s = some form ∧
      k.isTaken s.plane s.now ((k.chosen? form).getD s.fresh) = true

/-- A stage that no earlier one ends. -/
def Reaches (k : Kind) (s : Situation) (stage : Stage) : Prop :=
  ∃ before after, k.stages = before ++ stage :: after ∧ ∀ earlier ∈ before, ¬k.Fails s earlier

/-- Whether the form in the body chooses an id. -/
def choosesId (k : Kind) (s : Situation) : Bool := ((k.form? s).bind k.chosen?).isSome

/-- What is told of a post that no stage faults: the id, for a session also the end of its lifetime,
and that the job is pending or the session active. -/
def Accepts : Kind → Situation → Response → Prop
  | .job, s, response => ∃ form, form? .job s = some form ∧
      response = (Response.json 202 JobAccepted.codec
        ⟨(chosen? .job form).getD s.fresh, .pending⟩).shown s.config
  | .session, s, response => ∃ form seconds, ∃ expiry : Instant,
      form? .session s = some form ∧ seconds? .session form = some seconds ∧
      expiry.ns = s.now.ns + seconds * nsPerSecond ∧
      response = (Response.json 201 SessionCreated.codec
        ⟨(chosen? .session form).getD s.fresh, expiry, .active⟩).shown s.config

/-- A post to the place for it. -/
structure Receives (k : Kind) (r : Request) : Prop where
  method_eq : r.method = "POST"
  path_eq : r.path = utf8 k.path

/-! ## What a stage looks at -/

/-- Two forms have the same in a field. -/
def SameField : (k : Kind) → FieldName → k.Form → k.Form → Prop
  | .job, name => fun (form form' : JobForm) =>
    match name with
    | .id => form.id = form'.id
    | .tenantId => form.tenantId = form'.tenantId
    | .agentId => form.agentId = form'.agentId
    | .policyId => form.policyId = form'.policyId
    | .language => form.language = form'.language
    | .code => form.code = form'.code
    | .ttlSeconds => True
  | .session, name => fun (form form' : SessionForm) =>
    match name with
    | .id => form.id = form'.id
    | .tenantId => form.tenantId = form'.tenantId
    | .agentId => form.agentId = form'.agentId
    | .policyId => form.policyId = form'.policyId
    | .ttlSeconds => form.ttlSeconds = form'.ttlSeconds
    | .language => True
    | .code => True

/-- Neither body has a form, or both do and have the same in a field. -/
def SameInBody (k : Kind) (s s' : Situation) (name : FieldName) : Prop :=
  (k.form? s = none ∧ k.form? s' = none) ∨
    ∃ form form', k.form? s = some form ∧ k.form? s' = some form' ∧ k.SameField name form form'

/-- Two situations look the same to a stage.  The decoding sees no difference between bodies that
both have a form.  Without one the whole body counts, since the reader of JSON tells callers where
in it the fault is, which is left out here. -/
def SameTo (k : Kind) (s s' : Situation) : Stage → Prop
  | .gate => s.config.authToken = s'.config.authToken ∧
      s.request.header? "authorization" = s'.request.header? "authorization"
  | .mediaType =>
    s.request.header? "content-type" = s'.request.header? "content-type"
  | .length => k.Fails s .length ↔ k.Fails s' .length
  | .decoding => s.request.body = s'.request.body ∨ (k.form? s).isSome ∧ (k.form? s').isSome
  | .field name => k.SameInBody s s' name
  | .calendar => s.now = s'.now ∧ k.SameInBody s s' .ttlSeconds
  | .identity => s.fresh = s'.fresh ∧ k.SameInBody s s' .id ∧
      (k.Fails s .identity ↔ k.Fails s' .identity)

/-! ## What a stage refuses for -/

/-- What a body that does not say that it is JSON is refused for. -/
def notJson : Refusal := .form
  (.malformedBody "Expected request with `Content-Type: application/json`")

/-- What a body that is too long is refused for. -/
def tooLong : Refusal := .tooLarge "Failed to buffer the request body: length limit exceeded"

/-- What a field is refused for. -/
def fault? : (k : Kind) → k.Form → FieldName → Option FormError
  | .job => JobForm.fault?
  | .session => SessionForm.fault?

/-- What a lifetime is refused for that ends past the calendar. -/
def calendarFault? : (k : Kind) → k.Form → Instant → Option FormError
  | .job => fun _ _ => none
  | .session => SessionForm.calendarFault?

/-- What a taken id is refused for. -/
def taken : Kind → Option String → String → Refusal
  | .job => Plane.jobTaken
  | .session => Plane.sessionTaken

/-- What a stage refuses for, if it fails. -/
def refusal? (k : Kind) (s : Situation) : Stage → Option Refusal
  | .gate => (cause? (passGate s.config.authToken s.request)).map fun reason =>
      .unauthorized reason.reason
  | .mediaType => if hasJsonBody s.request then none else some notJson
  | .length =>
    if s.config.maxBodyBytes < s.request.body.length then some tooLong else none
  | .decoding =>
    (cause? (k.codec.decodeBytes s.request.body)).map bodyRefusal
  | .field name => (k.form? s).bind fun form => (k.fault? form name).map .form
  | .calendar => (k.form? s).bind fun form =>
      (k.calendarFault? form s.now).map .form
  | .identity => (k.form? s).bind fun form =>
      if k.isTaken s.plane s.now ((k.chosen? form).getD s.fresh) then
        some (k.taken (k.chosen? form) s.fresh)
      else none

variable {k : Kind} {s s' : Situation}

theorem form?_eq_some_iff {form : k.Form} :
    k.form? s = some form ↔ k.codec.decodeBytes s.request.body = .ok form := by
  rw [form?]
  cases k.codec.decodeBytes s.request.body <;> simp [Except.toOption]

theorem fault?_isSome_iff {form : k.Form} {name : FieldName} :
    (k.fault? form name).isSome ↔ k.Faulty form name := by
  cases k with
  | job => exact JobForm.fault?_isSome_iff
  | session => exact SessionForm.fault?_isSome_iff

theorem calendarFault?_isSome_iff {form : k.Form} {now : Instant} :
    (k.calendarFault? form now).isSome ↔
      ∃ seconds, k.seconds? form = some seconds ∧ lastNs < now.ns + seconds * nsPerSecond := by
  cases k with
  | job => simp [calendarFault?, seconds?]
  | session =>
      simp only [calendarFault?, SessionForm.calendarFault?, seconds?]
      cases SessionForm.ttlSeconds form with
      | none => simp
      | some ttl => simp

/-- A stage refuses exactly if it fails. -/
theorem refusal?_isSome_iff {stage : Stage} :
    (k.refusal? s stage).isSome ↔ k.Fails s stage := by
  cases stage with
  | gate =>
      rw [refusal?, Option.isSome_map, cause?_isSome_iff, not_exists]
      constructor
      · intro hRefused
        exact hRefused ()
      · intro hRefused _
        exact hRefused
  | mediaType => cases h : hasJsonBody s.request <;> simp [refusal?, Fails, h]
  | length =>
      rw [refusal?, Fails]
      split <;> simp [*]
  | decoding =>
      rw [refusal?, Option.isSome_map, cause?_isSome_iff, Fails,
        Option.eq_none_iff_forall_ne_some, not_exists]
      simp only [ne_eq, form?_eq_some_iff]
  | field name =>
      rw [refusal?, Fails]
      cases k.form? s with
      | none => simp
      | some form => simp [fault?_isSome_iff]
  | calendar =>
      rw [refusal?, Fails]
      cases k.form? s with
      | none => simp
      | some form => simp [calendarFault?_isSome_iff]
  | identity =>
      rw [refusal?, Fails]
      cases k.form? s with
      | none => simp
      | some form =>
          rw [Option.bind_some]
          split <;> simp_all

/-- A refusal tells callers what its stage has to tell. -/
theorem verdict_of_refusal? {stage : Stage} {refusal : Refusal}
    (h : k.refusal? s stage = some refusal) :
    refusal.verdict = stage.verdict (k.choosesId s) := by
  cases stage with
  | gate =>
      obtain ⟨reason, _, rfl⟩ := Option.map_eq_some_iff.1 h
      rfl
  | mediaType =>
      rw [refusal?] at h
      split at h <;> cases h
      rfl
  | length =>
      rw [refusal?] at h
      split at h <;> cases h
      rfl
  | decoding =>
      obtain ⟨fault, _, rfl⟩ := Option.map_eq_some_iff.1 h
      cases fault <;> rfl
  | field name =>
      obtain ⟨form, _, hMap⟩ := Option.bind_eq_some_iff.1 h
      obtain ⟨e, hFault, rfl⟩ := Option.map_eq_some_iff.1 hMap
      have hField : e.field? = some name.text := by
        cases k with
        | job => exact JobForm.field?_of_fault? hFault
        | session => exact SessionForm.field?_of_fault? hFault
      show Verdict.mk 400 .invalidInput e.field? = _
      rw [hField]
      rfl
  | calendar =>
      obtain ⟨form, _, hMap⟩ := Option.bind_eq_some_iff.1 h
      obtain ⟨e, hFault, rfl⟩ := Option.map_eq_some_iff.1 hMap
      have hField : e.field? = some "ttlSeconds" := by
        cases k with
        | job => cases hFault
        | session =>
            obtain ⟨ttl, _, hEnds⟩ := Option.bind_eq_some_iff.1 hFault
            split at hEnds <;> cases hEnds
            rfl
      show Verdict.mk 400 .invalidInput e.field? = _
      rw [hField]
      rfl
  | identity =>
      obtain ⟨form, hForm, hTaken⟩ := Option.bind_eq_some_iff.1 h
      have hChooses : k.choosesId s = (k.chosen? form).isSome := by
        rw [choosesId, hForm, Option.bind_some]
      split at hTaken <;> cases hTaken
      rw [hChooses]
      cases k <;> cases chosen? _ form <;> rfl

/-! ## What looks the same is refused alike -/

theorem fault?_congr {name : FieldName} {form form' : k.Form} (h : k.SameField name form form') :
    k.fault? form name = k.fault? form' name := by
  cases k <;> cases name <;> simp_all [SameField, fault?, JobForm.fault?, SessionForm.fault?]

theorem chosen?_congr {form form' : k.Form} (h : k.SameField .id form form') :
    k.chosen? form = k.chosen? form' := by
  cases k <;> simp_all [SameField, chosen?]

theorem seconds?_congr {form form' : k.Form} (h : k.SameField .ttlSeconds form form') :
    k.seconds? form = k.seconds? form' := by
  cases k <;> simp_all [SameField, seconds?]

theorem calendarFault?_congr {form form' : k.Form} {now : Instant}
    (h : k.SameField .ttlSeconds form form') :
    k.calendarFault? form now = k.calendarFault? form' now := by
  cases k <;> simp_all [SameField, calendarFault?, SessionForm.calendarFault?]

/-- A stage that looks at two situations and sees the same refuses alike. -/
theorem refusal?_congr {stage : Stage} (h : k.SameTo s s' stage) :
    k.refusal? s stage = k.refusal? s' stage := by
  cases stage with
  | gate =>
      obtain ⟨hToken, hHeader⟩ := h
      have hGate : passGate s.config.authToken s.request =
          passGate s'.config.authToken s'.request := by
        unfold passGate
        rw [hToken, hHeader]
      rw [refusal?, refusal?, hGate]
  | mediaType =>
      have hHeader : s.request.header? "content-type" = s'.request.header? "content-type" := h
      rw [refusal?, refusal?, hasJsonBody, hasJsonBody, hHeader]
  | length =>
      have hLength : k.Fails s .length ↔ k.Fails s' .length := h
      simp only [Fails] at hLength
      simp only [refusal?, hLength]
  | decoding =>
      rcases h with hBody | ⟨hForm, hForm'⟩
      · rw [refusal?, refusal?, hBody]
      · obtain ⟨form, hForm⟩ := Option.isSome_iff_exists.1 hForm
        obtain ⟨form', hForm'⟩ := Option.isSome_iff_exists.1 hForm'
        rw [refusal?, refusal?, form?_eq_some_iff.1 hForm, form?_eq_some_iff.1 hForm']
        rfl
  | field name =>
      rw [refusal?, refusal?]
      rcases h with ⟨hNone, hNone'⟩ | ⟨form, form', hForm, hForm', hField⟩
      · rw [hNone, hNone']
      · rw [hForm, hForm', Option.bind_some, Option.bind_some, fault?_congr hField]
  | calendar =>
      obtain ⟨hNow, hBody⟩ := h
      rw [refusal?, refusal?, hNow]
      rcases hBody with ⟨hNone, hNone'⟩ | ⟨form, form', hForm, hForm', hField⟩
      · rw [hNone, hNone']
      · rw [hForm, hForm', Option.bind_some, Option.bind_some, calendarFault?_congr hField]
  | identity =>
      obtain ⟨hFresh, hBody, hFails⟩ := h
      rw [refusal?, refusal?]
      rcases hBody with ⟨hNone, hNone'⟩ | ⟨form, form', hForm, hForm', hField⟩
      · rw [hNone, hNone', Option.bind_none, Option.bind_none]
      · have hTaken :
            k.isTaken s.plane s.now ((k.chosen? form).getD s.fresh) =
              k.isTaken s'.plane s'.now ((k.chosen? form').getD s'.fresh) := by
          rw [Bool.eq_iff_iff]
          simpa [Fails, hForm, hForm'] using hFails
        rw [hForm, hForm', Option.bind_some, Option.bind_some, hTaken, chosen?_congr hField, hFresh]

/-! ## The answer is the row of stages -/

section Answers

variable {config : Config} {r : Request} {p : Plane} {α φ : Type}

theorem respondWith_of_cause? {status : Nat} {c : Codec α}
    {change : Except Refusal (α × Plane)} {refusal : Refusal} (h : cause? change = some refusal) :
    respondWith status c p change = (.refuse refusal, p) := by
  rw [cause?_eq_some_iff.1 h]
  rfl

/-- A body is read in three stages, and what is read is admitted in the rest. -/
theorem cause?_readBody_bind {maxBytes : Nat} {c : Codec φ}
    {accept : φ → Except Refusal α} {rest : Option Refusal}
    (h : ∀ form, c.decodeBytes r.body = .ok form → cause? (accept form) = rest) :
    cause? (readBody maxBytes c r >>= accept) =
      (if hasJsonBody r then none else some notJson).or
        ((if maxBytes < r.body.length then some tooLong else none).or
          (((cause? (c.decodeBytes r.body)).map bodyRefusal).or rest)) := by
  unfold readBody
  cases hasJsonBody r with
  | false => rfl
  | true =>
      by_cases hLong : maxBytes < r.body.length
      · simp only [hLong, if_true]
        rfl
      · simp only [hLong, if_false]
        cases hDecode : c.decodeBytes r.body with
        | error fault => rfl
        | ok form => exact h form hDecode

end Answers

theorem cause?_admitJob_eq {form : JobForm} (h : form? .job s = some form) :
    cause? (s.plane.admitJob s.now s.fresh form) =
      (formStages .job).findSome? (refusal? .job s) := by
  have hField : ∀ name, refusal? .job s (.field name) =
      (form.fault? name).map .form := by
    intro name
    rw [refusal?, h]
    rfl
  have hIdentity : refusal? .job s .identity =
      if (s.plane.jobs.get? ((form.id.map trim).getD s.fresh)).isSome then
        some (Plane.jobTaken (form.id.map trim) s.fresh)
      else none := by
    rw [refusal?, h]
    rfl
  rw [Plane.cause?_admitJob, JobForm.cause?_check]
  simp only [formStages, JobForm.fields, findSome?_cons_or, List.findSome?_nil,
    hField, hIdentity, Option.map_or, Option.or_none, Option.or_assoc]

theorem cause?_admitSession_eq {form : SessionForm} (h : form? .session s = some form) :
    cause? (s.plane.admitSession s.now s.fresh form) =
      (formStages .session).findSome? (refusal? .session s) := by
  have hField : ∀ name, refusal? .session s (.field name) =
      (form.fault? name).map .form := by
    intro name
    rw [refusal?, h]
    rfl
  have hCalendar : refusal? .session s .calendar =
      (form.calendarFault? s.now).map .form := by
    rw [refusal?, h]
    rfl
  have hIdentity : refusal? .session s .identity =
      if (s.plane.sessions.get? ((form.id.map trim).getD s.fresh) s.now).isSome
      then some (Plane.sessionTaken (form.id.map trim) s.fresh)
      else none := by
    rw [refusal?, h]
    rfl
  rw [Plane.cause?_admitSession, SessionForm.cause?_check]
  simp only [formStages, SessionForm.fields, findSome?_cons_or,
    List.findSome?_nil, hField, hCalendar, hIdentity, Option.map_or,
    Option.or_none, Option.or_assoc]

/-- Past the gate, a post is refused for what the first stage refuses for. -/
theorem cause?_change {α : Type} {accept : k.Form → Except Refusal α}
    (hGate : passGate s.config.authToken s.request = .ok ())
    (hAccept : ∀ form, k.form? s = some form →
      cause? (accept form) = k.formStages.findSome? (k.refusal? s)) :
    cause? (readBody s.config.maxBodyBytes k.codec s.request >>= accept) =
      k.stages.findSome? (k.refusal? s) := by
  have hOpen : k.refusal? s .gate = none := by
    rw [refusal?, hGate]
    rfl
  have hRest : ∀ form, k.codec.decodeBytes s.request.body = .ok form →
      cause? (accept form) = k.formStages.findSome? (k.refusal? s) :=
    fun form hForm => hAccept form (form?_eq_some_iff.2 hForm)
  rw [cause?_readBody_bind hRest]
  simp only [stages, List.cons_append, List.nil_append, findSome?_cons_or, hOpen, Option.none_or]
  rfl

/-- The change that a post for a job asks for. -/
def jobChange (s : Situation) : Except Refusal (JobAccepted × Plane) :=
  readBody s.config.maxBodyBytes (codec .job) s.request >>= s.plane.admitJob s.now s.fresh

/-- The change that a post for a session asks for. -/
def sessionChange (s : Situation) : Except Refusal (SessionCreated × Plane) :=
  readBody s.config.maxBodyBytes (codec .session) s.request >>= s.plane.admitSession s.now s.fresh

theorem answer_job (hPost : Receives .job s.request)
    (hGate : passGate s.config.authToken s.request = .ok ()) :
    s.answer =
      ((respondWith 202 JobAccepted.codec s.plane (jobChange s)).1.shown
          s.config, (respondWith 202 JobAccepted.codec s.plane (jobChange s)).2) :=
  answer_eq_createJob hPost.method_eq hPost.path_eq hGate

theorem answer_session (hPost : Receives .session s.request)
    (hGate : passGate s.config.authToken s.request = .ok ()) :
    s.answer =
      ((respondWith 201 SessionCreated.codec s.plane
          (sessionChange s)).1.shown s.config,
        (respondWith 201 SessionCreated.codec s.plane (sessionChange s)).2) :=
  answer_eq_createSession hPost.method_eq hPost.path_eq hGate

theorem answer_gate {reason : GateError} (hPost : k.Receives s.request)
    (hGate : passGate s.config.authToken s.request = .error reason) :
    s.answer = ((Response.refuse (.unauthorized reason.reason)).shown s.config, s.plane) := by
  obtain ⟨hMethod, hPath⟩ := hPost
  cases k with
  | job =>
      have hEndpoint : Endpoint.ofPath? s.request.path = some .jobs := by
        rw [hPath]
        exact Endpoint.ofPath?_path (e := .jobs) trivial
      exact answer_of_passGate hGate rfl hEndpoint (by rw [hMethod]; decide)
        (by rw [hMethod]; decide)
  | session =>
      have hEndpoint : Endpoint.ofPath? s.request.path = some .sessions := by
        rw [hPath]
        exact Endpoint.ofPath?_path (e := .sessions) trivial
      exact answer_of_passGate hGate rfl hEndpoint (by rw [hMethod]; decide)
        (by rw [hMethod]; decide)

/-- The answer is the first refusal in the row of stages. -/
theorem answer_of_refusal (hPost : k.Receives s.request) {refusal : Refusal}
    (h : k.stages.findSome? (k.refusal? s) = some refusal) :
    s.answer = ((Response.refuse refusal).shown s.config, s.plane) := by
  cases hGate : passGate s.config.authToken s.request with
  | error reason =>
      have hFirst : k.refusal? s .gate =
          some (.unauthorized reason.reason) := by
        rw [refusal?, hGate]
        rfl
      rw [stages, List.cons_append, findSome?_cons_or, hFirst, Option.some_or] at h
      cases h
      exact answer_gate hPost hGate
  | ok u =>
      cases k with
      | job =>
          have hCause : cause? (jobChange s) = some refusal :=
            (cause?_change hGate fun _ => cause?_admitJob_eq).trans h
          rw [answer_job hPost hGate, respondWith_of_cause? hCause]
      | session =>
          have hCause : cause? (sessionChange s) = some refusal :=
            (cause?_change hGate fun _ => cause?_admitSession_eq).trans h
          rw [answer_session hPost hGate, respondWith_of_cause? hCause]

/-- Where no stage refuses, the answer tells what was admitted. -/
theorem accepts_of_none (hPost : k.Receives s.request)
    (h : k.stages.findSome? (k.refusal? s) = none) :
    k.Accepts s s.answer.1 := by
  have hGate : passGate s.config.authToken s.request = .ok () := by
    have hOpen : k.refusal? s .gate = none :=
      List.findSome?_eq_none_iff.1 h .gate (List.mem_append_left _ (by simp))
    rw [refusal?, Option.map_eq_none_iff, cause?_eq_none_iff] at hOpen
    exact hOpen.choose_spec
  cases k with
  | job =>
      have hCause : cause? (jobChange s) = none :=
        (cause?_change hGate fun _ => cause?_admitJob_eq).trans h
      obtain ⟨⟨accepted, p'⟩, hChange⟩ := cause?_eq_none_iff.1 hCause
      obtain ⟨form, hRead, hAdmit⟩ := bind_eq_ok_iff.1 hChange
      obtain ⟨_, _, hForm⟩ := readBody_eq_ok_iff.1 hRead
      obtain ⟨job, hJob, rfl, _⟩ := Plane.admitJob_eq_ok hAdmit
      refine ⟨form, form?_eq_some_iff.2 hForm, ?_⟩
      rw [answer_job hPost hGate, hChange]
      show (Response.json 202 JobAccepted.codec ⟨job.id, .pending⟩).shown _ = _
      rw [hJob.id_eq]
      rfl
  | session =>
      have hCause : cause? (sessionChange s) = none :=
        (cause?_change hGate fun _ => cause?_admitSession_eq).trans h
      obtain ⟨⟨created, p'⟩, hChange⟩ := cause?_eq_none_iff.1 hCause
      obtain ⟨form, hRead, hAdmit⟩ := bind_eq_ok_iff.1 hChange
      obtain ⟨_, _, hForm⟩ := readBody_eq_ok_iff.1 hRead
      obtain ⟨session, hSession, rfl, _⟩ := Plane.admitSession_eq_ok hAdmit
      obtain ⟨ttl, hTtl, hSeconds⟩ := hSession.ttl_eq
      obtain ⟨expiry, hExpiry, hSum⟩ := hSession.expiresAt_eq
      refine ⟨form, ttl.toInt, expiry, form?_eq_some_iff.2 hForm,
        congrArg (·.map Int64.toInt) hTtl, by rw [hSum, hSeconds], ?_⟩
      rw [answer_session hPost hGate, hChange]
      show (Response.json 201 SessionCreated.codec
        ⟨session.id, session.expiresAt, .active⟩).shown _ = _
      rw [hSession.id_eq, hExpiry]
      rfl

/-! ## The first stage that fails -/

theorem not_fails_iff {stage : Stage} :
    ¬k.Fails s stage ↔ k.refusal? s stage = none := by
  rw [← refusal?_isSome_iff, Option.not_isSome_iff_eq_none]

/-- The stage that fails first gives the first refusal. -/
theorem findSome?_of_reaches {stage : Stage} (hReaches : k.Reaches s stage)
    {refusal : Refusal} (hRefusal : k.refusal? s stage = some refusal) :
    k.stages.findSome? (k.refusal? s) = some refusal := by
  obtain ⟨before, after, hStages, hEarlier⟩ := hReaches
  exact List.findSome?_eq_some_iff.2 ⟨before, stage, after, hStages, hRefusal,
    fun earlier hMem => not_fails_iff.1 (hEarlier earlier hMem)⟩

/-- A stage before one that is reached is reached. -/
theorem reaches_of_mem {before after : List Stage} {stage : Stage}
    (hStages : k.stages = before ++ after) (hEarlier : ∀ earlier ∈ before, ¬k.Fails s earlier)
    (hMem : stage ∈ before) : k.Reaches s stage := by
  obtain ⟨front, back, rfl⟩ := List.append_of_mem hMem
  refine ⟨front, back ++ after, by simp [hStages], fun earlier hFront => ?_⟩
  exact hEarlier earlier (List.mem_append_left _ hFront)

theorem SameInBody.sameField {name : FieldName} {form form' : k.Form}
    (h : k.SameInBody s s' name) (hForm : k.form? s = some form)
    (hForm' : k.form? s' = some form') : k.SameField name form form' := by
  rcases h with ⟨hNone, _⟩ | ⟨_, _, hSome, hSome', hField⟩
  · rw [hForm] at hNone
    cases hNone
  · cases hForm.symm.trans hSome
    cases hForm'.symm.trans hSome'
    exact hField

/-- What was admitted is told alike. -/
theorem accepts_congr {response response' : Response}
    (hCors : s.config.corsPermissive = s'.config.corsPermissive)
    (hSame : ∀ stage ∈ k.stages, k.SameTo s s' stage)
    (h : k.Accepts s response) (h' : k.Accepts s' response') :
    response = response' := by
  have hIdentity : .identity ∈ k.stages := by cases k <;> decide
  obtain ⟨hFresh, hId, _⟩ := hSame .identity hIdentity
  cases k with
  | job =>
      obtain ⟨form, hForm, rfl⟩ := h
      obtain ⟨form', hForm', rfl⟩ := h'
      rw [chosen?_congr (hId.sameField hForm hForm'), hFresh]
      exact shown_congr _ hCors
  | session =>
      obtain ⟨hNow, hTtl⟩ := hSame .calendar (by decide)
      obtain ⟨form, seconds, expiry, hForm, hSeconds, hSum, rfl⟩ := h
      obtain ⟨form', seconds', expiry', hForm', hSeconds', hSum', rfl⟩ := h'
      rw [seconds?_congr (hTtl.sameField hForm hForm'), hSeconds'] at hSeconds
      cases hSeconds
      have hExpiry : expiry = expiry' := Instant.ext_ns (by rw [hSum, hSum', hNow])
      rw [chosen?_congr (hId.sameField hForm hForm'), hFresh, hExpiry]
      exact shown_congr _ hCors

/-- **Precedence.**  Take any configuration, clock, stores, headers and body, and a post for a job
or for a session.  The first stage that fails decides what callers are told, and the stores are left
as they are; a post that no stage faults is told of as admitted.  No later stage has a part in it:
another post is answered alike if every stage that the first one reaches sees the same in both. -/
theorem first_fault_decides (k : Kind) (s : Situation) (hPost : k.Receives s.request) :
    (∀ stage, k.Reaches s stage → k.Fails s stage →
        ∃ refusal : Refusal, refusal.verdict = stage.verdict (k.choosesId s) ∧
          s.answer = ((Response.refuse refusal).shown s.config, s.plane)) ∧
      ((∀ stage ∈ k.stages, ¬k.Fails s stage) → k.Accepts s s.answer.1) ∧
      ∀ s' : Situation, k.Receives s'.request →
        s.config.corsPermissive = s'.config.corsPermissive →
        (∀ stage, k.Reaches s stage → k.SameTo s s' stage) →
        s.answer.1 = s'.answer.1 := by
  refine ⟨?_, ?_, ?_⟩
  · intro stage hReaches hFails
    obtain ⟨refusal, hRefusal⟩ := Option.isSome_iff_exists.1 (refusal?_isSome_iff.2 hFails)
    exact ⟨refusal, verdict_of_refusal? hRefusal,
      answer_of_refusal hPost (findSome?_of_reaches hReaches hRefusal)⟩
  · intro hNone
    apply accepts_of_none hPost
    exact List.findSome?_eq_none_iff.2 fun stage hMem =>
      not_fails_iff.1 (hNone stage hMem)
  · intro s' hPost' hCors hSame
    cases hFirst : k.stages.findSome? (k.refusal? s) with
    | some refusal =>
        obtain ⟨before, stage, after, hStages, hRefusal, hNone⟩ :=
          List.findSome?_eq_some_iff.1 hFirst
        have hEarlier : ∀ earlier ∈ before, ¬k.Fails s earlier :=
          fun earlier hMem => not_fails_iff.2 (hNone earlier hMem)
        have hStage := hSame stage ⟨before, after, hStages, hEarlier⟩
        have hFirst' : k.stages.findSome? (k.refusal? s') = some refusal := by
          refine List.findSome?_eq_some_iff.2 ⟨before, stage, after, hStages,
            by rw [← refusal?_congr hStage, hRefusal], ?_⟩
          intro earlier hMem
          have hSeen := hSame earlier (reaches_of_mem hStages hEarlier hMem)
          rw [← refusal?_congr hSeen, hNone earlier hMem]
        rw [answer_of_refusal hPost hFirst, answer_of_refusal hPost' hFirst']
        exact shown_congr _ hCors
    | none =>
        have hNone := List.findSome?_eq_none_iff.1 hFirst
        have hAll : ∀ stage ∈ k.stages, k.SameTo s s' stage := fun stage hMem =>
          hSame stage (reaches_of_mem (List.append_nil k.stages).symm
            (fun earlier hEarlier => not_fails_iff.2 (hNone earlier hEarlier))
            hMem)
        have hFirst' : k.stages.findSome? (k.refusal? s') = none := by
          refine List.findSome?_eq_none_iff.2 fun stage hMem => ?_
          rw [← refusal?_congr (hAll stage hMem), hNone stage hMem]
        exact accepts_congr hCors hAll (accepts_of_none hPost hFirst)
          (accepts_of_none hPost' hFirst')

/-- A body that is one byte too long is told of before it is found to be no JSON, and is answered
like any other of its length. -/
theorem too_long_before_undecodable :
    let config := { Config.default with maxBodyBytes := 3 }
    let request : Request := ⟨"POST", utf8 "/jobs",
      [⟨"content-type", utf8 "application/json"⟩], utf8 "none"⟩
    let s : Situation := ⟨config, .epoch, "x", request, .empty⟩
    let s' : Situation :=
      { s with fresh := "y", request := { request with body := utf8 "null" } }
    Receives .job request ∧ Reaches .job s .length ∧ Fails .job s .length ∧
      Fails .job s .decoding ∧ s.answer.1.status = 413 ∧
      s.answer.1 = s'.answer.1 := by
  intro config request s s'
  have hPost : Receives .job request := ⟨rfl, rfl⟩
  have hReaches : Reaches .job s .length := by
    refine ⟨[.gate, .mediaType], _, rfl, ?_⟩
    intro earlier hMem
    simp only [List.mem_cons, List.not_mem_nil, or_false] at hMem
    rcases hMem with rfl | rfl
    · exact fun hFails => hFails rfl
    · show ¬hasJsonBody request = false
      decide
  have hFails : Fails .job s .length := by
    show 3 < request.body.length
    decide
  have hDecoding : Fails .job s .decoding := by
    apply Option.isNone_iff_eq_none.1
    decide +kernel
  obtain ⟨hFirst, _, hSame⟩ := first_fault_decides .job s hPost
  refine ⟨hPost, hReaches, hFails, hDecoding, ?_, ?_⟩
  · obtain ⟨refusal, hVerdict, hAnswer⟩ := hFirst .length hReaches hFails
    rw [hAnswer, status_shown]
    exact congrArg Verdict.status hVerdict
  · refine hSame s' ⟨rfl, rfl⟩ rfl fun stage hStage => ?_
    -- no stage past the length is reached
    obtain ⟨before, after, hStages, hEarlier⟩ := hStage
    have hLength : .length ∉ before := fun hMem =>
      hEarlier .length hMem hFails
    match before with
    | [] =>
        cases hStages
        exact ⟨rfl, rfl⟩
    | [_] =>
        cases hStages
        rfl
    | [_, _] =>
        cases hStages
        exact Iff.rfl
    | _ :: _ :: _ :: _ =>
        simp only [stages, List.cons_append, List.cons.injEq] at hStages
        obtain ⟨_, _, rfl, _⟩ := hStages
        simp at hLength

end Kind

end Http

end Admission
