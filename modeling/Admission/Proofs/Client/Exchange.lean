import Admission.Proofs.Client.Answers
import Admission.Proofs.Client.Running
import Admission.Proofs.Client.Sending
import Admission.Proofs.Http.Endpoints
import Admission.Proofs.Wire

/-!
# Looking up an id from the command line

A command line that looks up an id comes to a message, the message to a request, the request to an
answer and the answer to what is printed.  This file goes through the steps for both commands at
once.  What is printed always was found by the service, under the id that the path of the request
stands for: no other answer is a success with a view of the right kind in it.

## Main results

* `run_get`: what a run of the client comes to, step by step.
* `answer_lookUp`: the answer at the path of a look-up.
* `path_of_success`: success is answered at the health check and at look-ups only.
* `exists_of_printed`: what is printed was found.
-/

namespace Admission.Client

open Admission.Cli Admission.Http Admission.Json Admission.Net Admission.Net.Url Admission.Text
  Admission.Time

namespace Collection

/-- The command that looks up an id. -/
def command : Collection → String
  | jobs => "get-job"
  | sessions => "get-session"

/-- What that command asks for. -/
def lookUp : Collection → String → Command
  | jobs => .getJob
  | sessions => .getSession

/-- What callers see of what has an id. -/
def View : Collection → Type
  | jobs => JobView
  | sessions => SessionView

/-- How it is written. -/
def codec : (k : Collection) → Codec k.View
  | jobs => JobView.codec
  | sessions => SessionView.codec

/-- What is found under an id. -/
def find : (k : Collection) → Plane → Instant → String → Except Refusal k.View
  | jobs, p, _, id => p.job id
  | sessions, p, now, id => p.session id now

variable (k : Collection)

theorem shown_lookUp (id : String) (reply : Reply) :
    (k.lookUp id).shown reply = reply.show? k.codec := by
  cases k <;> rfl

theorem isLawful_codec : k.codec.IsLawful := by
  cases k with
  | jobs => exact JobView.isLawful_codec
  | sessions => exact SessionView.isLawful_codec

/-- The views of one collection are not read as those of the other. -/
theorem eq_of_decodeBytes {k k' : Collection} {view : k.View} {view' : k'.View}
    (h : k.codec.decodeBytes (utf8 (k'.codec.encode view')) = .ok view) : k' = k := by
  match k, k', view, view', h with
  | .jobs, .jobs, _, _, _ => rfl
  | .sessions, .sessions, _, _, _ => rfl
  | .jobs, .sessions, view, view', h =>
      have hName := Record.indispensable_subset_names SessionView.isLawful_codec h "language"
        (by decide)
      exact absurd hName (by decide)
  | .sessions, .jobs, view, view', h =>
      have hName := Record.indispensable_subset_names JobView.isLawful_codec h "ttlSeconds"
        (by decide)
      exact absurd hName (by decide)

end Collection

variable {k : Collection} {id : String} {env : Environment} {config : Config} {now : Instant}
  {fresh : String} {p : Plane} {readFile : String → StateM Plane (Option (List UInt8))}

/-! ## The command line -/

theorem ofArg_id (id : String) : Word.ofArg ("--id=" ++ id) = .long "id" (some id) := by
  have hChars : ("--id=" ++ id).toList = '-' :: '-' :: 'i' :: 'd' :: '=' :: id.toList := by
    rw [String.toList_append]
    rfl
  have hWord : Word.ofChars ('-' :: '-' :: 'i' :: 'd' :: '=' :: id.toList) =
      .long (String.ofList ['i', 'd']) (some (String.ofList id.toList)) :=
    rfl
  rw [Word.ofArg, hChars, hWord, String.ofList_toList]

theorem read_id (id : String) :
    (Spec.mk [idParam.opt, helpOpt] []).read .start ["--id=" ++ id] =
      .ok (⟨[("id", id)], none⟩, []) := by
  rw [Spec.read.eq_2, ofArg_id]
  rfl

/-- A command line that looks up an id, whatever the id; address and token are from the
environment. -/
theorem ofArgs_get (k : Collection) (id : String) (env : Environment) :
    Invocation.ofArgs [k.command, "--id=" ++ id] env =
      .ok ⟨(env "CONTROL_PLANE_URL").getD defaultUrl, env "CONTROL_PLANE_TOKEN", k.lookUp id⟩ := by
  have hPlain : Word.ofArg k.command = .plain := by
    cases k <;> decide
  have hName : k.command ∈ spec.commands := by
    cases k <;> decide
  have hCommand : Command.ofArgs env [k.command, "--id=" ++ id] = .ok (some (k.lookUp id)) := by
    cases k with
    | jobs =>
        show ((CommandName.getJob.spec.read .start ["--id=" ++ id]) >>= _) = _
        rw [CommandName.spec, read_id]
        rfl
    | sessions =>
        show ((CommandName.getSession.spec.read .start ["--id=" ++ id]) >>= _) = _
        rw [CommandName.spec, read_id]
        rfl
  have hSettled : (Reading.mk [] none).settle = .ok [] := rfl
  have hValue : ∀ (name v : String),
      (Param.mk name (some v) .ok).value env [] = .ok (env v) := by
    intro name v
    rw [Param.value]
    cases h : env v with
    | none => simp [h]
    | some value => simp [h, Param.ofValue, Except.map, Except.mapError]
  rw [Invocation.ofArgs, Reading.start, Spec.read_cons_command _ _ _ hPlain hName, ok_bind]
  simp only [hCommand, hSettled, ok_bind]
  rw [urlParam, hValue, ok_bind, tokenParam, hValue]
  rfl

/-! ## A run of the client -/

/-- What a run of the client comes to that has been given a reply. -/
def outcomeOf (k : Collection) (reply : Reply) : Outcome :=
  match reply.show? k.codec with
  | .ok shown => .printed shown
  | .error f => .failed f

theorem outcomeOf_lookUp (k : Collection) (id : String) (reply : Reply) :
    (k.lookUp id).outcomeOf reply = outcomeOf k reply := by
  rw [Command.outcomeOf, k.shown_lookUp]
  rfl

/-- A run of the client that looks up an id: a message that may not be built, a request that may not
be sent, and the answer to it. -/
theorem run_get (k : Collection) (id : String) (env : Environment) :
    run readFile (deliver config now fresh) [k.command, "--id=" ++ id] env p =
      match Message.ofCall ((env "CONTROL_PLANE_URL").getD defaultUrl) (env "CONTROL_PLANE_TOKEN")
          (k.call id) with
      | .error f => (.failed f, p)
      | .ok message =>
          match message.request? with
          | none => (.failed (.unsent message.url.text), p)
          | some r =>
              (outcomeOf k (.ofResponse (answer config now fresh r p).1),
                (answer config now fresh r p).2) := by
  have hCall : (k.lookUp id).call readFile = pure (.ok (k.call id)) := by
    cases k <;> rfl
  rw [run_of_call (ofArgs_get k id env) hCall]
  cases Message.ofCall ((env "CONTROL_PLANE_URL").getD defaultUrl) (env "CONTROL_PLANE_TOKEN")
      (k.call id) with
  | error f => rfl
  | ok message =>
      cases hRequest : message.request? with
      | none => simp only [hRequest]
      | some r => simp only [hRequest, outcomeOf_lookUp]

/-! ## The message on this machine -/

/-- A message without a token is built if its address is the target of a request. -/
theorem ofCall_local (k : Collection) {port : Nat} (hPort : port < 0x10000) {base : String}
    (hBase : withoutSlashes base = localBase port) (id : String) :
    Message.ofCall base none (k.call id) =
      if (targetPath? (k.url port id).text).isNone then
        .error (.unbuildable (some (k.url port id).text))
      else .ok ⟨"GET", k.url port id, none, none⟩ := by
  have hHost : (k.url port id).hasHost = true := rfl
  have hUser : (k.url port id).withoutUser = k.url port id := withoutUser_localUrl _ _ _ _
  have hHttp : (k.url port id).isHttp = true := isHttp_localUrl _ _ _ _
  have hMethod : (k.call id).method = "GET" := by
    cases k <;> rfl
  have hBody : (k.call id).body = none := by
    cases k <;> rfl
  have hUrl : Url.ofText? (withoutSlashes base ++ (k.call id).path) = some (k.url port id) := by
    rw [hBase, ofText?_url k hPort]
  have hToken : IsCarried none := nofun
  rw [ofCall_eq hUrl hHost hToken, hUser, hHttp, hMethod, hBody]
  rfl

/-- A request for what is at a path. -/
def get (path : List UInt8) : Request := ⟨"GET", path, [], []⟩

theorem request?_get (url : Url) :
    (Message.mk "GET" url none none).request? =
      (targetPath? (String.ofList url.targetChars)).map get := by
  have hToken : isToken "GET" = true := by decide
  rw [Message.request?, Message.target, Request.ofParts?, if_pos hToken]
  cases targetPath? (String.ofList url.targetChars) with
  | none => rfl
  | some path => rfl

/-! ## The answer -/

theorem passGate_get (hOpen : config.authToken = none) (path : List UInt8) :
    passGate config.authToken (get path) = .ok () := by
  rw [hOpen]
  rfl

theorem method_get_ne_head (path : List UInt8) : (get path).method ≠ "HEAD" := by
  show "GET" ≠ "HEAD"
  decide

/-- The answer at the path of a look-up, where the gate stands open. -/
theorem answer_lookUp (k : Collection) (hOpen : config.authToken = none) {segment : List UInt8}
    (hSegment : IsSegment segment) :
    answer config now fresh (get (k.endpoint segment).path) p =
      ((Http.lookUp k.codec (k.find p now) segment).shown config, p) := by
  have hPath : Endpoint.ofPath? (get (k.endpoint segment).path).path = some (k.endpoint segment) :=
    Endpoint.ofPath?_path (k.addressable_endpoint hSegment)
  have hMethod : (k.endpoint segment).methods.contains "GET" = true := by
    cases k <;> exact List.contains_iff_mem.2 List.mem_cons_self
  have hServe : serve config now fresh (get (k.endpoint segment).path) p (k.endpoint segment) =
      (Http.lookUp k.codec (k.find p now) segment, p) := by
    cases k <;> rfl
  rw [answer_eq_serve (passGate_get hOpen _) hPath hMethod (method_get_ne_head _), hServe]

/-- Neither layer around the endpoints changes the status of an answer to `GET`. -/
theorem status_answer_get (path : List UInt8) :
    (answer config now fresh (get path) p).1.status =
      match Endpoint.ofPath? path with
      | none => 404
      | some e => (answerAt config now fresh (get path) p e).1.status := by
  have hOptions : (get path).method ≠ "OPTIONS" := by
    show "GET" ≠ "OPTIONS"
    decide
  have hRoute : (answer config now fresh (get path) p).1.status =
      (route config now fresh (get path) p).1.status := by
    simp only [answer, if_neg hOptions]
    split
    · exact status_expose _
    · rfl
  have hPath : (get path).path = path := rfl
  rw [hRoute, route, hPath]
  cases Endpoint.ofPath? path with
  | none => rfl
  | some e =>
      simp only [if_neg (method_get_ne_head path)]
      exact status_tellMethods _ _ _

/-- An endpoint that does not take `GET` says so. -/
theorem status_answerAt_get (hOpen : config.authToken = none) {e : Endpoint}
    (hMethod : e.methods.contains "GET" = false) (path : List UInt8) :
    (answerAt config now fresh (get path) p e).1.status = 405 := by
  have hNot : ¬ e.methods.contains (get path).method = true := by
    show ¬ e.methods.contains "GET" = true
    rw [hMethod]
    decide
  rw [answerAt, passGate_get hOpen, ite_self]
  simp only [if_neg hNot]
  rfl

/-- There is success at the health check and at look-ups only. -/
theorem path_of_success (hOpen : config.authToken = none) {path : List UInt8}
    (h : isSuccess (answer config now fresh (get path) p).1.status = true) :
    path = Endpoint.health.path ∨
      ∃ (k : Collection) (segment : List UInt8), IsSegment segment ∧
        path = (k.endpoint segment).path := by
  have hPosts : isSuccess 405 = false := by decide
  rw [status_answer_get] at h
  cases he : Endpoint.ofPath? path with
  | none =>
      rw [he] at h
      cases h
  | some e =>
      obtain ⟨hAddressable, hPath⟩ := Endpoint.eq_path_of_ofPath? he
      rw [he] at h
      cases e with
      | health => exact .inl hPath
      | job segment => exact .inr ⟨.jobs, segment, hAddressable, hPath⟩
      | session segment => exact .inr ⟨.sessions, segment, hAddressable, hPath⟩
      | jobs =>
          simp only [status_answerAt_get hOpen (e := .jobs) (by decide), hPosts] at h
          cases h
      | sessions =>
          simp only [status_answerAt_get hOpen (e := .sessions) (by decide), hPosts] at h
          cases h

/-- The answer to the health check is no value. -/
theorem body_answer_health (hOpen : config.authToken = none) :
    (answer config now fresh (get Endpoint.health.path) p).1.body = "ok" := by
  have hPath : Endpoint.ofPath? (get Endpoint.health.path).path = some .health :=
    Endpoint.ofPath?_path (e := .health) trivial
  have hMethod : Endpoint.health.methods.contains (get Endpoint.health.path).method = true := by
    show ["GET", "HEAD"].contains "GET" = true
    decide
  rw [answer_eq_serve (passGate_get hOpen _) hPath hMethod (method_get_ne_head _), body_shown]
  rfl

/-- A look-up succeeds only where something is found. -/
theorem exists_of_lookUp_success {α : Type} {c : Codec α} {find : String → Except Refusal α}
    {segment : List UInt8} (h : isSuccess (Http.lookUp c find segment).status = true) :
    ∃ id a, segmentId? segment = some id ∧ find id = .ok a ∧
      (Http.lookUp c find segment).body = c.encode a := by
  cases hId : segmentId? segment with
  | none =>
      rw [Http.lookUp, hId] at h
      cases h
  | some id =>
      cases hFind : find id with
      | error refusal =>
          have hStatus := refusal.le_status
          rw [Http.lookUp, hId] at h
          simp only [hFind] at h
          rw [respond, status_refuse, isSuccess, Bool.and_eq_true, decide_eq_true_iff,
            decide_eq_true_iff] at h
          omega
      | ok a =>
          refine ⟨id, a, rfl, hFind, ?_⟩
          rw [Http.lookUp, hId]
          simp only [hFind]
          rfl

/-! ## What is printed -/

/-- What is found is printed. -/
theorem outcomeOf_found (k : Collection) (view : k.View) :
    outcomeOf k (.ofResponse ((respond 200 k.codec (.ok view)).shown config)) =
      .printed (k.codec.encodePretty view ++ "\n") := by
  have hRead : Reply.read k.codec (.ofResponse ((respond 200 k.codec (.ok view)).shown config)) =
      .ok view :=
    read_json k.isLawful_codec rfl view
  rw [outcomeOf, Reply.show?, hRead]
  rfl

/-- Only a reply of success that holds a view is printed. -/
theorem outcomeOf_eq_printed {reply : Reply} {shown : String}
    (h : outcomeOf k reply = .printed shown) :
    isSuccess reply.status = true ∧
      ∃ view, k.codec.decodeBytes reply.body = .ok view ∧
        shown = k.codec.encodePretty view ++ "\n" := by
  rw [outcomeOf, Reply.show?, Reply.read] at h
  by_cases hSuccess : isSuccess reply.status = true
  · rw [if_pos hSuccess] at h
    cases hView : k.codec.decodeBytes reply.body with
    | error fault =>
        rw [hView] at h
        cases h
    | ok view =>
        rw [hView] at h
        cases h
        exact ⟨hSuccess, view, rfl, rfl⟩
  · rw [if_neg hSuccess] at h
    cases h

/-- What is printed was found under the id that the path of the request stands for. -/
theorem exists_of_printed (k : Collection) (hOpen : config.authToken = none) {path : List UInt8}
    {shown : String}
    (h : outcomeOf k (.ofResponse (answer config now fresh (get path) p).1) = .printed shown) :
    ∃ segment id view, IsSegment segment ∧ path = (k.endpoint segment).path ∧
      segmentId? segment = some id ∧ k.find p now id = .ok view ∧
      shown = k.codec.encodePretty view ++ "\n" := by
  obtain ⟨hSuccess, view, hView, hShown⟩ := outcomeOf_eq_printed h
  rw [Reply.ofResponse] at hSuccess hView
  rcases path_of_success hOpen hSuccess with rfl | ⟨k', segment, hSegment, rfl⟩
  · have hNoView : (k.codec.decodeBytes (utf8 "ok")).isOk = false := by
      cases k <;> decide +kernel
    simp only [body_answer_health hOpen] at hView
    rw [hView] at hNoView
    cases hNoView
  · simp only [answer_lookUp k' hOpen hSegment, status_shown] at hSuccess
    simp only [answer_lookUp k' hOpen hSegment, body_shown] at hView
    obtain ⟨id, view', hId, hFind, hBody⟩ := exists_of_lookUp_success hSuccess
    rw [hBody] at hView
    obtain rfl := Collection.eq_of_decodeBytes hView
    rw [k'.isLawful_codec.decodeBytes_encode] at hView
    obtain rfl := Except.ok.inj hView
    exact ⟨segment, id, view', hSegment, rfl, hId, hFind, hShown⟩

end Admission.Client
