import Admission.Proofs.Client.Answers
import Admission.Proofs.Client.Running
import Admission.Proofs.Client.Sending
import Admission.Proofs.Http.Precedence

/-!
# Submissions from the command line

A command line that submits a job or a session comes to a form, the form to the body of a request,
and the body to a form again, which is the one that was sent.  So what the control plane answers,
and what it stores, is what it would have for that form without a network in between; and the client
ends well exactly if the form was admitted, and then prints what it was told.

Both kinds of submission go the same way.  What differs is the form, what is told of an admission,
and its status, and all that belongs to the kind.

## Main results

* `Kind.answers_of_readBody`: past the body, a post is answered as its form is admitted.
* `submission_is_carried_out`: from the command line to what is printed.
-/

namespace Admission

open Admission.Cli Admission.Http Admission.Json Admission.Net Admission.Net.Url Admission.Text
  Admission.Time

/-! ## Kinds of submissions -/

namespace Http.Kind

/-- What is told of an admission. -/
def Receipt : Kind → Type
  | .job => JobAccepted
  | .session => SessionCreated

/-- How it is written. -/
def receiptCodec : (k : Kind) → Codec k.Receipt
  | .job => JobAccepted.codec
  | .session => SessionCreated.codec

/-- The status that it comes with. -/
def admittedStatus : Kind → Nat
  | .job => 202
  | .session => 201

/-- The admission of what a form asks for. -/
def admission : (k : Kind) → Plane → Instant → String → k.Form → Except Refusal (k.Receipt × Plane)
  | .job => Plane.admitJob
  | .session => Plane.admitSession

/-- The call that submits a form. -/
def call : (k : Kind) → k.Form → Client.Call
  | .job => .admitJob
  | .session => .admitSession

variable (k : Kind)

theorem isLawful_codec : k.codec.IsLawful := by
  cases k with
  | job => exact JobForm.isLawful_codec
  | session => exact SessionForm.isLawful_codec

theorem isLawful_receiptCodec : k.receiptCodec.IsLawful := by
  cases k with
  | job => exact JobAccepted.isLawful_codec
  | session => exact SessionCreated.isLawful_codec

theorem isSuccess_admittedStatus : isSuccess k.admittedStatus = true := by
  cases k <;> rfl

theorem call_eq (form : k.Form) : k.call form = ⟨"POST", k.path, some (k.codec.encode form)⟩ := by
  cases k <;> rfl

variable {k} {config : Config} {now : Instant} {fresh : String} {r : Request} {p : Plane}

/-- The answer to an admission, and the stores after it. -/
def Answers (k : Kind) (config : Config) (p : Plane) (result : Response × Plane) :
    Except Refusal (k.Receipt × Plane) → Prop
  | .ok (receipt, p') =>
    result = ((Response.json k.admittedStatus k.receiptCodec receipt).shown config, p')
  | .error refusal => result = ((Response.refuse refusal).shown config, p)

theorem answers_respondWith (result : Except Refusal (k.Receipt × Plane)) :
    k.Answers config p ((respondWith k.admittedStatus k.receiptCodec p result).1.shown config,
      (respondWith k.admittedStatus k.receiptCodec p result).2) result := by
  cases result with
  | error refusal => rfl
  | ok admitted => rfl

/-- A post whose body is read is answered as its form is admitted. -/
theorem answers_of_readBody {form : k.Form} (hPost : k.Receives r)
    (hGate : passGate config.authToken r = .ok ())
    (hRead : readBody config.maxBodyBytes k.codec r = .ok form) :
    k.Answers config p (answer config now fresh r p) (k.admission p now fresh form) := by
  have hAnswer : answer config now fresh r p =
      ((respondWith k.admittedStatus k.receiptCodec p (k.admission p now fresh form)).1.shown config,
        (respondWith k.admittedStatus k.receiptCodec p (k.admission p now fresh form)).2) := by
    cases k with
    | job =>
        rw [answer_eq_createJob hPost.method_eq hPost.path_eq hGate, createJob_of_readBody hRead]
        rfl
    | session =>
        rw [answer_eq_createSession hPost.method_eq hPost.path_eq hGate,
          createSession_of_readBody hRead]
        rfl
  rw [hAnswer]
  exact answers_respondWith _

end Http.Kind

namespace Client

/-! ## Commands that submit -/

/-- The code of a job is at hand: it stands in the command line, or is the text in a file. -/
inductive Source.Holds (files : String → Option (List UInt8)) : Source → String → Prop
  | inline (code : String) : Holds files (.inline code) code
  | file {path code : String} (h : files path = some (utf8 code)) : Holds files (.file path) code

/-- The form that a command is to submit: each of its values as it was given, none of them left
out. -/
inductive Command.Submits (files : String → Option (List UInt8)) :
    Command → (k : Kind) → k.Form → Prop
  | job {id : Option String} {principal : Principal} {language code : String} {source : Source}
      (h : source.Holds files code) :
      Submits files (.submitJob id principal language source) .job
        (⟨id, some principal.tenantId, some principal.agentId, some principal.policyId,
          some language, some code⟩ : JobForm)
  | session {id : Option String} {principal : Principal} {ttlSeconds : Int64} :
      Submits files (.createSession id principal ttlSeconds) .session
        (⟨id, some principal.tenantId, some principal.agentId, some principal.policyId,
          some ttlSeconds⟩ : SessionForm)

/-- The request that arrives of a command line, with files at hand. -/
def Invocation.request? (files : String → Option (List UInt8)) (i : Invocation) :
    Option Request := do
  let call ← (Id.run (i.command.call fun path => pure (files path))).toOption
  let message ← (Message.ofCall i.base i.token call).toOption
  message.request?

variable {files : String → Option (List UInt8)} {k : Kind} {form : k.Form} {command : Command}

/-- The code at hand is what is read, whatever reads it. -/
theorem Source.Holds.load {m : Type → Type} [Monad m] [LawfulMonad m] {source : Source}
    {code : String} (h : source.Holds files code) :
    source.load (fun path => (pure (files path) : m (Option (List UInt8)))) = pure (.ok code) := by
  cases h with
  | inline code => rfl
  | file hFile => simp only [Source.load, hFile, pure_bind, Option.bind_some, text?_utf8]

/-- A command that is to submit a form comes to the call that does. -/
theorem Command.Submits.call_eq {m : Type → Type} [Monad m] [LawfulMonad m]
    (h : command.Submits files k form) :
    command.call (fun path => (pure (files path) : m (Option (List UInt8)))) =
      pure (.ok (k.call form)) := by
  cases h with
  | job hSource =>
      rw [Command.call, hSource.load, pure_bind]
      rfl
  | session => rfl

theorem Command.Submits.shown_eq (h : command.Submits files k form) (reply : Reply) :
    command.shown reply = reply.show? k.receiptCodec := by
  cases h <;> rfl

/-- The address of a service on this machine leads to where forms are posted. -/
theorem leadsTo_path {base : String} {port : Nat} (hPort : port < 0x10000)
    (hBase : withoutSlashes base = localBase port) (k : Kind) : LeadsTo base k.path := by
  cases k with
  | job =>
      have hSegments : readSegments true (pathPart "jobs".toList) = ["jobs".toList] := by decide
      exact leadsTo_local hPort hBase hSegments (by decide) (by decide)
  | session =>
      have hSegments : readSegments true (pathPart "sessions".toList) = ["sessions".toList] := by
        decide
      exact leadsTo_local hPort hBase hSegments (by decide) (by decide)

/-! ## What comes of a submission -/

/-- A request, its answer and what the client comes to are what a form asks for. -/
structure CarriesOut (config : Config) (now : Instant) (fresh : String) (k : Kind) (form : k.Form)
    (p : Plane) (r : Request) (outcome : Outcome) (p' : Plane) : Prop where
  /-- The form that is read from the request is the one that was to be submitted. -/
  read_eq : readBody config.maxBodyBytes k.codec r = .ok form
  /-- The answer and the stores are those of its admission. -/
  answers : k.Answers config p (answer config now fresh r p) (k.admission p now fresh form)
  stores_eq : p' = (answer config now fresh r p).2
  /-- The client ends well exactly if it was admitted. -/
  exitCode_iff : outcome.exitCode = 0 ↔ (answer config now fresh r p).1.status = k.admittedStatus
  /-- Then it prints what it was told. -/
  printed : outcome.exitCode = 0 → ∃ text receipt, outcome = .printed text ∧
    k.receiptCodec.decodeText text = .ok receipt ∧
    k.receiptCodec.decodeText (answer config now fresh r p).1.body = .ok receipt

variable {config : Config} {now : Instant} {fresh : String} {p : Plane} {r : Request}

/-- What the client comes to that is given the answer to its request. -/
theorem carriesOut_of_readBody (hSubmits : command.Submits files k form) (hPost : k.Receives r)
    (hGate : passGate config.authToken r = .ok ())
    (hRead : readBody config.maxBodyBytes k.codec r = .ok form) :
    CarriesOut config now fresh k form p r
      (command.outcomeOf (.ofResponse (answer config now fresh r p).1))
      (answer config now fresh r p).2 := by
  have hAnswers : k.Answers config p (answer config now fresh r p) (k.admission p now fresh form) :=
    Kind.answers_of_readBody hPost hGate hRead
  cases hAdmitted : k.admission p now fresh form with
  | error refusal =>
      have hAnswer : answer config now fresh r p = ((Response.refuse refusal).shown config, p) := by
        rwa [hAdmitted] at hAnswers
      have hFailed : command.outcomeOf (.ofResponse (answer config now fresh r p).1) =
          .failed (.refused refusal.status refusal.body) := by
        rw [Command.outcomeOf, hSubmits.shown_eq, hAnswer, Reply.show?, read_refuse]
        rfl
      have hStatus : refusal.status ≠ k.admittedStatus := by
        have hLe := refusal.le_status
        cases k <;> simp only [Kind.admittedStatus] <;> omega
      refine ⟨hRead, hAnswers, rfl, ?_, ?_⟩
      · rw [hFailed, hAnswer, status_shown, status_refuse]
        exact iff_of_false Nat.one_ne_zero hStatus
      · rw [hFailed]
        intro hZero
        cases hZero
  | ok result =>
      obtain ⟨receipt, p'⟩ := result
      have hAnswer : answer config now fresh r p =
          ((Response.json k.admittedStatus k.receiptCodec receipt).shown config, p') := by
        rwa [hAdmitted] at hAnswers
      have hPrinted : command.outcomeOf (.ofResponse (answer config now fresh r p).1) =
          .printed (k.receiptCodec.encodePretty receipt ++ "\n") := by
        rw [Command.outcomeOf, hSubmits.shown_eq, hAnswer, Reply.show?,
          read_json k.isLawful_receiptCodec k.isSuccess_admittedStatus]
        rfl
      refine ⟨hRead, hAnswers, rfl, ?_, ?_⟩
      · rw [hPrinted, hAnswer, status_shown]
        exact iff_of_true rfl rfl
      · intro _
        refine ⟨_, receipt, hPrinted,
          k.isLawful_receiptCodec.decodeText_encodePretty_newline receipt, ?_⟩
        rw [hAnswer, body_shown]
        exact k.isLawful_receiptCodec.decodeText_encode receipt

/-- **Submissions are carried out.**  Take any command line that submits a job or a session, with
any texts and any lifetime in it and the code in a file or not, and any control plane without a
token at the address that the client is told of, whatever it holds.  If the form is not too long as
a body, one request arrives, the form is read from it as it was to be submitted, the answer and the
stores are those of its admission, the exit code is 0 exactly if it was admitted, and then what is
printed is the answer. -/
theorem submission_is_carried_out (hOpen : config.authToken = none) {args : List String}
    {env : Environment} {i : Invocation} (hArgs : Invocation.ofArgs args env = .ok i)
    (hSubmits : i.command.Submits files k form) (hBase : LeadsTo i.base k.path)
    (hToken : IsCarried i.token)
    (hFits : (utf8 (k.codec.encode form)).length ≤ config.maxBodyBytes) (now : Instant)
    (fresh : String) (p : Plane) :
    let result := run (fun path => pure (files path)) (deliver config now fresh) args env p
    ∃ r, i.request? files = some r ∧
      CarriesOut config now fresh k form p r result.1 result.2 := by
  intro result
  have hPath : (k.call form).path = k.path := by
    rw [k.call_eq]
  have hBody : (k.call form).body = some (k.codec.encode form) := by
    rw [k.call_eq]
  have hMethod : (k.call form).method = "POST" := by
    rw [k.call_eq]
  have hIsToken : isToken (k.call form).method = true := by
    rw [hMethod]
    decide
  rw [← hPath] at hBase
  obtain ⟨message, r, hMessage, hRequest, hPost, hTo, hBytes, hJson⟩ :=
    exists_request hBase hToken hIsToken hBody
  have hReceives : k.Receives r := ⟨hPost.trans hMethod, by rw [hTo, hPath]⟩
  have hGate : passGate config.authToken r = .ok () := by
    rw [hOpen]
    rfl
  have hRead : readBody config.maxBodyBytes k.codec r = .ok form := by
    rw [readBody_eq_ok_iff, hBytes]
    exact ⟨hJson, hFits, k.isLawful_codec.decodeBytes_encode form⟩
  have hResult : result = (i.command.outcomeOf (.ofResponse (answer config now fresh r p).1),
      (answer config now fresh r p).2) := by
    have hRun : run (fun path => pure (files path)) (deliver config now fresh) args env p = _ :=
      run_of_call hArgs hSubmits.call_eq
    rw [hMessage] at hRun
    simp only [hRequest] at hRun
    exact hRun
  refine ⟨r, ?_, ?_⟩
  · simp only [Invocation.request?, hSubmits.call_eq, Id.run_pure, Except.toOption, hMessage,
      Option.bind_eq_bind, Option.bind_some, hRequest]
  · rw [hResult]
    exact carriesOut_of_readBody hSubmits hReceives hGate hRead

/-- A job whose code is in a file, with quotes, a backslash and an accent on the way. -/
theorem job_in_a_file_is_carried_out :
    let code := "é\n"
    let files := fun path => if path = "main.py" then some (utf8 code) else none
    let args := ["submit-job", "--tenant=\"t\"", "--agent=a\\b", "--policy=p",
      "--language=Python", "--file=main.py"]
    let form : JobForm :=
      ⟨none, some "\"t\"", some "a\\b", some "p", some "Python", some code⟩
    let result := run (fun path => pure (files path)) (deliver .default .epoch "x") args
      (fun _ => none) .empty
    ∃ i r, Invocation.ofArgs args (fun _ => none) = .ok i ∧ i.request? files = some r ∧
      CarriesOut .default .epoch "x" .job form .empty r result.1 result.2 ∧
      result.1.exitCode = 0 := by
  intro code files args form result
  let i : Invocation := ⟨defaultUrl, none,
    .submitJob none ⟨"\"t\"", "a\\b", "p"⟩ "Python" (.file "main.py")⟩
  have hArgs : Invocation.ofArgs args (fun _ => none) = .ok i := by decide +kernel
  have hSubmits : i.command.Submits files .job form := .job (.file rfl)
  have hPort : withoutSlashes i.base = localBase 8080 := by decide +kernel
  have hBase : LeadsTo i.base Kind.job.path := leadsTo_path (by decide) hPort .job
  have hFits : (utf8 (Kind.job.codec.encode form)).length ≤ Config.default.maxBodyBytes := by
    decide +kernel
  obtain ⟨r, hRequest, hCarried⟩ :=
    submission_is_carried_out rfl hArgs hSubmits hBase nofun hFits .epoch "x" .empty
  have hExit : result.1.exitCode = 0 := by decide +kernel
  exact ⟨i, r, hArgs, hRequest, hCarried, hExit⟩

end Client

end Admission
