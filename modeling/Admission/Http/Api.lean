import Admission.Daemon.Config
import Admission.Http.Endpoint
import Admission.Http.Gate
import Admission.Http.MediaType
import Admission.Http.Response
import Admission.Service.Plane
import Admission.Wire.Request

/-!
# Answering requests

A request is taken through stages: its path leads to an endpoint, the gate lets it through, the
endpoint takes its method, its body is JSON of the right type and not too long, its fields pass
their checks, and its id is free.  The first stage that fails decides the answer, and only the last
one changes a store.

A path that leads nowhere is answered before the gate, with nothing but a status.  Where an endpoint
does not take the method, the answer tells which methods it takes, also when the gate answers.  A
`HEAD` request is answered like a `GET` request, without the body.
-/

namespace Admission.Http

open Admission.Json Admission.Time

/-! ## Bodies -/

/-- Whether a request says that its body is JSON. -/
def hasJsonBody (r : Request) : Bool :=
  match (r.header? "content-type").bind asciiChars? with
  | some cs => isJsonMediaType cs
  | none => false

/-- The refusal of a body that is not read. -/
def bodyRefusal : Fault → Refusal
  | .malformed => .form (.malformedBody "Failed to parse the request body as JSON")
  | .mismatch place problem =>
    .form (.malformedBody ("Failed to deserialize the JSON body into the target type: " ++
      placedMessage place problem))

/-- Read a body: its media type is checked first, then its length, then what it says. -/
def readBody {α : Type} (maxBytes : Nat) (c : Codec α) (r : Request) : Except Refusal α :=
  if !hasJsonBody r then
    .error (.form (.malformedBody "Expected request with `Content-Type: application/json`"))
  else if maxBytes < r.body.length then
    .error (.tooLarge "Failed to buffer the request body: length limit exceeded")
  else (c.decodeBytes r.body).mapError bodyRefusal

/-! ## Endpoints -/

/-- The answer to what succeeded or was refused. -/
def respond {α : Type} (status : Nat) (c : Codec α) : Except Refusal α → Response
  | .ok a => .json status c a
  | .error refusal => .refuse refusal

/-- The answer to a change that succeeded, with the changed stores, or was refused. -/
def respondWith {α : Type} (status : Nat) (c : Codec α) (p : Plane) :
    Except Refusal (α × Plane) → Response × Plane
  | .ok (a, p') => (.json status c a, p')
  | .error refusal => (.refuse refusal, p)

/-- Admit a job. -/
def createJob (config : Config) (now : Instant) (fresh : String) (r : Request) (p : Plane) :
    Response × Plane :=
  respondWith 202 JobAccepted.codec p do
    p.admitJob now fresh (← readBody config.maxBodyBytes JobForm.codec r)

/-- Admit a session. -/
def createSession (config : Config) (now : Instant) (fresh : String) (r : Request) (p : Plane) :
    Response × Plane :=
  respondWith 201 SessionCreated.codec p do
    p.admitSession now fresh (← readBody config.maxBodyBytes SessionForm.codec r)

/-- Look up what a segment stands for. -/
def lookUp {α : Type} (c : Codec α) (find : String → Except Refusal α) (segment : List UInt8) :
    Response :=
  match segmentId? segment with
  | some id => respond 200 c (find id)
  | none => .plain 400 "Invalid URL: Invalid UTF-8 in `id`"

/-- The answer of an endpoint to a method that it takes. -/
def serve (config : Config) (now : Instant) (fresh : String) (r : Request) (p : Plane) :
    Endpoint → Response × Plane
  | .health => (.plain 200 "ok", p)
  | .jobs => createJob config now fresh r p
  | .job segment => (lookUp JobView.codec p.job segment, p)
  | .sessions => createSession config now fresh r p
  | .session segment => (lookUp SessionView.codec (p.session · now) segment, p)

/-- The answer at an endpoint: the gate's, or the endpoint's if it takes the method. -/
def answerAt (config : Config) (now : Instant) (fresh : String) (r : Request) (p : Plane)
    (e : Endpoint) : Response × Plane :=
  match if e.isGated then passGate config.authToken r else .ok () with
  | .error reason => (.refuse (.unauthorized reason.reason), p)
  | .ok () =>
    if e.methods.contains r.method then serve config now fresh r p e else (.empty 405, p)

/-- Tell which methods an endpoint takes, if it does not take the one used. -/
def tellMethods (e : Endpoint) (method : String) (response : Response) : Response :=
  if e.methods.contains method then response else response.addHeader "allow" e.allowed

/-- The answer without regard to other origins. -/
def route (config : Config) (now : Instant) (fresh : String) (r : Request) (p : Plane) :
    Response × Plane :=
  match Endpoint.ofPath? r.path with
  | none => (.empty 404, p)
  | some e =>
    let (response, p') := answerAt config now fresh r p e
    let response := tellMethods e r.method response
    (if r.method = "HEAD" then response.dropBody else response, p')

/-! ## Other origins -/

/-- The headers of requests on which answers to other origins may depend. -/
def varyHeader : String × String :=
  ("vary", "origin, access-control-request-method, access-control-request-headers")

/-- The answer to a browser that asks what it may do: anything. -/
def preflight (r : Request) : Response :=
  let response : Response :=
    ⟨200, [("access-control-allow-origin", "*"), varyHeader, ("access-control-allow-methods", "*"),
      ("access-control-allow-headers", "*")], ""⟩
  match Endpoint.ofPath? r.path with
  | none => response
  | some e => tellMethods e r.method response

/-- Let a browser hand an answer to any origin. -/
def expose (response : Response) : Response :=
  { response with headers := response.headers ++
      [("access-control-allow-origin", "*"), varyHeader, ("access-control-expose-headers", "*")] }

/-- The answer to a request, and the stores after it. -/
def answer (config : Config) (now : Instant) (fresh : String) (r : Request) (p : Plane) :
    Response × Plane :=
  if config.corsPermissive then
    if r.method = "OPTIONS" then (preflight r, p)
    else
      let (response, p') := route config now fresh r p
      (expose response, p')
  else route config now fresh r p

end Admission.Http
