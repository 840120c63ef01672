import Admission.Http.Api
import Admission.Proofs.Checks

/-!
# The layers around an endpoint

What an endpoint answers passes through the layers that tell of its methods, drop the body for
`HEAD` and let other origins see it.  They change headers and may drop the body, and never the
status.

## Main results

* `status_tellMethods`, `status_dropBody`, `status_expose`, `status_preflight`: the status is the
  endpoint's, and 200 for a preflight request.
* `Refusal.le_status`: a refusal is no success.
* `answer_eq_answerAt`, `answer_eq_serve`: for a method that the endpoint takes, the layers do
  nothing but show the answer to other origins.
* `answer_rel`: what endpoints answer alike is answered alike.
-/

namespace Admission

/-- A refusal is no success. -/
theorem Refusal.le_status (refusal : Refusal) : 400 ≤ refusal.status := by
  cases refusal <;> simp [status]

namespace Http

open Admission.Time

@[simp] theorem status_refuse (refusal : Refusal) :
    (Response.refuse refusal).status = refusal.status := rfl

@[simp] theorem status_tellMethods (e : Endpoint) (method : String) (response : Response) :
    (tellMethods e method response).status = response.status := by
  unfold tellMethods
  split <;> rfl

@[simp] theorem body_tellMethods (e : Endpoint) (method : String) (response : Response) :
    (tellMethods e method response).body = response.body := by
  unfold tellMethods
  split <;> rfl

@[simp] theorem status_dropBody (response : Response) :
    response.dropBody.status = response.status := rfl

@[simp] theorem status_expose (response : Response) :
    (expose response).status = response.status := rfl

@[simp] theorem body_expose (response : Response) : (expose response).body = response.body := rfl

@[simp] theorem status_preflight (r : Request) : (preflight r).status = 200 := by
  unfold preflight
  split
  · rfl
  · exact status_tellMethods _ _ _

/-- A response as the layer for other origins leaves it. -/
def Response.shown (config : Config) (response : Response) : Response :=
  if config.corsPermissive then expose response else response

@[simp] theorem status_shown (config : Config) (response : Response) :
    (response.shown config).status = response.status := by
  rw [Response.shown, apply_ite Response.status, status_expose, ite_self]

theorem shown_congr {config config' : Config} (response : Response)
    (h : config.corsPermissive = config'.corsPermissive) :
    response.shown config = response.shown config' := by
  rw [Response.shown, Response.shown, h]

@[simp] theorem body_shown (config : Config) (response : Response) :
    (response.shown config).body = response.body := by
  rw [Response.shown, apply_ite Response.body, body_expose, ite_self]

/-! ## From the router down to an endpoint -/

variable {config : Config} {now : Instant} {fresh : String} {r : Request} {p : Plane} {e : Endpoint}

/-- Past the gate, a method that the endpoint takes is served. -/
theorem answerAt_eq_serve (hGate : passGate config.authToken r = .ok ())
    (hMethod : e.methods.contains r.method = true) :
    answerAt config now fresh r p e = serve config now fresh r p e := by
  have hPass : (if e.isGated then passGate config.authToken r else .ok ()) =
      .ok () := by
    rw [hGate, ite_self]
  rw [answerAt, hPass]
  exact if_pos hMethod

/-- Where the gate turns a caller away, it gives the answer. -/
theorem answerAt_of_passGate {reason : GateError} (hGated : e.isGated = true)
    (hGate : passGate config.authToken r = .error reason) :
    answerAt config now fresh r p e = (.refuse (.unauthorized reason.reason), p) := by
  rw [answerAt, if_pos hGated, hGate]

theorem route_eq_answerAt (hPath : Endpoint.ofPath? r.path = some e)
    (hMethod : e.methods.contains r.method = true) (hHead : r.method ≠ "HEAD") :
    route config now fresh r p = answerAt config now fresh r p e := by
  simp only [route, hPath, tellMethods, hMethod, if_true, if_neg hHead]

/-- For a method that the endpoint takes, `HEAD` apart, the layers do nothing but show the answer to
other origins. -/
theorem answer_eq_answerAt (hPath : Endpoint.ofPath? r.path = some e)
    (hMethod : e.methods.contains r.method = true) (hHead : r.method ≠ "HEAD") :
    answer config now fresh r p =
      ((answerAt config now fresh r p e).1.shown config, (answerAt config now fresh r p e).2) := by
  have hOptions : r.method ≠ "OPTIONS" := by
    intro hEq
    rw [hEq] at hMethod
    cases e <;> simp [Endpoint.methods] at hMethod
  rw [answer, route_eq_answerAt hPath hMethod hHead, Response.shown]
  by_cases hCors : config.corsPermissive = true
  · rw [if_pos hCors, if_neg hOptions, if_pos hCors]
  · rw [if_neg hCors, if_neg hCors]

/-- Past the gate, it is the endpoint's answer that is shown. -/
theorem answer_eq_serve (hGate : passGate config.authToken r = .ok ())
    (hPath : Endpoint.ofPath? r.path = some e)
    (hMethod : e.methods.contains r.method = true) (hHead : r.method ≠ "HEAD") :
    answer config now fresh r p =
      ((serve config now fresh r p e).1.shown config, (serve config now fresh r p e).2) := by
  rw [answer_eq_answerAt hPath hMethod hHead, answerAt_eq_serve hGate hMethod]

/-- Where the gate turns a caller away, it is its refusal that is shown. -/
theorem answer_of_passGate {reason : GateError}
    (hGate : passGate config.authToken r = .error reason)
    (hGated : e.isGated = true) (hPath : Endpoint.ofPath? r.path = some e)
    (hMethod : e.methods.contains r.method = true) (hHead : r.method ≠ "HEAD") :
    answer config now fresh r p =
      ((Response.refuse (.unauthorized reason.reason)).shown config, p) := by
  rw [answer_eq_answerAt hPath hMethod hHead, answerAt_of_passGate hGated hGate]

/-! ## Two requests side by side -/

/-- Two changes that look the same through a function of the stores are answered alike, and leave
stores that look the same through it. -/
theorem respondWith_congr {α β : Type} (part : Plane → β) {p' : Plane}
    (hStores : part p = part p') {status : Nat} {c : Json.Codec α}
    {change change' : Except Refusal (α × Plane)}
    (h : change.map (fun result => (result.1, part result.2)) =
      change'.map fun result => (result.1, part result.2)) :
    (respondWith status c p change).1 = (respondWith status c p' change').1 ∧
      part (respondWith status c p change).2 = part (respondWith status c p' change').2 := by
  rcases alike_of_map_eq h with ⟨refusal, rfl, rfl⟩ | ⟨⟨a, after⟩, ⟨a', after'⟩, rfl, rfl, hResults⟩
  · exact ⟨rfl, hStores⟩
  · obtain ⟨rfl, hAfter⟩ := Prod.mk.inj hResults
    exact ⟨rfl, hAfter⟩

/-- The gate and the method are passed or not alike, so what is served alike is answered alike. -/
theorem answerAt_rel (Alike : Plane → Plane → Prop) {r' : Request} {p' : Plane}
    (hGate : passGate config.authToken r = passGate config.authToken r')
    (hMethod : r.method = r'.method) (hStores : Alike p p')
    (hServe : (serve config now fresh r p e).1 = (serve config now fresh r' p' e).1 ∧
      Alike (serve config now fresh r p e).2 (serve config now fresh r' p' e).2) :
    (answerAt config now fresh r p e).1 = (answerAt config now fresh r' p' e).1 ∧
      Alike (answerAt config now fresh r p e).2 (answerAt config now fresh r' p' e).2 := by
  rw [answerAt, answerAt, hGate, hMethod]
  split
  · exact ⟨rfl, hStores⟩
  · split
    · exact hServe
    · exact ⟨rfl, hStores⟩

/-- Two requests of one method and path are answered alike if the endpoint at the path answers them
alike; so are the stores after them alike, in whatever way, if they were before. -/
theorem answer_rel (Alike : Plane → Plane → Prop) {config' : Config} {r' : Request} {p' : Plane}
    (hCors : config.corsPermissive = config'.corsPermissive)
    (hMethod : r.method = r'.method) (hPath : r.path = r'.path) (hStores : Alike p p')
    (hAt : ∀ e, Endpoint.ofPath? r.path = some e →
      (answerAt config now fresh r p e).1 = (answerAt config' now fresh r' p' e).1 ∧
        Alike (answerAt config now fresh r p e).2 (answerAt config' now fresh r' p' e).2) :
    (answer config now fresh r p).1 = (answer config' now fresh r' p').1 ∧
      Alike (answer config now fresh r p).2 (answer config' now fresh r' p').2 := by
  have hRoute : (route config now fresh r p).1 = (route config' now fresh r' p').1 ∧
      Alike (route config now fresh r p).2 (route config' now fresh r' p').2 := by
    rw [route, route, ← hPath]
    cases hEndpoint : Endpoint.ofPath? r.path with
    | none => exact ⟨rfl, hStores⟩
    | some e =>
        obtain ⟨hResponse, hAfter⟩ := hAt e hEndpoint
        simp only [hResponse, hMethod]
        exact ⟨trivial, hAfter⟩
  have hPreflight : preflight r = preflight r' := by
    rw [preflight, preflight, hPath, hMethod]
  rw [answer, answer, hCors, hMethod]
  split
  · split
    · exact ⟨hPreflight, hStores⟩
    · exact ⟨congrArg expose hRoute.1, hRoute.2⟩
  · exact hRoute

end Http

end Admission
