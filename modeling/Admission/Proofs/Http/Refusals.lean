import Admission.Proofs.Http.Layers
import Admission.Proofs.Service.Refusing

/-!
# Only the gate answers 401

A service refuses for what a request says and for what the stores hold, and never for who sends it.
So wherever the gate stands open, no answer is 401.

What is refused is followed from the checks to the endpoints, one lemma each, and from there through
the layers, which keep the status.

## Main results

* `status_of_answerAt`: a status that no layer gives is the endpoint's.
* `status_answer_ne_unauthorized`: without a token, no answer is 401.
-/

namespace Admission

open Admission.Json Admission.Text Admission.Time

/-- A refusal that does not turn the caller away. -/
def Refusal.SparesCaller : Refusal → Prop
  | .unauthorized _ => False
  | _ => True

theorem Refusal.SparesCaller.status_ne {refusal : Refusal}
    (h : refusal.SparesCaller) : refusal.status ≠ 401 := by
  cases refusal with
  | unauthorized reason => exact h.elim
  | _ => simp [status]

/-- Whatever is refused here, the caller is not turned away. -/
def SparesCaller {α : Type} (x : Except Refusal α) : Prop :=
  ∀ refusal, x = .error refusal → refusal.SparesCaller

variable {α β : Type}

theorem SparesCaller.error {refusal : Refusal} (h : refusal.SparesCaller) :
    SparesCaller (.error refusal : Except Refusal α) := by
  rintro _ ⟨⟩
  exact h

theorem SparesCaller.ok (a : α) : SparesCaller (.ok a : Except Refusal α) := nofun

theorem SparesCaller.bind {x : Except Refusal α} {f : α → Except Refusal β}
    (hx : SparesCaller x) (hf : ∀ a, SparesCaller (f a)) :
    SparesCaller (x >>= f) := by
  cases x with
  | error refusal => exact .error (hx refusal rfl)
  | ok a => exact hf a

namespace Plane

variable (p : Plane) (now : Instant) (fresh : String)

theorem sparesCaller_job (id : String) : SparesCaller (p.job id) := by
  rw [job]
  cases p.jobs.get? id with
  | none => exact .error trivial
  | some job => exact .ok job.view

theorem sparesCaller_session (id : String) : SparesCaller (p.session id now) := by
  rw [session]
  cases p.sessions.get? id now with
  | none => exact .error trivial
  | some session => exact .ok (session.view now)

theorem sparesCaller_admitJob (form : JobForm) :
    SparesCaller (p.admitJob now fresh form) := by
  intro refusal h
  rw [← cause?_eq_some_iff, cause?_admitJob, Option.or_eq_some_iff] at h
  rcases h with hForm | ⟨-, hTaken⟩
  · obtain ⟨e, -, rfl⟩ := Option.map_eq_some_iff.1 hForm
    trivial
  · obtain ⟨-, hTaken⟩ := Option.ite_none_right_eq_some.1 hTaken
    rw [← Option.some.inj hTaken]
    cases form.id.map trim <;> trivial

theorem sparesCaller_admitSession (form : SessionForm) :
    SparesCaller (p.admitSession now fresh form) := by
  intro refusal h
  rw [← cause?_eq_some_iff, cause?_admitSession, Option.or_eq_some_iff, Option.or_eq_some_iff] at h
  rcases h with hForm | ⟨-, hCalendar | ⟨-, hTaken⟩⟩
  · obtain ⟨e, -, rfl⟩ := Option.map_eq_some_iff.1 hForm
    trivial
  · obtain ⟨e, -, rfl⟩ := Option.map_eq_some_iff.1 hCalendar
    trivial
  · obtain ⟨-, hTaken⟩ := Option.ite_none_right_eq_some.1 hTaken
    rw [← Option.some.inj hTaken]
    cases form.id.map trim <;> trivial

end Plane

namespace Http

/-! ## Endpoints -/

variable {config : Config} {now : Instant} {fresh : String} {r : Request} {p : Plane}

theorem sparesCaller_readBody (maxBytes : Nat) (c : Codec α) (r : Request) :
    SparesCaller (readBody maxBytes c r) := by
  unfold readBody
  split
  · exact .error trivial
  · split
    · exact .error trivial
    · cases c.decodeBytes r.body with
      | error fault => exact .error (by cases fault <;> trivial)
      | ok a => exact .ok a

theorem status_respond_ne {status : Nat} {c : Codec α}
    {found : Except Refusal α} (hStatus : status ≠ 401)
    (hFound : SparesCaller found) : (respond status c found).status ≠ 401 := by
  cases found with
  | error refusal => exact (hFound refusal rfl).status_ne
  | ok a => exact hStatus

theorem status_respondWith_ne {status : Nat} {c : Codec α}
    {change : Except Refusal (α × Plane)} (hStatus : status ≠ 401)
    (hChange : SparesCaller change) :
    (respondWith status c p change).1.status ≠ 401 := by
  cases change with
  | error refusal => exact (hChange refusal rfl).status_ne
  | ok result => exact hStatus

theorem status_lookUp_ne {c : Codec α} {find : String → Except Refusal α}
    (hFind : ∀ id, SparesCaller (find id)) (segment : List UInt8) :
    (lookUp c find segment).status ≠ 401 := by
  rw [lookUp]
  cases segmentId? segment with
  | none => exact (by decide : (400 : Nat) ≠ 401)
  | some id => exact status_respond_ne (by decide) (hFind id)

/-- Past the gate, no endpoint answers 401. -/
theorem status_serve_ne_unauthorized (e : Endpoint) :
    (serve config now fresh r p e).1.status ≠ 401 := by
  cases e with
  | health => exact (by decide : (200 : Nat) ≠ 401)
  | jobs =>
      exact status_respondWith_ne (by decide) ((sparesCaller_readBody _ _ r).bind
        (p.sparesCaller_admitJob now fresh))
  | job segment => exact status_lookUp_ne p.sparesCaller_job segment
  | sessions =>
      exact status_respondWith_ne (by decide) ((sparesCaller_readBody _ _ r).bind
        (p.sparesCaller_admitSession now fresh))
  | session segment =>
      exact status_lookUp_ne (p.sparesCaller_session now) segment

/-! ## The router -/

/-- A status is 200 or 404, or the endpoint gives it. -/
theorem status_of_answerAt {P : Nat → Prop} (hPreflight : P 200) (hNowhere : P 404)
    (hAt : ∀ e, P (answerAt config now fresh r p e).1.status) :
    P (answer config now fresh r p).1.status := by
  have hRoute : P (route config now fresh r p).1.status := by
    rw [route]
    cases Endpoint.ofPath? r.path with
    | none => exact hNowhere
    | some e =>
        show P (if r.method = "HEAD" then _ else _ : Response).status
        rw [apply_ite Response.status, status_dropBody, ite_self, status_tellMethods]
        exact hAt e
  rw [answer]
  split
  · split
    · show P (preflight r).status
      rw [status_preflight]
      exact hPreflight
    · exact hRoute
  · exact hRoute

/-- Without a token, no answer is 401. -/
theorem status_answer_ne_unauthorized (hOpen : config.authToken = none) :
    (answer config now fresh r p).1.status ≠ 401 := by
  apply status_of_answerAt (P := (· ≠ 401)) (by decide) (by decide)
  intro e
  rw [answerAt, hOpen, passGate, ite_self]
  show (if _ then _ else _ : Response × Plane).1.status ≠ 401
  split
  · exact status_serve_ne_unauthorized e
  · exact (by decide : (405 : Nat) ≠ 401)

end Http

end Admission
