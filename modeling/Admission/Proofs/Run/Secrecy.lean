import Admission.Proofs.Http.Veiled
import Admission.Proofs.Wire
import Admission.Run.Basic
import Mathlib.Data.List.Forall2

/-!
# Code is told to executors only

Two runs are given the same inputs, save that some posts for jobs come with other code.  Whatever is
answered over HTTP is the same in both, letter for letter, and so is what is stored, save for the
code of the jobs that still wait: it is there for the executor that will claim the job, and for
nobody else.

The two runs are compared side by side.  One input leaves them alike if they were alike before,
because a request is answered alike and the operations of executors, sweeps and the clock either do
not look at jobs or do not look at code.  The rest is induction on the inputs.

## Main results

* `step_congr`: one input to two runs.
* `code_is_told_to_executors_only`: two runs from the start.
-/

namespace Admission

open Admission.Http Admission.Text Admission.Time

namespace Run

/-! ## What differs in code only -/

/-- The same input, or two posts for a job that differ in the code that they give. -/
inductive Input.SameButCode (maxBytes : Nat) : Input → Input → Prop
  | same (input : Input) : SameButCode maxBytes input input
  | job (fresh : String) {r r' : Request} (h : r.SameButCode maxBytes r') :
      SameButCode maxBytes (.request fresh r) (.request fresh r')

/-- What is seen of an input, with the code taken out of what executors are handed. -/
def Output.withoutCode : Output → Output
  | .job answer => .job answer.withoutCode
  | output => output

/-- The run without the code of the jobs that wait. -/
def veiled (r : Run) : Run := { r with plane := r.plane.veiled }

/-- Nothing is taken out of a response. -/
theorem Output.withoutCode_eq_response_iff {output : Output} {response : Response} :
    output.withoutCode = .response response ↔ output = .response response := by
  cases output <;> simp [withoutCode]

/-! ## One input -/

variable {config : Config} {p p' : Plane} {now : Instant} {timer : Nat} {sweepers : List Sweeper}

/-- Runs that differ in their stores only are veiled alike if the stores are. -/
theorem veiled_mk (h : p.veiled = p'.veiled) (now : Instant) (timer : Nat)
    (sweepers : List Sweeper) :
    (Run.mk config p now timer sweepers).veiled = (Run.mk config p' now timer sweepers).veiled := by
  show Run.mk config p.veiled now timer sweepers = Run.mk config p'.veiled now timer sweepers
  rw [h]

/-- Requests that are answered alike. -/
theorem veiled_request {fresh : String} {r r' : Request}
    (h : LooksAlike (answer config now fresh r p) (answer config now fresh r' p')) :
    ((Run.mk config p now timer sweepers).step (.request fresh r)).1.withoutCode =
        ((Run.mk config p' now timer sweepers).step (.request fresh r')).1.withoutCode ∧
      ((Run.mk config p now timer sweepers).step (.request fresh r)).2.veiled =
        ((Run.mk config p' now timer sweepers).step (.request fresh r')).2.veiled :=
  ⟨congrArg Output.response h.response_eq, veiled_mk h.stores_eq now timer sweepers⟩

/-- An operation of an executor. -/
theorem veiled_work (h : p.veiled = p'.veiled) (op : Queue.Op) :
    ((Run.mk config p now timer sweepers).work op).1.withoutCode =
        ((Run.mk config p' now timer sweepers).work op).1.withoutCode ∧
      ((Run.mk config p now timer sweepers).work op).2.veiled =
        ((Run.mk config p' now timer sweepers).work op).2.veiled := by
  have hJobs : p.jobs.veiled = p'.jobs.veiled := congrArg Plane.jobs h
  have hSessions := Plane.sessions_eq_of_veiled_eq h
  obtain ⟨hAnswer, hLeft⟩ := Queue.step_congr hJobs (Eq.refl op.withoutCode)
  refine ⟨congrArg Output.job hAnswer, ?_⟩
  show Run.mk config ⟨(p.jobs.step op).2.veiled, p.sessions⟩ now timer sweepers =
    Run.mk config ⟨(p'.jobs.step op).2.veiled, p'.sessions⟩ now timer sweepers
  rw [hLeft, hSessions]

theorem veiled_sweep (h : p.veiled = p'.veiled) (now : Instant) :
    (p.sweep now).1 = (p'.sweep now).1 ∧ (p.sweep now).2.veiled = (p'.sweep now).2.veiled := by
  have hSessions := Plane.sessions_eq_of_veiled_eq h
  rw [Plane.sweep, Plane.sweep, hSessions]
  refine ⟨rfl, ?_⟩
  show Plane.mk p.veiled.jobs _ = Plane.mk p'.veiled.jobs _
  rw [h]

theorem veiled_sweepDue (h : p.veiled = p'.veiled) (sweepers : List Sweeper) (timer : Nat)
    (now : Instant) :
    (sweepDue sweepers timer p now).veiled = (sweepDue sweepers timer p' now).veiled := by
  rw [sweepDue_eq, sweepDue_eq]
  split
  · exact (veiled_sweep h now).2
  · exact h

/-- One input, or two that differ in code only, to runs that differ in the code of waiting jobs
only. -/
theorem step_congr {r r' : Run} (hRun : r.veiled = r'.veiled) {input input' : Input}
    (hInput : Input.SameButCode r.config.maxBodyBytes input input') :
    (r.step input).1.withoutCode = (r'.step input').1.withoutCode ∧
      (r.step input).2.veiled = (r'.step input').2.veiled := by
  obtain ⟨config, p, now, timer, sweepers⟩ := r
  obtain ⟨config', p', now', timer', sweepers'⟩ := r'
  simp only [veiled, Run.mk.injEq] at hRun
  obtain ⟨rfl, hPlane, rfl, rfl, rfl⟩ := hRun
  cases hInput with
  | job fresh h => exact veiled_request (h.looksAlike hPlane)
  | same input =>
      cases input with
      | request fresh r => exact veiled_request (looksAlike_of_sameRequest hPlane)
      | claim => exact veiled_work hPlane .claimNext
      | complete id succeeded => exact veiled_work hPlane (.complete id succeeded)
      | peek id => exact veiled_work hPlane (.get id)
      | listSessions =>
          refine ⟨?_, veiled_mk hPlane now timer sweepers⟩
          simp only [step, Plane.sessions_eq_of_veiled_eq hPlane]
      | sweep =>
          obtain ⟨hCount, hSwept⟩ := veiled_sweep hPlane now
          exact ⟨congrArg Output.swept hCount, veiled_mk hSwept now timer sweepers⟩
      | advance ns =>
          simp only [step]
          cases now.add? ns with
          | none => exact ⟨rfl, veiled_mk hPlane now timer sweepers⟩
          | some later => exact ⟨rfl, veiled_mk hPlane later timer sweepers⟩
      | startSweeper => exact ⟨rfl, veiled_mk (veiled_sweepDue hPlane _ _ _) now timer _⟩
      | tick seconds => exact ⟨rfl, veiled_mk (veiled_sweepDue hPlane _ _ _) now _ _⟩

/-! ## Runs -/

/-- Inputs that differ in code only, to runs that differ in the code of waiting jobs only. -/
theorem run_congr {r r' : Run} (hRun : r.veiled = r'.veiled) {inputs inputs' : List Input}
    (hInputs : List.Forall₂ (Input.SameButCode r.config.maxBodyBytes) inputs inputs') :
    (r.run inputs).1.map Output.withoutCode = (r'.run inputs').1.map Output.withoutCode ∧
      (r.run inputs).2.veiled = (r'.run inputs').2.veiled := by
  induction inputs generalizing r r' inputs' with
  | nil =>
      cases hInputs
      exact ⟨rfl, hRun⟩
  | cons input inputs ih =>
      cases hInputs with
      | cons hInput hRest =>
          obtain ⟨hOutput, hNext⟩ := step_congr hRun hInput
          rw [← config_step r input] at hRest
          obtain ⟨hOutputs, hEnd⟩ := ih hNext hRest
          rw [run_cons, run_cons]
          refine ⟨?_, hEnd⟩
          rw [List.map_cons, List.map_cons, hOutput, hOutputs]

/-- **Code is told to executors only.**  Take two runs from the start, under any configuration, with
the same inputs save that posts for jobs may give other code: both none but blanks, or both some
that is not blank, and in bodies that are not too long.  Every response is the same in both, what
executors and operators see is the same but for code, and in the end the runs are the same but for
the code of the jobs that wait. -/
theorem code_is_told_to_executors_only (config : Config) (now : Instant)
    {inputs inputs' : List Input}
    (hInputs : List.Forall₂ (Input.SameButCode config.maxBodyBytes) inputs inputs') :
    let left := (start config now).run inputs
    let right := (start config now).run inputs'
    (∀ (n : Nat) (response : Response),
      left.1[n]? = some (.response response) ↔ right.1[n]? = some (.response response)) ∧
    left.1.map Output.withoutCode = right.1.map Output.withoutCode ∧
    left.2.veiled = right.2.veiled ∧
    ∀ id job, left.2.plane.jobs.get? id = some job →
      ∃ job', right.2.plane.jobs.get? id = some job' ∧ job'.view = job.view ∧
        (job.status ≠ .pending → job' = job) := by
  intro left right
  have hStart : (start config now).veiled = (start config now).veiled := rfl
  obtain ⟨hOutputs, hEnd⟩ := run_congr hStart hInputs
  have hJobs : left.2.plane.jobs.veiled = right.2.plane.jobs.veiled :=
    congrArg (fun r : Run => r.plane.jobs) hEnd
  refine ⟨?_, hOutputs, hEnd, fun id job hJob => Queue.get?_of_veiled_eq hJobs hJob⟩
  intro n response
  have hSeen : ∀ outputs : List Output, outputs[n]? = some (.response response) ↔
      (outputs.map Output.withoutCode)[n]? = some (.response response) := by
    intro outputs
    rw [List.getElem?_map]
    cases outputs[n]? with
    | none => simp
    | some output => simp [Output.withoutCode_eq_response_iff]
  rw [hSeen left.1, hSeen right.1, hOutputs]

/-- Two jobs that differ in code are posted and looked up: the answers are the same, and the jobs
are not. -/
theorem other_code_looks_alike :
    let form := fun code : String =>
      (⟨none, some "t", some "g", some "p", some "python", some code⟩ : JobForm)
    let header : Header := ⟨"content-type", utf8 "application/json"⟩
    let post := fun code : String =>
      (⟨"POST", utf8 "/jobs", [header], utf8 (JobForm.codec.encode (form code))⟩ : Request)
    let look : Request := ⟨"GET", utf8 "/jobs/x", [], []⟩
    let left := (start .default .epoch).run [.request "x" (post "1"), .request "y" look]
    let right := (start .default .epoch).run [.request "x" (post "é = 2"), .request "y" look]
    (∃ response, left.1[1]? = some (.response response) ∧
      right.1[1]? = some (.response response)) ∧
    left.2.veiled = right.2.veiled ∧
    left.2.plane.jobs.get? "x" ≠ right.2.plane.jobs.get? "x" := by
  intro form header post look left right
  have hBodies : ∀ {body body' : List UInt8}, body.length ≤ Config.default.maxBodyBytes →
      body'.length ≤ Config.default.maxBodyBytes →
      (∃ form form', JobForm.codec.decodeBytes body = .ok form ∧
        JobForm.codec.decodeBytes body' = .ok form' ∧ form.SameButCode form') →
      (Request.mk "POST" (utf8 "/jobs") [header] body).SameButCode Config.default.maxBodyBytes
        (Request.mk "POST" (utf8 "/jobs") [header] body') :=
    fun hFits hFits' hForms => ⟨rfl, rfl, rfl, hFits, hFits', hForms⟩
  have hForms : (form "1").SameButCode (form "é = 2") :=
    ⟨rfl, iff_of_true ⟨"1", rfl, by decide⟩ ⟨"é = 2", rfl, by decide⟩⟩
  have hPosts : (post "1").SameButCode Config.default.maxBodyBytes (post "é = 2") :=
    hBodies (by decide +kernel) (by decide +kernel)
      ⟨_, _, JobForm.isLawful_codec.decodeBytes_encode _,
        JobForm.isLawful_codec.decodeBytes_encode _, hForms⟩
  have hInputs : List.Forall₂ (Input.SameButCode Config.default.maxBodyBytes)
      [.request "x" (post "1"), .request "y" look]
      [.request "x" (post "é = 2"), .request "y" look] :=
    .cons (.job "x" hPosts) (.cons (.same _) .nil)
  obtain ⟨hResponses, _, hVeiled, _⟩ := code_is_told_to_executors_only .default .epoch hInputs
  have hCode : (left.2.plane.jobs.get? "x").map Job.code ≠
      (right.2.plane.jobs.get? "x").map Job.code := by
    decide +kernel
  have hSecond : ∀ (r : Run) (first : Input), ∃ response,
      (r.run [first, .request "y" look]).1[1]? = some (.response response) := by
    intro r first
    rw [run_cons, run_cons]
    exact ⟨_, rfl⟩
  obtain ⟨response, hResponse⟩ := hSecond (start .default .epoch) (.request "x" (post "1"))
  refine ⟨⟨response, hResponse, (hResponses 1 response).1 hResponse⟩, hVeiled, ?_⟩
  intro hSame
  exact hCode (congrArg (Option.map Job.code) hSame)

end Run

end Admission
