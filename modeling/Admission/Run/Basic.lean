import Admission.Http.Api
import Admission.Run.Sweeper

/-!
# Runs of the control plane

A run is a control plane under a configuration, with a clock that moves when it is told to and a
timer of its own for the sweepers.  Callers send requests, executors claim and complete jobs, and
sweeps happen by hand or by a sweeper; each is one input, carried out to its end before the next.

A move of the clock that would leave the calendar does not happen.  A move of the timer may bring
many sweeps due, and they are carried out one after the other before the next input.

## Main results

* `Run.sweepDue_eq`: of the sweeps that are due at once, one does the work of all.
-/

namespace Admission

open Admission.Http Admission.Time

/-- A control plane that runs. -/
structure Run where
  config : Config
  plane : Plane
  now : Instant
  timer : Nat
  sweepers : List Sweeper

namespace Run

/-- What happens to a control plane. -/
inductive Input where
  /-- A request, with a generated id at hand. -/
  | request (fresh : String) (request : Request)
  | claim
  | complete (id : String) (succeeded : Bool)
  | peek (id : String)
  | listSessions
  | sweep
  /-- A move of the clock by nanoseconds. -/
  | advance (ns : Int)
  | startSweeper
  /-- A move of the timer by seconds. -/
  | tick (seconds : Nat)
  deriving DecidableEq, Repr

/-- What can be seen of an input. -/
inductive Output where
  | response (response : Response)
  | job (answer : Queue.Answer)
  | sessions (sessions : List Session)
  | swept (count : Nat)
  | advanced (now : Instant)
  | stuck (now : Instant)
  | done
  deriving DecidableEq, Repr

/-- A control plane to which nothing has happened. -/
def start (config : Config) (now : Instant) : Run := ⟨config, .empty, now, 0, []⟩

/-- The stores after the sweeps of some sweepers that fall due up to a timer time, one sweeper after
the other. -/
def sweepDue (sweepers : List Sweeper) (timer : Nat) (p : Plane) (now : Instant) : Plane :=
  sweepers.foldl (fun p s => p.sweepTimes now (s.dueCount timer)) p

/-- The sweeps all see the same clock, so one of them does the work of all. -/
theorem sweepDue_eq (sweepers : List Sweeper) (timer : Nat) (p : Plane) (now : Instant) :
    sweepDue sweepers timer p now =
      if sweepers.any fun s => 0 < s.dueCount timer then (p.sweep now).2 else p := by
  induction sweepers generalizing p with
  | nil => rfl
  | cons s sweepers ih =>
      have hRest : sweepDue (s :: sweepers) timer p now =
          sweepDue sweepers timer (p.sweepTimes now (s.dueCount timer)) now := rfl
      rw [hRest, ih, List.any_cons]
      cases s.dueCount timer with
      | zero => simp [Plane.sweepTimes]
      | succ n => simp [Plane.sweepTimes_succ, Plane.sweep_sweep]

/-- Sweeps have nothing to do with jobs. -/
theorem jobs_sweepDue (sweepers : List Sweeper) (timer : Nat) (p : Plane) (now : Instant) :
    (sweepDue sweepers timer p now).jobs = p.jobs := by
  rw [sweepDue_eq]
  split <;> rfl

/-- An operation of an executor. -/
def work (r : Run) (op : Queue.Op) : Output × Run :=
  let (answer, jobs) := r.plane.jobs.step op
  (.job answer, { r with plane := { r.plane with jobs := jobs } })

/-- Carry out one input. -/
def step (r : Run) : Input → Output × Run
  | .request fresh request =>
    let (response, plane) := answer r.config r.now fresh request r.plane
    (.response response, { r with plane := plane })
  | .claim => r.work .claimNext
  | .complete id succeeded => r.work (.complete id succeeded)
  | .peek id => r.work (.get id)
  | .listSessions => (.sessions (r.plane.sessions.list r.now), r)
  | .sweep => (.swept (r.plane.sweep r.now).1, { r with plane := (r.plane.sweep r.now).2 })
  | .advance ns =>
    match r.now.add? ns with
    | some now => (.advanced now, { r with now := now })
    | none => (.stuck r.now, r)
  | .startSweeper =>
    let s := Sweeper.start r.config.sweepIntervalSeconds r.timer
    (.done, { r with
      plane := sweepDue [s] r.timer r.plane r.now
      sweepers := r.sweepers ++ [s.catchUp r.timer] })
  | .tick seconds =>
    let timer := r.timer + seconds
    (.done, { r with
      plane := sweepDue r.sweepers timer r.plane r.now
      timer := timer
      sweepers := r.sweepers.map fun s => s.catchUp timer })

/-- Carry out inputs one after the other, with what is seen of each. -/
def run (r : Run) : List Input → List Output × Run
  | [] => ([], r)
  | input :: inputs =>
    let (output, r') := r.step input
    let (outputs, r'') := r'.run inputs
    (output :: outputs, r'')

theorem step_request (r : Run) (fresh : String) (request : Request) :
    r.step (.request fresh request) =
      (.response (answer r.config r.now fresh request r.plane).1,
        { r with plane := (answer r.config r.now fresh request r.plane).2 }) :=
  rfl

theorem run_cons (r : Run) (input : Input) (inputs : List Input) :
    r.run (input :: inputs) = ((r.step input).1 :: ((r.step input).2.run inputs).1,
      ((r.step input).2.run inputs).2) :=
  rfl

/-- A move of the clock changes nothing else. -/
theorem exists_step_advance (r : Run) (ns : Int) :
    ∃ now, (r.step (.advance ns)).2 = { r with now := now } := by
  rw [step]
  cases r.now.add? ns with
  | none => exact ⟨r.now, rfl⟩
  | some now => exact ⟨now, rfl⟩

theorem config_step (r : Run) (input : Input) : (r.step input).2.config = r.config := by
  cases input with
  | advance ns =>
      obtain ⟨now, hNow⟩ := r.exists_step_advance ns
      rw [hNow]
  | _ => rfl

theorem config_run (r : Run) (inputs : List Input) : (r.run inputs).2.config = r.config := by
  induction inputs generalizing r with
  | nil => rfl
  | cons input inputs ih => rw [run_cons, ih, config_step]

end Run

end Admission
