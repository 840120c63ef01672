import Admission.Proofs.Registry.Listing
import Admission.Proofs.Run.Lifetime

/-!
# What the sweepers achieve

A sweeper is due when it starts and then once in every period of the timer.  The timer may move by
less than a period or by many periods at once, and may move as often as it likes: put together, the
due times of a sweeper along a run are the multiples of its period, counted from its start, up to
where the timer stands.  This holds because the timer never passes a due time without the sweeper
catching up, so that the due times up to one timer time and those from there to a later one are
together those up to the later one.

What a due sweep does is decided by the clock, which moves on its own.  Several sweeps in one move
of the timer see the same clock, so one of them does the work of all, and for the same reason a move
in two parts leaves what the whole move leaves.

## Main results

* `Sweeper.dueTimes_append`: the due times up to a timer time, and from there on.
* `Run.Scheduled.step`, `Run.fellDue_step`: what one input does to the sweepers, and what falls due
  during it.
* `Run.sweeper_keeps_its_schedule`: the sweepers along a run, and what their sweeps leave.
-/

namespace Admission

open Admission.Store Admission.Time

/-! ## Due times -/

namespace Sweeper

variable {s : Sweeper} {k t a b u : Nat}

/-- The timer times up to a given one at which a sweeper falls due, the next one first. -/
def dueTimes (s : Sweeper) (time : Nat) : List Nat :=
  (List.range (s.dueCount time)).map fun n => s.due + n * s.period

theorem dueCount_pos_iff (s : Sweeper) (time : Nat) :
    0 < s.dueCount time ↔ ∃ u, u ∈ s.dueTimes time := by
  rw [← List.length_pos_iff_exists_mem, dueTimes, List.length_map, List.length_range]

/-- A sweeper falls due at its next due time, and from there on with its period. -/
theorem mem_dueTimes_iff (hPeriod : 0 < s.period) (time : Nat) :
    u ∈ s.dueTimes time ↔ u ≤ time ∧ ∃ n, u = s.due + n * s.period := by
  have hCount : ∀ n, n < s.dueCount time ↔ s.due + n * s.period ≤ time := by
    intro n
    rw [dueCount]
    split
    · next hNone =>
        have hLate : time < s.due := hNone.resolve_left (Nat.ne_of_gt hPeriod)
        omega
    · next hSome =>
        have hDue : s.due ≤ time := Nat.le_of_not_lt fun hLate => hSome (.inr hLate)
        rw [Nat.lt_succ_iff, Nat.le_div_iff_mul_le hPeriod]
        omega
  simp only [dueTimes, List.mem_map, List.mem_range]
  constructor
  · rintro ⟨n, hn, rfl⟩
    exact ⟨(hCount n).1 hn, n, rfl⟩
  · rintro ⟨hTime, n, rfl⟩
    exact ⟨n, (hCount n).2 hTime, rfl⟩

/-- The due times up to a timer time, and those from there to a later one. -/
theorem dueTimes_append (s : Sweeper) (hab : a ≤ b) :
    s.dueTimes a ++ (s.catchUp a).dueTimes b = s.dueTimes b := by
  have hLater : (fun n => (s.catchUp a).due + n * (s.catchUp a).period) =
      (fun n => s.due + n * s.period) ∘ fun n => s.dueCount a + n := by
    funext n
    show s.due + s.dueCount a * s.period + n * s.period =
      s.due + (s.dueCount a + n) * s.period
    rw [Nat.add_mul, Nat.add_assoc]
  rw [dueTimes, dueTimes, dueTimes, hLater, ← List.map_map, ← List.map_append, ← List.range_add,
    dueCount_catchUp hab]

/-- Of the due times from a start on, those after a timer time are left to a sweeper that caught up
with it. -/
theorem mem_dueTimes_catchUp_iff (hPeriod : 0 < k) (hab : a ≤ b) :
    u ∈ ((start k t).catchUp a).dueTimes b ↔ (∃ n, u = t + n * k) ∧ a < u ∧ u ≤ b := by
  have hDue : ∀ time, u ∈ (start k t).dueTimes time ↔ u ≤ time ∧ ∃ n, u = t + n * k :=
    mem_dueTimes_iff hPeriod
  have hWhole := hDue b
  rw [← dueTimes_append _ hab, List.mem_append] at hWhole
  constructor
  · intro hMem
    obtain ⟨hUpTo, n, hMultiple⟩ := hWhole.1 (.inr hMem)
    have hNext : a < ((start k t).catchUp a).due := catchUp_due hPeriod a
    obtain ⟨_, m, hLater⟩ :=
      (mem_dueTimes_iff (s := (start k t).catchUp a) hPeriod b).1 hMem
    exact ⟨⟨n, hMultiple⟩, by omega, hUpTo⟩
  · rintro ⟨hMultiple, hAfter, hUpTo⟩
    refine (hWhole.2 ⟨hUpTo, hMultiple⟩).resolve_left fun hMem => ?_
    exact absurd ((hDue a).1 hMem).1 (Nat.not_le.2 hAfter)

/-- How many sweeps fell due since a start. -/
theorem dueCount_start (hPeriod : 0 < k) (h : t ≤ u) :
    (start k t).dueCount u = (u - t) / k + 1 := by
  rw [start, dueCount, if_neg]
  rintro (hZero | hLate)
  · exact absurd hZero (Nat.ne_of_gt hPeriod)
  · exact absurd hLate (Nat.not_lt.2 h)

end Sweeper

/-! ## What a sweep leaves -/

/-- A sweep leaves as many sessions as are live. -/
theorem Registry.size_sweep (r : Registry) (now : Instant) :
    (r.sweep now).2.size = ((r.sweep now).2.list now).length := by
  rw [length_list, sweep_sweep]

namespace Run

/-- The registry of the second run holds what that of the first held and is live by its clock, and
nothing else; the jobs are the same. -/
structure Reclaims (r r' : Run) : Prop where
  held_eq : ∀ id, r'.held? id = (r.held? id).filter (·.isLive r.now)
  size_eq : r'.plane.sessions.size = (r'.plane.sessions.list r'.now).length
  jobs_eq : r'.plane.jobs = r.plane.jobs

variable {r r' : Run} {timer timer' : Nat}

theorem reclaims_of_sweep (hPlane : r'.plane = (r.plane.sweep r.now).2) (hNow : r'.now = r.now) :
    r.Reclaims r' where
  held_eq := by
    intro id
    rw [held?, hPlane]
    exact Table.get?_keep ..
  size_eq := by
    rw [hPlane, hNow]
    exact r.plane.sessions.size_sweep r.now
  jobs_eq := by rw [hPlane]; rfl

/-! ### Sweeps that fall due -/

theorem sweepDue_of_due {sweepers : List Sweeper} {s : Sweeper} (hMem : s ∈ sweepers)
    (hDue : 0 < s.dueCount timer) (p : Plane) (now : Instant) :
    sweepDue sweepers timer p now = (p.sweep now).2 := by
  rw [sweepDue_eq, if_pos]
  exact List.any_eq_true.2 ⟨s, hMem, decide_eq_true hDue⟩

theorem sweepDue_of_not_due {sweepers : List Sweeper}
    (hNone : ∀ s ∈ sweepers, s.dueCount timer = 0) (p : Plane) (now : Instant) :
    sweepDue sweepers timer p now = p := by
  rw [sweepDue_eq, if_neg]
  intro hAny
  obtain ⟨s, hMem, hDue⟩ := List.any_eq_true.1 hAny
  exact absurd (hNone s hMem) (Nat.ne_of_gt (of_decide_eq_true hDue))

/-- The sweeps up to a timer time, and those from there to a later one by sweepers that caught up,
leave what all of them leave in one go. -/
theorem sweepDue_sweepDue (sweepers : List Sweeper) (h : timer ≤ timer') (p : Plane)
    (now : Instant) :
    sweepDue (sweepers.map fun s => s.catchUp timer) timer' (sweepDue sweepers timer p now) now =
      sweepDue sweepers timer' p now := by
  have hCount : ∀ s : Sweeper, s.dueCount timer + (s.catchUp timer).dueCount timer' =
      s.dueCount timer' := fun s => Sweeper.dueCount_catchUp h
  by_cases hNone : ∀ s ∈ sweepers, s.dueCount timer = 0
  · -- nothing falls due before: what does later is due in the whole
    rw [sweepDue_of_not_due hNone]
    by_cases hLater : ∀ s ∈ sweepers, s.dueCount timer' = 0
    · rw [sweepDue_of_not_due hLater]
      refine sweepDue_of_not_due (List.forall_mem_map.2 fun s hMem => ?_) p now
      have := hCount s
      have := hLater s hMem
      omega
    · push Not at hLater
      obtain ⟨s, hMem, hDue⟩ := hLater
      rw [sweepDue_of_due hMem (Nat.pos_of_ne_zero hDue)]
      refine sweepDue_of_due (List.mem_map_of_mem hMem) ?_ p now
      have := hCount s
      have := hNone s hMem
      omega
  · -- a sweep came before: another one at the same clock changes nothing
    push Not at hNone
    obtain ⟨s, hMem, hDue⟩ := hNone
    have := hCount s
    rw [sweepDue_of_due hMem (Nat.pos_of_ne_zero hDue), sweepDue_of_due hMem (by omega), sweepDue_eq]
    split
    · exact p.sweep_sweep now
    · rfl

/-- A move of the timer in two parts leaves what the whole move leaves. -/
theorem tick_tick (r : Run) (a b : Nat) :
    ((r.step (.tick a)).2.step (.tick b)).2 = (r.step (.tick (a + b))).2 := by
  have hTimer : r.timer + a ≤ r.timer + (a + b) := by omega
  simp only [step, Run.mk.injEq, true_and, Nat.add_assoc, List.map_map]
  refine ⟨sweepDue_sweepDue r.sweepers hTimer r.plane r.now, ?_⟩
  exact List.map_congr_left fun s _ => s.catchUp_catchUp hTimer

/-! ## The sweepers along a run -/

/-- The timer times at which an input starts sweepers. -/
def startsIn (r : Run) : Input → List Nat
  | .startSweeper => [r.timer]
  | _ => []

/-- The timer times at which the sweepers of a run start, in their order. -/
def startTimes (r : Run) : List Input → List Nat
  | [] => []
  | input :: inputs => r.startsIn input ++ (r.step input).2.startTimes inputs

/-- The timer times at which the `i`th sweeper falls due during one input.  A sweeper that starts
may fall due at once. -/
def dueIn (r : Run) (i : Nat) : Input → List Nat
  | .tick seconds => (r.sweepers[i]?.map (·.dueTimes (r.timer + seconds))).getD []
  | .startSweeper =>
    if i = r.sweepers.length then
      (Sweeper.start r.config.sweepIntervalSeconds r.timer).dueTimes r.timer
    else []
  | _ => []

/-- The timer times at which the `i`th sweeper falls due along a run. -/
def dueAlong (r : Run) (i : Nat) : List Input → List Nat
  | [] => []
  | input :: inputs => r.dueIn i input ++ (r.step input).2.dueAlong i inputs

/-- The sweepers are those that started at given timer times, and they caught up with the timer. -/
structure Scheduled (r : Run) (starts : List Nat) : Prop where
  past : ∀ t ∈ starts, t ≤ r.timer
  sweepers_eq : r.sweepers = starts.map fun t =>
    (Sweeper.start r.config.sweepIntervalSeconds t).catchUp r.timer

/-- What fell due up to a timer time, with the `i`th sweeper started at the `i`th of given times. -/
def fellDue (period : Nat) (starts : List Nat) (i timer : Nat) : List Nat :=
  (starts[i]?.map fun t => (Sweeper.start period t).dueTimes timer).getD []

variable {starts : List Nat}

theorem scheduled_start (config : Config) (now : Instant) : (start config now).Scheduled [] :=
  ⟨nofun, rfl⟩

/-- What one input does to the sweepers. -/
theorem Scheduled.step (h : r.Scheduled starts) (input : Input) :
    (r.step input).2.Scheduled (starts ++ r.startsIn input) := by
  cases input with
  | startSweeper =>
      refine ⟨fun t hMem => ?_, ?_⟩
      · rcases List.mem_append.1 hMem with hOld | hNew
        · exact h.past t hOld
        · exact Nat.le_of_eq (List.mem_singleton.1 hNew)
      · show r.sweepers ++ _ = _
        rw [startsIn, List.map_append, h.sweepers_eq]
        rfl
  | tick seconds =>
      simp only [startsIn, List.append_nil]
      refine ⟨fun t hMem => Nat.le_add_right_of_le (h.past t hMem), ?_⟩
      show r.sweepers.map (·.catchUp (r.timer + seconds)) = starts.map fun t =>
        (Sweeper.start r.config.sweepIntervalSeconds t).catchUp (r.timer + seconds)
      rw [h.sweepers_eq, List.map_map]
      exact List.map_congr_left fun t _ =>
        Sweeper.catchUp_catchUp _ (Nat.le_add_right r.timer seconds)
  | advance ns =>
      obtain ⟨now, hNow⟩ := r.exists_step_advance ns
      simp only [hNow, startsIn, List.append_nil]
      exact ⟨h.past, h.sweepers_eq⟩
  | _ =>
      simp only [startsIn, List.append_nil]
      exact ⟨h.past, h.sweepers_eq⟩

/-- What one input adds to what fell due. -/
theorem fellDue_step (h : r.Scheduled starts) (i : Nat) (input : Input) :
    fellDue r.config.sweepIntervalSeconds starts i r.timer ++ r.dueIn i input =
      fellDue r.config.sweepIntervalSeconds (starts ++ r.startsIn input) i
        (r.step input).2.timer := by
  cases input with
  | tick seconds =>
      have hLater := Nat.le_add_right r.timer seconds
      simp only [dueIn, startsIn, List.append_nil, h.sweepers_eq, List.getElem?_map]
      show _ = fellDue _ starts i (r.timer + seconds)
      rw [fellDue, fellDue]
      cases starts[i]? with
      | none => rfl
      | some t => exact Sweeper.dueTimes_append _ hLater
  | startSweeper =>
      have hLength : r.sweepers.length = starts.length := by
        rw [h.sweepers_eq, List.length_map]
      show _ = fellDue _ (starts ++ [r.timer]) i r.timer
      rw [dueIn, hLength, fellDue, fellDue]
      rcases Nat.lt_trichotomy i starts.length with hOld | rfl | hNone
      · rw [if_neg (Nat.ne_of_lt hOld), List.append_nil, List.getElem?_append_left hOld]
      · rw [if_pos rfl, List.getElem?_concat_length, List.getElem?_eq_none (Nat.le_refl _)]
        rfl
      · rw [if_neg (Nat.ne_of_gt hNone), List.getElem?_eq_none (Nat.le_of_lt hNone),
          List.getElem?_eq_none]
        · rfl
        · rw [List.length_append, List.length_singleton]
          exact hNone
  | advance ns =>
      obtain ⟨now, hNow⟩ := r.exists_step_advance ns
      simp only [hNow, dueIn, startsIn, List.append_nil]
  | _ =>
      simp only [dueIn, startsIn, List.append_nil]
      rfl

/-- The sweepers of a run, and what fell due along it. -/
theorem Scheduled.run (h : r.Scheduled starts) (inputs : List Input) :
    (r.run inputs).2.Scheduled (starts ++ r.startTimes inputs) ∧
      ∀ i, fellDue r.config.sweepIntervalSeconds starts i r.timer ++ r.dueAlong i inputs =
        fellDue r.config.sweepIntervalSeconds (starts ++ r.startTimes inputs) i
          (r.run inputs).2.timer := by
  induction inputs generalizing r starts with
  | nil =>
      rw [startTimes, List.append_nil]
      exact ⟨h, fun i => List.append_nil _⟩
  | cons input inputs ih =>
      obtain ⟨hEnd, hDue⟩ := ih (h.step input)
      rw [run_cons, startTimes, ← List.append_assoc]
      refine ⟨hEnd, fun i => ?_⟩
      have hRest := hDue i
      rw [config_step] at hRest
      rw [dueAlong, ← List.append_assoc, fellDue_step h, hRest]

/-- A move of the timer brings a sweep due if it passes or meets a multiple of the period, counted
from the start of some sweeper. -/
theorem Scheduled.exists_due_iff (h : r.Scheduled starts)
    (hPeriod : 0 < r.config.sweepIntervalSeconds) (seconds : Nat) :
    (∃ s ∈ r.sweepers, 0 < s.dueCount (r.timer + seconds)) ↔
      ∃ t ∈ starts, ∃ n, r.timer < t + n * r.config.sweepIntervalSeconds ∧
        t + n * r.config.sweepIntervalSeconds ≤ r.timer + seconds := by
  have hDue : ∀ t, 0 < ((Sweeper.start r.config.sweepIntervalSeconds t).catchUp r.timer).dueCount
      (r.timer + seconds) ↔ ∃ n, r.timer < t + n * r.config.sweepIntervalSeconds ∧
        t + n * r.config.sweepIntervalSeconds ≤ r.timer + seconds := by
    intro t
    rw [Sweeper.dueCount_pos_iff]
    simp only [Sweeper.mem_dueTimes_catchUp_iff hPeriod (Nat.le_add_right r.timer seconds)]
    constructor
    · rintro ⟨u, ⟨n, rfl⟩, hTimes⟩
      exact ⟨n, hTimes⟩
    · rintro ⟨n, hTimes⟩
      exact ⟨_, ⟨n, rfl⟩, hTimes⟩
  rw [h.sweepers_eq]
  constructor
  · rintro ⟨s, hMem, hSome⟩
    obtain ⟨t, hStart, rfl⟩ := List.mem_map.1 hMem
    exact ⟨t, hStart, (hDue t).1 hSome⟩
  · rintro ⟨t, hStart, hSome⟩
    exact ⟨_, List.mem_map_of_mem hStart, (hDue t).2 hSome⟩

/-- What a move of the timer leaves if it brings a sweep due, and if it does not. -/
theorem reclaims_tick_of_due {seconds : Nat}
    (hDue : ∃ s ∈ r.sweepers, 0 < s.dueCount (r.timer + seconds)) :
    r.Reclaims (r.step (.tick seconds)).2 := by
  obtain ⟨s, hMem, hSome⟩ := hDue
  exact reclaims_of_sweep (sweepDue_of_due hMem hSome r.plane r.now) rfl

theorem plane_tick_of_not_due {seconds : Nat}
    (hNone : ¬∃ s ∈ r.sweepers, 0 < s.dueCount (r.timer + seconds)) :
    (r.step (.tick seconds)).2.plane = r.plane := by
  refine sweepDue_of_not_due (fun s hMem => ?_) r.plane r.now
  exact Nat.eq_zero_of_not_pos fun hSome => hNone ⟨s, hMem, hSome⟩

/-- The first sweep of a sweeper is due when it starts. -/
theorem reclaims_startSweeper (hPeriod : 0 < r.config.sweepIntervalSeconds) :
    r.Reclaims (r.step .startSweeper).2 := by
  have hDue : 0 < (Sweeper.start r.config.sweepIntervalSeconds r.timer).dueCount r.timer := by
    rw [Sweeper.dueCount_start hPeriod (Nat.le_refl _)]
    exact Nat.succ_pos _
  exact reclaims_of_sweep (sweepDue_of_due List.mem_cons_self hDue r.plane r.now) rfl

/-- **What the sweepers achieve.**  Take any run under a configuration with a sweep interval of at
least a second.  A sweeper fell due when it started and then at each multiple of the interval since,
up to where the timer stands, however the timer was moved; the next multiple is when it falls due
next.  When a sweeper starts, and when the timer moves past or onto such a time of some sweeper, the
registry holds just the sessions that it held before and that are live by the clock, as many as are
listed; any other move of the timer leaves the stores as they were.  Moving the timer twice leaves
what moving it once by the sum leaves. -/
theorem sweeper_keeps_its_schedule (config : Config) (hPeriod : 1 ≤ config.sweepIntervalSeconds)
    (now : Instant) (inputs : List Input) :
    let k := config.sweepIntervalSeconds
    let r := ((start config now).run inputs).2
    let starts := (start config now).startTimes inputs
    r.sweepers.length = starts.length ∧
    (∀ i t, starts[i]? = some t →
      t ≤ r.timer ∧
      (start config now).dueAlong i inputs =
        (List.range ((r.timer - t) / k + 1)).map (fun n => t + n * k) ∧
      r.sweepers[i]? = some ⟨k, t + ((r.timer - t) / k + 1) * k⟩) ∧
    r.Reclaims (r.step .startSweeper).2 ∧
    (∀ seconds,
      ((∃ t ∈ starts, ∃ n, r.timer < t + n * k ∧ t + n * k ≤ r.timer + seconds) →
        r.Reclaims (r.step (.tick seconds)).2) ∧
      ((¬∃ t ∈ starts, ∃ n, r.timer < t + n * k ∧ t + n * k ≤ r.timer + seconds) →
        (r.step (.tick seconds)).2.plane = r.plane)) ∧
    ∀ a b, (r.run [.tick a, .tick b]).2 = (r.run [.tick (a + b)]).2 := by
  intro k r starts
  obtain ⟨hEnd, hFell⟩ := (scheduled_start config now).run inputs
  replace hEnd : r.Scheduled starts := hEnd
  have hConfig : r.config.sweepIntervalSeconds = k := by rw [config_run]; rfl
  have hPeriod' : 0 < r.config.sweepIntervalSeconds := hConfig ▸ hPeriod
  refine ⟨?_, ?_, reclaims_startSweeper hPeriod', ?_, fun a b => tick_tick r a b⟩
  · rw [hEnd.sweepers_eq, List.length_map]
  · intro i t hStart
    have hPast : t ≤ r.timer := hEnd.past t (List.mem_of_getElem? hStart)
    have hCount : (Sweeper.start k t).dueCount r.timer = (r.timer - t) / k + 1 :=
      Sweeper.dueCount_start hPeriod hPast
    have hDue : (start config now).dueAlong i inputs = (Sweeper.start k t).dueTimes r.timer := by
      have hAll := hFell i
      rw [fellDue, fellDue, List.nil_append, hStart] at hAll
      exact hAll
    refine ⟨hPast, ?_, ?_⟩
    · rw [hDue, Sweeper.dueTimes, hCount]
      rfl
    · rw [hEnd.sweepers_eq, List.getElem?_map, hStart, hConfig, ← hCount]
      rfl
  · intro seconds
    rw [← hConfig, ← hEnd.exists_due_iff hPeriod' seconds]
    exact ⟨reclaims_tick_of_due, plane_tick_of_not_due⟩

/-- A sweeper starts at the timer time 5, in a run whose timer then moves in uneven parts. -/
theorem uneven_moves_do_not_shift_sweeps :
    let config : Config := .default
    let k := config.sweepIntervalSeconds
    let inputs : List Input := [.tick 5, .startSweeper, .tick (k - 1), .tick 0, .tick (2 * k + 1)]
    1 ≤ k ∧ (start config .epoch).dueAlong 0 inputs = [5, 5 + k, 5 + 2 * k, 5 + 3 * k] := by
  intro config k inputs
  have hPeriod : 1 ≤ k := by decide
  obtain ⟨_, hSchedule, _⟩ := sweeper_keeps_its_schedule config hPeriod .epoch inputs
  obtain ⟨_, hDue, _⟩ := hSchedule 0 5 (by decide)
  exact ⟨hPeriod, hDue.trans (by decide)⟩

end Run

end Admission
