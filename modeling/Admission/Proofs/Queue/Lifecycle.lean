import Admission.Proofs.Queue.Delivery
import Mathlib.Data.List.Basic

/-!
# The life of a job

What a look-up finds under an id is decided by what happened to the id so far: the first submission
under it, whether a claim handed that job out, and how an executor ended it.  Each of the three
happens at most once and in this order, so a job only moves from pending to running to done or
failed; an id that was ever submitted stays taken, and the code is gone from the claim on.

The three are read off the history, without regard to the queue: `submissions`, `claims` and
`endings`.  `Lived` ties them to the stored record, and every transition keeps it for every id.

## Main results

* `lifecycle`: the record of an id, the answers to operations on it, and the moves it can make,
  after any operations.
-/

namespace Admission.Queue

/-! ## What a history tells about an id -/

/-- The jobs submitted under an id, each with the answer to its submission. -/
def submissions (id : String) (steps : List (Op × Answer)) :
    List (Job × Answer) :=
  steps.filterMap fun
    | (.enqueue job, answer) => if job.id = id then some (job, answer) else none
    | _ => none

/-- How often claims handed out a job of an id. -/
def claims (id : String) (steps : List (Op × Answer)) : Nat :=
  (delivered steps).countP fun job => job.id = id

/-- How executors ended the job of an id, by the completions that were confirmed. -/
def endings (id : String) (steps : List (Op × Answer)) : List Bool :=
  steps.filterMap fun
    | (.complete ended succeeded, .completed _) =>
      if ended = id then some succeeded else none
    | _ => none

/-- The status that claims and endings bring a submitted job to. -/
def stage (claims : Nat) : List Bool → JobStatus
  | [] => if claims = 0 then .pending else .running
  | succeeded :: _ => .ending succeeded

/-- A submitted job at its stage, and with its code until the claim. -/
def record (job : Job) (claims : Nat) (endings : List Bool) : Job :=
  { job with
    status := stage claims endings
    code := if claims = 0 then job.code else "" }

/-- The record of an id by its history: that of the first submission. -/
def standing (id : String) (steps : List (Op × Answer)) : Option Job :=
  (submissions id steps).head?.map fun (job, _) =>
    record job (claims id steps) (endings id steps)

theorem submissions_append (id : String) (steps more : List (Op × Answer)) :
    submissions id (steps ++ more) = submissions id steps ++ submissions id more :=
  List.filterMap_append

theorem claims_append (id : String) (steps more : List (Op × Answer)) :
    claims id (steps ++ more) = claims id steps + claims id more := by
  rw [claims, delivered, List.filterMap_append]
  exact List.countP_append

theorem endings_append (id : String) (steps more : List (Op × Answer)) :
    endings id (steps ++ more) = endings id steps ++ endings id more :=
  List.filterMap_append

theorem stage_eq_pending_iff {claims : Nat} {endings : List Bool} :
    stage claims endings = .pending ↔ claims = 0 ∧ endings = [] := by
  cases endings with
  | nil => by_cases h : claims = 0 <;> simp [stage, h]
  | cons succeeded _ => cases succeeded <;> simp [stage, JobStatus.ending]

theorem stage_eq_running_iff {claims : Nat} {endings : List Bool} :
    stage claims endings = .running ↔ claims ≠ 0 ∧ endings = [] := by
  cases endings with
  | nil => by_cases h : claims = 0 <;> simp [stage, h]
  | cons succeeded _ => cases succeeded <;> simp [stage, JobStatus.ending]

private theorem record_claimed {job submitted : Job}
    (h : record submitted 0 [] = job) :
    { job with status := .running, code := "" } = record submitted 1 [] := by
  subst h
  rfl

private theorem record_ended {job submitted : Job} {claims : Nat}
    (h : record submitted claims [] = job) (succeeded : Bool) :
    { job with status := .ending succeeded } = record submitted claims [succeeded] := by
  subst h
  rfl

theorem standing_eq_none_iff {id : String} {steps : List (Op × Answer)} :
    standing id steps = none ↔ submissions id steps = [] := by
  rw [standing, Option.map_eq_none_iff, List.head?_eq_none_iff]

/-! ## The history of an id and its record -/

/-- The history of an id runs in order, and the queue holds the record that it tells. -/
structure Lived (id : String) (steps : List (Op × Answer)) (q : Queue) :
    Prop where
  stored : q.get? id = standing id steps
  answers : ∀ i answer,
    ((submissions id steps).map Prod.snd)[i]? = some answer →
      answer = if i = 0 then .enqueued else .refused (.duplicateId id)
  claims_le_one : claims id steps ≤ 1
  claims_le : claims id steps ≤ (submissions id steps).length
  endings_le : (endings id steps).length ≤ claims id steps

variable {id : String} {steps : List (Op × Answer)} {q q' : Queue} {op : Op} {answer : Answer}

/-- A stored job is the record of the first submission of its id. -/
private theorem Lived.submitted (h : Lived id steps q) {job : Job} (hJob : q.get? id = some job) :
    ∃ submitted answer,
      (submissions id steps).head? = some (submitted, answer) ∧
        record submitted (claims id steps) (endings id steps) = job := by
  have hStanding := h.stored.symm.trans hJob
  rw [standing, Option.map_eq_some_iff] at hStanding
  obtain ⟨⟨submitted, answer⟩, hHead, hRecord⟩ := hStanding
  exact ⟨submitted, answer, hHead, hRecord⟩

theorem lived_empty (id : String) : Lived id [] empty where
  stored := rfl
  answers := by simp [submissions]
  claims_le_one := by simp [claims, delivered]
  claims_le := by simp [claims, delivered]
  endings_le := by simp [endings]

/-- One more step, by what it adds to the submissions, claims and endings of the id. -/
private theorem Lived.extend {newSubmissions : List (Job × Answer)}
    {newClaims : Nat} {newEndings : List Bool}
    (hSubmissions : submissions id [(op, answer)] = newSubmissions)
    (hClaims : claims id [(op, answer)] = newClaims)
    (hEndings : endings id [(op, answer)] = newEndings)
    (hStored : q'.get? id =
      (submissions id steps ++ newSubmissions).head?.map fun (job, _) =>
        record job (claims id steps + newClaims) (endings id steps ++ newEndings))
    (hAnswers : ∀ i answer,
      ((submissions id steps ++ newSubmissions).map Prod.snd)[i]? =
          some answer →
        answer = if i = 0 then .enqueued else .refused (.duplicateId id))
    (hOne : claims id steps + newClaims ≤ 1)
    (hClaimsLe : claims id steps + newClaims ≤ (submissions id steps ++ newSubmissions).length)
    (hEndingsLe : (endings id steps ++ newEndings).length ≤ claims id steps + newClaims) :
    Lived id (steps ++ [(op, answer)]) q' := by
  subst hSubmissions hClaims hEndings
  rw [← submissions_append] at hStored hAnswers hClaimsLe
  rw [← claims_append] at hStored hOne hClaimsLe hEndingsLe
  rw [← endings_append] at hStored hEndingsLe
  exact ⟨hStored, hAnswers, hOne, hClaimsLe, hEndingsLe⟩

/-- A step that does not concern the id, and leaves its record as it was. -/
private theorem Lived.stay (h : Lived id steps q)
    (hSubmissions : submissions id [(op, answer)] = []) (hClaims : claims id [(op, answer)] = 0)
    (hEndings : endings id [(op, answer)] = []) (hGet : q'.get? id = q.get? id) :
    Lived id (steps ++ [(op, answer)]) q' := by
  apply Lived.extend hSubmissions hClaims hEndings
  · rw [hGet, h.stored, List.append_nil, List.append_nil]
    rfl
  · rw [List.append_nil]
    exact h.answers
  · exact h.claims_le_one
  · rw [List.append_nil]
    exact h.claims_le
  · rw [List.append_nil]
    exact h.endings_le

/-- The first submission under an id: before it there was no claim and no ending. -/
private theorem Lived.accept {job : Job} (h : Lived job.id steps q) (hNew : q.get? job.id = none) :
    Lived job.id (steps ++ [(.enqueue job, .enqueued)])
      ⟨q.waiting ++ [job.id], q.jobs.put job.id { job with status := .pending }⟩ := by
  have hNone : submissions job.id steps = [] := by
    rw [← standing_eq_none_iff, ← h.stored, hNew]
  have hClaims : claims job.id steps = 0 := by
    have hLe := h.claims_le
    rw [hNone] at hLe
    exact Nat.le_zero.1 hLe
  have hEndings : endings job.id steps = [] := by
    have hLe := h.endings_le
    rw [hClaims] at hLe
    exact List.length_eq_zero_iff.1 (Nat.le_zero.1 hLe)
  have hAdded : submissions job.id [(.enqueue job, .enqueued)] =
      [(job, .enqueued)] := by
    simp [submissions]
  apply Lived.extend hAdded (show _ = 0 from rfl) (show _ = [] from rfl)
  · rw [get?_put, if_pos rfl, hNone, hClaims, hEndings]
    rfl
  · intro i answer hAnswer
    rw [hNone] at hAnswer
    cases i with
    | zero => exact (Option.some.inj hAnswer).symm
    | succ i => cases hAnswer
  · omega
  · omega
  · rw [hEndings]
    exact Nat.zero_le _

/-- A later submission under the id is refused and changes nothing. -/
private theorem Lived.duplicate {job held : Job} (h : Lived job.id steps q)
    (hHeld : q.get? job.id = some held) :
    Lived job.id (steps ++ [(.enqueue job, .refused (.duplicateId job.id))]) q := by
  have hSome : submissions job.id steps ≠ [] := by
    rw [Ne, ← standing_eq_none_iff, ← h.stored, hHeld]
    simp
  have hAdded : submissions job.id
      [(.enqueue job, .refused (.duplicateId job.id))] =
      [(job, .refused (.duplicateId job.id))] := by
    simp [submissions]
  apply Lived.extend hAdded (show _ = 0 from rfl) (show _ = [] from rfl)
  · rw [h.stored, List.head?_append_of_ne_nil _ hSome, List.append_nil]
    rfl
  · intro i answer hAnswer
    rw [List.map_append] at hAnswer
    have hLength : 0 < ((submissions job.id steps).map Prod.snd).length := by
      rw [List.length_map]
      exact List.length_pos_iff.2 hSome
    rcases Nat.lt_or_ge i ((submissions job.id steps).map Prod.snd).length
      with hOld | hLast
    · rw [List.getElem?_append_left hOld] at hAnswer
      exact h.answers i answer hAnswer
    · rw [List.getElem?_append_right hLast, List.map_singleton, List.getElem?_singleton] at hAnswer
      split at hAnswer
      · rw [if_neg (by omega)]
        exact (Option.some.inj hAnswer).symm
      · cases hAnswer
  · exact h.claims_le_one
  · rw [List.length_append]
    exact Nat.le_trans h.claims_le (Nat.le_add_right ..)
  · rw [List.append_nil]
    exact h.endings_le

/-- The claim of a pending job: the first one of its id, and before any ending. -/
private theorem Lived.claim {job : Job} (h : Lived job.id steps q)
    (hJob : q.get? job.id = some job) (hPending : job.status = .pending) (rest : List String) :
    Lived job.id
      (steps ++ [(.claimNext, .claimed (some { job with status := .running }))])
      ⟨rest, q.jobs.put job.id
        { job with status := .running, code := "" }⟩ := by
  obtain ⟨submitted, answer, hHead, hRecord⟩ := h.submitted hJob
  have hStage : stage (claims job.id steps) (endings job.id steps) =
      .pending := (congrArg Job.status hRecord).trans hPending
  obtain ⟨hClaims, hEndings⟩ := stage_eq_pending_iff.1 hStage
  rw [hClaims, hEndings] at hRecord
  have hAdded : claims job.id
      [(.claimNext, .claimed (some { job with status := .running }))] = 1 := by
    simp [claims, delivered]
  have hSome : submissions job.id steps ≠ [] := by
    intro hNone
    rw [hNone] at hHead
    cases hHead
  apply Lived.extend (show _ = [] from rfl) hAdded (show _ = [] from rfl)
  · rw [get?_put, if_pos rfl, hClaims, hEndings, record_claimed hRecord,
      List.append_nil (submissions job.id steps), hHead]
    rfl
  · rw [List.append_nil]
    exact h.answers
  · omega
  · have hLength := List.length_pos_iff.2 hSome
    rw [List.length_append]
    omega
  · rw [hEndings]
    exact Nat.zero_le _

/-- The end of a running job: the first one of its id, and after its claim. -/
private theorem Lived.finish {job : Job} {succeeded : Bool}
    (h : Lived job.id steps q) (hJob : q.get? job.id = some job)
    (hRunning : job.status = .running) {ended : Job} (waiting : List String) :
    Lived job.id
      (steps ++ [(.complete job.id succeeded, .completed ended)])
      ⟨waiting, q.jobs.put job.id
        { job with status := .ending succeeded }⟩ := by
  obtain ⟨submitted, answer, hHead, hRecord⟩ := h.submitted hJob
  have hStage : stage (claims job.id steps) (endings job.id steps) =
      .running := (congrArg Job.status hRecord).trans hRunning
  obtain ⟨hClaims, hEndings⟩ := stage_eq_running_iff.1 hStage
  rw [hEndings] at hRecord
  have hAdded : endings job.id
      [(.complete job.id succeeded, .completed ended)] = [succeeded] := by
    simp [endings]
  apply Lived.extend (show _ = [] from rfl) (show _ = 0 from rfl) hAdded
  · rw [get?_put, if_pos rfl, hEndings, record_ended hRecord, List.append_nil, hHead]
    rfl
  · rw [List.append_nil]
    exact h.answers
  · exact h.claims_le_one
  · rw [List.append_nil]
    exact h.claims_le
  · rw [hEndings]
    exact Nat.pos_of_ne_zero hClaims

/-- Every transition keeps the history of every id in order. -/
theorem Lived.transition (h : Lived id steps q)
    (hStep : Transition q op answer q') :
    Lived id (steps ++ [(op, answer)]) q' := by
  cases hStep with
  | @accept job hNew =>
      by_cases hId : job.id = id
      · subst hId
        exact h.accept hNew
      · exact h.stay (by simp [submissions, hId]) rfl rfl
          (by rw [get?_put, if_neg (Ne.symm hId)]; rfl)
  | @duplicate job held hHeld =>
      by_cases hId : job.id = id
      · subst hId
        exact h.duplicate hHeld
      · exact h.stay (by simp [submissions, hId]) rfl rfl rfl
  | @claim job rest hWaiting hJob hPending =>
      by_cases hId : job.id = id
      · subst hId
        exact h.claim hJob hPending rest
      · exact h.stay rfl (by simp [claims, delivered, hId]) rfl
          (by rw [get?_put, if_neg (Ne.symm hId)]; rfl)
  | @finish job succeeded hJob hRunning =>
      by_cases hId : job.id = id
      · subst hId
        exact h.finish hJob hRunning q.waiting
      · exact h.stay rfl rfl (by simp [endings, hId]) (by rw [get?_put, if_neg (Ne.symm hId)])
  | idle _ => exact h.stay rfl rfl rfl rfl
  | unknown _ => exact h.stay rfl rfl rfl rfl
  | notRunning _ _ => exact h.stay rfl rfl rfl rfl
  | look => exact h.stay rfl rfl rfl rfl

/-- After any operations the history of every id is in order. -/
theorem lived_history (ops : List Op) (id : String) :
    Lived id (history ops) (after ops) :=
  history_induction (lived_empty id) (fun _ _ _ _ _ _ hStep h => h.transition hStep) ops

/-! ## Moves -/

/-- What one operation can do to the record of an id. -/
inductive Move (id : String) : Op → Answer → Option Job → Option Job → Prop
    where
  | submit {job : Job} (hId : job.id = id) :
      Move id (.enqueue job) .enqueued none (some { job with status := .pending })
  | claim {job : Job} (hId : job.id = id) (hPending : job.status = .pending) :
      Move id .claimNext (.claimed (some { job with status := .running }))
        (some job) (some { job with status := .running, code := "" })
  | finish {job : Job} {succeeded : Bool} (hRunning : job.status = .running) :
      Move id (.complete id succeeded)
        (.completed { job with status := .ending succeeded })
        (some job) (some { job with status := .ending succeeded })
  | stay {op : Op} {answer : Answer} {record : Option Job} : Move id op answer record record

/-- A transition moves the record of every id as listed. -/
theorem Transition.move (hStep : Transition q op answer q') (id : String) :
    Move id op answer (q.get? id) (q'.get? id) := by
  cases hStep with
  | @accept job hNew =>
      rw [get?_put]
      by_cases hId : id = job.id
      · rw [if_pos hId, hId, hNew]
        exact .submit rfl
      · rw [if_neg hId]
        exact .stay
  | @claim job rest hWaiting hJob hPending =>
      rw [get?_put]
      by_cases hId : id = job.id
      · rw [if_pos hId, hId, hJob]
        exact .claim rfl hPending
      · rw [if_neg hId]
        exact .stay
  | @finish job succeeded hJob hRunning =>
      rw [get?_put]
      by_cases hId : id = job.id
      · rw [if_pos hId, hId, hJob]
        exact .finish hRunning
      · rw [if_neg hId]
        exact .stay
  | duplicate _ => exact .stay
  | idle _ => exact .stay
  | unknown _ => exact .stay
  | notRunning _ _ => exact .stay
  | look => exact .stay

/-- A refused operation leaves the queue as it was. -/
theorem Transition.refused {error : QueueError}
    (hStep : Transition q op (.refused error) q') : q' = q := by
  cases hStep <;> rfl

/-! ## The life of a job -/

/-- What a completion answers, by the history of its id. -/
theorem Lived.completion (h : Lived id steps q) {succeeded : Bool}
    (hStep : Transition q (.complete id succeeded) answer q') :
    answer =
      match (submissions id steps).head? with
      | none => .refused (.notFound id)
      | some (job, _) =>
        if claims id steps = 1 ∧ endings id steps = [] then
          .completed { job with status := .ending succeeded, code := "" }
        else
          .refused (.invalidTransition id
            (stage (claims id steps) (endings id steps))
            (.ending succeeded)) := by
  cases hStep with
  | @finish job _ hJob hRunning =>
      obtain ⟨submitted, _, hHead, hRecord⟩ := h.submitted hJob
      have hStage := (congrArg Job.status hRecord).trans hRunning
      obtain ⟨hClaims, hEndings⟩ := stage_eq_running_iff.1 hStage
      have hOne : claims job.id steps = 1 := by
        have := h.claims_le_one
        omega
      rw [hOne, hEndings] at hRecord
      rw [hHead, hOne, hEndings, record_ended hRecord]
      rfl
  | unknown hNone =>
      have hStanding := h.stored.symm.trans hNone
      rw [standing_eq_none_iff.1 hStanding]
      rfl
  | @notRunning job _ hJob hStatus =>
      obtain ⟨submitted, _, hHead, hRecord⟩ := h.submitted hJob
      have hStage : stage (claims job.id steps) (endings job.id steps) =
          job.status := congrArg Job.status hRecord
      have hNot : ¬(claims job.id steps = 1 ∧ endings job.id steps = []) := by
        rintro ⟨hOne, hEndings⟩
        exact hStatus (hStage.symm.trans (stage_eq_running_iff.2 ⟨by omega, hEndings⟩))
      rw [hHead]
      show _ = ite _ _ _
      rw [if_neg hNot, hStage]

/-- Once the job of an id has ended, its record never changes again. -/
theorem get?_after_append {ops : List Op} (hEnded : endings id (history ops) ≠ [])
    (more : List Op) : (after (ops ++ more)).get? id = (after ops).get? id := by
  have hBefore := lived_history ops id
  have hLater := lived_history (ops ++ more) id
  have hLength := List.length_pos_iff.2 hEnded
  have hEndingsLe := hBefore.endings_le
  have hSome : submissions id (history ops) ≠ [] := by
    have := hBefore.claims_le
    exact List.length_pos_iff.1 (by omega)
  have hClaimsLater := hLater.claims_le_one
  have hEndingsLater := hLater.endings_le
  rw [history_append] at hClaimsLater hEndingsLater
  rw [hLater.stored, hBefore.stored, history_append, standing, standing,
    submissions_append, List.head?_append_of_ne_nil _ hSome]
  rw [claims_append, endings_append, List.length_append] at hEndingsLater
  rw [claims_append] at hClaimsLater
  have hNoClaim : claims id (more.zip ((after ops).run more).1) = 0 := by omega
  have hNoEnding : endings id (more.zip ((after ops).run more).1) = [] :=
    List.length_eq_zero_iff.1 (by omega)
  rw [claims_append, endings_append, hNoClaim, hNoEnding, List.append_nil, Nat.add_zero]

/-- **The life of a job.**  After any operations on the empty queue, for every id, with `claims` and
`endings` what the history tells of it:

* the first submission of the id was accepted and every later one refused as a duplicate;
* it was handed out at most once, and only after a submission; it ended at most once, and only after
  it was handed out;
* a look-up finds the first submission, at the stage that claims and endings tell, and with its code
  until the claim;
* a completion succeeds exactly between the claim and the first ending, knows no id without a
  submission, and else tells the status and the one asked for;
* every operation leaves the record alone or makes one of the three moves, and no operation changes
  it once the job has ended;
* a refused operation leaves the queue as it was. -/
theorem lifecycle (ops : List Op) (id : String) :
    let steps := history ops
    let q := after ops
    let claims := claims id steps
    let endings := endings id steps
    (∀ i answer, ((submissions id steps).map Prod.snd)[i]? = some answer →
        answer = if i = 0 then .enqueued else .refused (.duplicateId id)) ∧
      (claims ≤ 1 ∧ claims ≤ (submissions id steps).length ∧ endings.length ≤ claims) ∧
      q.get? id = (submissions id steps).head?.map (fun (job, _) =>
        { job with
          status := stage claims endings
          code := if claims = 0 then job.code else "" }) ∧
      (∀ succeeded, (q.step (.complete id succeeded)).1 =
        match (submissions id steps).head? with
        | none => .refused (.notFound id)
        | some (job, _) =>
          if claims = 1 ∧ endings = [] then
            .completed { job with status := .ending succeeded, code := "" }
          else
            .refused (.invalidTransition id (stage claims endings) (.ending succeeded))) ∧
      (∀ op, Move id op (q.step op).1 (q.get? id) ((q.step op).2.get? id)) ∧
      (endings ≠ [] → ∀ more, (after (ops ++ more)).get? id = q.get? id) ∧
      (∀ op error, (q.step op).1 = .refused error → (q.step op).2 = q) := by
  intro steps q claims endings
  have hq : q.WellFormed := after_wellFormed ops
  have h : Lived id steps q := lived_history ops id
  refine ⟨h.answers, ⟨h.claims_le_one, h.claims_le, h.endings_le⟩, h.stored,
    ?_, ?_, ?_, ?_⟩
  · intro succeeded
    exact h.completion (step_transition hq (.complete id succeeded))
  · intro op
    exact (step_transition hq op).move id
  · intro hEnded more
    exact get?_after_append hEnded more
  · intro op error hRefused
    have hStep := step_transition hq op
    rw [hRefused] at hStep
    exact hStep.refused

end Admission.Queue
