import Admission.Proofs.Queue.History

/-!
# The two containers agree

The queue keeps the ids that wait apart from the jobs, and no operation changes both at once: a
submission and a claim change one after the other, and a completion changes the jobs only.  Still
the two agree after any operations, since uniqueness and status go together: an id that waits is
taken out of the line in the same operation in which its job stops being pending, and it does not
come in again, because its id stays known.

A claim takes the first id out of the line and then looks its job up.  If there were none, the id
would be lost.  As the containers agree there is one, it is pending, and the claim does nothing but
to set it running and to hand its code over.

## Main results

* `Transition.of_claimed`: what a claim that hands out a job has done.
* `containers_agree`: the two containers, and the next claim, after any operations.
-/

namespace Admission.Queue

variable {q left : Queue}

/-- A claim comes back empty only if nothing waits, and then changes nothing. -/
theorem Transition.of_claimed_none (h : Transition q .claimNext (.claimed none) left) :
    q.waiting = [] ∧ left = q := by
  cases h with
  | idle hNone => exact ⟨hNone, rfl⟩

/-- A claim that hands out a job found it pending, at the head of the line, and set it running;
every other id reads as before. -/
theorem Transition.of_claimed {job : Job}
    (h : Transition q .claimNext (.claimed (some job)) left) :
    ∃ held, q.waiting = held.id :: left.waiting ∧ q.get? held.id = some held ∧
      held.status = .pending ∧ job = { held with status := .running } ∧
      ∀ id, left.get? id =
        if id = held.id then some { held with status := .running, code := "" } else q.get? id := by
  cases h with
  | @claim held rest hWaiting hHeld hPending =>
      exact ⟨held, hWaiting, hHeld, hPending, rfl, fun id => get?_put rest q.jobs held.id id _⟩

/-- The job whose id a claim takes is there. -/
theorem WellFormed.isSome_get?_head (hq : q.WellFormed) {id : String} {rest : List String}
    (hWaiting : q.waiting = id :: rest) : (q.get? id).isSome := by
  obtain ⟨job, hJob, _⟩ := (hq.mem_waiting_iff id).1 (hWaiting ▸ List.mem_cons_self)
  exact Option.isSome_iff_exists.2 ⟨job, hJob⟩

/-- **The two containers agree.**  After any operations on the empty queue no id waits twice, an id
waits exactly if a pending job is stored under it, and every job is stored under its own id.

So the next claim finds the job whose id it takes from the line.  It comes back empty only if no id
waits, and then changes nothing; and otherwise it moves the job at the head of the line from pending
to running, and leaves every other job as it is. -/
theorem containers_agree (ops : List Op) :
    let q := after ops
    let left := q.claimNext.2
    q.waiting.Nodup ∧
      (∀ id, id ∈ q.waiting ↔ ∃ job, q.get? id = some job ∧ job.status = .pending) ∧
      (∀ id job, q.get? id = some job → job.id = id) ∧
      (∀ id rest, q.waiting = id :: rest → (q.get? id).isSome) ∧
      (q.claimNext.1 = none → q.waiting = [] ∧ left = q) ∧
      ∀ job, q.claimNext.1 = some job →
        ∃ held, q.waiting = held.id :: left.waiting ∧ q.get? held.id = some held ∧
          held.status = .pending ∧ job = { held with status := .running } ∧
          ∀ id, left.get? id =
            if id = held.id then some { held with status := .running, code := "" }
            else q.get? id := by
  intro q left
  have hq : q.WellFormed := after_wellFormed ops
  have hClaim : Transition q .claimNext (.claimed q.claimNext.1) left :=
    step_transition hq .claimNext
  refine ⟨hq.nodup, hq.mem_waiting_iff, hq.id_eq, ?_, ?_, ?_⟩
  · intro id rest hWaiting
    exact hq.isSome_get?_head hWaiting
  · intro hNone
    rw [hNone] at hClaim
    exact hClaim.of_claimed_none
  · intro job hJob
    rw [hJob] at hClaim
    exact hClaim.of_claimed

end Admission.Queue
