import Admission.Proofs.Http.Storing
import Admission.Proofs.Service.Refusing
import Admission.Run.Basic

/-!
# The lifetime of a session

A session that was created is there until its expiry and not a nanosecond longer, whatever else
happens to the control plane: other requests, the work of executors, sweeps by hand and by sweepers.
Three places decide whether a session is live, the look-up, the admission of another session under
its id, and the sweep, and all three ask the same clock.

What happens to the entry under one id is told step by step: it stays, it is swept when it is past
its expiry, or another session is created under the id where none is live.  With a clock that never
moves backwards the entry of a live session can only stay; and as long as no other session is
created under the id, the entry is the session or nothing.

## Main results

* `heldStep`: what one input can do to the entry under an id.
* `session_lives_until_expiry`: what callers see of a session along any run.
-/

namespace Admission.Run

open Admission.Http Admission.Text Admission.Time

/-! ## The clock -/

/-- The clock is never moved backwards. -/
def NeverBack (inputs : List Input) : Prop := ∀ ns, .advance ns ∈ inputs → 0 ≤ ns

theorem NeverBack.head {input : Input} {inputs : List Input}
    (h : NeverBack (input :: inputs)) (ns : Int) (hInput : input = .advance ns) :
    0 ≤ ns :=
  h ns (hInput ▸ List.mem_cons_self)

theorem NeverBack.tail {input : Input} {inputs : List Input}
    (h : NeverBack (input :: inputs)) : NeverBack inputs :=
  fun ns hMem => h ns (List.mem_cons_of_mem input hMem)

theorem now_le_step {r : Run} {input : Input}
    (h : ∀ ns, input = .advance ns → 0 ≤ ns) :
    r.now ≤ (r.step input).2.now := by
  cases input with
  | advance ns =>
      have hForward := h ns rfl
      rw [step]
      cases hSum : r.now.add? ns with
      | none => exact Int.le_refl r.now.ns
      | some later =>
          have hExact := Instant.ns_add?.1 hSum
          show r.now.ns ≤ later.ns
          omega
  | _ => exact Int.le_refl r.now.ns

theorem now_le_run {inputs : List Input} (h : NeverBack inputs) (r : Run) :
    r.now ≤ (r.run inputs).2.now := by
  induction inputs generalizing r with
  | nil => exact Int.le_refl r.now.ns
  | cons input inputs ih =>
      have hHead : r.now ≤ (r.step input).2.now := now_le_step h.head
      exact Int.le_trans hHead (ih h.tail (r.step input).2)

/-! ## The entry under an id -/

/-- The session held under an id, live or not. -/
def held? (r : Run) (id : String) : Option Session := r.plane.sessions.sessions.get? id

/-- An answer 201 that tells of a session with an id. -/
def Output.Creates (id : String) : Output → Prop
  | .response answer => answer.status = 201 ∧ ∃ expiry,
      answer.body = SessionCreated.codec.encode ⟨id, expiry, .active⟩
  | _ => False

/-- What one input can leave under an id: what was there, nothing if what was there is past its
expiry, or a session created where none is live. -/
inductive HeldStep (r : Run) (id : String) (output : Output) :
    Option Session → Prop where
  | kept : HeldStep r id output (r.held? id)
  | swept {s : Session} (hHeld : r.held? id = some s)
      (hDead : s.isLive r.now = false) : HeldStep r id output none
  | created {s : Session} (hFree : r.plane.sessions.get? id r.now = none)
      (hCreates : output.Creates id) : HeldStep r id output (some s)

/-- A sweep takes what is past its expiry. -/
private theorem heldStep_sweep (r : Run) (id : String) (output : Output) :
    HeldStep r id output ((r.plane.sweep r.now).2.sessions.sessions.get? id) := by
  have hSwept : (r.plane.sweep r.now).2.sessions.sessions.get? id =
      (r.held? id).filter (·.isLive r.now) :=
    Store.Table.get?_keep ..
  rw [hSwept]
  cases hHeld : r.held? id with
  | none =>
      rw [Option.filter_none, ← hHeld]
      exact .kept
  | some s =>
      rw [Option.filter_some]
      cases hLive : s.isLive r.now with
      | true =>
          rw [if_pos rfl, ← hHeld]
          exact .kept
      | false => exact .swept hHeld hLive

private theorem heldStep_sweepDue (r : Run) (sweepers : List Sweeper)
    (timer : Nat) (id : String) (output : Output) :
    HeldStep r id output ((sweepDue sweepers timer r.plane r.now).sessions.sessions.get? id) := by
  rw [sweepDue_eq]
  split
  · exact heldStep_sweep r id output
  · exact .kept

/-- What one input can do to the entry under an id. -/
theorem heldStep (r : Run) (input : Input) (id : String) :
    HeldStep r id (r.step input).1 ((r.step input).2.held? id) := by
  cases input with
  | request fresh request =>
      let result := answer r.config r.now fresh request r.plane
      show HeldStep r id (.response result.1) (result.2.sessions.sessions.get? id)
      rcases answer_outcome r.config r.now fresh request r.plane with
        hJob | hSession | hKeeps
      · obtain ⟨_, _, _, _, _, hStore⟩ := hJob.stored
        rw [hStore.sessions_eq]
        exact .kept
      · obtain ⟨_, session, _, _, hBody, hStore⟩ := hSession.stored
        rw [hStore.entry_eq id]
        split
        · next hId =>
            subst hId
            exact .created hStore.free ⟨hSession.status_eq, _, hBody⟩
        · exact .kept
      · rw [hKeeps.stores_eq]
        exact .kept
  | claim => exact .kept
  | complete id' succeeded => exact .kept
  | peek id' => exact .kept
  | listSessions => exact .kept
  | sweep => exact heldStep_sweep r id _
  | advance ns =>
      obtain ⟨now, hNow⟩ := r.exists_step_advance ns
      rw [hNow]
      exact .kept
  | startSweeper => exact heldStep_sweepDue r _ _ id _
  | tick seconds => exact heldStep_sweepDue r _ _ id _

/-! ## What a run keeps -/

variable {r : Run} {session : Session} {expiry : Instant}

/-- A live session is found. -/
theorem get?_of_live (hHeld : r.held? session.id = some session)
    (hLive : session.isLive r.now = true) :
    r.plane.sessions.get? session.id r.now = some session :=
  Option.filter_eq_some_iff.2 ⟨hHeld, hLive⟩

/-- The entry of a live session stays. -/
theorem held?_step_of_live {input : Input}
    (hHeld : r.held? session.id = some session)
    (hLive : session.isLive r.now = true) :
    (r.step input).2.held? session.id = some session := by
  have hStep := heldStep r input session.id
  generalize (r.step input).2.held? session.id = entry at hStep ⊢
  cases hStep with
  | kept => exact hHeld
  | swept hOther hDead =>
      obtain rfl := Option.some.inj (hOther.symm.trans hHeld)
      rw [hLive] at hDead
      cases hDead
  | created hFree _ =>
      rw [get?_of_live hHeld hLive] at hFree
      cases hFree

/-- A session stays until its expiry. -/
theorem held?_run_of_lt (hExpiry : session.expiresAt = expiry)
    {inputs : List Input} (hForward : NeverBack inputs)
    (hHeld : r.held? session.id = some session)
    (hBefore : (r.run inputs).2.now < expiry) :
    (r.run inputs).2.held? session.id = some session := by
  induction inputs generalizing r with
  | nil => exact hHeld
  | cons input inputs ih =>
      -- it is live now, because it still is when the run has ended
      have hNow : r.now < expiry := Int.lt_of_le_of_lt (now_le_run hForward r) hBefore
      have hLive := (Session.isLive_iff_lt hExpiry r.now).2 hNow
      exact ih hForward.tail (held?_step_of_live hHeld hLive) hBefore

/-- What is there after an input that created nothing under an id was there before. -/
theorem held?_of_step {id : String} {input : Input}
    (hNone : ¬(r.step input).1.Creates id)
    (hHeld : (r.step input).2.held? id = some session) :
    r.held? id = some session := by
  have hStep := heldStep r input id
  rw [hHeld] at hStep
  generalize hAfter : some session = entry at hStep
  cases hStep with
  | kept => rfl
  | swept _ _ => cases hAfter
  | created _ hCreates => exact absurd hCreates hNone

/-- As long as no session is created under an id, its entry does not become another. -/
theorem held?_run_of_not_creates {id : String} {inputs : List Input}
    (hHeld : ∀ s, r.held? id = some s → s = session)
    (hNone : ∀ output ∈ (r.run inputs).1, ¬output.Creates id) :
    ∀ s, (r.run inputs).2.held? id = some s → s = session := by
  induction inputs generalizing r with
  | nil => exact hHeld
  | cons input inputs ih =>
      have hHead := hNone (r.step input).1 (List.mem_cons_self ..)
      have hAfter : ∀ s, (r.step input).2.held? id = some s → s = session :=
        fun s hSome => hHeld s (held?_of_step hHead hSome)
      exact ih hAfter fun output hMem =>
        hNone output (List.mem_cons_of_mem _ hMem)

/-! ## What callers see -/

/-- A session is found as it was created and with the status active, and a request for another one
under its id, which nothing else speaks against, is answered 409. -/
structure Shows (r : Run) (session : Session) : Prop where
  found : ∀ fresh request, LooksUp r.config request "/sessions/" session.id →
    r.step (.request fresh request) =
      (.response ((Response.json 200 SessionView.codec
        ⟨session.id, session.principal, session.ttlSeconds, session.createdAt,
          session.expiresAt, .active⟩).shown r.config), r)
  taken : ∀ fresh request form, Posts r.config request "/sessions" →
    SessionForm.codec.decodeBytes request.body = .ok form →
    form.AcceptableAt r.now → form.id.map trim = some session.id →
    r.step (.request fresh request) =
      (.response ((Response.refuse (.conflict
        (RegistryError.duplicateId session.id).message)).shown r.config), r)

/-- A look-up of a session with the id is answered 404. -/
def Lacks (r : Run) (id : String) : Prop :=
  ∀ fresh request, LooksUp r.config request "/sessions/" id →
    r.step (.request fresh request) =
      (.response ((Response.refuse (.notFound ("session " ++ id))).shown r.config), r)

/-- Whatever look-up of a session is answered 200, the session shown is active. -/
def ShowsNoneExpired (r : Run) : Prop :=
  ∀ fresh request id response, LooksUp r.config request "/sessions/" id →
    (r.step (.request fresh request)).1 = .response response →
    response.status = 200 →
    ∃ view : SessionView, view.status = .active ∧ response.body = SessionView.codec.encode view

theorem step_request_of_answer {fresh : String} {request : Request} {response : Response}
    (h : answer r.config r.now fresh request r.plane = (response, r.plane)) :
    r.step (.request fresh request) = (.response response, r) := by
  rw [step_request, h]

theorem step_lookUp_session {fresh : String} {request : Request} {id : String}
    (h : LooksUp r.config request "/sessions/" id) :
    r.step (.request fresh request) =
      (.response ((respond 200 SessionView.codec (r.plane.session id r.now)).shown r.config), r) :=
  step_request_of_answer h.answer_session

/-- A session that is held and live is shown. -/
theorem shows_of_live (hHeld : r.held? session.id = some session)
    (hLive : session.isLive r.now = true) : r.Shows session := by
  have hGet := get?_of_live hHeld hLive
  constructor
  · intro fresh request hLooks
    have hStatus : session.status r.now = .active := if_pos hLive
    rw [step_lookUp_session hLooks, Plane.session, hGet, ← hStatus]
    rfl
  · intro fresh request form hPosts hForm hAccept hId
    obtain ⟨draft, stamped, hCheck, hStamp⟩ := (SessionForm.acceptableAt_iff fresh).1 hAccept
    have hDraft : draft.id = some session.id := by
      rw [← (callerId_eq_ok_iff.1 (SessionForm.check_eq_ok_iff.1 hCheck).1).2, hId]
    have hTaken : (r.plane.sessions.get? (draft.id.getD fresh) r.now).isSome := by
      rw [hDraft, Option.getD_some, hGet]
      rfl
    have hRefused := Plane.admitSession_of_taken hCheck hStamp hTaken
    have hRead := readBody_eq_ok_iff.2 ⟨hPosts.json, hPosts.fits, hForm⟩
    apply step_request_of_answer
    rw [answer_eq_createSession hPosts.method_eq hPosts.path_eq hPosts.gate, createSession, hRead]
    show ((respondWith _ _ _ (r.plane.admitSession r.now fresh form)).1.shown _,
      (respondWith _ _ _ (r.plane.admitSession r.now fresh form)).2) = _
    rw [hRefused, hDraft]
    rfl

/-- A session past its expiry is not found. -/
theorem lacks_of_dead {id : String} (hDead : ∀ s, r.held? id = some s → s.isLive r.now = false) :
    r.Lacks id := by
  have hGet : r.plane.sessions.get? id r.now = none := by
    rw [Registry.get?, Option.filter_eq_none_iff]
    intro s hSome
    rw [hDead s hSome]
    exact Bool.false_ne_true
  intro fresh request hLooks
  rw [step_lookUp_session hLooks, Plane.session, hGet]
  rfl

theorem showsNoneExpired (r : Run) : r.ShowsNoneExpired := by
  intro fresh request id response hLooks hAnswer hStatus
  rw [step_lookUp_session hLooks] at hAnswer
  cases hAnswer
  rw [Plane.session] at hStatus ⊢
  cases hGet : r.plane.sessions.get? id r.now with
  | none =>
      rw [hGet, status_shown] at hStatus
      cases hStatus
  | some s =>
      rw [Registry.get?, Option.filter_eq_some_iff] at hGet
      exact ⟨s.view r.now, if_pos hGet.2, body_shown ..⟩

/-! ## From its creation on -/

/-- **The lifetime of a session.**  Take any run and a request in it that is answered 201.  It posts
a form for a session; the answer tells the id of the session and its expiry, which lies past the
clock by just the lifetime asked for.  Whatever comes after, as long as the clock is never moved
backwards: before the expiry the session is found, with the status active, and its id is taken; from
the expiry on it is not found, until another one is created under the id; and no look-up ever shows
an expired session. -/
theorem session_lives_until_expiry (r : Run) {fresh : String}
    {request : Request} {response : Response}
    (hAnswer : (r.step (.request fresh request)).1 = .response response)
    (hStatus : response.status = 201) :
    ∃ form session, ∃ expiry : Instant, Posts r.config request "/sessions" ∧
      SessionForm.codec.decodeBytes request.body = .ok form ∧
      form.AsksFor r.now fresh session ∧
      response.body = SessionCreated.codec.encode ⟨session.id, expiry, .active⟩ ∧
      session.expiresAt = expiry ∧
      r.now < expiry ∧
      expiry.ns = r.now.ns + session.ttlSeconds.toNat * nsPerSecond ∧
      ∀ inputs, NeverBack inputs →
        let outputs := ((r.step (.request fresh request)).2.run inputs).1
        let r' := ((r.step (.request fresh request)).2.run inputs).2
        (r'.now < expiry → r'.Shows session) ∧
        (expiry ≤ r'.now → (∀ output ∈ outputs, ¬output.Creates session.id) → r'.Lacks session.id) ∧
        r'.ShowsNoneExpired := by
  have hResponse : (answer r.config r.now fresh request r.plane).1 = response :=
    Output.response.inj hAnswer
  rcases answer_outcome r.config r.now fresh request r.plane with
    hJob | hSession | hKeeps
  · have := hJob.status_eq.symm.trans (hResponse ▸ hStatus)
    omega
  · obtain ⟨form, session, hForm, hAsks, hBody, hStore⟩ := hSession.stored
    obtain ⟨expiry, hExpiry, hSum⟩ := hAsks.expiresAt_eq
    have hAfter : r.now < expiry := by
      have hPos := hAsks.ttl_pos
      show r.now.ns < expiry.ns
      unfold nsPerSecond at hSum
      omega
    have hHeld : (r.step (.request fresh request)).2.held? session.id =
        some session := by
      have hEntry := hStore.entry_eq session.id
      rwa [if_pos rfl] at hEntry
    refine ⟨form, session, expiry, hSession.asked.1, hForm, hAsks, ?_, hExpiry,
      hAfter, hSum, ?_⟩
    · rw [← hResponse, hBody, hExpiry]
    · intro inputs hForward outputs r'
      refine ⟨?_, ?_, showsNoneExpired r'⟩
      · intro hBefore
        exact shows_of_live (held?_run_of_lt hExpiry hForward hHeld hBefore)
          ((Session.isLive_iff_lt hExpiry r'.now).2 hBefore)
      · intro hPast hNone
        have hOnly := held?_run_of_not_creates
          (fun s hSome => Option.some.inj (hSome.symm.trans hHeld)) hNone
        apply lacks_of_dead
        intro s hSome
        rw [hOnly s hSome, Bool.eq_false_iff]
        intro hLive
        have hBefore := (Session.isLive_iff_lt hExpiry r'.now).1 hLive
        exact Int.not_lt.2 hPast hBefore
  · exact absurd (hResponse ▸ hStatus) hKeeps.not_created

/-- A session of ten seconds is created.  A nanosecond short of ten seconds later, when sweepers and
a sweep by hand have done their work, it is shown; a nanosecond on, it is not found. -/
theorem ten_seconds_pass :
    let form : SessionForm := ⟨some "s", some "t", some "a", some "p", some 10⟩
    let request : Request := ⟨"POST", utf8 "/sessions", [⟨"content-type", utf8 "application/json"⟩],
      utf8 (SessionForm.codec.encode form)⟩
    let r := Run.start .default .epoch
    let result := r.step (.request "x" request)
    let before : List Input := [.startSweeper, .advance 9999999999, .tick 3600, .sweep]
    let after := before ++ [.advance 1]
    (∃ response, result.1 = .response response ∧ response.status = 201) ∧
      NeverBack after ∧
      ∃ session : Session, session.id = "s" ∧
        (result.2.run before).2.Shows session ∧
        (result.2.run after).2.Lacks "s" := by
  intro form request r result before after
  have hStatus : (answer r.config r.now "x" request r.plane).1.status = 201 := by
    decide +kernel
  have hForm : (SessionForm.codec.decodeBytes request.body).toOption =
      some form := by
    decide +kernel
  have hForward : NeverBack after := by
    intro ns hMem
    simp [after, before] at hMem
    omega
  have hAnswer := congrArg Prod.fst (step_request r "x" request)
  refine ⟨⟨_, hAnswer, hStatus⟩, hForward, ?_⟩
  obtain ⟨form', session, expiry, _, hForm', hAsks, _, _, _, hSum, hLater⟩ :=
    session_lives_until_expiry r hAnswer hStatus
  obtain rfl : form' = form := by
    rw [hForm'] at hForm
    exact Option.some.inj hForm
  have hId : session.id = "s" := by
    rw [hAsks.id_eq]
    decide +kernel
  have hEnd : expiry.ns = 10000000000 := by
    obtain ⟨ttl, hTtl, hSeconds⟩ := hAsks.ttl_eq
    cases hTtl
    have hTen : (10 : Int64).toInt = 10 := by decide
    rw [hSum, ← hSeconds, hTen]
    rfl
  have hBefore : (result.2.run before).2.now.ns = 9999999999 := by
    decide +kernel
  have hAfter : (result.2.run after).2.now.ns = 10000000000 := by
    decide +kernel
  have hOutputs : (result.2.run after).1 =
      [.done, .advanced ⟨9999999999, by decide, by decide⟩, .done, .swept 0,
        .advanced ⟨10000000000, by decide, by decide⟩] := by
    decide +kernel
  refine ⟨session, hId, ?_, ?_⟩
  · apply (hLater before fun ns hMem =>
      hForward ns (List.mem_append_left _ hMem)).1
    rw [Instant.lt_def, hBefore]
    omega
  · rw [← hId]
    apply (hLater after hForward).2.1
    · rw [Instant.le_def, hAfter]
      omega
    · rw [hOutputs]
      simp [Output.Creates]

end Admission.Run
