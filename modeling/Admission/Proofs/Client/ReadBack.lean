import Admission.Proofs.Client.Exchange
import Admission.Proofs.Run.Stores

/-!
# Reading back what was submitted

A job or a session that the control plane holds is printed by the command that looks up its id, if
the id is plain, and only then.  The other ids are those that the client should have coded before it
put them into an address: what it asks for instead is another path, under which there may be nothing
or another job.

## Main results

* `read_back_iff_isPlain`: which jobs and sessions are read back, along any run.
* `question_mark_asks_for_another`: a job that is not, and the one that is printed for it.
-/

namespace Admission.Client

open Admission.Cli Admission.Http Admission.Net Admission.Net.Url Admission.Text Admission.Time

variable {k : Collection} {id : String} {env : Environment} {config : Config} {now : Instant}
  {fresh : String} {p : Plane} {readFile : String → StateM Plane (Option (List UInt8))} {port : Nat}

/-- No two ids find one view. -/
theorem Collection.find_injective (k : Collection) (hp : p.WellFormed) {id id' : String}
    {view : k.View} (h : k.find p now id = .ok view) (h' : k.find p now id' = .ok view) :
    id = id' := by
  cases k with
  | jobs =>
      have hJob : ∀ {id : String}, p.job id = .ok view → JobView.id view = id := by
        intro id h
        rw [Plane.job] at h
        split at h
        · next job hJob =>
          cases h
          exact hp.jobs.id_eq id job hJob
        · cases h
      exact (hJob h).symm.trans (hJob h')
  | sessions =>
      have hSession : ∀ {id : String}, p.session id now = .ok view → SessionView.id view = id := by
        intro id h
        rw [Plane.session] at h
        split at h
        · next session hSession =>
          cases h
          rw [Registry.get?, Option.filter_eq_some_iff] at hSession
          exact hp.sessions id session hSession.1
        · cases h
      exact (hSession h).symm.trans (hSession h')

/-- A look-up leaves the stores as they were. -/
theorem stores_get (path : List UInt8) : (answer config now fresh (get path) p).2 = p := by
  have hNotPost : (get path).method ≠ "POST" := by
    show "GET" ≠ "POST"
    decide
  rcases answer_outcome config now fresh (get path) p with hAdmits | hAdmits | hKeeps
  · exact absurd hAdmits.asked.1.method_eq hNotPost
  · exact absurd hAdmits.asked.1.method_eq hNotPost
  · exact hKeeps.stores_eq

/-- The client is told of a service on this machine, and of no token. -/
structure IsToldOf (env : Environment) (port : Nat) : Prop where
  port_lt : port < 0x10000
  url_eq : withoutSlashes ((env "CONTROL_PLANE_URL").getD defaultUrl) = localBase port
  token_eq : env "CONTROL_PLANE_TOKEN" = none

/-- What a run of the client against that service comes to. -/
theorem run_get_local (k : Collection) (hEnv : IsToldOf env port) (id : String) :
    run readFile (deliver config now fresh) [k.command, "--id=" ++ id] env p =
      match targetPath? (k.url port id).text with
      | none => (.failed (.unbuildable (some (k.url port id).text)), p)
      | some _ =>
          match targetPath? (String.ofList (k.url port id).targetChars) with
          | none => (.failed (.unsent (k.url port id).text), p)
          | some path =>
              (outcomeOf k (.ofResponse (answer config now fresh (get path) p).1), p) := by
  rw [run_get, hEnv.token_eq, ofCall_local k hEnv.port_lt hEnv.url_eq]
  cases targetPath? (k.url port id).text with
  | none => rfl
  | some _ =>
      simp only [Option.isNone_some, Bool.false_eq_true, if_false, request?_get]
      cases targetPath? (String.ofList (k.url port id).targetChars) with
      | none => rfl
      | some path => simp only [Option.map_some, stores_get]

/-- What has a plain id is printed. -/
theorem printed_of_isPlain (k : Collection) (hOpen : config.authToken = none)
    (hEnv : IsToldOf env port) {view : k.View} (hFind : k.find p now id = .ok view)
    (hShort : (utf8 (k.url port id).text).length ≤ maxTargetLength) (h : IsPlain id) :
    run readFile (deliver config now fresh) [k.command, "--id=" ++ id] env p =
      (.printed (k.codec.encodePretty view ++ "\n"), p) := by
  have hCoded := h.areCoded k
  have hNe : [k.name, encodeChars inPathSet id.toList] ≠ [] := List.cons_ne_nil _ _
  have hUrl := url_of_isPlain k port h
  rw [hUrl] at hShort
  have hPathShort : (pathBytes [k.name, encodeChars inPathSet id.toList]).length ≤
      maxTargetLength := by
    rw [utf8_text_localUrl, List.length_append, List.length_append] at hShort
    omega
  rw [run_get_local k hEnv, hUrl, targetPath?_text hNe hCoded hShort]
  simp only [targetPath?_target hNe hCoded hPathShort, pathBytes_id,
    answer_lookUp k hOpen h.isSegment, Http.lookUp, segmentId?_segmentBytes h.decoded, hFind,
    outcomeOf_found]

/-- Only what has a plain id is printed. -/
theorem isPlain_of_printed (k : Collection) (hp : p.WellFormed) (hOpen : config.authToken = none)
    (hEnv : IsToldOf env port) {view : k.View} (hFind : k.find p now id = .ok view)
    (h : (run readFile (deliver config now fresh) [k.command, "--id=" ++ id] env p).1 =
      .printed (k.codec.encodePretty view ++ "\n")) : IsPlain id := by
  rw [run_get_local k hEnv] at h
  cases hText : targetPath? (k.url port id).text with
  | none =>
      rw [hText] at h
      cases h
  | some _ =>
      rw [hText] at h
      cases hTarget : targetPath? (String.ofList (k.url port id).targetChars) with
      | none =>
          rw [hTarget] at h
          cases h
      | some path =>
          rw [hTarget] at h
          obtain ⟨segment, id', view', hSegment, hPath, hId, hFind', hShown⟩ :=
            exists_of_printed k hOpen h
          have hView : view = view' := by
            have hTexts : k.codec.encodePretty view = k.codec.encodePretty view' := by
              simpa using hShown
            exact k.isLawful_codec.encodePretty_injective hTexts
          obtain rfl := k.find_injective hp hFind (hView ▸ hFind')
          have hSame := path_eq_of_targetPath? (readSegments_ne_nil _ _) (areCoded_readSegments _)
            hTarget
          exact isPlain_of_segmentId? hSegment (hSame.symm.trans hPath) hId

/-- The address with a path behind it is not too long for a request. -/
def IsShort (port : Nat) (path : String) : Prop :=
  ∀ url, Url.ofText? (localBase port ++ path) = some url →
    (utf8 url.text).length ≤ maxTargetLength

/-- Which views are printed. -/
theorem printed_iff_isPlain (k : Collection) (hp : p.WellFormed) (hOpen : config.authToken = none)
    (hEnv : IsToldOf env port) {view : k.View} (hFind : k.find p now id = .ok view)
    (hShort : IsShort port (k.call id).path) :
    (run readFile (deliver config now fresh) [k.command, "--id=" ++ id] env p).1 =
      .printed (k.codec.encodePretty view ++ "\n") ↔ IsPlain id := by
  constructor
  · exact isPlain_of_printed k hp hOpen hEnv hFind
  · intro h
    rw [printed_of_isPlain k hOpen hEnv hFind (hShort _ (ofText?_url k hEnv.port_lt id)) h]

/-- **Reading back.**  Take any run of a control plane without a token, and a client that is told of
it.  A job that the control plane holds is printed by `get-job` with its id, and a live session by
`get-session`, exactly if the id is plain. -/
theorem read_back_iff_isPlain {config : Config} (hOpen : config.authToken = none) (start : Instant)
    (inputs : List Run.Input) {env : Environment} {port : Nat} (hEnv : IsToldOf env port)
    (readFile : String → StateM Plane (Option (List UInt8))) (fresh id : String) :
    let r := ((Run.start config start).run inputs).2
    let outcome := fun command =>
      (run readFile (deliver config r.now fresh) [command, "--id=" ++ id] env r.plane).1
    (∀ job, r.plane.jobs.get? id = some job → IsShort port ("/jobs/" ++ id) →
      (outcome "get-job" = .printed (JobView.codec.encodePretty job.view ++ "\n") ↔
        IsPlain id)) ∧
    ∀ session, r.plane.sessions.get? id r.now = some session → IsShort port ("/sessions/" ++ id) →
      (outcome "get-session" =
          .printed (SessionView.codec.encodePretty (session.view r.now) ++ "\n") ↔
        IsPlain id) := by
  intro r outcome
  have hp : r.plane.WellFormed := Run.wellFormed_run Plane.wellFormed_empty inputs
  constructor
  · intro job hJob hShort
    have hFind : Collection.jobs.find r.plane r.now id = .ok job.view := by
      show r.plane.job id = _
      rw [Plane.job, hJob]
      rfl
    exact printed_iff_isPlain .jobs hp hOpen hEnv hFind hShort
  · intro session hSession hShort
    have hFind : Collection.sessions.find r.plane r.now id = .ok (session.view r.now) := by
      show r.plane.session id r.now = _
      rw [Plane.session, hSession]
      rfl
    exact printed_iff_isPlain .sessions hp hOpen hEnv hFind hShort

/-- A job `a` and a session `a` are submitted and read back. -/
theorem a_is_read_back :
    let forJob : JobForm := ⟨some "a", some "t", some "g", some "p", some "python", some "c"⟩
    let forSession : SessionForm := ⟨some "a", some "t", some "g", some "p", some 60⟩
    let post := fun (path body : String) =>
      Run.Input.request "x"
        ⟨"POST", utf8 path, [⟨"content-type", utf8 "application/json"⟩], utf8 body⟩
    let inputs := [post "/jobs" (JobForm.codec.encode forJob),
      post "/sessions" (SessionForm.codec.encode forSession)]
    let r := ((Run.start .default .epoch).run inputs).2
    let outcome := fun command =>
      (run (fun _ => pure none) (deliver .default r.now "y") [command, "--id=" ++ "a"]
        (fun _ => none) r.plane).1
    (∃ job, r.plane.jobs.get? "a" = some job ∧
      outcome "get-job" = .printed (JobView.codec.encodePretty job.view ++ "\n")) ∧
    ∃ session, r.plane.sessions.get? "a" r.now = some session ∧
      outcome "get-session" =
        .printed (SessionView.codec.encodePretty (session.view r.now) ++ "\n") := by
  intro forJob forSession post inputs
  have hOpen : Config.default.authToken = none := rfl
  have hEnv : IsToldOf (fun _ => none) 8080 := ⟨by decide, by decide +kernel, rfl⟩
  have hShort : ∀ path ∈ ["/jobs/" ++ "a", "/sessions/" ++ "a"], IsShort 8080 path := by
    have hUrls : (["/jobs/" ++ "a", "/sessions/" ++ "a"].all fun path =>
        (Url.ofText? (localBase 8080 ++ path)).all fun url =>
          decide ((utf8 url.text).length ≤ maxTargetLength)) = true := by
      decide +kernel
    intro path hPath url hUrl
    have hAll := List.all_eq_true.1 hUrls path hPath
    rw [hUrl] at hAll
    exact of_decide_eq_true hAll
  have hPlain : IsPlain "a" := by decide +kernel
  have hHeld : (((Run.start .default .epoch).run inputs).2.plane.jobs.get? "a").isSome = true ∧
      (((Run.start .default .epoch).run inputs).2.plane.sessions.get? "a"
        ((Run.start .default .epoch).run inputs).2.now).isSome = true := by
    decide +kernel
  have hBack := read_back_iff_isPlain hOpen .epoch inputs hEnv (fun _ => pure none) "y" "a"
  -- what the run did does not matter from here on
  generalize ((Run.start .default .epoch).run inputs).2 = r at hHeld hBack ⊢
  intro r outcome
  obtain ⟨job, hJob⟩ := Option.isSome_iff_exists.1 hHeld.1
  obtain ⟨session, hSession⟩ := Option.isSome_iff_exists.1 hHeld.2
  refine ⟨⟨job, hJob, ?_⟩, session, hSession, ?_⟩
  · exact (hBack.1 job hJob (hShort _ List.mem_cons_self)).2 hPlain
  · exact (hBack.2 session hSession (hShort _ (List.mem_cons_of_mem _ List.mem_cons_self))).2 hPlain

/-- Jobs `a` and `a?b` are submitted, and what is printed for `a?b` is job `a`. -/
theorem question_mark_asks_for_another :
    let form := fun id : String =>
      (⟨some id, some "t", some "g", some "p", some "python", some "c"⟩ : JobForm)
    let post := fun id =>
      Run.Input.request "x" ⟨"POST", utf8 "/jobs", [⟨"content-type", utf8 "application/json"⟩],
        utf8 (JobForm.codec.encode (form id))⟩
    let r := ((Run.start .default .epoch).run [post "a", post "a?b"]).2
    ∃ a b : Job, r.plane.jobs.get? "a" = some a ∧ r.plane.jobs.get? "a?b" = some b ∧
      a.view ≠ b.view ∧
      (run (fun _ => pure none) (deliver .default r.now "y") ["get-job", "--id=" ++ "a?b"]
        (fun _ => none) r.plane).1 = .printed (JobView.codec.encodePretty a.view ++ "\n") := by
  intro form post r
  let job := fun id : String =>
    (⟨id, ⟨"t", "g", "p"⟩, .python, "c", .pending, Instant.epoch⟩ : Job)
  have hViews : (job "a").view ≠ (job "a?b").view := by
    intro h
    have hIds : "a" = "a?b" := congrArg JobView.id h
    revert hIds
    decide
  have hHeld : r.plane.jobs.get? "a" = some (job "a") ∧
      r.plane.jobs.get? "a?b" = some (job "a?b") := by
    decide +kernel
  refine ⟨job "a", job "a?b", hHeld.1, hHeld.2, hViews, ?_⟩
  have hOpen : Config.default.authToken = none := rfl
  have hEnv : IsToldOf (fun _ => none) 8080 := ⟨by decide, by decide +kernel, rfl⟩
  have hText : (targetPath? (Collection.jobs.url 8080 "a?b").text).isSome = true := by
    decide +kernel
  obtain ⟨_, hText⟩ := Option.isSome_iff_exists.1 hText
  -- the target of the request ends with the query `?b`
  have hTarget : targetPath? (String.ofList (Collection.jobs.url 8080 "a?b").targetChars) =
      some (Collection.jobs.endpoint (utf8 "a")).path := by
    decide +kernel
  have hSegment : IsSegment (utf8 "a") := ⟨by decide, by decide⟩
  have hId : segmentId? (utf8 "a") = some "a" := by decide +kernel
  have hFind : Collection.jobs.find r.plane r.now "a" = .ok (job "a").view := by
    show r.plane.job "a" = _
    rw [Plane.job, hHeld.1]
    rfl
  have hRun : run (fun _ => pure none) (deliver .default r.now "y")
      [Collection.jobs.command, "--id=" ++ "a?b"] (fun _ => none) r.plane =
        (outcomeOf .jobs (.ofResponse (Response.shown .default
          (respond 200 Collection.jobs.codec (.ok (job "a").view)))), r.plane) := by
    rw [run_get_local .jobs hEnv]
    simp only [hText, hTarget, answer_lookUp .jobs hOpen hSegment, Http.lookUp, hId, hFind]
  exact (congrArg Prod.fst hRun).trans (outcomeOf_found .jobs (job "a").view)

end Admission.Client
