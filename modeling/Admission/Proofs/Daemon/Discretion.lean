import Admission.Daemon.StartUp
import Admission.Proofs.Checks
import Admission.Proofs.Text.Split
import Mathlib.Data.List.Forall2

/-!
# What a start tells of the token

The token is given on the command line or in the environment, and is checked before the daemon
starts.  What comes of a start tells whether there is a token, and if it is refused, whether it is
blank or has blanks around it; of its characters it tells nothing, nor of their number.

Two starts are compared side by side that differ in the token alone, and in either of them the token
is fit for use, or blank, or padded.  Reading the command line, filling in the options and checking
the configuration each keep this; what is written down of it is the same.

A fault in the command line is told with the option that is at fault, and with its value if that will
not do; but every text will do for a token, as far as reading goes.  After two dashes no argument is
read as an option.  One that gives a token would be told there with its value, so the two starts have
the same arguments there.

## Main results

* `take_alike`, `take_token_alike`, `read_alike`: an option that comes, and the whole command line.
* `ofGiven_alike`: what is asked for.
* `token_does_not_show`: what comes of a start.
-/

namespace Admission.Daemon

open Admission.Cli Admission.Net Admission.Text

/-! ## Tokens of one kind -/

/-- Two tokens of which both can be used, or both are blank, or both have blanks around them. -/
inductive TokensAlike : String → String → Prop
  | usable {s t : String} (hs : isBlank s = false) (hsTrim : trim s = s) (ht : isBlank t = false)
      (htTrim : trim t = t) : TokensAlike s t
  | blank {s t : String} (hs : isBlank s = true) (ht : isBlank t = true) : TokensAlike s t
  | padded {s t : String} (hs : isBlank s = false) (hsTrim : trim s ≠ s) (ht : isBlank t = false)
      (htTrim : trim t ≠ t) : TokensAlike s t

theorem TokensAlike.refl (s : String) : TokensAlike s s := by
  by_cases hBlank : isBlank s = true
  · exact .blank hBlank hBlank
  · rw [Bool.not_eq_true] at hBlank
    by_cases hTrim : trim s = s
    · exact .usable hBlank hTrim hBlank hTrim
    · exact .padded hBlank hTrim hBlank hTrim

/-- Tokens of one kind are refused for one cause, or both accepted. -/
theorem TokensAlike.validateToken_eq {s t : String} (h : TokensAlike s t) :
    Config.validateToken (some s) = Config.validateToken (some t) := by
  cases h with
  | usable hs hsTrim ht htTrim => simp [Config.validateToken, hs, hsTrim, ht, htTrim]
  | blank hs ht => simp [Config.validateToken, hs, ht]
  | padded hs hsTrim ht htTrim => simp [Config.validateToken, hs, hsTrim, ht, htTrim]

/-! ## Starts that differ in the token -/

/-- Command lines that are the same, but for tokens of one kind in arguments that are read as
options. -/
inductive ArgsAlike : List String → List String → Prop
  | nil : ArgsAlike [] []
  | token {s t : String} {args args' : List String} (h : TokensAlike s t)
      (hRest : ArgsAlike args args') :
      ArgsAlike (("--auth-token=" ++ s) :: args) (("--auth-token=" ++ t) :: args')
  | same {arg : String} {args args' : List String} (h : arg ≠ "--") (hRest : ArgsAlike args args') :
      ArgsAlike (arg :: args) (arg :: args')
  | ended (args : List String) : ArgsAlike ("--" :: args) ("--" :: args)

/-- Environments that are the same, but for tokens of one kind in them. -/
structure EnvsAlike (env other : Environment) : Prop where
  same : ∀ name ≠ "CONTROL_PLANE_AUTH_TOKEN", env name = other name
  token : Option.Rel TokensAlike (env "CONTROL_PLANE_AUTH_TOKEN") (other "CONTROL_PLANE_AUTH_TOKEN")

/-- The same option with the same value, or the token with values of one kind. -/
structure OptionsAlike (given given' : String × String) : Prop where
  name_eq : given.1 = given'.1
  value_eq : given.1 ≠ tokenParam.name → given.2 = given'.2
  token : given.1 = tokenParam.name → TokensAlike given.2 given'.2

theorem OptionsAlike.refl (given : String × String) : OptionsAlike given given :=
  ⟨rfl, fun _ => rfl, fun _ => .refl given.2⟩

/-- Reading is at the same place, with the same options given, but for tokens of one kind. -/
structure ReadingsAlike (r r' : Reading) : Prop where
  given : List.Forall₂ OptionsAlike r.given r'.given
  pending_eq : r.pending = r'.pending

/-- Configurations that are the same, but for tokens of one kind. -/
structure ConfigsAlike (c c' : Config) : Prop where
  listen_eq : c.listen = c'.listen
  token : Option.Rel TokensAlike c.authToken c'.authToken
  sweepInterval_eq : c.sweepIntervalSeconds = c'.sweepIntervalSeconds
  maxBody_eq : c.maxBodyBytes = c'.maxBodyBytes
  cors_eq : c.corsPermissive = c'.corsPermissive

/-! ## Reading the command line -/

/-- The argument that gives a token is read as the option with its value, whatever that holds. -/
theorem ofArg_token (s : String) :
    Word.ofArg ("--auth-token=" ++ s) = .long tokenParam.name (some s) := by
  have hSplit : splitFirst '=' ("auth-token".toList ++ '=' :: s.toList) =
      ("auth-token".toList, some s.toList) := by
    rw [splitFirst_append (by decide)]
    simp [splitFirst]
  have hChars : ("--auth-token=" ++ s).toList =
      '-' :: '-' :: ("auth-token".toList ++ '=' :: s.toList) := by
    rw [String.toList_append]
    rfl
  rw [Word.ofArg, hChars, Word.ofChars.eq_2 _ (by simp), hSplit]
  simp [tokenParam]

/-- Nothing but two dashes ends the options. -/
theorem eq_of_ofArg_terminator {arg : String} (h : Word.ofArg arg = .terminator) : arg = "--" := by
  rw [Word.ofArg, Word.ofChars.eq_def] at h
  split at h
  · next hChars => exact String.toList_inj.1 hChars
  all_goals cases h

section Lookup

variable {given given' : Given}

/-- The same options are given. -/
theorem lookup_alike (h : List.Forall₂ OptionsAlike given given') (name : String) :
    Option.Rel (fun s t => OptionsAlike (name, s) (name, t)) (given.lookup name)
      (given'.lookup name) := by
  induction h with
  | nil => exact .none
  | @cons g g' gs gs' hHead _ ih =>
      rw [List.lookup_cons, List.lookup_cons, ← hHead.name_eq]
      by_cases hName : name = g.1
      · subst hName
        rw [beq_self_eq_true]
        exact .some ⟨rfl, hHead.value_eq, hHead.token⟩
      · rw [beq_eq_false_iff_ne.2 hName]
        exact ih

/-- Every option but the token is given with the same value. -/
theorem lookup_eq (h : List.Forall₂ OptionsAlike given given') {name : String}
    (hName : name ≠ tokenParam.name) : given.lookup name = given'.lookup name := by
  have hAlike := lookup_alike h name
  revert hAlike
  generalize given.lookup name = v, given'.lookup name = v'
  rintro (hValue | _)
  · exact congrArg some (hValue.value_eq hName)
  · rfl

theorem isSome_lookup_alike (h : List.Forall₂ OptionsAlike given given') (name : String) :
    (given.lookup name).isSome = (given'.lookup name).isSome := by
  have hAlike := lookup_alike h name
  revert hAlike
  generalize given.lookup name = v, given'.lookup name = v'
  rintro (_ | _) <;> rfl

end Lookup

/-- An option is given a value, or refused it, whatever the token is. -/
theorem give_alike {given given' : Given} (h : List.Forall₂ OptionsAlike given given') (o : Opt)
    (value : String) :
    ChecksAlike (List.Forall₂ OptionsAlike) (o.give value given) (o.give value given') := by
  rw [Opt.give, Opt.give, isSome_lookup_alike h]
  split
  · exact .refused _
  · cases o.objection? value with
    | some reason => exact .refused _
    | none => exact .passed (.cons (.refl _) h)

section Reading

variable {r r' : Reading}

/-- What is pending is checked alike: it is no attached value, so it is the same. -/
theorem settle_alike (h : ReadingsAlike r r') :
    ChecksAlike (List.Forall₂ OptionsAlike) r.settle r'.settle := by
  rw [Reading.settle, Reading.settle, ← h.pending_eq]
  rcases r.pending with _ | ⟨o, _ | value⟩
  · exact .passed h.given
  · exact .refused _
  · exact give_alike h.given o value

/-- An option comes to the same in both. -/
theorem take_alike (h : ReadingsAlike r r') (o : Opt) (attached : Option String) :
    ChecksAlike ReadingsAlike (r.take o attached) (r'.take o attached) := by
  have hSettle := settle_alike h
  have hGive : ∀ value,
      ChecksAlike ReadingsAlike
        (r.settle >>= fun given => o.give value given >>= fun given => .ok ⟨given, none⟩)
        (r'.settle >>= fun given => o.give value given >>= fun given => .ok ⟨given, none⟩) :=
    fun value => hSettle.bind fun _ _ hGiven =>
      (give_alike hGiven o value).bind fun _ _ hGiven => .passed ⟨hGiven, rfl⟩
  unfold Reading.take
  cases o.arity with
  | switch =>
      cases attached with
      | none => exact hGive ""
      | some value => exact .refused _
  | telling =>
      cases attached with
      | none => exact hSettle.bind fun _ _ _ => .refused _
      | some value => exact .refused _
  | value objection? =>
      cases attached with
      | none => exact hSettle.bind fun _ _ hGiven => .passed ⟨hGiven, rfl⟩
      | some value => exact hGive value

/-- A token comes to the same in both if the two values are of one kind: neither is refused as
such. -/
theorem take_token_alike (h : ReadingsAlike r r') {s t : String} (hTokens : TokensAlike s t) :
    ChecksAlike ReadingsAlike (r.take tokenParam.opt (some s)) (r'.take tokenParam.opt (some t)) := by
  refine (settle_alike h).bind fun given given' hGiven => ?_
  refine ChecksAlike.bind (R := List.Forall₂ OptionsAlike) ?_ fun _ _ hGiven => .passed ⟨hGiven, rfl⟩
  rw [Opt.give, Opt.give, isSome_lookup_alike hGiven]
  split
  · exact .refused _
  · exact .passed (.cons ⟨rfl, fun hOther => absurd rfl hOther, fun _ => hTokens⟩ hGiven)

/-- Command lines that differ in the token alone are read alike. -/
theorem read_alike {args args' : List String} (hArgs : ArgsAlike args args')
    (h : ReadingsAlike r r') :
    ChecksAlike (fun x x' => ReadingsAlike x.1 x'.1) (spec.read r args) (spec.read r' args') := by
  induction hArgs generalizing r r' with
  | nil => exact .passed h
  | @token s t args args' hTokens _ ih =>
      have hFound : spec.options.find? (fun o => o.name == tokenParam.name) =
          some tokenParam.opt := rfl
      rw [Spec.read.eq_2, Spec.read.eq_2, ofArg_token, ofArg_token]
      simp only [hFound]
      exact (take_token_alike h hTokens).bind fun _ _ hNext => ih hNext
  | ended args =>
      have hWord : Word.ofArg "--" = .terminator := by decide
      rw [Spec.read.eq_2, Spec.read.eq_2, hWord]
      cases args with
      | nil => exact .passed h
      | cons next args => exact .refused _
  | @same arg args args' hArg _ ih =>
      rw [Spec.read.eq_2, Spec.read.eq_2]
      cases hWord : Word.ofArg arg with
      | terminator => exact absurd (eq_of_ofArg_terminator hWord) hArg
      | plain =>
          obtain ⟨given, pending⟩ := r
          obtain ⟨given', pending'⟩ := r'
          obtain ⟨hGiven, rfl : pending = pending'⟩ := h
          have hStray : arg ∉ spec.commands := List.not_mem_nil
          rcases pending with _ | ⟨o, _ | value⟩
          · simp only [if_neg hStray]
            exact .refused _
          · exact ih ⟨hGiven, rfl⟩
          · simp only [if_neg hStray]
            exact .refused _
      | short letter =>
          dsimp only
          cases spec.options.find? fun o => o.letter? == some letter with
          | none => exact .refused _
          | some o => exact (take_alike h o none).bind fun _ _ hNext => ih hNext
      | long name attached =>
          dsimp only
          cases spec.options.find? fun o => o.name == name with
          | none => exact .refused _
          | some o => exact (take_alike h o attached).bind fun _ _ hNext => ih hNext

end Reading

/-! ## Filling in the options -/

section Options

variable {env env' : Environment} {given given' : Given}

/-- Every setting but the token has the same value. -/
theorem value_eq {α : Type} {p : Param α} (hName : p.name ≠ tokenParam.name)
    (hVariable : p.envName? ≠ tokenParam.envName?) (hEnv : EnvsAlike env env')
    (hGiven : List.Forall₂ OptionsAlike given given') :
    p.value env given = p.value env' given' := by
  have hSame : p.envName?.bind env = p.envName?.bind env' := by
    cases hVar : p.envName? with
    | none => rfl
    | some name =>
        apply hEnv.same
        rintro rfl
        exact hVariable hVar
  rw [Param.value, Param.value, lookup_eq hGiven hName, hSame]

/-- The token has values of one kind. -/
theorem tokenValue_alike (hEnv : EnvsAlike env env')
    (hGiven : List.Forall₂ OptionsAlike given given') :
    ChecksAlike (Option.Rel TokensAlike) (tokenParam.value env given)
      (tokenParam.value env' given') := by
  have hAlike := lookup_alike hGiven tokenParam.name
  have hVariable : Option.Rel TokensAlike (tokenParam.envName?.bind env)
      (tokenParam.envName?.bind env') := hEnv.token
  rw [Param.value, Param.value]
  revert hAlike hVariable
  generalize given.lookup tokenParam.name = v, given'.lookup tokenParam.name = v',
    tokenParam.envName?.bind env = w, tokenParam.envName?.bind env' = w'
  rintro (hValue | _) hVariable
  · exact .passed (.some (hValue.token rfl))
  · rcases hVariable with hToken | _
    · exact .passed (.some hToken)
    · exact .passed .none

/-- The options come to the same, but for tokens of one kind. -/
theorem ofGiven_alike (hEnv : EnvsAlike env env')
    (hGiven : List.Forall₂ OptionsAlike given given') :
    ChecksAlike (fun o o' => ConfigsAlike o.config o'.config ∧ o.log = o'.log)
      (Options.ofGiven env given) (Options.ofGiven env' given') := by
  rw [Options.ofGiven, Options.ofGiven,
    value_eq (p := listenParam) (by decide) (by decide) hEnv hGiven,
    value_eq (p := sweepIntervalParam) (by decide) (by decide) hEnv hGiven,
    value_eq (p := maxBodyParam) (by decide) (by decide) hEnv hGiven,
    value_eq (p := logParam) (by decide) (by decide) hEnv hGiven]
  refine .bind_same fun listen => ?_
  refine (tokenValue_alike hEnv hGiven).bind fun token token' hToken => ?_
  refine .bind_same fun sweepInterval => ?_
  refine .bind_same fun maxBody => ?_
  refine .bind_same fun log => ?_
  exact .passed ⟨⟨rfl, hToken, rfl, rfl, isSome_lookup_alike hGiven corsSwitch.name⟩, rfl⟩

/-- Command lines and environments that differ in the token alone ask for the same, but for the
token. -/
theorem ofArgs_alike {args args' : List String} (hArgs : ArgsAlike args args')
    (hEnv : EnvsAlike env env') :
    ChecksAlike (fun o o' => ConfigsAlike o.config o'.config ∧ o.log = o'.log)
      (Options.ofArgs args env) (Options.ofArgs args' env') := by
  refine (read_alike hArgs ⟨.nil, rfl⟩).bind fun _ _ hReadings => ?_
  exact (settle_alike hReadings).bind fun _ _ hGiven => ofGiven_alike hEnv hGiven

end Options

/-! ## What is told of a configuration -/

section Config

variable {c c' : Config}

/-- Configurations that differ in the token alone are refused for one cause, or both accepted. -/
theorem ConfigsAlike.validate_eq (h : ConfigsAlike c c') : c.validate = c'.validate := by
  obtain ⟨_, token, _, _, _⟩ := c
  obtain ⟨_, token', _, _, _⟩ := c'
  obtain ⟨rfl, hToken, rfl, rfl, rfl⟩ := h
  rcases hToken with hToken | _
  · rw [Config.validate, Config.validate, hToken.validateToken_eq]
  · rfl

/-- The log is told the same of them. -/
theorem ConfigsAlike.announcements_eq (h : ConfigsAlike c c') :
    announcements c = announcements c' := by
  obtain ⟨listen, token, sweepInterval, maxBody, cors⟩ := c
  obtain ⟨_, token', _, _, _⟩ := c'
  obtain ⟨rfl, hToken, rfl, rfl, rfl⟩ := h
  rcases hToken with @⟨s, t, _⟩ | _
  · have hText := Config.text_congr_token ⟨listen, none, sweepInterval, maxBody, cors⟩ s t
    exact congrArg (fun text => ["INFO starting control plane with config: " ++ text]) hText
  · rfl

end Config

/-- **The token does not show.**  Take two starts with the same command line and environment, save
for the value of the token in an argument that is read as an option or in the environment, where the
values can both be used, or are both blank, or both have blanks around them.  Whichever addresses can
be bound, the exit code, what is said of errors, be it by the reader of the command line, their cause
and the entries in the log are the same, letter for letter. -/
theorem token_does_not_show {args args' : List String} {env env' : Environment}
    (hArgs : ArgsAlike args args') (hEnv : EnvsAlike env env') (canBind : SocketAddress → Bool)
    (lastWords : String → List String) :
    (startUp args env).outcome canBind lastWords =
      (startUp args' env').outcome canBind lastWords := by
  have hLog : ∀ log, logFilter env log = logFilter env' log := by
    intro log
    rw [logFilter, logFilter, hEnv.same "RUST_LOG" (by decide)]
  have hOptions := ofArgs_alike hArgs hEnv
  rw [startUp, startUp]
  revert hOptions
  generalize Options.ofArgs args env = asked, Options.ofArgs args' env' = asked'
  intro hOptions
  cases hOptions with
  | refused stop => rfl
  | @passed o o' h =>
      obtain ⟨hConfig, hSameLog⟩ := h
      dsimp only
      rw [hLog, hSameLog, hConfig.validate_eq, hConfig.announcements_eq]
      cases logFilter env' o'.log with
      | error filter => rfl
      | ok found =>
          dsimp only
          cases o'.config.validate with
          | error e => rfl
          | ok => rw [StartUp.outcome, StartUp.outcome, hConfig.listen_eq]

/-- Two tokens of which one is far longer, on the command line, make the same entry in the log.  Two
tokens with blanks around them, in the environment, are refused in the same words.  A token that is
given a second time is not told, nor is the second one. -/
theorem longer_token_does_not_show :
    let env := fun token name => if name = "CONTROL_PLANE_AUTH_TOKEN" then some token else none
    let args := fun token => ["--log=[\x7bmessage\x7d]=info", "--auth-token=" ++ token]
    let twice := fun token => ["--auth-token=" ++ token, "--auth-token=x", "--", "y"]
    let comesTo := fun args env => (startUp args env).outcome (fun _ => true) fun _ => []
    let started : Outcome := ⟨none, [], none,
      ["INFO starting control plane with config: DaemonConfig \x7b listen: 0.0.0.0:8080, " ++
        "auth_token: Some(\"<redacted>\"), sweep_interval_seconds: 30, max_body_bytes: 1048576, " ++
        "cors_permissive: false \x7d"]⟩
    let refused : Outcome := ⟨some 1, ["Error: invalid configuration"],
      some "auth token must not have leading or trailing whitespace", []⟩
    let misused : Outcome := ⟨some 2,
      ["error: the argument '--auth-token <AUTH_TOKEN>' cannot be used multiple times"], none, []⟩
    comesTo (args "s3cret") (env "x") = started ∧
      comesTo (args "ein längeres Geheimnis") (env "y") = started ∧
      comesTo ["--log="] (env " s3cret") = refused ∧
      comesTo ["--log="] (env "tok\u3000") = refused ∧
      comesTo (twice "s3cret") (env "x") = misused ∧
      comesTo (twice "ein längeres Geheimnis") (env "y") = misused := by
  intro env args twice comesTo started refused misused
  have hEnv : ∀ s t, TokensAlike s t → EnvsAlike (env s) (env t) := by
    intro s t hTokens
    refine ⟨fun name hName => ?_, .some hTokens⟩
    exact (if_neg hName).trans (if_neg hName).symm
  have hUsable : TokensAlike "s3cret" "ein längeres Geheimnis" := by
    apply TokensAlike.usable <;> decide +kernel
  have hVariable : TokensAlike "x" "y" := by
    apply TokensAlike.usable <;> decide +kernel
  have hPadded : TokensAlike " s3cret" "tok\u3000" := by
    apply TokensAlike.padded <;> decide +kernel
  have hStarted : comesTo (args "s3cret") (env "x") = started := by
    decide +kernel
  have hRefused : comesTo ["--log="] (env " s3cret") = refused := by
    decide +kernel
  have hMisused : comesTo (twice "s3cret") (env "x") = misused := by
    decide +kernel
  have hArgs : ArgsAlike (args "s3cret") (args "ein längeres Geheimnis") :=
    .same (by decide) (.token hUsable .nil)
  have hTwice : ArgsAlike (twice "s3cret") (twice "ein längeres Geheimnis") :=
    .token hUsable (.same (by decide) (.ended ["y"]))
  have hNoArgs : ArgsAlike ["--log="] ["--log="] := .same (by decide) .nil
  have hLonger := token_does_not_show hArgs (hEnv _ _ hVariable) (fun _ => true) fun _ => []
  have hOther := token_does_not_show hNoArgs (hEnv _ _ hPadded) (fun _ => true) fun _ => []
  have hAgain := token_does_not_show hTwice (hEnv _ _ hVariable) (fun _ => true) fun _ => []
  exact ⟨hStarted, hLonger.symm.trans hStarted, hRefused, hOther.symm.trans hRefused, hMisused,
    hAgain.symm.trans hMisused⟩

end Admission.Daemon
