import Admission.Net.SocketAddress
import Admission.Text.Blank

/-!
# Configuration of the daemon

A configuration is valid if its token could be presented and its limits are not zero.  Its text for
logs shows everything but the token.

## Main results

* `validate_eq_ok_iff`: which configurations are valid.
* `text_congr_token`: the text tells of the token only whether there is one.
-/

namespace Admission

open Admission.Net Admission.Text

/-- How the daemon is set up. -/
structure Config where
  listen : SocketAddress
  /-- The token that callers must present; without one, everyone may call. -/
  authToken : Option String
  sweepIntervalSeconds : Nat
  maxBodyBytes : Nat
  corsPermissive : Bool
  deriving DecidableEq, Repr

/-- Why a configuration is refused. -/
inductive ConfigError where
  | blankToken
  | paddedToken
  | zeroSweepInterval
  | zeroMaxBody
  deriving DecidableEq, Repr

/-- The wording of a refusal. -/
def ConfigError.message : ConfigError → String
  | .blankToken => "auth token must not be blank; omit it to disable authentication"
  | .paddedToken => "auth token must not have leading or trailing whitespace"
  | .zeroSweepInterval => "sweep interval must be at least one second"
  | .zeroMaxBody => "max body bytes must be greater than zero"

namespace Config

/-- The setting for whatever is not said. -/
def default : Config where
  listen := .v4 [0, 0, 0, 0] 8080
  authToken := none
  sweepIntervalSeconds := 30
  maxBodyBytes := 1024 * 1024
  corsPermissive := false

instance : Inhabited Config := ⟨default⟩

/-- A presented token loses the blanks around it, so a token must have none. -/
def validateToken : Option String → Except ConfigError Unit
  | none => .ok ()
  | some token =>
    if isBlank token then .error .blankToken
    else if trim token = token then .ok ()
    else .error .paddedToken

/-- Check the token, then the sweep interval, then the size limit. -/
def validate (c : Config) : Except ConfigError Unit := do
  validateToken c.authToken
  if c.sweepIntervalSeconds = 0 then throw .zeroSweepInterval
  if c.maxBodyBytes = 0 then throw .zeroMaxBody

/-- What is shown of the token. -/
def shownToken : Option String → String
  | none => "None"
  | some _ => "Some(\"<redacted>\")"

/-- The text for logs. -/
def text (c : Config) : String :=
  "DaemonConfig \x7b listen: " ++ c.listen.text ++ ", auth_token: " ++ shownToken c.authToken ++
    ", sweep_interval_seconds: " ++ toString c.sweepIntervalSeconds ++ ", max_body_bytes: " ++
    toString c.maxBodyBytes ++ ", cors_permissive: " ++
    (if c.corsPermissive then "true" else "false") ++ " \x7d"

theorem validate_eq_ok_iff (c : Config) :
    c.validate = .ok () ↔
      (∀ token ∈ c.authToken, isBlank token = false ∧ trim token = token) ∧
        c.sweepIntervalSeconds ≠ 0 ∧ c.maxBodyBytes ≠ 0 := by
  obtain ⟨listen, token, sweep, body, cors⟩ := c
  cases token with
  | none =>
    by_cases hs : sweep = 0 <;> by_cases hb : body = 0 <;>
      simp [validate, validateToken, hs, hb, bind, Except.bind, throw, throwThe,
        MonadExceptOf.throw, pure, Except.pure]
  | some token =>
    by_cases ht : isBlank token = true <;> by_cases hp : trim token = token <;>
      by_cases hs : sweep = 0 <;> by_cases hb : body = 0 <;>
        simp [validate, validateToken, ht, hp, hs, hb, bind, Except.bind, throw, throwThe,
          MonadExceptOf.throw, pure, Except.pure]

/-- The text tells of the token only whether there is one. -/
theorem text_congr_token (c : Config) (s t : String) :
    ({ c with authToken := some s } : Config).text =
      ({ c with authToken := some t } : Config).text :=
  rfl

end Config

end Admission
