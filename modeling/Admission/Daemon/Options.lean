import Admission.Cli.Options
import Admission.Daemon.Config
import Admission.Text.Decimal

/-!
# Options of the daemon

Every setting has an option and a variable of the environment, save that other origins are let in by
a switch alone.
-/

namespace Admission.Daemon

open Admission.Cli Admission.Net Admission.Text

/-- A number of 64 bits. -/
def readWord (s : String) : Except String Nat :=
  (readBounded 0 0xFFFFFFFFFFFFFFFF s).map Int.toNat

/-- The address with a text. -/
def readAddress (s : String) : Except String SocketAddress :=
  match SocketAddress.ofText? s with
  | some address => .ok address
  | none => .error "invalid socket address syntax"

/-- The address to listen at. -/
def listenParam : Param SocketAddress := ⟨"listen", some "CONTROL_PLANE_LISTEN", readAddress⟩

/-- The token that callers must present. -/
def tokenParam : Param String := ⟨"auth-token", some "CONTROL_PLANE_AUTH_TOKEN", .ok⟩

/-- The seconds from one sweep to the next. -/
def sweepIntervalParam : Param Nat :=
  ⟨"sweep-interval-seconds", some "CONTROL_PLANE_SWEEP_INTERVAL_SECONDS", readWord⟩

/-- The bytes that a body may have. -/
def maxBodyParam : Param Nat := ⟨"max-body-bytes", some "CONTROL_PLANE_MAX_BODY_BYTES", readWord⟩

/-- The switch that lets other origins in. -/
def corsSwitch : Opt := ⟨"cors-permissive", none, .switch⟩

/-- What is logged. -/
def logParam : Param String := textParam "log"

/-- What the command line takes. -/
def spec : Spec where
  options := [listenParam.opt, tokenParam.opt, sweepIntervalParam.opt, maxBodyParam.opt, corsSwitch,
    logParam.opt, helpOpt, versionOpt]
  commands := []

/-- What the command line and the environment ask for. -/
structure Options where
  config : Config
  /-- The text of the log filter. -/
  log : String
  deriving DecidableEq, Repr

namespace Options

/-- The options that are given, with the default for every other. -/
def ofGiven (env : Environment) (given : Given) : Except Stop Options := do
  let listen ← listenParam.value env given
  let authToken ← tokenParam.value env given
  let sweepInterval ← sweepIntervalParam.value env given
  let maxBody ← maxBodyParam.value env given
  let log ← logParam.value env given
  return {
    config := {
      listen := listen.getD Config.default.listen
      authToken := authToken
      sweepIntervalSeconds := sweepInterval.getD Config.default.sweepIntervalSeconds
      maxBodyBytes := maxBody.getD Config.default.maxBodyBytes
      corsPermissive := (given.lookup corsSwitch.name).isSome }
    log := log.getD "info" }

/-- The options of a command line, which has nothing else. -/
def ofArgs (args : List String) (env : Environment) : Except Stop Options := do
  let (reading, _) ← spec.read .start args
  ofGiven env (← reading.settle)

end Options

end Admission.Daemon
