import Admission.Client.Run
import Admission.Daemon.StartUp

/-!
# The programs

One executable holds both programs: under the name `controlplanectl` it is the client, under every
other name the daemon.  It has no network: no address can be bound, and no message arrives.
-/

namespace Admission.Main

open Admission.Cli

/-- The variables of the environment that the programs read. -/
def envNames : List String :=
  "RUST_LOG" :: [Daemon.listenParam.envName?, Daemon.tokenParam.envName?,
    Daemon.sweepIntervalParam.envName?, Daemon.maxBodyParam.envName?, Client.urlParam.envName?,
    Client.tokenParam.envName?].filterMap id

/-- The environment as it is now. -/
def environment : IO Environment := do
  let values ← envNames.filterMapM fun name => do
    return (← IO.getEnv name).map fun value => (name, value)
  return fun name => values.lookup name

/-- The bytes of a file, if it can be read. -/
def readFile (path : String) : IO (Option (List UInt8)) := do
  try return some (← IO.FS.readBinFile path).toList
  catch _ => return none

/-- Run the client. -/
def runClient (args : List String) : IO Nat := do
  let outcome ← Client.run readFile (fun _ => pure none) args (← environment)
  match outcome with
  | .stopped stop => stop.line?.toList.forM IO.eprintln
  | .failed failure => IO.eprintln ("Error: " ++ failure.message)
  | .printed text => IO.print text
  return outcome.exitCode

/-- Run the daemon. -/
def runDaemon (args : List String) : IO Nat := do
  let outcome := (Daemon.startUp args (← environment)).outcome (fun _ => false) fun _ => []
  outcome.log.forM IO.println
  outcome.errors.forM IO.eprintln
  match outcome.cause with
  | none => pure ()
  | some cause => IO.eprintln ("\nCaused by:\n    " ++ cause)
  return outcome.exitCode.getD 0

end Admission.Main

/-- Run the program that the executable is named for. -/
def main (args : List String) : IO UInt32 := do
  let code ← if (← IO.appPath).fileStem = some Admission.Client.programName then Admission.Main.runClient args
    else Admission.Main.runDaemon args
  return code.toUInt32
