/-
  Launching a detached service.

  A launch raises the limit on open files, looks for the working directory, opens the log and starts
  the executable, in that order, and stops at the first step that fails.  The supervisor does not wait
  for what it launched, and closes its own copy of the log whether the start went through or not.
-/
import Relaunch.FileLimit
import Relaunch.Host.Spawning
import Relaunch.ServiceLog

namespace Relaunch

/-- A launched service. -/
structure Daemon where
  pid : Int
  argv : List String
  log : Path
  startedAt : Timestamp
  deriving DecidableEq, Repr, Inhabited

namespace Launch

/-- The part that speaks in this module. -/
def speaker : String := "restarter.launcher"

/-- Open the log; a system fault becomes a launch failure. -/
def openLog (log : ServiceLog) : Session Place :=
  tryCatch log.openFile fun fault =>
    if fault.isSystemFault then throw (.logNotOpened log.path fault) else throw fault

/-- Start the executable with its output going to `log`; a system fault or an ill-formed value becomes
a launch failure. -/
def start (plan : LaunchPlan) (log : Place) : Session Int :=
  tryCatch (Host.spawn ⟨plan.argv, plan.directory.text, plan.mode⟩ log) fun fault =>
    if fault.isSystemFault || fault.isBadValue then throw (.notSpawned plan.executable fault)
    else throw fault

/-- Start the executable with its output going to `log`, and close that. -/
def startAndClose (plan : LaunchPlan) (log : Place) : Session Int :=
  tryFinally (start plan log) (Host.closeLog log)

/-- Raise the limit on open files, if the plan asks for one other than zero. -/
def raiseLimit (plan : LaunchPlan) : Session Unit :=
  match plan.fileLimit with
  | none | some 0 => pure ()
  | some limit => do
    let _ ← FileLimit.raise limit
    pure ()

/-- Launch a service. -/
def run (plan : LaunchPlan) : Session Daemon := do
  raiseLimit plan
  if !(← Host.isDirectory plan.directory) then throw (.noWorkingDirectory plan.directory)
  let log := plan.resolvedLog
  let pid ← startAndClose plan (← openLog ⟨log, plan.mode⟩)
  let startedAt := (← get).now
  Host.say .info speaker
    ("Launched " ++ plan.executable ++ " with PID " ++ toString pid ++ ", logging to " ++ log.text)
  return { pid, argv := plan.argv, log, startedAt }

end Launch

end Relaunch
