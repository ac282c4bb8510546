/-
  The log of a launched service: the one file that takes both its output streams.
-/
import Relaunch.Host.Files
import Relaunch.LaunchPlan

namespace Relaunch

/-- A file for the output of a service. -/
structure ServiceLog where
  path : Path
  mode : OpenMode := .truncate
  deriving DecidableEq, Repr, Inhabited

namespace ServiceLog

/-- The part that speaks in this module. -/
def speaker : String := "restarter.logsink"

/-- Open the log, making the directories above it that are missing.  The caller closes it. -/
def openFile (log : ServiceLog) : Session Place := do
  Host.makeDirectories log.path.parent
  Host.say .debug speaker
    ("Opening log sink " ++ log.path.text ++ " (" ++ log.mode.name ++ ")")
  let place ← Host.openFile log.path log.mode
  Host.holdLog place
  return place

/-- Open the log, write to it and close it. -/
def write (log : ServiceLog) (content : String) : Session Unit := do
  let place ← log.openFile
  Host.writeFile place content
  Host.closeLog place

end ServiceLog

end Relaunch
