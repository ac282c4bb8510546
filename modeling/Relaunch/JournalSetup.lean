/-
  Setting up the journal: lines on standard error and in the supervisor's own log.

  The log is opened when the journal is set up.  Where it cannot be, the reason is shown and the lines
  go to standard error alone.  A journal that has handlers already keeps them; only its level changes.
-/
import Relaunch.Host.Files
import Relaunch.Settings

namespace Relaunch.JournalSetup

/-- The level in force: everything on request, otherwise what is of interest. -/
def levelFor (verbose : Bool) : Level := if verbose then .debug else .info

/-- The supervisor's own log as a file with an absolute path. -/
def logFile (settings : Settings) (cwd : Path) : LogFile where
  path := (cwd / settings.supervisorLog).withoutDoubleDots
  maxBytes := settings.logMaxBytes
  backups := settings.logBackups

/-- Open the supervisor's own log, making the directories above it that are missing. -/
def openLog (settings : Settings) : Session LogFile := do
  Host.makeDirectories settings.dataDirectory
  let log := logFile settings (← get).cwd
  let _ ← Host.openFile log.path .append
  return log

/-- The handlers for the supervisor's own log: none when it cannot be opened. -/
def logHandlers (settings : Settings) : Session (List Handler) :=
  tryCatch (do return [.file (← openLog settings)]) fun fault =>
    if fault.isSystemFault then do
      Host.complain
        ("Cannot write " ++ settings.supervisorLog.text ++ ", logging to console only: "
          ++ fault.message ++ "\n")
      pure []
    else throw fault

/-- Set the journal up. -/
def run (settings : Settings) (verbose : Bool) : Session Unit := do
  let level := levelFor verbose
  if (← get).journal.handlers.isEmpty then
    let handlers := .console :: (← logHandlers settings)
    modify fun host => { host with journal := { level, handlers } }
  else
    modify fun host => { host with journal := { host.journal with level } }

end Relaunch.JournalSetup
