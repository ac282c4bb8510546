/-
  Launch plans: an executable with its arguments, where it runs, and where its output goes.
-/
import Relaunch.Host.Basic

namespace Relaunch

namespace OpenMode

/-- The name of a mode in settings. -/
def name : OpenMode → String
  | truncate => "truncate"
  | append => "append"

/-- The mode with a name. -/
def ofName? (name : String) : Option OpenMode :=
  [truncate, append].find? fun mode => mode.name == name

end OpenMode

/-- Everything needed to start an instance. -/
structure LaunchPlan where
  executable : String
  directory : Path
  arguments : List String := []
  /-- The log, relative to the working directory unless it is absolute. -/
  log : Path := ⟨.here, ["run.log"]⟩
  /-- How many open files the instance may need; without it the limit is left alone. -/
  fileLimit : Option Int := some 65536
  mode : OpenMode := .truncate
  deriving DecidableEq, Repr, Inhabited

namespace LaunchPlan

/-- The executable and its arguments. -/
def argv (plan : LaunchPlan) : List String := plan.executable :: plan.arguments

/-- The log as the working directory makes it. -/
def resolvedLog (plan : LaunchPlan) : Path := plan.directory / plan.log

end LaunchPlan

end Relaunch
