/-
  Service definitions: everything there is to know about one service before it is restarted.

  A definition is put together from three layers: what is given for this run, what is preset for the
  name, and what the settings say.  What is given wins, as long as it is given at all: zero and empty
  values count.  Then every field is checked, what comes from the settings included.
-/
import Relaunch.Probe
import Relaunch.Patience
import Relaunch.Service.Field
import Relaunch.Service.Preset
import Relaunch.Settings

namespace Relaunch.Service

/-! ## What is given -/

/-- What is given for a service; a field is `none` where nothing is given for it. -/
structure Overrides where
  pattern : Option Given := none
  executable : Option Given := none
  arguments : Option Given := none
  workingDirectory : Option Given := none
  log : Option Given := none
  logMode : Option Given := none
  fileLimit : Option Given := none
  maxAttempts : Option Given := none
  attemptDelay : Option Given := none
  grace : Option Given := none
  healthPort : Option Given := none
  healthHost : Option Given := none
  healthTimeout : Option Given := none
  deriving Repr, Inhabited

/-- What is preset for a service, under what is given for it; the name itself is the last resort for
the pattern. -/
def Overrides.withPreset (given : Overrides) (name : String) : Overrides :=
  let preset := Preset.named? name
  { given with
    pattern := given.pattern.or (some (.text ((preset.map Preset.pattern).getD name)))
    executable := given.executable.or (preset.map fun p => .text p.executable) }

/-! ## Definitions -/

/-- A definition whose fields have been checked. -/
structure Definition where
  name : String
  pattern : String
  executable : String
  arguments : List String
  workingDirectory : Path
  log : String
  logMode : OpenMode
  fileLimit : Int
  maxAttempts : Int
  attemptDelay : Float
  grace : Option Float
  healthPort : Option Int
  healthHost : String
  healthTimeout : Float
  deriving Repr, Inhabited

/-- Why a service cannot be defined. -/
inductive DefinitionError
  /-- The name is not known, and no executable is given. -/
  | unknown (name : String)
  | invalid (violations : List Violation)
  deriving Repr, Inhabited

/-- The wording of a definition error. -/
def DefinitionError.message : DefinitionError → String
  | unknown name =>
    "Unknown service '" ++ name ++ "' and no executable given. Known services: " ++ Preset.nameList
  | invalid violations => complaint violations

namespace Definition

/-- Check the fields of a service, in order.  Fields that nothing is given for come from the
settings; of those, the ones that a variable may set to nonsense are checked as well. -/
def check (settings : Settings) (name : String) (executable : Given) (given : Overrides) :
    Checked Definition :=
  Definition.mk
    <$> Field.nonEmptyText "name" (.text name)
    <*> Field.nonEmptyText "pattern" (given.pattern.getD (.text name))
    <*> Field.nonEmptyText "executable" executable
    <*> Field.texts "arguments" (given.arguments.getD (.list []))
    <*> Field.path "working_dir" (given.workingDirectory.getD (.path settings.workingDirectory))
    <*> Field.text "log_file" (given.log.getD (.text settings.serviceLog))
    <*> Field.logMode "log_mode" (given.logMode.getD (.text settings.serviceLogMode))
    <*> Field.int "fd_limit" 0 none (given.fileLimit.getD (.int settings.fileLimit))
    <*> Field.int "max_attempts" 1 none (given.maxAttempts.getD (.int settings.maxAttempts))
    <*> Field.seconds "attempt_delay" (given.attemptDelay.getD (.float settings.attemptDelay))
    <*> Field.optional (Field.seconds "graceful_timeout") given.grace
    <*> Field.optional (Field.int "health_port" 1 (some 65535)) given.healthPort
    <*> Field.text "health_host" (given.healthHost.getD (.text settings.healthHost))
    <*> Field.seconds "health_timeout" (given.healthTimeout.getD (.float settings.healthTimeout))

/-- The definition of a service. -/
def resolve (settings : Settings) (name : String) (given : Overrides) :
    Except DefinitionError Definition :=
  let given := given.withPreset name
  match given.executable with
  | none => .error (.unknown name)
  | some executable =>
    match check settings name executable given with
    | .good definition => .ok definition
    | .bad violations => .error (.invalid violations)

/-! ## What a restart takes from a definition -/

/-- The query for the service, `none` when its pattern is empty. -/
def query? (definition : Definition) : Option Query := Query.ofPattern? definition.pattern

/-- How patiently a stale instance is retired. -/
def patience (definition : Definition) : Except Patience.Refusal Patience :=
  Patience.check {
    attempts := .int definition.maxAttempts
    delay := .float definition.attemptDelay
    grace := definition.grace.map .float }

/-- What to launch; a limit of zero leaves the limit on open files alone. -/
def launchPlan (definition : Definition) : LaunchPlan where
  executable := definition.executable
  directory := definition.workingDirectory
  arguments := definition.arguments
  log := Path.ofText definition.log
  fileLimit := if definition.fileLimit = 0 then none else some definition.fileLimit
  mode := definition.logMode

/-- The probe of the service, if it has a port to be probed at. -/
def probe? (definition : Definition) : Option Probe :=
  definition.healthPort.map fun port => {
    port, host := definition.healthHost, timeout := .float definition.healthTimeout }

end Definition

end Relaunch.Service
