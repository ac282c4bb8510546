/-
  The program: from arguments and environment to an exit code.

  The arguments after the first double dash belong to the service; those before it are the command
  line.  The exit code tells what came of the request: 0 for success, 1 for a launch that failed, 2
  for a request that makes no sense, 3 for a service that does not accept connections.
-/
import Relaunch.JournalSetup
import Relaunch.Json.Printer
import Relaunch.Options.Request
import Relaunch.Restart
import Relaunch.Service.Definition

namespace Relaunch.App

/-- The part that speaks in this module. -/
def speaker : String := "restarter.main"

/-! ## Exit codes -/

/-- What came of a request. -/
inductive Ending
  | success
  | launchFailed
  | badRequest
  | unhealthy
  deriving DecidableEq, Repr, Inhabited

/-- The exit code of an ending. -/
def Ending.code : Ending → Nat
  | success => 0
  | launchFailed => 1
  | badRequest => 2
  | unhealthy => 3

/-- What came of a restart that went through. -/
def endingOf (report : Report) : Ending :=
  if report.healthy = some false then .unhealthy else .success

/-! ## Restarting -/

/-- What a request and the arguments for the service give for a definition. -/
def overrides (choices : Options.Choices) (arguments : List String) : Service.Overrides where
  pattern := choices.pattern.map .text
  executable := choices.executable.map .text
  arguments := if arguments = [] then none else some (.list (arguments.map .text))
  workingDirectory := choices.workingDirectory.map .path
  log := choices.log.map .text
  logMode := if choices.appendLog then some (.text OpenMode.append.name) else none
  fileLimit := choices.fileLimit.map .int
  maxAttempts := choices.attempts.map .int
  attemptDelay := choices.delay.map .float
  grace := choices.grace.map .float
  healthPort := choices.healthPort.map .int
  healthHost := choices.healthHost.map .text
  healthTimeout := choices.healthTimeout.map .float

/-- The query of a definition. -/
def queryOf (definition : Service.Definition) : Session Query :=
  match definition.query? with
  | some query => pure query
  | none => throw (.badValue Query.emptyPatternMessage)

/-- How patiently a stale instance of a definition is retired. -/
def patienceOf (definition : Service.Definition) : Session Patience :=
  match definition.patience with
  | .ok patience => pure patience
  | .error refusal => throw (.badValue refusal.message)

/-- Restart a service that is defined. -/
def restartDefined (definition : Service.Definition) : Session Report := do
  let query ← queryOf definition
  let patience ← patienceOf definition
  Restart.run query patience definition.launchPlan definition.probe?

/-- Restart a service that is defined; nothing when its launch fails. -/
def attemptRestart (definition : Service.Definition) : Session (Option Report) :=
  tryCatch (do return some (← restartDefined definition)) fun fault =>
    if fault.isLaunchFailure then do
      Host.say .error speaker
        ("Failed to start service " ++ definition.name ++ ": " ++ fault.message)
      pure none
    else throw fault

/-- Restart a service, and report. -/
def restart (settings : Settings) (service : String) (choices : Options.Choices)
    (arguments : List String) : Session Ending := do
  match Service.Definition.resolve settings service (overrides choices arguments) with
  | .error error =>
    Host.say .error speaker ("Invalid configuration for " ++ service ++ ": " ++ error.message)
    return .badRequest
  | .ok definition =>
    Host.say .info speaker
      ("Restarting " ++ definition.name ++ " (pattern '" ++ definition.pattern ++ "') in "
        ++ definition.workingDirectory.text)
    match ← attemptRestart definition with
    | none => return .launchFailed
    | some report =>
      if choices.json then Host.print (report.toJson.print ++ "\n")
      return endingOf report

/-! ## Finding -/

/-- A process in a listing. -/
def listingLine (handle : Handle) : String :=
  toString handle.pid ++ "\t" ++ handle.commandLine ++ "\n"

/-- List the running instances of a service. -/
def find (service : String) (pattern : Option String) : Session Ending := do
  match Service.query? service pattern with
  | none =>
    Host.say .error speaker
      ("Invalid pattern for " ++ service ++ ": " ++ Query.emptyPatternMessage)
    return .badRequest
  | some query =>
    let handles := Handle.sort (← Discovery.find query)
    if handles.isEmpty then Host.say .info speaker ("No " ++ query.pattern ++ " process")
    Host.print (String.join (handles.map listingLine))
    return .success

/-! ## The program -/

/-- The arguments before the first double dash, and those after it. -/
def splitArguments : List String → List String × List String
  | [] => ([], [])
  | argument :: rest =>
    if argument = "--" then ([], rest)
    else
      let (own, passed) := splitArguments rest
      (argument :: own, passed)

/-- Do what is asked for. -/
def obey (settings : Settings) (request : Options.Request) (arguments : List String) :
    Session Ending := do
  JournalSetup.run settings request.choices.verbose
  match request.command with
  | .restart => restart settings request.service request.choices arguments
  | .find => find request.service request.choices.pattern

/-- Run the program under settings; its exit code. -/
def runWith (settings : Settings) (arguments : List String) : Session Nat := do
  let (own, passed) := splitArguments arguments
  match Options.read own with
  | .error stop =>
    Host.print (stop.stdout settings.columns)
    Host.complain (stop.stderr settings.columns)
    return stop.exitCode
  | .ok request => return (← obey settings request passed).code

/-- Run the program; its exit code. -/
def run (env : Environment) (envFile : Option String) (arguments : List String) : Session Nat := do
  runWith (← Settings.load env envFile) arguments

/-- The machine as a new process finds it: nothing said, nothing shown and nothing open yet. -/
def newProcess (host : Host) : Host :=
  { host with
    journal := {}, records := #[], calls := #[], stdout := "", stderr := "", openLogs := [] }

end Relaunch.App
