/-
  Switches: the options of the command line, how they are spelled and what they are for.

  Every command has a vocabulary, a list of switches.  The order counts: where a word could stand for
  several switches, they are named in this order, and help lists them in it.
-/

namespace Relaunch.Options

/-- An option of the command line. -/
inductive Switch
  | help
  | version
  | pattern
  | executable
  | workdir
  | logFile
  | appendLog
  | fdLimit
  | noFdLimit
  | attempts
  | delay
  | gracefulTimeout
  | healthPort
  | healthHost
  | healthTimeout
  | json
  | verbose
  deriving DecidableEq, Repr, Inhabited

namespace Switch

/-- The ways to spell a switch. -/
def spellings : Switch → List String
  | help => ["-h", "--help"]
  | version => ["--version"]
  | pattern => ["--pattern"]
  | executable => ["--executable"]
  | workdir => ["--workdir"]
  | logFile => ["--log-file"]
  | appendLog => ["--append-log"]
  | fdLimit => ["--fd-limit"]
  | noFdLimit => ["--no-fd-limit"]
  | attempts => ["--attempts"]
  | delay => ["--delay"]
  | gracefulTimeout => ["--graceful-timeout"]
  | healthPort => ["--health-port"]
  | healthHost => ["--health-host"]
  | healthTimeout => ["--health-timeout"]
  | json => ["--json"]
  | verbose => ["-v", "--verbose"]

/-- What stands for the value of a switch in help, if the switch takes one. -/
def placeholder? : Switch → Option String
  | help | version | appendLog | noFdLimit | json | verbose => none
  | pattern => some "PATTERN"
  | executable => some "EXECUTABLE"
  | workdir => some "WORKING_DIR"
  | logFile => some "LOG_FILE"
  | fdLimit => some "FD_LIMIT"
  | attempts => some "MAX_ATTEMPTS"
  | delay => some "ATTEMPT_DELAY"
  | gracefulTimeout => some "GRACEFUL_TIMEOUT"
  | healthPort => some "HEALTH_PORT"
  | healthHost => some "HEALTH_HOST"
  | healthTimeout => some "HEALTH_TIMEOUT"

/-- Does the switch take a value? -/
def takesValue (s : Switch) : Bool := s.placeholder?.isSome

/-- What the switch is for. -/
def purpose : Switch → String
  | help => "show this help message and exit"
  | version => "show program's version number and exit"
  | pattern => "Command-line substring identifying the service"
  | executable => "Executable or launch script to start"
  | workdir => "Working directory"
  | logFile => "Service log file, relative to the working directory"
  | appendLog => "Keep previous output instead of truncating the log"
  | fdLimit => "Open file limit for the service"
  | noFdLimit => "Leave the open file limit alone"
  | attempts => "Search attempts before launching"
  | delay => "Seconds between search attempts"
  | gracefulTimeout =>
    "Send SIGTERM and wait this long before SIGKILL (default: SIGKILL immediately)"
  | healthPort => "Wait for the new instance to listen on this port"
  | healthHost => "Host for the health probe"
  | healthTimeout => "Seconds to wait for the health probe"
  | json => "Print a JSON report"
  | verbose => "Debug logging"

/-- The switch that excludes the given one. -/
def rival? : Switch → Option Switch
  | fdLimit => some noFdLimit
  | noFdLimit => some fdLimit
  | _ => none

/-- A switch as a complaint names it. -/
def title (s : Switch) : String := String.intercalate "/" s.spellings

end Switch

/-- What may be asked of the program. -/
inductive Command
  /-- Replace a running instance by a fresh one. -/
  | restart
  /-- List the running instances. -/
  | find
  deriving DecidableEq, Repr, Inhabited

namespace Command

/-- The name of a command. -/
def name : Command → String
  | restart => "restart"
  | find => "find"

/-- What the command does. -/
def purpose : Command → String
  | restart => "Kill a stale instance and launch a new one"
  | find => "List running instances of a service"

/-- All commands. -/
def all : List Command := [restart, find]

/-- The command with a name. -/
def ofName? (name : String) : Option Command := all.find? fun c => c.name == name

end Command

/-- The switches that stand before the command. -/
def generalVocabulary : List Switch := [.help, .version]

/-- The switches of a command. -/
def Command.vocabulary : Command → List Switch
  | restart => [
      .help, .pattern, .executable, .workdir, .logFile, .appendLog, .fdLimit, .noFdLimit, .attempts,
      .delay, .gracefulTimeout, .healthPort, .healthHost, .healthTimeout, .json, .verbose]
  | find => [.help, .pattern, .verbose]

end Relaunch.Options
