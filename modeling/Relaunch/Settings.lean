/-
  Settings: what the environment says about how services are restarted.

  Every setting has a variable and a default.  A variable that is set counts, even when it is empty.
  The settings are read in a fixed order, so that of several ill-formed numbers the first one is the
  one complained about.
-/
import Relaunch.Environment.EnvFile
import Relaunch.Host.Basic
import Relaunch.Number.Numeral
import Relaunch.Options.Usage

namespace Relaunch

/-- The settings of the supervisor. -/
structure Settings where
  /-- Where the supervisor keeps its own log. -/
  dataDirectory : Path
  /-- Where services run, unless told otherwise. -/
  workingDirectory : Path
  /-- Size in bytes that the supervisor's log stays below. -/
  logMaxBytes : Int
  /-- How many older logs of the supervisor are kept. -/
  logBackups : Int
  /-- The log of a service. -/
  serviceLog : String
  /-- Whether the log of a service starts over, as the variable says it. -/
  serviceLogMode : String
  /-- How often a stale instance is searched for. -/
  maxAttempts : Int
  /-- Seconds between two searches. -/
  attemptDelay : Float
  /-- How many open files a service may need; zero to leave the limit alone. -/
  fileLimit : Int
  /-- The host that probes connect to. -/
  healthHost : String
  /-- Seconds until a probe gives up. -/
  healthTimeout : Float
  /-- Columns that help is laid out for. -/
  columns : Nat := Options.usualColumns
  deriving Repr, Inhabited

namespace Settings

/-- The supervisor's own log. -/
def supervisorLog (settings : Settings) : Path := settings.dataDirectory / Path.ofText "restarter.log"

/-- Why the settings cannot be read. -/
inductive ReadError
  /-- The home directory is not a path. -/
  | noHome
  | badNumber (error : Number.NumeralError)
  | badVariable (error : EnvFile.SetError)
  deriving DecidableEq, Repr

/-- The fault that a read error is. -/
def ReadError.fault : ReadError → Fault
  | noHome => .failure "Could not determine home directory."
  | badNumber error => .badValue error.message
  | badVariable error => .badValue error.message

/-- The home directory of a user, without the slashes at its end. -/
def home (env : Environment) : Except ReadError Path :=
  let text := String.ofList ((env.getD "HOME" "").toList.reverse.dropWhile (· == '/')).reverse
  if text.toList.head? = some '~' then .error .noHome
  else .ok (Path.ofText (if text = "" then "/" else text))

/-- An integer setting. -/
def int (env : Environment) (name fallback : String) : Except ReadError Int :=
  (Number.readInt (env.getD name fallback)).mapError .badNumber

/-- A setting in seconds. -/
def seconds (env : Environment) (name fallback : String) : Except ReadError Float :=
  (Number.readFloat (env.getD name fallback)).mapError .badNumber

/-- The columns of the terminal, where the environment gives a positive number of them. -/
def columnsOf (env : Environment) : Nat :=
  match Number.readInt (env.getD "COLUMNS" "") with
  | .ok count => if 0 < count then count.toNat else Options.usualColumns
  | .error _ => Options.usualColumns

/-- Read the settings of a process that runs in the directory `cwd`. -/
def read (env : Environment) (cwd : Path) : Except ReadError Settings := do
  let home ← home env
  let dataDirectory := Path.ofText (env.getD "RESTARTER_HOME" (home / Path.ofText ".restarter").text)
  let workingDirectory := Path.ofText (env.getD "RESTARTER_WORKDIR" cwd.text)
  let logMaxBytes ← int env "LOG_MAX_BYTES" "10485760"
  let logBackups ← int env "LOG_BACKUP_COUNT" "5"
  let serviceLog := env.getD "RESTARTER_LOG_FILE" "run.log"
  let serviceLogMode := env.getD "RESTARTER_LOG_MODE" "truncate"
  let maxAttempts ← int env "RESTARTER_MAX_ATTEMPTS" "5"
  let attemptDelay ← seconds env "RESTARTER_ATTEMPT_DELAY" "2"
  let fileLimit ← int env "RESTARTER_FD_LIMIT" "65536"
  let healthHost := env.getD "RESTARTER_HEALTH_HOST" "127.0.0.1"
  let healthTimeout ← seconds env "RESTARTER_HEALTH_TIMEOUT" "10"
  return {
    dataDirectory, workingDirectory, logMaxBytes, logBackups, serviceLog, serviceLogMode
    maxAttempts, attemptDelay, fileLimit, healthHost, healthTimeout, columns := columnsOf env }

/-! ## Loading -/

/-- The part that speaks about environment files. -/
def speaker : String := "dotenv.main"

/-- Say which statements of an environment file make no sense. -/
def announceSenseless : (lines : List Nat) → Session Unit
  | [] => pure ()
  | line :: rest => do
    Host.say .warning speaker
      ("python-dotenv could not parse statement starting at line " ++ toString line)
    announceSenseless rest

/-- The environment after an environment file, where there is one and it is not turned off. -/
def extend (env : Environment) (envFile : Option String) : Session Environment := do
  if EnvFile.isDisabled env then
    Host.say .debug speaker
      "python-dotenv: .env loading disabled by PYTHON_DOTENV_DISABLED environment variable"
    return env
  match envFile with
  | none => return env
  | some text =>
    let statements := EnvFile.statements text
    announceSenseless (EnvFile.senselessLines statements)
    match EnvFile.load env statements with
    | .ok extended => return extended
    | .error error => throw (ReadError.badVariable error).fault

/-- The settings from the environment and an environment file. -/
def load (env : Environment) (envFile : Option String) : Session Settings := do
  let extended ← extend env envFile
  match read extended (← get).cwd with
  | .ok settings => return settings
  | .error error => throw error.fault

end Settings

end Relaunch
