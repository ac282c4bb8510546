/-
  The command line.

  This layer reads the machine as far as it can be read: the environment, the working directory, the
  environment file in it and the process table.  The program runs on that copy, and what it shows is
  shown.  Listing services is all there is to it; a restart is a rehearsal, since nothing here sends
  signals or starts executables.
-/
import Relaunch.App

namespace Relaunch.Main

/-! ## Texts of the machine -/

/-- The pieces of a text that ends each of them with a null character. -/
def splitNulls (text : String) : List String :=
  let pieces := text.splitOn "\x00"
  if pieces.getLast? = some "" then pieces.dropLast else pieces

/-- A variable, from its name, an equals sign and its value. -/
def binding? (text : String) : Option (String × String) :=
  match text.splitOn "=" with
  | [] | [_] => none
  | name :: value => some (name, String.intercalate "=" value)

/-- The pid of the parent, from the status of a process: the second word after its name. -/
def parent? (status : String) : Option Int := do
  let words := ((status.splitOn ")").getLast?.getD "").splitOn " "
  (← words[2]?).toInt?

/-! ## Reading the machine -/

/-- The content of a file, if it can be read. -/
def content? (path : String) : IO (Option String) := do
  try return some (← IO.FS.readFile path)
  catch _ => return none

/-- The environment. -/
def readEnvironment : IO Environment := do
  let text := (← content? "/proc/self/environ").getD ""
  return { bindings := (splitNulls text).filterMap binding? }

/-- A process of the table, if it is still there. -/
def readProcess? (pid : Int) : IO (Option TableEntry) := do
  let place := "/proc/" ++ toString pid
  match ← content? (place ++ "/cmdline"), ← content? (place ++ "/comm") with
  | some words, some name =>
    return some { pid, name := some name.trimAscii.toString, commandLine := some (splitNulls words) }
  | _, _ => return none

/-- The pids in the table, in increasing order. -/
def readPids : IO (List Int) := do
  let entries ← (← IO.FS.realPath "/proc").readDir
  let pids := entries.toList.filterMap fun entry => entry.fileName.toInt?
  return pids.mergeSort fun a b => decide (a ≤ b)

/-- The processes that started a process, nearest first; `depth` of them at most. -/
def readAncestors : (depth : Nat) → (pid : Int) → IO (List Int)
  | 0, _ => return []
  | depth + 1, pid => do
    let status := (← content? ("/proc/" ++ toString pid ++ "/stat")).getD ""
    match parent? status with
    | some parent => if parent = 0 then return [] else return parent :: (← readAncestors depth parent)
    | none => return []

/-- The machine, as far as it can be read. -/
def readHost : IO Host := do
  let cwd := Path.ofText (← IO.currentDir).toString
  let here := Path.ofText (← IO.FS.realPath "/proc/self").toString
  let self := ((here.parts.getLast?).bind String.toInt?).getD 0
  let processes ← (← readPids).filterMapM readProcess?
  let ancestors ← readAncestors processes.length self
  return {
    processes, self, ancestors, cwd
    files := ({} : FileTree).addDirectories cwd.parts }

/-- Run the program on what can be read of the machine; its exit code. -/
def run (arguments : List String) : IO UInt32 := do
  let host ← readHost
  let env ← readEnvironment
  let envFile ← content? ".env"
  match (App.run env envFile arguments).run host with
  | .ok code host =>
    IO.print host.stdout
    IO.eprint host.stderr
    return UInt32.ofNat code
  | .error fault host =>
    IO.print host.stdout
    IO.eprint host.stderr
    IO.eprintln fault.message
    return 1

end Relaunch.Main

/-- Run the program. -/
def main (arguments : List String) : IO UInt32 := Relaunch.Main.run arguments
