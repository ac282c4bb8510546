/-
  Starting executables on a host.

  A started process writes its output to the log that it was given and takes the next pid.  It joins
  the table under the last part of its executable, unless it exits.
-/
import Relaunch.Host.Basic

namespace Relaunch.Host

/-- The last piece of a text after a slash. -/
def lastPiece (text : String) : String :=
  String.ofList (text.toList.reverse.takeWhile (· != '/')).reverse

/-- Start an executable with its output going to the open file `log`; its pid. -/
def spawn (command : SpawnCommand) (log : Place) : Session Int := do
  note (.spawn command)
  let host ← get
  let executable := command.argv.headD ""
  match (host.executables.lookup executable).getD (.runs "" false) with
  | .fails fault => throw fault
  | .runs output exits =>
    let pid := host.nextPid
    let joining : List TableEntry :=
      if exits then [] else [{ pid, name := lastPiece executable, commandLine := command.argv }]
    set { host with
      nextPid := pid + 1
      processes := host.processes ++ joining
      files := host.files.append log output }
    pure pid

end Relaunch.Host
