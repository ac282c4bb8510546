/-
  What can go wrong while the supervisor deals with the machine.

  A fault is named for its cause.  Three families matter to whoever handles one:
  * process faults come from the process table: a process that is gone, a zombie, one that may not be
    touched, a wait that ran out of time, or no more than that the table could not be used;
  * system faults come from the operating system, numbered or not, name resolution included;
  * launch failures say at which step a launch stopped, and hold the fault that stopped it.
  Every other fault is an ill-formed value or a defect, which nobody but the search loop expects.
-/
import Relaunch.Number.Basic
import Relaunch.Path
import Relaunch.Text.Quoted

namespace Relaunch

open Relaunch.Text

/-- The kind of a system fault that carries no number. -/
inductive SystemKind
  | plain
  | permission
  | noSuchProcess
  | refused
  | reset
  | timedOut
  deriving DecidableEq, Repr, Inhabited

/-- Something that went wrong. -/
inductive Fault
  /-- The process does not exist any more. -/
  | gone (pid : Option Int) (name text : String)
  /-- The process has ended and waits for its parent. -/
  | zombie (pid : Option Int) (name text : String)
  /-- The process may not be inspected or signalled. -/
  | denied (pid : Option Int) (name text : String)
  /-- The process did not end in time. -/
  | expired (seconds : Number) (pid : Option Int)
  /-- The process table could not be used. -/
  | table
  /-- A system fault with its number. -/
  | numbered (number : Int) (text : String) (path : Option String)
  /-- A system fault without a number. -/
  | system (kind : SystemKind) (text : String)
  /-- A host name could not be resolved. -/
  | nameResolution (number : Int) (text : String)
  /-- A value that the operation cannot take. -/
  | badValue (text : String)
  /-- A number out of the range of the operation. -/
  | overflow (text : String)
  /-- A failure of no particular kind. -/
  | failure (text : String)
  /-- A name that should be there and is not. -/
  | missing (name : String)
  /-- The launch stopped because the limit on open files could not be raised. -/
  | limitNotRaised (limit : Int) (cause : Fault)
  /-- The launch stopped because its working directory does not exist. -/
  | noWorkingDirectory (directory : Path)
  /-- The launch stopped because its log file could not be opened. -/
  | logNotOpened (log : Path) (cause : Fault)
  /-- The launch stopped because the executable could not be started. -/
  | notSpawned (executable : String) (cause : Fault)
  /-- The run was cut short before it came to an end. -/
  | unfinished
  deriving BEq, Repr, Inhabited

namespace Fault

/-! ## Common faults -/

/-- A path that holds a null character. -/
def nullInPath : Fault := badValue "embedded null byte"

/-- An integer that is too large to become a double. -/
def intTooLarge : Fault := overflow "int too large to convert to float"

/-- Nothing stands at the path. -/
def notFound (path : String) : Fault := numbered 2 "No such file or directory" (some path)

/-- The path may not be touched. -/
def permissionDenied (path : String) : Fault := numbered 13 "Permission denied" (some path)

/-- Something stands at the path already. -/
def alreadyExists (path : String) : Fault := numbered 17 "File exists" (some path)

/-- The path leads through something that is not a directory. -/
def notADirectory (path : String) : Fault := numbered 20 "Not a directory" (some path)

/-- The path is a directory where a file is wanted. -/
def isADirectory (path : String) : Fault := numbered 21 "Is a directory" (some path)

/-- The path is longer than the system takes. -/
def nameTooLong (path : String) : Fault := numbered 36 "File name too long" (some path)

/-! ## Families -/

/-- Is the process of this fault gone for good, or as good as gone? -/
def isGone : Fault → Bool
  | gone _ _ _ | zombie _ _ _ => true
  | _ => false

/-- Did a missing permission on a process cause this fault? -/
def isDenied : Fault → Bool
  | denied _ _ _ => true
  | _ => false

/-- Did a wait run out of time? -/
def isExpired : Fault → Bool
  | expired _ _ => true
  | _ => false

/-- Does the fault come from the process table? -/
def isProcessFault : Fault → Bool
  | gone _ _ _ | zombie _ _ _ | denied _ _ _ | expired _ _ | table => true
  | _ => false

/-- Does the fault come from the operating system? -/
def isSystemFault : Fault → Bool
  | numbered _ _ _ | system _ _ | nameResolution _ _ => true
  | _ => false

/-- Does the operating system say that there is no such process? -/
def isLostProcess : Fault → Bool
  | numbered number _ _ => number == 3
  | system kind _ => kind == .noSuchProcess
  | _ => false

/-- Is an ill-formed value to blame? -/
def isBadValue : Fault → Bool
  | badValue _ => true
  | _ => false

/-- Did a launch stop? -/
def isLaunchFailure : Fault → Bool
  | limitNotRaised _ _ | noWorkingDirectory _ | logNotOpened _ _ | notSpawned _ _ => true
  | _ => false

/-! ## Wording -/

/-- Pid and name of a process in parentheses, or nothing when neither is known. -/
def processDetails (pid : Option Int) (name : String) : List String :=
  let shownPid := (pid.map fun n => "pid=" ++ toString n).toList
  let shownName := if name = "" then [] else ["name=" ++ quoted name]
  match shownPid ++ shownName with
  | [] => []
  | details => ["(" ++ String.intercalate ", " details ++ ")"]

/-- A process fault: its wording and then the process. -/
def processMessage (wording : String) (pid : Option Int) (name : String) : String :=
  String.intercalate " " ((if wording = "" then [] else [wording]) ++ processDetails pid name)

/-- `text`, or a default where it is empty. -/
def orDefault (text default : String) : String := if text = "" then default else text

/-- A numbered system fault. -/
def numberedMessage (number : Int) (text : String) (path : Option String) : String :=
  "[Errno " ++ toString number ++ "] " ++ text
    ++ match path with
      | some path => ": " ++ quoted path
      | none => ""

/-- The wording of a fault. -/
def message : Fault → String
  | gone pid name text => processMessage (orDefault text "process no longer exists") pid name
  | zombie pid name text =>
    processMessage (orDefault text "PID still exists but it's a zombie") pid name
  | denied pid name text => processMessage text pid name
  | expired seconds pid => processMessage ("timeout after " ++ seconds.text ++ " seconds") pid ""
  | table => ""
  | numbered number text path => numberedMessage number text path
  | system _ text => text
  | nameResolution number text => numberedMessage number text none
  | badValue text | overflow text | failure text => text
  | missing name => quoted name
  | limitNotRaised limit cause =>
    "Could not raise open file limit to " ++ toString limit ++ ": " ++ cause.message
  | noWorkingDirectory directory => "Working directory " ++ directory.text ++ " does not exist"
  | logNotOpened log cause => "Could not open log file " ++ log.text ++ ": " ++ cause.message
  | notSpawned executable cause => "Failed to launch " ++ executable ++ ": " ++ cause.message
  | unfinished => "the run did not come to an end"

end Fault

end Relaunch
