/-
  Files and directories of a host.

  Opening a file and making a directory fail on a denied path before anything else is looked at, and
  name the path as the caller wrote it.  A path that holds a null character is an ill-formed value.
-/
import Relaunch.Host.Basic

namespace Relaunch.Host

/-- Does the path hold a null character? -/
def holdsNull (path : Path) : Bool := path.parts.any fun part => part.toList.contains '\x00'

/-- The place that relative paths start from. -/
def cwdPlace (host : Host) : Place := host.cwd.parts

/-- The fault that an obstacle on the way to a path amounts to. -/
def obstacleFault (path : Path) : FileTree.Obstacle → Fault
  | .absent => .notFound path.text
  | .blocked => .notADirectory path.text
  | .tooLong => .nameTooLong path.text

/-- Is there a directory at the path?  No path with a null character has one. -/
def isDirectory (path : Path) : Session Bool := do
  let host ← get
  if holdsNull path then return false
  match host.files.isDirectory host.cwdPlace path with
  | .ok answer => return answer
  | .error obstacle => throw (obstacleFault path obstacle)

/-- What a path denotes, as far as the caller may look. -/
def locate (path : Path) : Session FileTree.Target := do
  let host ← get
  if holdsNull path then throw .nullInPath
  if host.deniedPaths.contains path.text then throw (.permissionDenied path.text)
  match host.files.resolve host.cwdPlace path with
  | .ok target => pure target
  | .error obstacle => throw (obstacleFault path obstacle)

/-! ## Making directories -/

/-- Make one directory, whose parent must exist. -/
def makeDirectory (path : Path) : Session Unit := do
  match ← locate path with
  | .directory _ => throw (.alreadyExists path.text)
  | .entry place =>
    let host ← get
    if host.files.isFileAt place then throw (.alreadyExists path.text)
    set { host with files := host.files.addDirectory place }

/-- Accept the fault of making a directory where there is one already. -/
def acceptDirectory (path : Path) (fault : Fault) : Session Unit := do
  if !fault.isSystemFault then throw fault
  if !(← isDirectory path) then throw fault

/-- Is this the fault of a path that leads nowhere? -/
def isNotFound : Fault → Bool
  | .numbered 2 _ _ => true
  | _ => false

/-- Make the directory made of the first `depth` parts of a path, and those above it that are
missing.  A directory that exists is fine. -/
def makeDirectoriesTo (path : Path) : (depth : Nat) → Session Unit
  | 0 => tryCatch (makeDirectory { path with parts := [] }) fun fault =>
      if isNotFound fault then throw fault else acceptDirectory { path with parts := [] } fault
  | depth + 1 =>
    let here : Path := { path with parts := path.parts.take (depth + 1) }
    tryCatch (makeDirectory here) fun fault =>
      if isNotFound fault then do
        makeDirectoriesTo path depth
        tryCatch (makeDirectory here) fun fault =>
          if isNotFound fault then throw fault else acceptDirectory here fault
      else acceptDirectory here fault

/-- Make a directory and those above it that are missing.  A directory that exists is fine. -/
def makeDirectories (path : Path) : Session Unit := makeDirectoriesTo path path.parts.length

/-! ## Opening files -/

/-- Open a file for writing, empty or at its end, making it where there is none. -/
def openFile (path : Path) (mode : OpenMode) : Session Place := do
  match ← locate path with
  | .directory _ => throw (.isADirectory path.text)
  | .entry place =>
    modify fun host => { host with files :=
      match mode with
      | .truncate => host.files.write place ""
      | .append => host.files.append place "" }
    pure place

/-- Keep a log as open. -/
def holdLog (place : Place) : Session Unit :=
  modify fun host => { host with openLogs := place :: host.openLogs }

/-- Close an open log. -/
def closeLog (place : Place) : Session Unit :=
  modify fun host => { host with openLogs := host.openLogs.erase place }

/-- Add to the end of an open file. -/
def writeFile (place : Place) (content : String) : Session Unit :=
  modify fun host => { host with files := host.files.append place content }

end Relaunch.Host
