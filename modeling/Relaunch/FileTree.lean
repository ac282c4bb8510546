/-
  A tree of files and directories.

  A place in the tree is the list of names from the top.  The tree keeps its directories and the
  contents of its files; the top always exists.  A path is resolved name by name, the way the system
  does it: every name but the last must be a directory, and a double dot steps up from a directory
  that exists.  A name takes 255 octets at most, which is noticed when the walk comes to it, and a
  whole path 4095.
-/
import Relaunch.Path

namespace Relaunch

/-- A place in the tree: the names from the top. -/
abbrev Place := List String

/-- A tree of files and directories. -/
structure FileTree where
  /-- The directories other than the top, in the order they were made. -/
  directories : List Place := []
  /-- The files with their contents. -/
  files : List (Place × String) := []
  deriving Repr, Inhabited

/-- Why a path leads nowhere. -/
inductive FileTree.Obstacle
  /-- A name on the way does not exist. -/
  | absent
  /-- A name on the way is a file. -/
  | blocked
  /-- A name, or the whole path, is longer than the system takes. -/
  | tooLong
  deriving DecidableEq, Repr, Inhabited

namespace FileTree

/-! ## Looking -/

/-- Is there a directory at the place? -/
def isDirectoryAt (tree : FileTree) (place : Place) : Bool :=
  place.isEmpty || tree.directories.contains place

/-- The content of the file at the place. -/
def content? (tree : FileTree) (place : Place) : Option String := tree.files.lookup place

/-- Is there a file at the place? -/
def isFileAt (tree : FileTree) (place : Place) : Bool := (tree.content? place).isSome

/-- Octets in a name, at most. -/
def nameLimit : Nat := 255

/-- Octets in a path, at most. -/
def pathLimit : Nat := 4095

/-- Walk down from a directory along names that must all be directories. -/
def walk (tree : FileTree) : (place : Place) → (names : List String) → Except Obstacle Place
  | place, [] => .ok place
  | place, name :: names =>
    let next := if name = ".." then place.dropLast else place ++ [name]
    if nameLimit < name.utf8ByteSize then .error .tooLong
    else if tree.isDirectoryAt next then tree.walk next names
    else if tree.isFileAt next then .error .blocked
    else .error .absent

/-- Where a path starts, read in the directory `cwd`. -/
def startOf (cwd : Place) (path : Path) : Place := if path.isAbsolute then [] else cwd

/-- What a path denotes. -/
inductive Target
  /-- A directory that exists; paths without a last name and those that step up always denote one. -/
  | directory (place : Place)
  /-- A name in a directory that exists; a file or nothing stands there. -/
  | entry (place : Place)
  deriving DecidableEq, Repr, Inhabited

/-- What a path read in `cwd` denotes. -/
def resolve (tree : FileTree) (cwd : Place) (path : Path) : Except Obstacle Target := do
  if pathLimit < path.text.utf8ByteSize then throw .tooLong
  let parent ← tree.walk (startOf cwd path) path.parts.dropLast
  match path.parts.getLast? with
  | none => return .directory parent
  | some ".." => return .directory parent.dropLast
  | some name =>
    if nameLimit < name.utf8ByteSize then throw .tooLong
    let place := parent ++ [name]
    return if tree.isDirectoryAt place then .directory place else .entry place

/-- Does the path denote a directory?  A path that is too long cannot be asked about. -/
def isDirectory (tree : FileTree) (cwd : Place) (path : Path) : Except Obstacle Bool :=
  match tree.resolve cwd path with
  | .ok (.directory _) => .ok true
  | .error .tooLong => .error .tooLong
  | _ => .ok false

/-! ## Changing -/

/-- Add a directory. -/
def addDirectory (tree : FileTree) (place : Place) : FileTree :=
  if tree.isDirectoryAt place then tree else { tree with directories := tree.directories ++ [place] }

/-- Add a directory and every directory above it. -/
def addDirectories (tree : FileTree) (place : Place) : FileTree :=
  (List.range place.length).foldl (fun tree n => tree.addDirectory (place.take (n + 1))) tree

/-- Set the content of a file that is there already. -/
def replaceContent (place : Place) (content : String) : List (Place × String) → List (Place × String)
  | [] => []
  | (other, old) :: rest =>
    if other = place then (place, content) :: rest
    else (other, old) :: replaceContent place content rest

/-- Give the file at the place a content, making the file if there is none. -/
def write (tree : FileTree) (place : Place) (content : String) : FileTree :=
  if tree.isFileAt place then { tree with files := replaceContent place content tree.files }
  else { tree with files := tree.files ++ [(place, content)] }

/-- Add to the end of the file at the place, making the file if there is none. -/
def append (tree : FileTree) (place : Place) (content : String) : FileTree :=
  tree.write place ((tree.content? place).getD "" ++ content)

/-- Take the file at the place away. -/
def removeFile (tree : FileTree) (place : Place) : FileTree :=
  { tree with files := tree.files.filter fun file => file.1 != place }

/-- Where a place is once what stands at `source` has moved to `target`: whatever is below goes
along. -/
def movedPlace (source target place : Place) : Place :=
  if source.isPrefixOf place then target ++ place.drop source.length else place

/-- Move a file, or a directory with all that is in it, to a place where nothing stands. -/
def move (tree : FileTree) (source target : Place) : FileTree where
  directories := tree.directories.map (movedPlace source target)
  files := tree.files.map fun (place, content) => (movedPlace source target place, content)

/-- Move a file or a directory, over the file that stands at the target.  Nothing happens when nothing
stands at the source; `none` when a directory stands at the target, for directories are not thrown
away. -/
def moveOver? (tree : FileTree) (source target : Place) : Option FileTree :=
  if !(tree.isDirectoryAt source || tree.isFileAt source) then some tree
  else if tree.isDirectoryAt target then none
  else some ((tree.removeFile target).move source target)

example : movedPlace ["a"] ["b", "c"] ["a", "d"] = ["b", "c", "d"] := by decide
example : movedPlace ["a"] ["b", "c"] ["ab"] = ["ab"] := by decide

end FileTree

end Relaunch
