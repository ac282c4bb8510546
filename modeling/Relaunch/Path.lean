/-
  POSIX paths.

  A path is a root and a list of parts.  Reading a text drops repeated slashes and single dots and
  keeps double dots, since what a double dot means depends on the file tree.  Exactly two leading
  slashes are a root of their own; three or more are the same as one.  The text of a path is its
  normal form: reading it back gives the same path.
-/

namespace Relaunch

/-- Where a path starts. -/
inductive Path.Root
  /-- At the directory that it is read in. -/
  | here
  /-- At the top. -/
  | slash
  /-- At the top, written with exactly two slashes. -/
  | doubleSlash
  deriving DecidableEq, Repr, Inhabited

/-- A path: a root and the parts below it. -/
structure Path where
  /-- Where the path starts. -/
  root : Path.Root
  /-- The names below the root, in order. -/
  parts : List String
  deriving DecidableEq, Repr, Inhabited

namespace Path

/-! ## Reading and printing -/

/-- The text of a root. -/
def Root.text : Root → String
  | here => ""
  | slash => "/"
  | doubleSlash => "//"

/-- The pieces of a text between slashes, empty ones included. -/
def splitSlashes : List Char → List (List Char)
  | [] => [[]]
  | c :: rest =>
    match splitSlashes rest with
    | [] => [[c]]
    | piece :: pieces => if c = '/' then [] :: piece :: pieces else (c :: piece) :: pieces

/-- The root that a text starts with. -/
def rootOf : List Char → Root
  | '/' :: '/' :: '/' :: _ => .slash
  | '/' :: '/' :: _ => .doubleSlash
  | '/' :: _ => .slash
  | _ => .here

/-- Is a piece between slashes a part of the path? -/
def isPart (piece : List Char) : Bool := piece != [] && piece != ['.']

/-- The path that a text denotes. -/
def ofText (text : String) : Path :=
  { root := rootOf text.toList
    parts := ((splitSlashes text.toList).filter isPart).map String.ofList }

/-- The text of a path; a single dot when it has neither root nor parts. -/
def text (path : Path) : String :=
  if path.root = .here ∧ path.parts = [] then "."
  else path.root.text ++ String.intercalate "/" path.parts

/-! ## Operations -/

/-- Does the path start at the top? -/
def isAbsolute (path : Path) : Bool := path.root != .here

/-- `tail` read from `base`: an absolute tail stands alone. -/
def join (base tail : Path) : Path :=
  if tail.isAbsolute then tail else { base with parts := base.parts ++ tail.parts }

instance : Div Path := ⟨join⟩

/-- An absolute path stands alone, whatever it is read in. -/
theorem join_of_absolute {tail : Path} (absolute : tail.isAbsolute = true) (base : Path) :
    base / tail = tail := if_pos absolute

/-- The parts of any other path follow those of the path that it is read in. -/
theorem join_of_relative {tail : Path} (relative : ¬tail.isAbsolute = true) (base : Path) :
    base / tail = { base with parts := base.parts ++ tail.parts } := if_neg relative

theorem isAbsolute_join_iff (base tail : Path) :
    (base / tail).isAbsolute = true ↔ base.isAbsolute = true ∨ tail.isAbsolute = true := by
  by_cases habsolute : tail.isAbsolute = true
  · rw [join_of_absolute habsolute]
    exact ⟨.inr, fun _ => habsolute⟩
  · rw [join_of_relative habsolute]
    exact ⟨.inl, fun h => h.resolve_right habsolute⟩

/-- The path without its last part; a path without parts is its own parent. -/
def parent (path : Path) : Path := { path with parts := path.parts.dropLast }

/-- The parts left after each double dot has taken the part before it away. -/
def cancelDoubleDots : (kept : List String) → (parts : List String) → List String
  | kept, [] => kept.reverse
  | kept, part :: rest =>
    if part = ".." then cancelDoubleDots kept.tail rest else cancelDoubleDots (part :: kept) rest

/-- An absolute path without double dots, cancelled part by part without looking at the files. -/
def withoutDoubleDots (path : Path) : Path :=
  { path with parts := cancelDoubleDots [] path.parts }

example : (ofText "/a//./b/../c/").text = "/a/b/../c" := by decide
example : (ofText "//x").text = "//x" ∧ (ofText "///x").text = "/x" := by decide
example : (ofText "").text = "." := by decide

end Path

end Relaunch
