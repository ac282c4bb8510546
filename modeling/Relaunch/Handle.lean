/-
  Handles: processes that a search came across.

  A handle carries what was seen of a process, but only the pid says which process it is.  Handles are
  equal, and ordered, by their pids alone.
-/

namespace Relaunch

/-- A process that a search came across. -/
structure Handle where
  pid : Int
  commandLine : String
  name : Option String := none
  deriving Repr, Inhabited

namespace Handle

instance : BEq Handle := ⟨fun a b => a.pid == b.pid⟩

/-- Is the pid of `a` below that of `b`? -/
def before (a b : Handle) : Bool := a.pid < b.pid

/-- Is the pid of `a` at most that of `b`? -/
def upTo (a b : Handle) : Bool := a.pid ≤ b.pid

/-- The handles by increasing pid; equal ones keep their order. -/
def sort (handles : List Handle) : List Handle := handles.mergeSort upTo

/-- Add a handle at the end, unless its process is there already. -/
def add (handles : List Handle) (handle : Handle) : List Handle :=
  if handles.contains handle then handles else handles ++ [handle]

/-- The first handle of each process, in order. -/
def distinct (handles : List Handle) : List Handle := handles.foldl add []

/-- The handle with the least pid; of equal ones the first. -/
def least? : List Handle → Option Handle
  | [] => none
  | handle :: rest =>
    some (rest.foldl (fun least other => if other.before least then other else least) handle)

end Handle

/-! ## Command lines -/

/-- A command line as a listing shows it: its words with spaces between them, or else the name of the
process in brackets, or else nothing. -/
def shownCommandLine (words : Option (List String)) (name : Option String) : String :=
  match words with
  | some (word :: more) => String.intercalate " " (word :: more)
  | _ =>
    match name with
    | none | some "" => ""
    | some name => "[" ++ name ++ "]"

end Relaunch
