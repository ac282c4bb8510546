/-
  The journal: what the supervisor says about its own work.

  A record has a level, the name of the part that speaks and a message.  Records at or above the
  level in force go to every handler, in order.  Without any handler a record of level warning or
  above is still shown, bare, on standard error.  A file handler rotates its file before a record that
  would not fit, keeping a bounded number of older files; a record is lost when a directory is in the
  way of that.
-/
import Relaunch.FileTree

namespace Relaunch

/-- How much a record matters. -/
inductive Level
  | debug
  | info
  | warning
  | error
  | critical
  deriving DecidableEq, Repr, Inhabited

/-- The rank of a level: the higher, the more it matters. -/
def Level.rank : Level → Nat
  | debug => 10
  | info => 20
  | warning => 30
  | error => 40
  | critical => 50

/-- The name of a level. -/
def Level.name : Level → String
  | debug => "DEBUG"
  | info => "INFO"
  | warning => "WARNING"
  | error => "ERROR"
  | critical => "CRITICAL"

/-- Is the first level at or above the second? -/
def Level.reaches (level threshold : Level) : Bool := threshold.rank ≤ level.rank

/-- Something said about the work. -/
structure Record where
  level : Level
  /-- The part that speaks. -/
  speaker : String
  message : String
  deriving DecidableEq, Repr, Inhabited

/-- A record as a line, without its end. -/
def Record.line (record : Record) (time : String) : String :=
  String.intercalate " - " [time, record.speaker, record.level.name, record.message]

/-- A file that takes records. -/
structure LogFile where
  /-- The absolute path of the file, without double dots. -/
  path : Path
  /-- Size in bytes that a file stays below; zero or less for no bound. -/
  maxBytes : Int
  /-- How many older files are kept; zero or less to keep writing to the one file. -/
  backups : Int
  deriving DecidableEq, Repr, Inhabited

/-- Where records go. -/
inductive Handler
  /-- To standard error, as lines. -/
  | console
  /-- To a file, as lines. -/
  | file (log : LogFile)
  /-- Nowhere. -/
  | silent
  deriving DecidableEq, Repr, Inhabited

/-- The handlers and the level in force. -/
structure Journal where
  level : Level := .warning
  handlers : List Handler := []
  deriving DecidableEq, Repr, Inhabited

/-! ## Files that rotate -/

namespace LogFile

/-- The place of the file. -/
def place (log : LogFile) : Place := log.path.parts

/-- The place of the `n`-th older file; number zero is the file itself. -/
def backup (log : LogFile) : (n : Nat) → Place
  | 0 => log.place
  | n + 1 => log.place.dropLast ++ [log.place.getLast?.getD "" ++ "." ++ toString (n + 1)]

/-- Move the files with the numbers below `count` one number up, the oldest first.  A directory that
stands among them moves like a file, but nothing moves over a directory: the shift ends there.  The
tree as the shift leaves it, and whether it went through. -/
def shift (log : LogFile) : (count : Nat) → FileTree → FileTree × Bool
  | 0, tree => (tree, true)
  | n + 1, tree =>
    match tree.moveOver? (log.backup n) (log.backup (n + 1)) with
    | some tree => log.shift n tree
    | none => (tree, false)

/-- Must the file be rotated before a line of `length` characters is written? -/
def isFull (log : LogFile) (tree : FileTree) (length : Nat) : Bool :=
  0 < log.maxBytes &&
    log.maxBytes ≤ (((tree.content? log.place).getD "").utf8ByteSize : Int) + length

/-- Make room for a line of `length` characters, rotating where it is needed; did that go through? -/
def makeRoom (log : LogFile) (length : Nat) (tree : FileTree) : FileTree × Bool :=
  if log.isFull tree length then log.shift log.backups.toNat tree else (tree, true)

/-- Write a line, or lose it when there is no room for it; was it written? -/
def writeLine (log : LogFile) (line : String) (tree : FileTree) : FileTree × Bool :=
  let text := line ++ "\n"
  match log.makeRoom text.length tree with
  | (tree, true) => (tree.append log.place text, true)
  | (tree, false) => (tree, false)

end LogFile

end Relaunch
