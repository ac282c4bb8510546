/-
  Texts wrapped into lines of a width.

  A text is cut into pieces: words, and the single spaces between them.  A word comes apart behind a
  hyphen that stands between two letters on each side.  The pieces are put on a line as long as they
  fit; a piece that fits on no line at all is continued on the next ones.

  1. `pieces` cuts a text.
  2. `Draft.put` adds a piece to the lines so far.
  3. `wrapped` gives the lines of a text.
-/

namespace Relaunch.Text

/-! ## Pieces -/

/-- May the text be broken between a hyphen and `rest`, with `before` in front of the hyphen, last
character first? -/
def isBreak (before rest : List Char) : Bool :=
  (before.take 2).length == 2 && (before.take 2).all Char.isAlpha
    && (rest.take 2).length == 2 && (rest.take 2).all Char.isAlpha

/-- A piece, unless it is empty, in front of others. -/
def consPiece (reversed : List Char) (others : List (List Char)) : List (List Char) :=
  if reversed = [] then others else reversed.reverse :: others

/-- The pieces of a text, where `reversed` is the start of the first one, last character first. -/
def piecesFrom (reversed : List Char) : List Char → List (List Char)
  | [] => consPiece reversed []
  | c :: rest =>
    if c = ' ' then consPiece reversed ([' '] :: piecesFrom [] rest)
    else if c = '-' ∧ isBreak reversed rest then (c :: reversed).reverse :: piecesFrom [] rest
    else piecesFrom (c :: reversed) rest

/-- The pieces of a text. -/
def pieces (text : String) : List (List Char) := piecesFrom [] text.toList

/-! ## Lines -/

/-- Lines under way: those that are full, last first, and the open one. -/
structure Draft where
  full : List (List Char) := []
  line : List Char := []
  deriving DecidableEq, Repr, Inhabited

namespace Draft

/-- A line without the spaces at its end. -/
def bare (line : List Char) : List Char := (line.reverse.dropWhile (· == ' ')).reverse

/-- Start a new line. -/
def close (draft : Draft) : Draft := ⟨bare draft.line :: draft.full, []⟩

/-- Add to the open line. -/
def append (draft : Draft) (text : List Char) : Draft := { draft with line := draft.line ++ text }

/-- Add one character after another, with a new line wherever one is full. -/
def fill (width : Nat) (draft : Draft) : List Char → Draft
  | [] => draft
  | c :: rest =>
    if draft.line.length < width then fill width (draft.append [c]) rest
    else fill width (draft.close.append [c]) rest

/-- Add a piece.  A space does not start a line. -/
def put (width : Nat) (draft : Draft) (piece : List Char) : Draft :=
  if width < piece.length then fill width draft piece
  else
    let draft := if draft.line.length + piece.length ≤ width then draft else draft.close
    if draft.line = [] ∧ piece = [' '] then draft else draft.append piece

/-- The lines from first to last. -/
def lines (draft : Draft) : List String :=
  ((if bare draft.line = [] then draft else draft.close).full.map String.ofList).reverse

end Draft

/-- The lines of a text whose words single spaces separate, none longer than `width`. -/
def wrapped (width : Nat) (text : String) : List String :=
  ((pieces text).foldl (Draft.put width) {}).lines

example : wrapped 12 "a very well-known (incomprehensible) saying"
    = ["a very well-", "known (incom", "prehensible)", "saying"] := by rfl

end Relaunch.Text
