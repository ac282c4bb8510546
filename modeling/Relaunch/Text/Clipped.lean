/-
  Clipping a long text in a message.

  A text of more than fifty bytes is cut to its first twenty-five and its last twenty-four bytes,
  with three dots between.  Both cuts keep whole characters only.
-/

namespace Relaunch.Text

/-- Number of bytes of the UTF-8 form. -/
def byteLength (text : List Char) : Nat :=
  text.foldr (fun c n => c.utf8Size + n) 0

/-- The longest run of whole characters from the front that fits in `budget` bytes. -/
def takeBytes : (budget : Nat) → List Char → List Char
  | _, [] => []
  | budget, c :: rest =>
    if c.utf8Size ≤ budget then c :: takeBytes (budget - c.utf8Size) rest else []

/-- A text cut down to fifty-two bytes at most, if it has more than fifty. -/
def clipped (text : String) : String :=
  let chars := text.toList
  if byteLength chars ≤ 50 then text
  else
    String.ofList (takeBytes 25 chars ++ ['.', '.', '.'] ++ (takeBytes 24 chars.reverse).reverse)

example : clipped "short" = "short" := by decide

end Relaunch.Text
