/-
  Blank characters and trimming.

  Two sets matter.  White space is the Unicode property of that name: it is what may surround a
  numeral.  Blank is white space together with the four ASCII information separators: it is what
  separates words in an environment file.
-/

namespace Relaunch.Text

/-! ## The two sets -/

/-- White space above ASCII, in code point order. -/
def wideSpaces : List Nat :=
  [0x85, 0xa0, 0x1680, 0x2000, 0x2001, 0x2002, 0x2003, 0x2004, 0x2005, 0x2006, 0x2007, 0x2008,
    0x2009, 0x200a, 0x2028, 0x2029, 0x202f, 0x205f, 0x3000]

/-- The Unicode property White_Space. -/
def isWhiteSpace (c : Char) : Bool :=
  (9 ≤ c.toNat && c.toNat ≤ 13) || c.toNat == 32 || wideSpaces.contains c.toNat

/-- White space or one of the information separators 0x1c … 0x1f. -/
def isBlank (c : Char) : Bool :=
  isWhiteSpace c || (0x1c ≤ c.toNat && c.toNat ≤ 0x1f)

/-- A blank that does not end a line. -/
def isInlineBlank (c : Char) : Bool :=
  isBlank c && c != '\n' && c != '\r'

/-! ## Trimming -/

/-- Drop the longest tail whose characters all satisfy `p`. -/
def trimEndWhile (p : Char → Bool) (text : List Char) : List Char :=
  (text.reverse.dropWhile p).reverse

/-- Drop white space at both ends. -/
def trim (text : List Char) : List Char :=
  trimEndWhile isWhiteSpace (text.dropWhile isWhiteSpace)

example : trim [' ', 'a', ' ', 'b', '\n'] = ['a', ' ', 'b'] := by decide

end Relaunch.Text
