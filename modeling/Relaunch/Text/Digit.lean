/-
  Decimal digits of every script.

  A numeral typed by an operator may use any Unicode decimal digit, not only `0` … `9`.  The decimal
  digits (general category Nd, Unicode 14) come in runs of ten consecutive code points, zero first,
  so a table of the zeros is enough: the value of a digit is its distance from the zero of its run.
-/

namespace Relaunch.Text

/-- Code points of the zeros; each starts a run of ten digits. -/
def digitZeros : List Nat := [
  0x30, 0x660, 0x6f0, 0x7c0, 0x966, 0x9e6, 0xa66, 0xae6, 0xb66, 0xbe6, 0xc66, 0xce6, 0xd66,
  0xde6, 0xe50, 0xed0, 0xf20, 0x1040, 0x1090, 0x17e0, 0x1810, 0x1946, 0x19d0, 0x1a80, 0x1a90,
  0x1b50, 0x1bb0, 0x1c40, 0x1c50, 0xa620, 0xa8d0, 0xa900, 0xa9d0, 0xa9f0, 0xaa50, 0xabf0,
  0xff10, 0x104a0, 0x10d30, 0x11066, 0x110f0, 0x11136, 0x111d0, 0x112f0, 0x11450, 0x114d0,
  0x11650, 0x116c0, 0x11730, 0x118e0, 0x11950, 0x11c50, 0x11d50, 0x11da0, 0x16a60, 0x16ac0,
  0x16b50, 0x1d7ce, 0x1d7d8, 0x1d7e2, 0x1d7ec, 0x1d7f6, 0x1e140, 0x1e2f0, 0x1e950, 0x1fbf0]

/-- Value of a decimal digit of any script, `none` for every other character. -/
def digitValue? (c : Char) : Option Nat :=
  digitZeros.findSome? fun first =>
    if first ≤ c.toNat ∧ c.toNat < first + 10 then some (c.toNat - first) else none

/-- Is `c` a decimal digit of some script? -/
def isDigit (c : Char) : Bool := (digitValue? c).isSome

/-- Value of an ASCII digit, `none` for every other character. -/
def asciiDigitValue? (c : Char) : Option Nat :=
  if 48 ≤ c.toNat ∧ c.toNat ≤ 57 then some (c.toNat - 48) else none

/-- Is `c` one of `0` … `9`? -/
def isAsciiDigit (c : Char) : Bool := (asciiDigitValue? c).isSome

example : digitValue? '7' = some 7 := by decide
example : digitValue? '٣' = some 3 := by decide
example : asciiDigitValue? '٣' = none := by decide

end Relaunch.Text
