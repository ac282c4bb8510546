/-
  Doubles as exact values.

  A double stands for nothing, for an infinity, or for an integer times a power of two.  Reading that
  value off the bits makes everything else exact arithmetic on integers: comparing two numbers,
  finding the double nearest to a fraction, printing the shortest digits.

  * `Exact.ofFloat` reads the value of a double off its bits;
  * `Exact.compare?` orders values, with nothing incomparable to everything;
  * `nearest` rounds a non-negative fraction to the nearest double, ties to the even significand.
-/

namespace Relaunch.Number

/-! ## Values -/

/-- What a number stands for. -/
inductive Exact
  /-- Not a number: neither above, below nor equal to anything. -/
  | undefined
  /-- Above or below every integer. -/
  | infinite (negative : Bool)
  /-- The value `significand * 2 ^ exponent`. -/
  | dyadic (significand exponent : Int)
  deriving DecidableEq, Repr, Inhabited

/-- The power `2 ^ n`. -/
def twoTo (n : Nat) : Nat := Nat.pow 2 n

/-- The fraction field of a double, 52 bits wide. -/
def fractionBits (bits : Nat) : Nat := bits % twoTo 52

/-- The exponent field of a double, 11 bits wide. -/
def exponentBits (bits : Nat) : Nat := bits / twoTo 52 % twoTo 11

/-- Is the sign bit of a double set? -/
def signBit (bits : Nat) : Bool := bits / twoTo 63 % 2 == 1

/-- The value that the bits of a double stand for. -/
def Exact.ofBits (bits : Nat) : Exact :=
  let signed : Nat → Int := fun magnitude => if signBit bits then -(magnitude : Int) else magnitude
  match exponentBits bits with
  | 2047 => if fractionBits bits = 0 then .infinite (signBit bits) else .undefined
  | 0 => .dyadic (signed (fractionBits bits)) (-1074)
  | field => .dyadic (signed (twoTo 52 + fractionBits bits)) ((field : Int) - 1075)

/-- The value that a double stands for. -/
def Exact.ofFloat (x : Float) : Exact := .ofBits x.toBits.toNat

/-- The value that an integer stands for. -/
def Exact.ofInt (n : Int) : Exact := .dyadic n 0

/-! ## Order -/

/-- Order of `m * 2 ^ e` and `m' * 2 ^ e'`, both taken to the smaller exponent. -/
def compareDyadic (m e m' e' : Int) : Ordering :=
  let low := min e e'
  compare (m * twoTo (e - low).toNat) (m' * twoTo (e' - low).toNat)

/-- Order of two values, `none` if one of them is undefined. -/
def Exact.compare? : Exact → Exact → Option Ordering
  | .undefined, _ | _, .undefined => none
  | .infinite a, .infinite b => some (if a = b then .eq else if a then .lt else .gt)
  | .infinite a, .dyadic _ _ => some (if a then .lt else .gt)
  | .dyadic _ _, .infinite b => some (if b then .gt else .lt)
  | .dyadic m e, .dyadic m' e' => some (compareDyadic m e m' e')

/-! ## Rounding -/

/-- The least integer that is not below `significand * 2 ^ exponent`. -/
def dyadicCeiling (significand exponent : Int) : Int :=
  -(-(significand * twoTo exponent.toNat) / twoTo (-exponent).toNat)

/-- The quotient `num / den` rounded to an integer, ties to even. -/
def roundHalfEven (num den : Nat) : Nat :=
  let quotient := num / den
  match compare (2 * (num % den)) den with
  | .lt => quotient
  | .gt => quotient + 1
  | .eq => quotient + quotient % 2

/-- The fraction `num / den` times `2 ^ shift`, as a fraction again. -/
def scaleByTwo (num den : Nat) (shift : Int) : Nat × Nat :=
  (num * twoTo shift.toNat, den * twoTo (-shift).toNat)

/-- The exponent `e` with `2 ^ e ≤ num / den < 2 ^ (e + 1)`, for a positive fraction. -/
def binaryExponent (num den : Nat) : Int :=
  let guess : Int := (num.log2 : Int) - den.log2
  let scaled := scaleByTwo num den (-guess)
  if scaled.1 < scaled.2 then guess - 1 else guess

/-- The bits of the double nearest to `num / den`, ties to the even significand; the bits of
infinity when the fraction is too large.  Carrying out of the significand moves to the next
exponent, since the fields lie side by side. -/
def nearestBits (num den : Nat) : Nat :=
  if num = 0 then 0
  else
    let unit := max (binaryExponent num den - 52) (-1074)
    let scaled := scaleByTwo num den (-unit)
    let significand := roundHalfEven scaled.1 scaled.2
    min ((unit + 1074).toNat * twoTo 52 + significand) (2047 * twoTo 52)

/-- The double nearest to `± num / den`. -/
def nearest (negative : Bool) (num den : Nat) : Float :=
  Float.ofBits (UInt64.ofNat (nearestBits num den + if negative then twoTo 63 else 0))

/-- Is the double nearest to the natural number `n` an infinity? -/
def tooLargeForDouble (n : Nat) : Bool := nearestBits n 1 == 2047 * twoTo 52

example : dyadicCeiling 5 (-1) = 3 := by decide
example : dyadicCeiling (-5) (-1) = -2 := by decide
example : nearestBits 1 1 = 1023 * 2 ^ 52 := by decide
example : nearestBits 1 10 = 0x3fb999999999999a := by decide
example : Exact.ofBits (1023 * 2 ^ 52) = .dyadic (2 ^ 52) (-52) := by decide

end Relaunch.Number
