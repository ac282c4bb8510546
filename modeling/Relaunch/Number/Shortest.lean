/-
  The shortest decimal of a double.

  A double is printed with the fewest significant digits that read back as the same double; of the
  decimals with that many digits the one closest to the exact value.  Seventeen digits always suffice.
  The digits are laid out positionally when the decimal point falls near them, and with an exponent
  otherwise: positional from 0.0001 up to but not including 10 ^ 16.
-/
import Relaunch.Number.Double

namespace Relaunch.Number

/-! ## Digits -/

/-- The power `10 ^ n`. -/
def tenTo (n : Nat) : Nat := Nat.pow 10 n

/-- The fraction `num / den` times `10 ^ shift`, as a fraction again. -/
def scaleByTen (num den : Nat) (shift : Int) : Nat × Nat :=
  (num * tenTo shift.toNat, den * tenTo (-shift).toNat)

/-- Number of decimal digits of `n`, zero for zero. -/
def digitCount (n : Nat) : Nat :=
  if n = 0 then 0 else (Nat.toDigits 10 n).length

/-- The `k` with `10 ^ (k - 1) ≤ num / den < 10 ^ k`, for a positive fraction. -/
def decimalMagnitude (num den : Nat) : Int :=
  let guess : Int := (digitCount num : Int) - digitCount den
  let scaled := scaleByTen num den (-guess)
  if scaled.1 < scaled.2 then guess else guess + 1

/-- A decimal `digits * 10 ^ exponent`. -/
structure Decimal where
  /-- The digits, read as an integer. -/
  digits : Nat
  /-- The power of ten of the last digit. -/
  exponent : Int
  deriving DecidableEq, Repr

/-- A decimal as a fraction. -/
def Decimal.fraction (d : Decimal) : Nat × Nat := scaleByTen d.digits 1 d.exponent

/-- The closest decimal of `count` digits that reads back as the double nearest to `num / den`, if
one of the two decimals around the fraction does. -/
def decimalOfLength? (num den : Nat) (magnitude : Int) (count : Nat) : Option Decimal :=
  let exponent := magnitude - count
  let scaled := scaleByTen num den (-exponent)
  let below := scaled.1 / scaled.2
  let reads : Nat → Bool := fun digits =>
    let fraction := (Decimal.mk digits exponent).fraction
    nearestBits fraction.1 fraction.2 == nearestBits num den
  let closest := roundHalfEven scaled.1 scaled.2
  let other := if closest = below then below + 1 else below
  if reads closest then some ⟨closest, exponent⟩
  else if reads other then some ⟨other, exponent⟩
  else none

/-- The shortest decimal that reads back as the double nearest to the positive fraction. -/
def shortestDecimal (num den : Nat) : Decimal :=
  let magnitude := decimalMagnitude num den
  ((List.range 17).findSome? fun n => decimalOfLength? num den magnitude (n + 1)).getD ⟨0, 0⟩

/-! ## Layout -/

/-- The exponent suffix: a sign and at least two digits. -/
def exponentSuffix (e : Int) : String :=
  let digits := toString e.natAbs
  "e" ++ (if e < 0 then "-" else "+") ++ (if e.natAbs < 10 then "0" else "") ++ digits

/-- `digits` with the decimal point after the first `point` of them. -/
def layoutDigits (digits : List Char) (point : Int) : String :=
  if point ≤ -4 ∨ 16 < point then
    let mantissa := match digits with
      | [] => []
      | [d] => [d]
      | d :: rest => d :: '.' :: rest
    String.ofList mantissa ++ exponentSuffix (point - 1)
  else if point ≤ 0 then
    "0." ++ String.ofList (List.replicate (-point).toNat '0' ++ digits)
  else if point < digits.length then
    String.ofList (digits.take point.toNat ++ '.' :: digits.drop point.toNat)
  else
    String.ofList (digits ++ List.replicate (point.toNat - digits.length) '0') ++ ".0"

/-- The digits of a decimal without the zeros at the end. -/
def Decimal.significant (d : Decimal) : List Char :=
  ((Nat.toDigits 10 d.digits).reverse.dropWhile (· == '0')).reverse

/-- A decimal as it is printed. -/
def Decimal.text (d : Decimal) : String :=
  layoutDigits d.significant ((Nat.toDigits 10 d.digits).length + d.exponent)

/-- The printed form of the magnitude `significand * 2 ^ exponent`. -/
def magnitudeText (significand : Nat) (exponent : Int) : String :=
  if significand = 0 then "0.0"
  else
    let fraction := scaleByTwo significand 1 exponent
    (shortestDecimal fraction.1 fraction.2).text

/-- A double as it is printed. -/
def floatText (x : Float) : String :=
  let sign := if signBit x.toBits.toNat then "-" else ""
  match Exact.ofFloat x with
  | .undefined => "nan"
  | .infinite _ => sign ++ "inf"
  | .dyadic significand exponent => sign ++ magnitudeText significand.natAbs exponent

example : (shortestDecimal 1 10).text = "0.1" := by decide
example : magnitudeText 1 (-44) = "5.684341886080802e-14" := by decide

end Relaunch.Number
