/-
  Reading a number out of a text.

  An integer is an optional sign and digits; a double is an optional sign and either a word for
  infinity or nothing, or digits with a point and an exponent.  A single underscore may stand between
  two digits, white space may surround the whole, and the decimal digits of every script count.

  The reader of integers refuses more than `digitLimit` digits, since their conversion takes quadratic
  time, and says so before it looks at what follows the digits.
-/
import Relaunch.Number.Basic
import Relaunch.Text.Blank
import Relaunch.Text.Digit
import Relaunch.Text.Quoted

namespace Relaunch.Number

open Relaunch.Text

/-! ## Errors -/

/-- Why a text is not a number. -/
inductive NumeralError
  | notAnInt (text : String)
  | notAFloat (text : String)
  | tooManyDigits (count : Nat)
  deriving DecidableEq, Repr

/-- Longest run of digits that is read as an integer. -/
def digitLimit : Nat := 4300

/-- The wording of a numeral error. -/
def NumeralError.message : NumeralError → String
  | .notAnInt text =>
    "invalid literal for int() with base 10: " ++ String.ofList ((quoted text).toList.take 200)
  | .notAFloat text => "could not convert string to float: " ++ quoted text
  | .tooManyDigits count =>
    "Exceeds the limit (" ++ toString digitLimit ++ " digits) for integer string conversion: value has "
      ++ toString count ++ " digits; use sys.set_int_max_str_digits() to increase the limit"

/-! ## Runs of digits -/

/-- An optional sign: is it a minus, and what follows it. -/
def readSign : List Char → Bool × List Char
  | '-' :: rest => (true, rest)
  | '+' :: rest => (false, rest)
  | rest => (false, rest)

/-- Replace every digit by the ASCII digit of its value. -/
def normalizeDigits (text : List Char) : List Char :=
  text.map fun c => match digitValue? c with
    | some value => Nat.digitChar value
    | none => c

/-- The digits that follow a digit, and what follows them.  `none` when an underscore is not followed
by a digit. -/
def readMoreDigits : List Char → Option (List Nat × List Char)
  | [] => some ([], [])
  | '_' :: [] => none
  | '_' :: c :: rest =>
    match asciiDigitValue? c with
    | some value => (readMoreDigits rest).map fun r => (value :: r.1, r.2)
    | none => none
  | c :: rest =>
    match asciiDigitValue? c with
    | some value => (readMoreDigits rest).map fun r => (value :: r.1, r.2)
    | none => some ([], c :: rest)

/-- A run of digits in which single underscores may stand between two digits, and what follows.
`none` when an underscore has no digit on one of its sides. -/
def readDigits : List Char → Option (List Nat × List Char)
  | [] => some ([], [])
  | '_' :: _ => none
  | c :: rest =>
    match asciiDigitValue? c with
    | some value => (readMoreDigits rest).map fun r => (value :: r.1, r.2)
    | none => some ([], c :: rest)

/-- The natural number with the given digits, most significant first. -/
def natOfDigits (digits : List Nat) : Nat :=
  digits.foldl (fun n digit => 10 * n + digit) 0

/-! ## Integers -/

/-- Read an integer. -/
def readInt (text : String) : Except NumeralError Int :=
  let (negative, body) := readSign (normalizeDigits (trim text.toList))
  match readDigits body with
  | none => .error (.notAnInt text)
  | some (digits, rest) =>
    if digits.length > digitLimit then .error (.tooManyDigits digits.length)
    else if digits = [] ∨ rest ≠ [] then .error (.notAnInt text)
    else .ok (if negative then -(natOfDigits digits : Int) else natOfDigits digits)

/-! ## Doubles -/

/-- The fraction part and what follows it: digits after a point, or nothing. -/
def readFraction : List Char → Option (List Nat × List Char)
  | '.' :: rest => readDigits rest
  | rest => some ([], rest)

/-- The exponent, where one is given: `e` or `E`, an optional sign and digits up to the end. -/
def readExponent : List Char → Option Int
  | [] => some 0
  | c :: rest =>
    if c = 'e' ∨ c = 'E' then
      let (negative, body) := readSign rest
      match readDigits body with
      | some (digits, []) =>
        if digits = [] then none
        else some (if negative then -(natOfDigits digits : Int) else natOfDigits digits)
      | _ => none
    else none

/-- The double nearest to `± digits * 10 ^ exponent`, where an exponent far outside the range of
doubles gives zero or infinity without being computed. -/
def floatOfDecimal (negative : Bool) (digits : List Nat) (exponent : Int) : Float :=
  let significant := digits.dropWhile (· == 0)
  let magnitude := exponent + significant.length
  if significant = [] ∨ magnitude < -330 then nearest negative 0 1
  else if 330 < magnitude then nearest negative (tenTo 400) 1
  else
    let fraction := scaleByTen (natOfDigits significant) 1 exponent
    nearest negative fraction.1 fraction.2

/-- The unsigned words for a double that is not finite, in lower case. -/
def floatWord? (negative : Bool) (word : List Char) : Option Float :=
  if word = "inf".toList ∨ word = "infinity".toList then some (nearest negative (tenTo 400) 1)
  else if word = "nan".toList then some (Float.ofBits 0x7ff8000000000000)
  else none

/-- Read a double from a trimmed text whose digits are ASCII. -/
def readFloatBody? (text : List Char) : Option Float := do
  let (negative, body) := readSign text
  match floatWord? negative (body.map Char.toLower) with
  | some x => return x
  | none =>
    let (whole, afterWhole) ← readDigits body
    let (fraction, afterFraction) ← readFraction afterWhole
    if whole = [] ∧ fraction = [] then none
    let exponent ← readExponent afterFraction
    return floatOfDecimal negative (whole ++ fraction) (exponent - fraction.length)

/-- Read a double. -/
def readFloat (text : String) : Except NumeralError Float :=
  match readFloatBody? (normalizeDigits (trim text.toList)) with
  | some x => .ok x
  | none => .error (.notAFloat text)

example : readInt " +1_000\n" = .ok 1000 := by rfl
example : readInt "1__0" = .error (.notAnInt "1__0") := by rfl

end Relaunch.Number
