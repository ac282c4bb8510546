/-
  Checking the fields of a service definition, one kind of field at a time.

  Numbers are taken generously: an integer field takes a truth value, a double without a fraction and
  a numeral; a field of seconds takes any number and a numeral.  Numerals here are ASCII, and have a
  grammar of their own: zeros at the front, among which underscores may stand, and a fraction of zeros
  count for nothing.  Numerals of too many digits are ill-formed, and only those that start with them
  are called too long.
-/
import Relaunch.Host.Basic
import Relaunch.LaunchPlan
import Relaunch.Number.Numeral
import Relaunch.Service.Violation

namespace Relaunch.Service.Field

open Relaunch.Number Relaunch.Text

/-! ## Numerals -/

/-- Does every underscore stand between two other characters?  `atEdge` says that the text so far is
empty or ends with an underscore. -/
def hasOnlyInnerUnderscores : (atEdge : Bool) → List Char → Bool
  | atEdge, [] => !atEdge
  | atEdge, c :: rest =>
    if c = '_' then !atEdge && hasOnlyInnerUnderscores true rest
    else hasOnlyInnerUnderscores false rest

/-- What counts of a numeral without its sign: zeros at its front are dropped with the underscores
among them, except for a zero that ends the numeral or its whole part.  `none` when the numeral does
not start with a digit, or the zeros lead to something else than digits or a minus sign. -/
def dropLeadingZeros (text : List Char) : Option (List Char) :=
  if text.head? = some '0' then
    let zeros := text.takeWhile fun c => c == '0' || c == '_'
    let rest := text.drop zeros.length
    match rest.head? with
    | none | some '.' => if zeros.getLast? = some '0' then some ('0' :: rest) else none
    | some c => if isAsciiDigit c || c == '-' then some rest else none
  else if text.head?.any isAsciiDigit then some text
  else none

/-- Drop a point and the zeros after it, where the text ends with those. -/
def dropZeroFraction (text : List Char) : List Char :=
  let whole := text.takeWhile (· != '.')
  match text.drop whole.length with
  | _ :: zeros => if !zeros.isEmpty && zeros.all (· == '0') then whole else text
  | [] => text

/-- Drop the underscores of a text that has them only between other characters. -/
def dropUnderscores (text : List Char) : List Char :=
  if hasOnlyInnerUnderscores true text then text.filter (· != '_') else text

/-- The integer that plain digits denote: a zero alone, or up to `digitLimit` digits of which the
first is not a zero. -/
def intOfDigits (negative : Bool) (text : List Char) : Except Rule Int :=
  if text = ['0'] then .ok 0
  else if text.head?.getD '0' = '0' ∨ digitLimit < text.length ∨ !text.all isAsciiDigit then
    .error .intParsing
  else
    let n := natOfDigits (text.filterMap asciiDigitValue?)
    .ok (if negative then -(n : Int) else n)

/-- Is a numeral oversized?  That is so when it starts, as it stands and after a minus sign at most,
with more than `digitLimit` digits of which the first is not a zero. -/
def isOversized (text : List Char) : Bool :=
  let body := if text.head? = some '-' then text.drop 1 else text
  body.head? != some '0' && digitLimit < (body.takeWhile isAsciiDigit).length

/-- The integer that a numeral denotes, or the rule that it breaks.  A minus sign may stand in front
or behind the leading zeros, but only one. -/
def intOfText (text : String) : Except Rule Int :=
  let (negative, body) := readSign (trim text.toList)
  if isOversized text.toList then .error .intParsingSize
  else
    match dropLeadingZeros body with
    | none => .error .intParsing
    | some body =>
      match dropUnderscores (dropZeroFraction body) with
      | '-' :: digits => if negative then .error .intParsing else intOfDigits true digits
      | digits => intOfDigits negative digits

/-- The double that a numeral denotes: white space around it is dropped, or else underscores inside
it are, but not both. -/
def floatOfText (text : String) : Except Rule Float :=
  let chars := text.toList
  let body := if chars.contains '_' then chars.filter (· != '_') else trim chars
  if chars.contains '_' && !hasOnlyInnerUnderscores true chars then .error .floatParsing
  else
    match readFloatBody? body with
    | some x => .ok x
    | none => .error .floatParsing

/-! ## Numbers -/

/-- The integer that a double is, or the rule that it breaks.  It must fit in 64 bits. -/
def intOfFloat (x : Float) : Except Rule Int :=
  match Exact.ofFloat x with
  | .undefined | .infinite _ => .error .finiteNumber
  | .dyadic significand exponent =>
    let scale : Int := twoTo (-exponent).toNat
    if significand % scale ≠ 0 then .error .intFromFloat
    else
      let n := significand * twoTo exponent.toNat / scale
      if n.natAbs < twoTo 63 then .ok n else .error .intParsingSize

/-- The integer that a value denotes. -/
def toInt : Given → Except Rule Int
  | .int n => .ok n
  | .bool b => .ok (if b then 1 else 0)
  | .float x => intOfFloat x
  | .text t => intOfText t
  | _ => .error .intType

/-- The double that a value denotes. -/
def toFloat : Given → Except Rule Float
  | .float x => .ok x
  | .bool b => .ok (if b then nearest false 1 1 else nearest false 0 1)
  | .int n =>
    match floatOfInt? n with
    | some x => .ok x
    | none => .error .floatType
  | .text t => floatOfText t
  | _ => .error .floatType

/-! ## Fields -/

/-- A field that takes an integer of at least `low` and, where it is given, at most `high`. -/
def int (field : String) (low : Nat) (high : Option Nat) (value : Given) : Checked Int :=
  match toInt value with
  | .error rule => .violates field rule value
  | .ok n =>
    match high with
    | some high =>
      if (high : Int) < n then .violates field (.atMost high) value
      else if n < low then .violates field (.atLeast low) value
      else .good n
    | none => if n < low then .violates field (.atLeast low) value else .good n

/-- A field that takes seconds, which must be zero or more. -/
def seconds (field : String) (value : Given) : Checked Float :=
  match toFloat value with
  | .error rule => .violates field rule value
  | .ok x =>
    if Number.atMost 0 (.float x) then .good x else .violates field (.atLeast 0) value

/-- A field that takes a text. -/
def text (field : String) (value : Given) : Checked String :=
  match value with
  | .text t => .good t
  | value => .violates field .textType value

/-- A field that takes a text other than the empty one. -/
def nonEmptyText (field : String) (value : Given) : Checked String :=
  match value with
  | .text "" => .violates field .nonEmpty value
  | value => text field value

/-- A field that takes a path. -/
def path (field : String) (value : Given) : Checked Path :=
  match value with
  | .text t => .good (Path.ofText t)
  | .path p => .good p
  | value => .violates field .pathType value

/-- A field that takes the name of a log mode. -/
def logMode (field : String) (value : Given) : Checked OpenMode :=
  let mode? := match value with
    | .text t => OpenMode.ofName? t
    | _ => none
  match mode? with
  | some mode => .good mode
  | none => .violates field .logMode value

/-- The texts among the items of a list, from item number `n` on. -/
def textItems (field : String) : (n : Nat) → List Given → Checked (List String)
  | _, [] => .good []
  | n, .text t :: rest => (t :: ·) <$> textItems field (n + 1) rest
  | n, value :: rest =>
    Checked.apply (.bad [⟨field, some n, .textType, value⟩]) (textItems field (n + 1) rest)

/-- A field that takes a list of texts. -/
def texts (field : String) (value : Given) : Checked (List String) :=
  match value with
  | .list items => textItems field 0 items
  | value => .violates field .listType value

/-- A field that may be left out. -/
def optional {α : Type} (check : Given → Checked α) : Option Given → Checked (Option α)
  | none => .good none
  | some value => some <$> check value

example : intOfText " +007_000.00" = .ok 7000 := by rfl
example : intOfText "0__-5" = .ok (-5) := by rfl
example : intOfText "-0-5" = .error .intParsing := by rfl

end Relaunch.Service.Field
