/-
  Violations: what is wrong with the fields of a service definition.

  Checking a definition finds every violation, in the order of the fields, not only the first.
-/
import Relaunch.Service.Given
import Relaunch.Text.Clipped

namespace Relaunch.Service

/-- The rule that a value breaks. -/
inductive Rule
  | finiteNumber
  | floatParsing
  | floatType
  | atLeast (bound : Nat)
  | intFromFloat
  | intParsing
  | intParsingSize
  | intType
  | atMost (bound : Nat)
  | listType
  | logMode
  | pathType
  | nonEmpty
  | textType
  deriving DecidableEq, Repr, Inhabited

namespace Rule

/-- The name of a rule. -/
def name : Rule → String
  | finiteNumber => "finite_number"
  | floatParsing => "float_parsing"
  | floatType => "float_type"
  | atLeast _ => "greater_than_equal"
  | intFromFloat => "int_from_float"
  | intParsing => "int_parsing"
  | intParsingSize => "int_parsing_size"
  | intType => "int_type"
  | atMost _ => "less_than_equal"
  | listType => "list_type"
  | logMode => "literal_error"
  | pathType => "path_type"
  | nonEmpty => "string_too_short"
  | textType => "string_type"

/-- What a rule asks for. -/
def message : Rule → String
  | finiteNumber => "Input should be a finite number"
  | floatParsing => "Input should be a valid number, unable to parse string as a number"
  | floatType => "Input should be a valid number"
  | atLeast bound => "Input should be greater than or equal to " ++ toString bound
  | intFromFloat => "Input should be a valid integer, got a number with a fractional part"
  | intParsing => "Input should be a valid integer, unable to parse string as an integer"
  | intParsingSize => "Unable to parse input string as an integer, exceeded maximum size"
  | intType => "Input should be a valid integer"
  | atMost bound => "Input should be less than or equal to " ++ toString bound
  | listType => "Input should be a valid list"
  | logMode => "Input should be 'truncate' or 'append'"
  | pathType => "Input is not a valid path for <class 'pathlib.Path'>"
  | nonEmpty => "String should have at least 1 character"
  | textType => "Input should be a valid string"

end Rule

/-- A value that breaks a rule. -/
structure Violation where
  field : String
  /-- The number of the item, when the field is a list and only one item is at fault. -/
  item : Option Nat := none
  rule : Rule
  value : Given
  deriving Repr, Inhabited

/-- A violation as two lines of a complaint. -/
def Violation.text (v : Violation) : String :=
  let place := v.field ++ match v.item with
    | some n => "." ++ toString n
    | none => ""
  "\n" ++ place ++ "\n  " ++ v.rule.message ++ " [type=" ++ v.rule.name ++ ", input_value="
    ++ Text.clipped v.value.shown ++ ", input_type=" ++ v.value.kind ++ "]"

/-- A complaint about several violations. -/
def complaint (violations : List Violation) : String :=
  toString violations.length ++ " validation error" ++ (if violations.length = 1 then "" else "s")
    ++ " for ServiceDefinition" ++ String.join (violations.map Violation.text)

/-! ## Checks that go on after a violation -/

/-- A checked value, or everything that is wrong with it. -/
inductive Checked (α : Type)
  | good (value : α)
  | bad (violations : List Violation)
  deriving Inhabited

namespace Checked

/-- Apply a checked function to a checked value; all violations of both, the function's first. -/
def apply {α β : Type} : Checked (α → β) → Checked α → Checked β
  | good f, good a => good (f a)
  | good _, bad violations => bad violations
  | bad violations, good _ => bad violations
  | bad violations, bad more => bad (violations ++ more)

instance : Applicative Checked where
  pure := good
  seq f a := f.apply (a ())

/-- A value that breaks a rule. -/
def violates {α : Type} (field : String) (rule : Rule) (value : Given) : Checked α :=
  bad [{ field, rule, value }]

end Checked

end Relaunch.Service
