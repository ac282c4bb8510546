/-
  Queries: which processes count as instances of a service.

  A service is known by a text that occurs in the command line of its processes.  The text is literal
  and must not be empty, since the empty text occurs everywhere.
-/

namespace Relaunch

/-- Does `pattern` occur in `text`? -/
def occursIn (pattern : List Char) : (text : List Char) → Bool
  | [] => pattern.isEmpty
  | c :: rest => pattern.isPrefixOf (c :: rest) || occursIn pattern rest

/-- A text that identifies a service. -/
structure Query where
  pattern : String
  pattern_nonempty : pattern ≠ ""

namespace Query

instance : Repr Query := ⟨fun query _ => repr query.pattern⟩

/-- What a pattern is refused for. -/
def emptyPatternMessage : String := "Service pattern must not be empty"

/-- The query for a pattern, `none` for the empty one. -/
def ofPattern? (pattern : String) : Option Query :=
  if h : pattern ≠ "" then some ⟨pattern, h⟩ else none

/-- Does a command line belong to an instance of the service? -/
def accepts (query : Query) (commandLine : String) : Bool :=
  occursIn query.pattern.toList commandLine.toList

example : occursIn "b-c".toList "ab-cd".toList = true := by decide
example : occursIn "bd".toList "ab-cd".toList = false := by decide

end Query

end Relaunch
