/-
  Words: what every argument of a command line is, before any of them is acted upon.

  An argument that starts with a dash names a switch, in full, by the unambiguous beginning of a long
  spelling, or by a short spelling with more letters behind it; a value may follow an equals sign.
  An argument with a dash that names no switch is unknown, unless it is a lone dash, a negative number
  or holds a space: those are plain, and so is everything after the first double dash.
-/
import Relaunch.Options.Switch
import Relaunch.Text.Digit

namespace Relaunch.Options

open Relaunch.Text

/-- An argument of the command line. -/
inductive Word
  /-- The double dash. -/
  | separator
  /-- An argument that is no switch. -/
  | plain (text : String)
  /-- A switch in one of its spellings, with the value attached to it. -/
  | switch (switch : Switch) (spelling : String) (attached : Option String)
  /-- An argument that looks like a switch and is none. -/
  | unknown (text : String)
  deriving DecidableEq, Repr, Inhabited

/-- A word that could stand for several spellings. -/
structure Ambiguity where
  word : String
  spellings : List String
  deriving DecidableEq, Repr, Inhabited

/-- Every spelling of a vocabulary, with its switch. -/
def spelled (vocabulary : List Switch) : List (String × Switch) :=
  vocabulary.flatMap fun s => s.spellings.map fun spelling => (spelling, s)

/-- The part of an argument before the first equals sign, and the part after it where there is one. -/
def splitEquals (text : List Char) : List Char × Option (List Char) :=
  match text.dropWhile (· != '=') with
  | [] => (text, none)
  | _ :: value => (text.takeWhile (· != '='), some value)

/-- Are the characters digits, at least one of them? -/
def isDigits (text : List Char) : Bool := !text.isEmpty && text.all isDigit

/-- Is this a number below zero: a dash, and digits that may have a point before or among them?  A
line feed at the end does not count. -/
def isNegativeNumber (text : List Char) : Bool :=
  match text with
  | '-' :: body =>
    let body := if body.getLast? = some '\n' then body.dropLast else body
    isDigits body ||
      match body.dropWhile isDigit with
      | '.' :: fraction => isDigits fraction
      | _ => false
  | _ => false

/-- What an argument could stand for that is no spelling in full: the long spellings that begin with
it up to an equals sign, or the short spelling that it begins with. -/
def candidates (vocabulary : List Switch) (text : List Char) : List Word :=
  match text with
  | '-' :: '-' :: _ =>
    let (beginning, value) := splitEquals text
    (spelled vocabulary).filterMap fun (spelling, s) =>
      if beginning.isPrefixOf spelling.toList then
        some (.switch s spelling (value.map String.ofList))
      else none
  | _ =>
    (spelled vocabulary).filterMap fun (spelling, s) =>
      if spelling.toList = text.take 2 then
        some (.switch s spelling (some (String.ofList (text.drop 2))))
      else none

/-- The spelling of a word that is a switch. -/
def Word.spelling? : Word → Option String
  | switch _ spelling _ => some spelling
  | _ => none

/-- What an argument is. -/
def classify (vocabulary : List Switch) (text : String) : Except Ambiguity Word :=
  let chars := text.toList
  if text = "--" then .ok .separator
  else if chars.head? ≠ some '-' then .ok (.plain text)
  else
    match (spelled vocabulary).lookup text with
    | some s => .ok (.switch s text none)
    | none =>
      if text = "-" then .ok (.plain text)
      else
        let (beginning, value) := splitEquals chars
        let spelling := String.ofList beginning
        match value, (spelled vocabulary).lookup spelling with
        | some value, some s => .ok (.switch s spelling (some (String.ofList value)))
        | _, _ =>
          match candidates vocabulary chars with
          | [word] => .ok word
          | [] =>
            if isNegativeNumber chars || chars.contains ' ' then .ok (.plain text)
            else .ok (.unknown text)
          | words => .error ⟨text, words.filterMap Word.spelling?⟩

/-- What every argument is; after the first double dash all are plain. -/
def classifyAll (vocabulary : List Switch) : List String → Except Ambiguity (List Word)
  | [] => .ok []
  | text :: rest => do
    match ← classify vocabulary text with
    | .separator => return .separator :: rest.map .plain
    | word => return word :: (← classifyAll vocabulary rest)

example : classify Command.restart.vocabulary "--at=3" =
    .ok (.switch .attempts "--attempts" (some "3")) := by rfl
example : classify Command.restart.vocabulary "--health" =
    .error ⟨"--health", ["--health-port", "--health-host", "--health-timeout"]⟩ := by rfl
example : classify Command.find.vocabulary "-.5" = .ok (.plain "-.5") := by rfl

end Relaunch.Options
