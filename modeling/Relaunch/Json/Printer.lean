/-
  Printing JSON documents over several lines.

  Every item of a list and every field of an object stands on a line of its own, two spaces further
  in than what holds it; an empty list or object stays on one line.  The printed document is ASCII:
  every other character is escaped by the UTF-16 units of its code.
-/
import Relaunch.Json.Basic
import Relaunch.Text.Quoted

namespace Relaunch.Json

open Relaunch.Text

/-! ## Texts -/

/-- One UTF-16 unit as an escape. -/
def escapeUnit (unit : Nat) : List Char := '\\' :: 'u' :: hexDigits 4 unit

/-- A character inside a JSON text. -/
def escapeChar (c : Char) : List Char :=
  if c = '"' then ['\\', '"']
  else if c = '\\' then ['\\', '\\']
  else if c = '\n' then ['\\', 'n']
  else if c = '\r' then ['\\', 'r']
  else if c = '\t' then ['\\', 't']
  else if c = '\x0c' then ['\\', 'f']
  else if c = '\x08' then ['\\', 'b']
  else if 32 ≤ c.toNat ∧ c.toNat < 127 then [c]
  else if c.toNat < 0x10000 then escapeUnit c.toNat
  else
    escapeUnit (0xd800 + (c.toNat - 0x10000) / 0x400)
      ++ escapeUnit (0xdc00 + (c.toNat - 0x10000) % 0x400)

/-- A JSON text with its quotes. -/
def printText (text : String) : List Char :=
  '"' :: text.toList.flatMap escapeChar ++ ['"']

/-! ## Documents -/

/-- The start of a new line, `depth` levels in. -/
def newLine (depth : Nat) : List Char := '\n' :: List.replicate (2 * depth) ' '

mutual

/-- A document whose first line starts `depth` levels in. -/
def printAt (depth : Nat) : Json → List Char
  | .null => "null".toList
  | .bool true => "true".toList
  | .bool false => "false".toList
  | .int n => (toString n).toList
  | .text t => printText t
  | .list [] => ['[', ']']
  | .list (item :: items) =>
    '[' :: newLine (depth + 1) ++ printAt (depth + 1) item ++ printItems (depth + 1) items
      ++ newLine depth ++ [']']
  | .object [] => ['\x7b', '\x7d']
  | .object ((name, value) :: fields) =>
    '\x7b' :: newLine (depth + 1) ++ printText name ++ [':', ' '] ++ printAt (depth + 1) value
      ++ printFields (depth + 1) fields ++ newLine depth ++ ['\x7d']

/-- The items of a list after the first. -/
def printItems (depth : Nat) : List Json → List Char
  | [] => []
  | item :: items => ',' :: newLine depth ++ printAt depth item ++ printItems depth items

/-- The fields of an object after the first. -/
def printFields (depth : Nat) : List (String × Json) → List Char
  | [] => []
  | (name, value) :: fields =>
    ',' :: newLine depth ++ printText name ++ [':', ' '] ++ printAt depth value
      ++ printFields depth fields

end

/-- A document over several lines. -/
def print (document : Json) : String := String.ofList (printAt 0 document)

end Relaunch.Json
