/-
  Misuse: how a command line can be wrong.
-/
import Relaunch.Options.Usage
import Relaunch.Options.Word
import Relaunch.Text.Quoted

namespace Relaunch.Options

open Relaunch.Text

/-- What is wrong with a command line. -/
inductive Misuse
  /-- A word could stand for several switches. -/
  | ambiguous (ambiguity : Ambiguity)
  /-- A switch lacks its value. -/
  | valueMissing (switch : Switch)
  /-- A switch has a value, or letters behind it, and takes none. -/
  | valueIgnored (switch : Switch) (value : String)
  | notAnInt (switch : Switch) (value : String)
  | notAFloat (switch : Switch) (value : String)
  /-- Two switches exclude one another. -/
  | notTogether (switch earlier : Switch)
  /-- A word that must be there is not. -/
  | wordMissing (name : String)
  /-- The program has no such command. -/
  | noCommand (name : String)
  /-- Words are left over. -/
  | leftOver (words : List String)
  deriving DecidableEq, Repr, Inhabited

namespace Misuse

/-- A complaint about a switch. -/
def about (switch : Switch) (complaint : String) : String :=
  "argument " ++ switch.title ++ ": " ++ complaint

/-- The wording of a misuse. -/
def message : Misuse → String
  | ambiguous a =>
    "ambiguous option: " ++ a.word ++ " could match " ++ String.intercalate ", " a.spellings
  | valueMissing switch => about switch "expected one argument"
  | valueIgnored switch value => about switch ("ignored explicit argument " ++ quoted value)
  | notAnInt switch value => about switch ("invalid int value: " ++ quoted value)
  | notAFloat switch value => about switch ("invalid float value: " ++ quoted value)
  | notTogether switch earlier => about switch ("not allowed with argument " ++ earlier.title)
  | wordMissing name => "the following arguments are required: " ++ name
  | noCommand name =>
    "argument command: invalid choice: " ++ quoted name ++ " (choose from 'restart', 'find')"
  | leftOver words => "unrecognized arguments: " ++ String.intercalate " " words

end Misuse

/-- What reading a command line comes to when it does not lead to a request. -/
inductive Stop
  /-- Help was asked for. -/
  | help (topic : Topic)
  /-- The version was asked for. -/
  | version
  /-- The command line is wrong. -/
  | misuse (topic : Topic) (misuse : Misuse)
  deriving DecidableEq, Repr, Inhabited

namespace Stop

/-- What goes to standard output, on a terminal of so many columns. -/
def stdout (columns : Nat) : Stop → String
  | help topic => topic.help columns
  | version => versionText
  | misuse _ _ => ""

/-- What goes to standard error, on a terminal of so many columns. -/
def stderr (columns : Nat) : Stop → String
  | misuse topic m => topic.usage columns ++ topic.call ++ ": error: " ++ m.message ++ "\n"
  | _ => ""

/-- The exit code. -/
def exitCode : Stop → Nat
  | misuse _ _ => 2
  | _ => 0

end Stop

end Relaunch.Options
