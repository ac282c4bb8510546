/-
  What the program says about its own command line.

  A usage shows how to call the program or one of its commands; help adds what the arguments are for.
  Both are laid out for a number of columns, of which the last two stay free.  A usage that is longer
  than a line is broken between its parts: the options come first, the words after the options start
  a line of their own, and everything stands to the right of the call if that leaves room.  In help the
  purposes of the arguments stand in one column, which starts behind the longest argument or at the
  24th place, whichever comes first; a narrow terminal moves it further to the left.
-/
import Relaunch.Options.Switch
import Relaunch.Text.Wrapped

namespace Relaunch.Options

open Relaunch.Text

/-! ## Topics -/

/-- What a help text is about: the program, or one of its commands. -/
inductive Topic
  | general
  | command (command : Command)
  deriving DecidableEq, Repr, Inhabited

namespace Topic

/-- The words that a call starts with. -/
def call : Topic → String
  | general => "restarter"
  | command c => "restarter " ++ c.name

/-- The switches that may follow a call. -/
def vocabulary : Topic → List Switch
  | general => generalVocabulary
  | command c => c.vocabulary

/-- The text in front of the arguments. -/
def preamble? : Topic → Option String
  | general => some "Replace a running service with a fresh, detached instance."
  | command _ => none

/-- The text behind the arguments. -/
def closing? : Topic → Option String
  | command .restart => some "Arguments after -- are passed to the executable."
  | _ => none

end Topic

/-! ## Layout -/

/-- Lines as one text, each with its end. -/
def joinLines (lines : List String) : String := String.join (lines.map fun line => line ++ "\n")

/-- Spaces. -/
def spaces (count : Nat) : String := "".pushn ' ' count

/-- A text with spaces behind it up to a width. -/
def paddedTo (width : Nat) (text : String) : String := text ++ spaces (width - text.length)

/-- What may be written to in a number of columns. -/
def usableWidth (columns : Nat) : Nat := columns - 2

/-- The narrowest column that text is wrapped into. -/
def narrowest : Nat := 11

/-- Distribute parts over lines of a width.  `used` says how far the open line reaches, and every
further line starts at `indent`.  A part that is too long for any line has a line of its own. -/
def distribute (width indent used : Nat) (line : List String) : List String → List (List String)
  | [] => if line = [] then [] else [line]
  | part :: rest =>
    if width < used + 1 + part.length ∧ line ≠ [] then
      line :: distribute width indent (indent + part.length) [part] rest
    else distribute width indent (used + 1 + part.length) (line ++ [part]) rest

/-- Parts on lines that all start at `indent`. -/
def indented (width indent : Nat) (parts : List String) : List String :=
  (distribute width indent (indent - 1) [] parts).map fun line =>
    spaces indent ++ String.intercalate " " line

/-! ## Usage -/

/-- The call with a switch, without brackets. -/
def Switch.inCall (s : Switch) : String :=
  String.intercalate " " (s.spellings.take 1 ++ s.placeholder?.toList)

/-- What a usage shows for switches; of two that exclude one another, one or the other. -/
def optionParts : List Switch → List String
  | [] => []
  | s :: t :: rest =>
    if s.rival? = some t then ("[" ++ s.inCall ++ " | " ++ t.inCall ++ "]") :: optionParts rest
    else ("[" ++ s.inCall ++ "]") :: optionParts (t :: rest)
  | [s] => ["[" ++ s.inCall ++ "]"]

/-- What a usage shows for the choice of a command. -/
def commandChoice : String := "\x7b" ++ String.intercalate "," (Command.all.map Command.name) ++ "\x7d"

/-- What a usage shows for the words after the options. -/
def Topic.wordParts : Topic → List String
  | general => [commandChoice, "..."]
  | command _ => ["service"]

/-- What a usage starts with. -/
def usageLabel : String := "usage: "

/-- The lines of a usage that takes more than one. -/
def brokenUsage (width : Nat) (call : String) (options words : List String) : List String :=
  let reach := usageLabel.length + call.length
  if 4 * reach ≤ 3 * width then
    let lines := (distribute width (reach + 1) reach [call] options).map (String.intercalate " ")
    (lines.take 1).map (usageLabel ++ ·) ++ (lines.drop 1).map (spaces (reach + 1) ++ ·)
      ++ indented width (reach + 1) words
  else
    let together := indented width usageLabel.length (options ++ words)
    (usageLabel ++ call) ::
      if together.length ≤ 1 then together
      else indented width usageLabel.length options ++ indented width usageLabel.length words

/-- How to call the program or command. -/
def Topic.usageLines (columns : Nat) (topic : Topic) : List String :=
  let options := optionParts topic.vocabulary
  let line := usageLabel ++ String.intercalate " " (topic.call :: options ++ topic.wordParts)
  if line.length ≤ usableWidth columns then [line]
  else brokenUsage (usableWidth columns) topic.call options topic.wordParts

/-! ## Help -/

/-- An argument in help. -/
structure Entry where
  indent : Nat
  title : String
  purpose? : Option String

/-- How a switch may be written. -/
def Switch.synopsis (s : Switch) : String :=
  String.intercalate ", "
    (s.spellings.map fun spelling => String.intercalate " " (spelling :: s.placeholder?.toList))

/-- The entry of a switch. -/
def Switch.entry (s : Switch) : Entry := ⟨2, s.synopsis, some s.purpose⟩

/-- The words after the options. -/
def Topic.wordEntries : Topic → List Entry
  | general =>
    ⟨2, commandChoice, none⟩ :: Command.all.map fun c => ⟨4, c.name, some c.purpose⟩
  | command _ => [⟨2, "service", some "Service name (presets: proxy, agent)"⟩]

/-- Where the purposes start. -/
def purposeColumn (width : Nat) (entries : List Entry) : Nat :=
  let longest := entries.foldl (fun n entry => max n (2 + entry.title.length)) 0
  min (longest + 2) (min 24 (max (width - 20) 4))

/-- The lines of an entry. -/
def Entry.lines (width column : Nat) (entry : Entry) : List String :=
  let title := spaces entry.indent ++ entry.title
  match entry.purpose? with
  | none => [title]
  | some purpose =>
    let purposes := wrapped (max (width - column) narrowest) purpose
    if entry.indent + entry.title.length + 2 ≤ column then
      match purposes with
      | [] => [title]
      | first :: rest => (paddedTo column title ++ first) :: rest.map (spaces column ++ ·)
    else title :: purposes.map (spaces column ++ ·)

/-- Entries under a heading. -/
def titled (width column : Nat) (heading : String) (entries : List Entry) : List String :=
  (heading ++ ":") :: entries.flatMap (Entry.lines width column)

/-- The parts of a help text, which blank lines separate. -/
def Topic.helpBlocks (columns : Nat) (topic : Topic) : List (List String) :=
  let width := usableWidth columns
  let options := topic.vocabulary.map Switch.entry
  let column := purposeColumn width (topic.wordEntries ++ options)
  let free (text : String) : List String := wrapped (max width narrowest) text
  [topic.usageLines columns] ++ (topic.preamble?.map free).toList
    ++ [titled width column "positional arguments" topic.wordEntries,
      titled width column "options" options]
    ++ (topic.closing?.map free).toList

namespace Topic

/-- How to call the program or command, as it is shown. -/
def usage (columns : Nat) (topic : Topic) : String := joinLines (topic.usageLines columns)

/-- Everything there is to know about the program or command, as it is shown. -/
def help (columns : Nat) (topic : Topic) : String :=
  String.intercalate "\n" ((topic.helpBlocks columns).map joinLines)

end Topic

/-- The columns of a terminal that says nothing about them. -/
def usualColumns : Nat := 80

/-- The version of the program. -/
def versionText : String := "restarter 0.1.0\n"

example : Topic.usageLines 40 (.command .find)
    = ["usage: restarter find [-h]", "                      [--pattern PATTERN]",
      "                      [-v]", "                      service"] := by rfl

end Relaunch.Options
