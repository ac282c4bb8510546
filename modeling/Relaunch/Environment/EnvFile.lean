/-
  Environment files: texts that give default values to environment variables.

  A file is a sequence of statements.  A statement is a name, optionally after the word `export`, and
  optionally an equals sign with a value; names may stand in single quotes, values in single or double
  quotes, and a value without quotes ends at a comment or at the end of the line.  A statement that
  makes no sense is skipped up to the end of its line, and the line where it starts is remembered.

  1. `Statement.readAll` reads the statements of a text.
  2. `resolve` replaces the references to variables inside the values, from the environment first and
     from the statements before second.
  3. `load` sets the variables that the environment does not have yet.
-/
import Relaunch.Environment.Variables
import Relaunch.Text.Blank

namespace Relaunch.EnvFile

open Relaunch.Text

/-! ## Line ends and the byte order mark -/

/-- Line ends of every kind as line feeds; a line feed right after a carriage return belongs to it. -/
def unifyLineEnds : (afterReturn : Bool) → List Char → List Char
  | _, [] => []
  | afterReturn, c :: rest =>
    if c = '\r' then '\n' :: unifyLineEnds true rest
    else if c = '\n' ∧ afterReturn then unifyLineEnds false rest
    else c :: unifyLineEnds false rest

/-- The text of a file, without the byte order mark it may start with. -/
def normalize (text : List Char) : List Char :=
  unifyLineEnds false (if text.head? = some '\ufeff' then text.tail else text)

/-! ## Quoted texts -/

/-- The text up to the first `quote` that no backslash escapes, and what follows it, where `escaped`
says that a backslash has just been read.  A backslash escapes whatever stands behind it. -/
def takeQuoted (quote : Char) : (escaped : Bool) → List Char → Option (List Char × List Char)
  | _, [] => none
  | escaped, c :: rest =>
    if c = quote ∧ !escaped then some ([], rest)
    else (takeQuoted quote (c == '\\' && !escaped) rest).map fun r => (c :: r.1, r.2)

/-- The character that a backslash and `c` stand for between double quotes. -/
def doubleEscape? (c : Char) : Option Char :=
  [('\\', '\\'), ('\'', '\''), ('"', '"'), ('a', '\x07'), ('b', '\x08'), ('f', '\x0c'),
    ('n', '\n'), ('r', '\r'), ('t', '\t'), ('v', '\x0b')].lookup c

/-- The character that a backslash and `c` stand for between single quotes. -/
def singleEscape? (c : Char) : Option Char := [('\\', '\\'), ('\'', '\'')].lookup c

/-- Replace the escapes of a text, where `pending` says that a backslash has just been read.  A
backslash that starts no escape stands for itself. -/
def unescape (escape? : Char → Option Char) : (pending : Bool) → List Char → List Char
  | false, [] => []
  | true, [] => ['\\']
  | false, c :: rest => if c = '\\' then unescape escape? true rest else c :: unescape escape? false rest
  | true, c :: rest =>
    match escape? c with
    | some d => d :: unescape escape? false rest
    | none => '\\' :: c :: unescape escape? false rest

/-! ## Statements -/

/-- What a statement says. -/
inductive Statement
  /-- Nothing: a comment or blank lines. -/
  | nothing
  /-- A name, with a value or without. -/
  | binding (name : String) (value : Option String)
  /-- Something that makes no sense. -/
  | senseless
  deriving DecidableEq, Repr, Inhabited

/-- Progress through a text: what was read, or that it makes no sense, and what is left. -/
abbrev Progress (α : Type) := Except (List Char) (α × List Char)

/-- Drop the word `export` where blanks follow it on its line. -/
def dropExport (text : List Char) : List Char :=
  if "export".toList.isPrefixOf text then
    let rest := text.drop 6
    if rest.head?.any isInlineBlank then rest.dropWhile isInlineBlank else text
  else text

/-- May `c` stand in a name without quotes? -/
def isNameChar (c : Char) : Bool := c != '=' && c != '#' && !isBlank c

/-- Read a name; a comment has none. -/
def readName (text : List Char) : Progress (Option String) :=
  match text with
  | '#' :: _ => .ok (none, text)
  | '\'' :: rest =>
    let name := rest.takeWhile (· != '\'')
    match rest.drop name.length with
    | _ :: more => if name = [] then .error text else .ok (some (String.ofList name), more)
    | [] => .error text
  | _ =>
    let name := text.takeWhile isNameChar
    if name = [] then .error text
    else .ok (some (String.ofList name), text.drop name.length)

/-- A value without quotes: cut before the first comment that blanks precede. -/
def cutComment : List Char → List Char
  | [] => []
  | c :: rest =>
    if isBlank c ∧ ((c :: rest).dropWhile isBlank).head? = some '#' then []
    else c :: cutComment rest

/-- Is this character inside a line? -/
def isInLine (c : Char) : Bool := c != '\n' && c != '\r'

/-- Read a value without quotes: what the line holds besides a comment and the blanks at its ends.  A
comment may stand in the place of the value, and the value is empty then. -/
def readBare (text : List Char) : String × List Char :=
  let line := text.takeWhile isInLine
  (String.ofList (trimEndWhile isBlank ((cutComment line).dropWhile isBlank)), text.drop line.length)

/-- Read a value in quotes, of which the first has been read. -/
def readQuoted (quote : Char) (escape? : Char → Option Char) (text : List Char) : Progress String :=
  match takeQuoted quote false text with
  | some (value, rest) => .ok (String.ofList (unescape escape? false value), rest)
  | none => .error text

/-- Read a value and the blanks before it. -/
def readValue (text : List Char) : Progress String :=
  match text.dropWhile isInlineBlank with
  | '\'' :: rest => readQuoted '\'' singleEscape? rest
  | '"' :: rest => readQuoted '"' doubleEscape? rest
  | _ => .ok (readBare text)

/-- Read an equals sign and the value after it, or nothing. -/
def readAssignment (text : List Char) : Progress (Option String) :=
  match text with
  | '=' :: rest => (readValue rest).map fun r => (some r.1, r.2)
  | _ => .ok (none, text)

/-- Read a comment, or nothing, and the end of the line. -/
def readLineEnd (text : List Char) : Progress Unit :=
  let rest := text.dropWhile isInlineBlank
  let rest := if rest.head? = some '#' then rest.dropWhile isInLine else rest
  match rest with
  | [] => .ok ((), [])
  | c :: more => if c = '\n' then .ok ((), more) else .error text

/-- Read a statement after the blank lines before it. -/
def readBody (text : List Char) : Except (List Char) (Statement × List Char) := do
  let (name, rest) ← readName (dropExport text)
  let (value, rest) ← readAssignment (rest.dropWhile isInlineBlank)
  let ((), rest) ← readLineEnd rest
  return (match name with
    | some name => .binding name value
    | none => .nothing, rest)

/-- What is left after the line that a senseless statement was given up on. -/
def skipLine (text : List Char) : List Char := (text.dropWhile isInLine).drop 1

/-- Read one statement, and what is left after it. -/
def readStatement (text : List Char) : Statement × List Char :=
  match text.dropWhile isBlank with
  | [] => (.nothing, [])
  | body =>
    match readBody body with
    | .ok result => result
    | .error rest => (.senseless, skipLine rest)

/-- Number of line feeds in a text. -/
def lineFeeds (text : List Char) : Nat := text.count '\n'

/-- Read statements, each with the number of the line that it starts on, counting the blank lines
before it.  Every statement takes at least one character, so `fuel` characters are enough. -/
def readStatements : (fuel line : Nat) → List Char → List (Nat × Statement)
  | 0, _, _ => []
  | fuel + 1, line, text =>
    if text = [] then []
    else
      let (statement, rest) := readStatement text
      (line, statement) :: readStatements fuel (line + (lineFeeds text - lineFeeds rest)) rest

/-- The statements of a file, each with the line that it starts on. -/
def statements (text : String) : List (Nat × Statement) :=
  let chars := normalize text.toList
  readStatements chars.length 1 chars

/-! ## Bindings -/

/-- The lines of the statements that make no sense. -/
def senselessLines (statements : List (Nat × Statement)) : List Nat :=
  statements.filterMap fun s => if s.2 = .senseless then some s.1 else none

/-- The names with their values, in order. -/
def bindings (statements : List (Nat × Statement)) : List (String × Option String) :=
  statements.filterMap fun s =>
    match s.2 with
    | .binding name value => some (name, value)
    | _ => none

/-- A reference to a variable. -/
structure Reference where
  name : String
  /-- What it stands for where the variable is not set. -/
  fallback : String
  /-- Characters that the reference takes. -/
  length : Nat
  deriving DecidableEq, Repr

/-- The reference that a text starts with, if it starts with one: a dollar sign and, in braces, a name
and perhaps a colon, a dash and a fallback. -/
def reference? (text : List Char) : Option Reference :=
  match text with
  | '$' :: '\x7b' :: rest =>
    let name := rest.takeWhile fun c => c != '\x7d' && c != ':'
    match rest.drop name.length with
    | '\x7d' :: _ => some ⟨String.ofList name, "", name.length + 3⟩
    | ':' :: '-' :: more =>
      let fallback := more.takeWhile (· != '\x7d')
      if fallback.length < more.length then
        some ⟨String.ofList name, String.ofList fallback, name.length + fallback.length + 5⟩
      else none
    | _ => none
  | _ => none

/-- Replace the references in a text, after the next `skip` characters. -/
def expand (value? : String → Option String) : (skip : Nat) → List Char → List Char
  | _, [] => []
  | skip + 1, _ :: rest => expand value? skip rest
  | 0, c :: rest =>
    match reference? (c :: rest) with
    | some reference =>
      ((value? reference.name).getD reference.fallback).toList
        ++ expand value? (reference.length - 1) rest
    | none => c :: expand value? 0 rest

/-- Names with values resolved so far, each name once, where it first stood. -/
abbrev Resolved := List (String × Option String)

/-- Give a name a value, in the place of the one it has. -/
def Resolved.put (resolved : Resolved) (name : String) (value : Option String) : Resolved :=
  if (resolved.lookup name).isSome then
    resolved.map fun r => if r.1 = name then (name, value) else r
  else resolved ++ [(name, value)]

/-- What a reference to `name` stands for: the variable of the environment, else the value that the
file gave before; a name that stands without a value is the empty text. -/
def referent? (env : Environment) (resolved : Resolved) (name : String) : Option String :=
  match env.get? name with
  | some value => some value
  | none => (resolved.lookup name).map fun value => value.getD ""

/-- Replace the references in the values, in order. -/
def resolve (env : Environment) (bindings : List (String × Option String)) : Resolved :=
  bindings.foldl (fun resolved binding =>
    let value := binding.2.map fun value =>
      String.ofList (expand (referent? env resolved) 0 value.toList)
    resolved.put binding.1 value) []

/-! ## Loading -/

/-- Why a variable cannot be set. -/
inductive SetError
  | nullCharacter
  | equalsInName
  deriving DecidableEq, Repr, Inhabited

/-- The wording of a set error. -/
def SetError.message : SetError → String
  | nullCharacter => "embedded null byte"
  | equalsInName => "illegal environment variable name"

/-- Set a variable. -/
def setVariable (env : Environment) (name value : String) : Except SetError Environment :=
  if name.toList.contains '\x00' || value.toList.contains '\x00' then .error .nullCharacter
  else if name.toList.contains '=' then .error .equalsInName
  else .ok (env.put name value)

/-- Set the variables that have a value and are not set in the environment. -/
def setMissing (env : Environment) : Resolved → Except SetError Environment
  | [] => .ok env
  | (_, none) :: rest => setMissing env rest
  | (name, some value) :: rest => do
    if env.has name then setMissing env rest
    else setMissing (← setVariable env name value) rest

/-- The environment with what the statements of a file add to it. -/
def load (env : Environment) (statements : List (Nat × Statement)) : Except SetError Environment :=
  setMissing env (resolve env (bindings statements))

/-- The variable that turns environment files off. -/
def switchName : String := "PYTHON_DOTENV_DISABLED"

/-- A letter without its case, as far as words in ASCII are concerned: the long s is an s. -/
def foldCase (c : Char) : Char := if c = 'ſ' then 's' else c.toLower

/-- Are environment files turned off? -/
def isDisabled (env : Environment) : Bool :=
  match env.get? switchName with
  | some value => ["1", "true", "t", "yes", "y"].contains (String.ofList (value.toList.map foldCase))
  | none => false

example : cutComment "a # b".toList = "a".toList := by decide
example : cutComment "a#b".toList = "a#b".toList := by decide
example : (readBare " # b".toList).1 = "" := by decide
example : takeQuoted '"' false "a\\\"b\\\\\" c".toList = some ("a\\\"b\\\\".toList, " c".toList) := by rfl
example : reference? "$\x7bA:-b\x7d".toList = some ⟨"A", "b", 7⟩ := by decide

end Relaunch.EnvFile
