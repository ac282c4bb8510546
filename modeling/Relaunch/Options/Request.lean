/-
  Requests: what a command line asks for.

  The arguments before the command belong to the program, those after it to the command.  At both
  places all arguments are first told apart and then acted upon from left to right; asking for help or
  the version ends the reading where it stands.  Words that nothing takes are collected, and complained
  about only when everything else is in order.
-/
import Relaunch.Number.Numeral
import Relaunch.Options.Misuse
import Relaunch.Path

namespace Relaunch.Options

/-! ## Choices -/

/-- The values of the options. -/
structure Choices where
  pattern : Option String := none
  executable : Option String := none
  workingDirectory : Option Path := none
  log : Option String := none
  appendLog : Bool := false
  fileLimit : Option Int := none
  attempts : Option Int := none
  delay : Option Float := none
  grace : Option Float := none
  healthPort : Option Int := none
  healthHost : Option String := none
  healthTimeout : Option Float := none
  json : Bool := false
  verbose : Bool := false
  deriving Repr, Inhabited

/-- What a command line asks for. -/
structure Request where
  command : Command
  service : String
  choices : Choices := {}
  deriving Repr, Inhabited

/-- Why a switch cannot be acted upon. -/
inductive Halt
  | help
  | version
  | misuse (misuse : Misuse)
  deriving DecidableEq, Repr, Inhabited

/-- What a halt comes to under a topic. -/
def Halt.stop (topic : Topic) : Halt → Stop
  | help => .help topic
  | version => .version
  | misuse m => .misuse topic m

/-- Read the value of a switch as an integer. -/
def readInt (switch : Switch) (value : String) : Except Halt Int :=
  (Number.readInt value).mapError fun _ => .misuse (.notAnInt switch value)

/-- Read the value of a switch as a double. -/
def readFloat (switch : Switch) (value : String) : Except Halt Float :=
  (Number.readFloat value).mapError fun _ => .misuse (.notAFloat switch value)

/-- Act upon a switch and its value. -/
def Choices.choose (choices : Choices) (switch : Switch) (value : String) : Except Halt Choices :=
  match switch with
  | .help => .error .help
  | .version => .error .version
  | .pattern => .ok { choices with pattern := value }
  | .executable => .ok { choices with executable := value }
  | .workdir => .ok { choices with workingDirectory := Path.ofText value }
  | .logFile => .ok { choices with log := value }
  | .appendLog => .ok { choices with appendLog := true }
  | .fdLimit => do return { choices with fileLimit := ← readInt switch value }
  | .noFdLimit => .ok { choices with fileLimit := some 0 }
  | .attempts => do return { choices with attempts := ← readInt switch value }
  | .delay => do return { choices with delay := ← readFloat switch value }
  | .gracefulTimeout => do return { choices with grace := ← readFloat switch value }
  | .healthPort => do return { choices with healthPort := ← readInt switch value }
  | .healthHost => .ok { choices with healthHost := value }
  | .healthTimeout => do return { choices with healthTimeout := ← readFloat switch value }
  | .json => .ok { choices with json := true }
  | .verbose => .ok { choices with verbose := true }

/-! ## Reading the words of a command -/

/-- How far the reading of a command has come. -/
structure Progress where
  service : Option String := none
  choices : Choices := {}
  /-- The switch whose value comes next. -/
  pending : Option Switch := none
  /-- The switch that said something about the limit on open files. -/
  limitSwitch : Option Switch := none
  /-- Was the last word the service?  A double dash right after it belongs to it. -/
  atService : Bool := false
  /-- Words that nothing took. -/
  leftOver : List String := []
  deriving Repr, Inhabited

namespace Progress

/-- Act upon a switch and its value, and then see whether an earlier switch excludes it. -/
def act (p : Progress) (switch : Switch) (value : String) : Except Halt Progress := do
  let choices ← p.choices.choose switch value
  let p := { p with choices, pending := none, atService := false }
  match switch.rival? with
  | none => return p
  | some rival =>
    if p.limitSwitch = some rival then throw (.misuse (.notTogether switch rival))
    return { p with limitSwitch := some switch }

/-- Leave a word over. -/
def leave (p : Progress) (word : String) : Progress :=
  { p with leftOver := p.leftOver ++ [word], atService := false }

/-- Take a plain word: as the service, if there is none yet. -/
def takePlain (p : Progress) (word : String) : Progress :=
  match p.service with
  | none => { p with service := word, atService := true }
  | some _ => p.leave word

/-- Take a double dash, which belongs to the service when that stands next to it. -/
def takeSeparator (p : Progress) (isLast : Bool) : Progress :=
  if p.atService || (p.service.isNone && !isLast) then { p with atService := false }
  else p.leave "--"

end Progress

/-- The switches that letters behind a short spelling stand for, where none of them takes a value. -/
def readCluster (vocabulary : List Switch) (switch : Switch) :
    (letters : List Char) → Except Halt (List Switch)
  | [] => .ok [switch]
  | letter :: rest =>
    match (spelled vocabulary).lookup (String.ofList ['-', letter]) with
    | some next => do return switch :: (← readCluster vocabulary next rest)
    | none => .error (.misuse (.valueIgnored switch (String.ofList (letter :: rest))))

/-- Act upon switches without values, in order. -/
def actAll (p : Progress) : List Switch → Except Halt Progress
  | [] => .ok p
  | switch :: rest => do actAll (← p.act switch "") rest

/-- Is a spelling short: a single dash and a letter? -/
def isShort (spelling : String) : Bool := spelling.toList.length == 2

/-- Act upon a switch that is written with or without something attached to it. -/
def takeSwitch (vocabulary : List Switch) (p : Progress) (switch : Switch) (spelling : String)
    (attached : Option String) : Except Halt Progress :=
  match attached with
  | none =>
    if switch.takesValue then .ok { p with pending := some switch, atService := false }
    else p.act switch ""
  | some value =>
    if switch.takesValue then p.act switch value
    else if isShort spelling && value != "" then do
      actAll p (← readCluster vocabulary switch value.toList)
    else .error (.misuse (.valueIgnored switch value))

/-- Read words from left to right. -/
def readWords (vocabulary : List Switch) (p : Progress) : List Word → Except Halt Progress
  | [] =>
    match p.pending with
    | some switch => .error (.misuse (.valueMissing switch))
    | none => .ok p
  | word :: rest =>
    match p.pending, word with
    | some switch, .plain text => do readWords vocabulary (← p.act switch text) rest
    | some switch, _ => .error (.misuse (.valueMissing switch))
    | none, .plain text => readWords vocabulary (p.takePlain text) rest
    | none, .separator => readWords vocabulary (p.takeSeparator rest.isEmpty) rest
    | none, .unknown text => readWords vocabulary (p.leave text) rest
    | none, .switch switch spelling attached => do
      readWords vocabulary (← takeSwitch vocabulary p switch spelling attached) rest

/-- Tell the arguments apart. -/
def tellApart (vocabulary : List Switch) (topic : Topic) (arguments : List String) :
    Except Stop (List Word) :=
  (classifyAll vocabulary arguments).mapError fun a => .misuse topic (.ambiguous a)

/-- Read the arguments of a command; the request, and the words left over. -/
def readCommand (command : Command) (arguments : List String) :
    Except Stop (Request × List String) := do
  let topic := Topic.command command
  let words ← tellApart command.vocabulary topic arguments
  let p ← (readWords command.vocabulary {} words).mapError (Halt.stop topic)
  match p.service with
  | none => throw (.misuse topic (.wordMissing "service"))
  | some service => return ({ command, service, choices := p.choices }, p.leftOver)

/-! ## Reading the whole line -/

/-- Read arguments up to the command, and hand those after it to the command.  `words` says what the
arguments are. -/
def readGeneral (leftOver : List String) : (arguments : List String) → (words : List Word) →
    Except Stop (Request × List String)
  | argument :: arguments, word :: words =>
    match word with
    | .plain name =>
      match Command.ofName? name with
      | none => .error (.misuse .general (.noCommand name))
      | some command => do
        let (request, more) ← readCommand command arguments
        return (request, leftOver ++ more)
    | .separator =>
      if arguments.isEmpty then .error (.misuse .general (.wordMissing "command"))
      else .error (.misuse .general (.noCommand argument))
    | .unknown text => readGeneral (leftOver ++ [text]) arguments words
    | .switch switch spelling attached =>
      match takeSwitch generalVocabulary {} switch spelling attached with
      | .error halt => .error (halt.stop .general)
      | .ok _ => readGeneral leftOver arguments words
  | _, _ => .error (.misuse .general (.wordMissing "command"))

/-- Read a command line. -/
def read (arguments : List String) : Except Stop Request := do
  let words ← tellApart generalVocabulary .general arguments
  let (request, leftOver) ← readGeneral [] arguments words
  if leftOver ≠ [] then throw (.misuse .general (.leftOver leftOver))
  return request

end Relaunch.Options
