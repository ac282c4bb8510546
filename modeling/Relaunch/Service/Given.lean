/-
  Values as they are given for the fields of a service.

  A field may be given by an option, by a setting or by a document, so its value may be of any kind
  until it has been checked.  A complaint shows the value it is about, in the notation of this module.
-/
import Relaunch.Number.Basic
import Relaunch.Path
import Relaunch.Text.Quoted

namespace Relaunch.Service

/-- A value that has not been checked. -/
inductive Given
  | text (value : String)
  | int (value : Int)
  | float (value : Float)
  | bool (value : Bool)
  | path (value : Path)
  | list (items : List Given)
  /-- Anything else. -/
  | other
  deriving Repr, Inhabited

namespace Given

/-- The name of the kind of a value. -/
def kind : Given → String
  | text _ => "str"
  | int _ => "int"
  | float _ => "float"
  | bool _ => "bool"
  | path _ => "path"
  | list _ => "list"
  | other => "dict"

mutual

/-- A value as a complaint shows it. -/
def shown : Given → String
  | text value => Text.quoted value
  | int value => toString value
  | float value => Number.floatText value
  | bool value => if value then "True" else "False"
  | path value => Text.quoted value.text
  | list items => "[" ++ shownItems items ++ "]"
  | other => "\x7b\x7d"

/-- The items of a list with commas between them. -/
def shownItems : List Given → String
  | [] => ""
  | [item] => shown item
  | item :: next :: items => shown item ++ ", " ++ shownItems (next :: items)

end

end Given

end Relaunch.Service
