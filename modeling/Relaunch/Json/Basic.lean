/-
  JSON documents, as far as reports need them: null, truth values, integers, texts, lists and objects
  whose fields keep their order.
-/

namespace Relaunch

/-- A JSON document. -/
inductive Json
  | null
  | bool (value : Bool)
  | int (value : Int)
  | text (value : String)
  | list (items : List Json)
  | object (fields : List (String × Json))
  deriving Repr, Inhabited

namespace Json

/-- The value of the first field called `name`, if the document is an object that has one. -/
def field? (name : String) : Json → Option Json
  | .object fields => fields.lookup name
  | _ => none

/-- The document, or `null` where there is none. -/
def ofOption : Option Json → Json
  | some document => document
  | none => .null

end Json

end Relaunch
