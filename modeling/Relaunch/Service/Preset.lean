/-
  Presets: services that are known by name.
-/
import Relaunch.Query
import Relaunch.Text.Quoted

namespace Relaunch.Service

/-- A service that is known by name. -/
structure Preset where
  name : String
  pattern : String
  executable : String
  deriving DecidableEq, Repr, Inhabited

namespace Preset

/-- The services that are known by name. -/
def all : List Preset := [
  ⟨"proxy", "ppaass-proxy", "./concrete-start-proxy.sh"⟩,
  ⟨"agent", "ppaass-agent", "./concrete-start-agent.sh"⟩]

/-- The service with a name. -/
def named? (name : String) : Option Preset := all.find? fun preset => preset.name == name

/-- The known names, as a complaint lists them. -/
def nameList : String :=
  "[" ++ String.intercalate ", " (all.map fun preset => Text.quoted preset.name) ++ "]"

end Preset

/-- The pattern that a service is searched for by: the one given, else that of the preset, else the
name of the service. -/
def patternOf (name : String) (pattern : Option String) : String :=
  pattern.getD (((Preset.named? name).map Preset.pattern).getD name)

/-- The query for a service, `none` when its pattern is empty. -/
def query? (name : String) (pattern : Option String) : Option Query :=
  Query.ofPattern? (patternOf name pattern)

end Relaunch.Service
