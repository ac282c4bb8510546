/-
  Environment variables.
-/

namespace Relaunch

/-- The variables of a process, each name once. -/
structure Environment where
  bindings : List (String × String) := []
  deriving DecidableEq, Repr, Inhabited

namespace Environment

/-- The value of a variable. -/
def get? (env : Environment) (name : String) : Option String := env.bindings.lookup name

/-- The value of a variable, or `fallback` where it is not set.  A variable set to the empty text is
set. -/
def getD (env : Environment) (name fallback : String) : String := (env.get? name).getD fallback

/-- Is the variable set? -/
def has (env : Environment) (name : String) : Bool := (env.get? name).isSome

/-- Give a variable a value, in the place of the one it has. -/
def put (env : Environment) (name value : String) : Environment :=
  if env.has name then
    { bindings := env.bindings.map fun v => if v.1 = name then (name, value) else v }
  else { bindings := env.bindings ++ [(name, value)] }

end Environment

end Relaunch
