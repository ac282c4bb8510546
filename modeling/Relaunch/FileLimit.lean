/-
  Raising the limit on open files.

  A launched service inherits the limit of the supervisor, so the supervisor raises its own first.  The
  limit is only ever raised: one that is high enough already, or absent, stays as it is.
-/
import Relaunch.Host.Limits

namespace Relaunch.FileLimit

/-- The part that speaks in this module. -/
def speaker : String := "restarter.launcher"

/-- The limit that stands for none. -/
def unlimited : Int := -1

/-- Does a limit allow for `wanted` files? -/
def allows (limit wanted : Int) : Bool := limit == unlimited || wanted ≤ limit

/-- The limits after raising the one in force to `wanted`, and the hard one only where it is lower. -/
def raised (limits : FileLimits) (wanted : Int) : FileLimits :=
  ⟨wanted, if allows limits.hard wanted then limits.hard else wanted⟩

/-- Is a failure to set the limits the reason to give up a launch? -/
def stopsLaunch (fault : Fault) : Bool :=
  fault.isProcessFault || fault.isSystemFault || fault.isBadValue

/-- Raise the limit in force to at least `wanted`; the limits then in force. -/
def raise (wanted : Int) : Session FileLimits := do
  let limits ← Host.readLimits
  if allows limits.soft wanted then pure limits
  else
    let higher := raised limits wanted
    tryCatch (Host.setLimits higher) fun fault =>
      if stopsLaunch fault then throw (.limitNotRaised wanted fault) else throw fault
    Host.say .info speaker
      ("Raised open file limit from " ++ toString limits.soft ++ " to " ++ toString wanted)
    pure higher

end Relaunch.FileLimit
