/-
  The limits on open files of a host.
-/
import Relaunch.Host.Basic

namespace Relaunch.Host

/-- The limits on open files. -/
def readLimits : Session FileLimits := do
  note .readLimits
  let host ← get
  meet host.limitsReadFault
  pure host.limits

/-- Set the limits on open files. -/
def setLimits (limits : FileLimits) : Session Unit := do
  note (.setLimits limits)
  let host ← get
  set { host with limitsSetFaults := host.limitsSetFaults.tail }
  meet (host.limitsSetFaults.head?.getD none)
  modify fun host => { host with limits }

end Relaunch.Host
