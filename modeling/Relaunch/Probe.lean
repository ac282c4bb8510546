/-
  Probing a launched service.

  A probe tries to connect to a port until it succeeds or the clock reaches a deadline.  It only
  reports.  Nothing bounds the number of attempts but the clock, so a run on a clock that never gets
  there is cut short after `Host.probeLimit` attempts.
-/
import Relaunch.Host.Network

namespace Relaunch

/-- Where, and how long, to wait for a service to accept connections. -/
structure Probe where
  port : Int
  host : String := "127.0.0.1"
  /-- Seconds until the probe gives up. -/
  timeout : Number := .float 10.0
  /-- Seconds between two attempts. -/
  interval : Number := .float 0.5
  deriving BEq, Repr, Inhabited

namespace Probe

/-- The part that speaks in this module. -/
def speaker : String := "restarter.health"

/-- Seconds that one attempt to connect may take, unless told otherwise. -/
def connectTimeout : Number := .float 1.0

/-- Does something accept connections? -/
def isOpen (host : String) (port : Int) (timeout : Number) : Session Bool :=
  tryCatch
    (do
      Host.connect host port timeout
      Host.close
      pure true)
    fun fault => if fault.isSystemFault then pure false else throw fault

/-- Where a probe connects to. -/
def address (probe : Probe) : String := probe.host ++ ":" ++ toString probe.port

/-- Try until the deadline, `remaining` times at most. -/
def poll (probe : Probe) (deadline : Number) : (remaining : Nat) → Session Bool
  | 0 => throw .unfinished
  | remaining + 1 => do
    if ← isOpen probe.host probe.port connectTimeout then
      Host.say .info speaker ("Service is accepting connections on " ++ probe.address)
      return true
    if deadline.atMost (← Host.readClock) then
      Host.say .warning speaker
        ("Service not accepting connections on " ++ probe.address ++ " after "
          ++ probe.timeout.text ++ "s")
      return false
    Host.sleep probe.interval
    poll probe deadline remaining

/-- Wait until the service accepts connections or the time is over; does it accept them? -/
def run (probe : Probe) : Session Bool := do
  let deadline ← Host.sum (← Host.readClock) probe.timeout
  poll probe deadline (← get).probeLimit

end Probe

end Relaunch
