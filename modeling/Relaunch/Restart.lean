/-
  Restarting a service: retire a stale instance, launch a fresh one, and probe it if asked to.

  Whatever came of the retirement, the launch takes place, once.
-/
import Relaunch.Json.Basic
import Relaunch.Launch
import Relaunch.Probe
import Relaunch.Retirement

namespace Relaunch

/-- What a restart did. -/
structure Report where
  retirement : Retirement.Outcome
  daemon : Daemon
  /-- Does the service accept connections?  Unknown without a probe. -/
  healthy : Option Bool := none
  deriving Repr, Inhabited

/-! ## Reports as documents -/

/-- A launched service as a document. -/
def Daemon.toJson (daemon : Daemon) : Json :=
  .object [
    ("pid", .int daemon.pid),
    ("argv", .list (daemon.argv.map .text)),
    ("log_path", .text daemon.log.text),
    ("started_at", .text daemon.startedAt.text)]

/-- The outcome of a retirement as a document. -/
def Retirement.Outcome.toJson (outcome : Retirement.Outcome) : Json :=
  .object [
    ("status", .text outcome.status.name),
    ("attempts", .int outcome.attempts),
    ("pid", .ofOption (outcome.target.map fun handle => .int handle.pid))]

/-- A report as a document. -/
def Report.toJson (report : Report) : Json :=
  .object [
    ("termination", report.retirement.toJson),
    ("daemon", report.daemon.toJson),
    ("healthy", .ofOption (report.healthy.map .bool))]

namespace Restart

/-- The part that speaks in this module. -/
def speaker : String := "restarter.supervisor"

/-- Probe a service, if there is a probe. -/
def probe : Option Probe → Session (Option Bool)
  | none => pure none
  | some probe => do return some (← probe.run)

/-- Replace a stale instance by a fresh one. -/
def run (query : Query) (patience : Patience) (plan : LaunchPlan) (health : Option Probe) :
    Session Report := do
  let retirement ← Retirement.run query patience
  Host.say .info speaker
    ("Search for " ++ query.pattern ++ " finished after " ++ toString retirement.attempts
      ++ " attempt(s): " ++ retirement.status.name)
  let daemon ← Launch.run plan
  let healthy ← probe health
  return { retirement, daemon, healthy }

end Restart

end Relaunch
