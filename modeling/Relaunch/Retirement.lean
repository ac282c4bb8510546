/-
  Retiring a stale instance.

  The table is searched a bounded number of times, with a pause between two searches, so that an
  instance that is only coming up, or a table that cannot be read for a moment, gets another chance.
  The first search that finds anything decides: of what it found, the process with the least pid is
  ended, and the others are left alone.  With a grace period the process is asked to end first, and
  killed only if it is still there when the period is over.

  A search that fails counts as one that found nothing; a signal that cannot be delivered is part of
  the outcome.
-/
import Relaunch.Discovery
import Relaunch.Host.Network
import Relaunch.Patience

namespace Relaunch.Retirement

/-- The part that speaks in this module. -/
def speaker : String := "restarter.termination"

/-! ## Outcomes -/

/-- How a retirement came out. -/
inductive Status
  /-- A process was found and signalled. -/
  | ended
  /-- A process was found, and a signal could not be delivered. -/
  | notDelivered
  /-- No process was found. -/
  | notFound
  deriving DecidableEq, Repr, Inhabited

/-- The name of a status in a report. -/
def Status.name : Status → String
  | ended => "terminated"
  | notDelivered => "signal_failed"
  | notFound => "not_found"

/-- What a retirement found and did. -/
structure Outcome where
  status : Status
  /-- Searches made. -/
  attempts : Int
  /-- The process that was to be ended. -/
  target : Option Handle := none
  /-- Everything that the last search found. -/
  candidates : List Handle := []
  deriving Repr, Inhabited

/-! ## Signals -/

/-- What the failure to signal a process amounts to. -/
def deliveryFault (pid : Int) (fault : Fault) : Fault :=
  if fault.isGone then .system .noSuchProcess ("Process " ++ toString pid ++ " no longer exists")
  else if fault.isDenied then
    .system .permission ("Permission denied signalling process " ++ toString pid)
  else fault

/-- Deliver a signal. -/
def deliver (pid number : Int) : Session Unit :=
  tryCatch (Host.signal pid number) fun fault => throw (deliveryFault pid fault)

/-- Wait for a process to end; is it gone? -/
def awaitEnd (pid : Int) (timeout : Number) : Session Bool :=
  tryCatch (do Host.wait pid timeout; pure true) fun fault =>
    if fault.isGone then pure true
    else if fault.isExpired then pure false
    else throw fault

/-- Ask a process to end, and wait; is it gone? -/
def askToEnd (query : Query) (pid : Int) (grace : Number) : Session Bool := do
  deliver pid Host.termSignal
  let gone ← awaitEnd pid grace
  if gone then
    Host.say .info speaker ("Stopped " ++ query.pattern ++ " process: " ++ toString pid)
  else
    Host.say .warning speaker
      ("Process " ++ toString pid ++ " did not stop within " ++ grace.text ++ "s, forcing kill")
  pure gone

/-- Kill a process. -/
def kill (query : Query) (pid : Int) : Session Unit := do
  deliver pid Host.killSignal
  Host.say .info speaker ("Kill " ++ query.pattern ++ " process: " ++ toString pid)

/-- End a process, gently if there is a grace period. -/
def endProcess (query : Query) (pid : Int) : (grace : Option Number) → Session Unit
  | none => kill query pid
  | some grace => do
    let gone ← askToEnd query pid grace
    if gone then pure () else kill query pid

/-- End a process; could it be signalled?  A system fault means that it could not; every other fault
goes on. -/
def tryToEnd (query : Query) (pid : Int) (grace : Option Number) : Session Bool :=
  tryCatch (do endProcess query pid grace; pure true) fun fault => do
    if fault.isLostProcess then
      Host.say .warning speaker ("Process " ++ toString pid ++ " exited before it could be killed")
      pure false
    else if fault.isSystemFault then
      Host.say .warning speaker
        ("Failed to kill " ++ query.pattern ++ " process " ++ toString pid ++ ": " ++ fault.message)
      pure false
    else throw fault

/-! ## The search -/

/-- One search; nothing when it fails. -/
def searchOnce (query : Query) : Session (List Handle) :=
  tryCatch (Discovery.find query) fun fault => do
    Host.say .error speaker
      ("Error searching for " ++ query.pattern ++ " processes: " ++ fault.message)
    pure []

/-- Say which processes are left running. -/
def announceOthers (query : Query) (target : Handle) (candidates : List Handle) : Session Unit :=
  match (Handle.sort candidates).filter fun handle => handle != target with
  | [] => pure ()
  | others =>
    Host.say .warning speaker
      ("Multiple " ++ query.pattern ++ " processes found, leaving "
        ++ String.intercalate ", " (others.map fun handle => toString handle.pid) ++ " running")

/-- End the chosen one of the processes that a search found. -/
def retire (query : Query) (patience : Patience) (attempts : Nat) (target : Handle)
    (candidates : List Handle) : Session Outcome := do
  announceOthers query target candidates
  Host.say .info speaker ("Found " ++ query.pattern ++ " process: " ++ toString target.pid)
  let delivered ← tryToEnd query target.pid patience.grace
  return { status := if delivered then .ended else .notDelivered, attempts, target, candidates }

/-- Search up to `remaining` more times, after `made` searches that found nothing. -/
def search (query : Query) (patience : Patience) : (remaining made : Nat) → Session Outcome
  | 0, made => return { status := .notFound, attempts := made }
  | remaining + 1, made => do
    let candidates ← searchOnce query
    match Handle.least? candidates with
    | some target => retire query patience (made + 1) target candidates
    | none =>
      Host.say .info speaker ("No " ++ query.pattern ++ " process")
      if remaining = 0 then pure () else Host.sleep patience.delay
      search query patience remaining (made + 1)

/-- Retire a stale instance of the service, if a search finds one. -/
def run (query : Query) (patience : Patience) : Session Outcome :=
  search query patience patience.searches 0

end Relaunch.Retirement
