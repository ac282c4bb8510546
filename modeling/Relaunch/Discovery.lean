/-
  Finding the instances of a service.

  A search scans the table and keeps every process whose command line the query accepts.  Processes
  that cannot be read are skipped.  The supervisor and the processes that started it are never among
  the results: their command lines usually hold the very text that is searched for.
-/
import Relaunch.Handle
import Relaunch.Host.Table
import Relaunch.Query

namespace Relaunch.Discovery

/-- The part that speaks in this module. -/
def speaker : String := "restarter.process"

/-! ## Matching -/

/-- Is a process that meets this fault merely skipped? -/
def isSkipped (fault : Fault) : Bool := fault.isGone || fault.isDenied

/-- The handle of a process, if the query accepts its command line. -/
def handleOf? (query : Query) (process : TableEntry) : Option Handle :=
  let text := shownCommandLine process.commandLine process.name
  if query.accepts text then some ⟨process.pid, text, process.name⟩ else none

/-- The matches among processes, in order.  Those that cannot be read are skipped; any other fault
ends the search. -/
def matchAll (query : Query) : List TableEntry → Session (List Handle)
  | [] => pure []
  | process :: rest =>
    match process.unreadable with
    | some fault =>
      if isSkipped fault then do
        Host.say .debug speaker ("Skipping process during scan: " ++ fault.message)
        matchAll query rest
      else throw fault
    | none => do
      let found ← matchAll query rest
      pure ((handleOf? query process).toList ++ found)

/-- Scan the table for matches. -/
def scanMatches (query : Query) : Session (List Handle) := do
  matchAll query (← Host.scan)

/-! ## Leaving ourselves out -/

/-- The pids of the supervisor and of the processes that started it.  Where the latter cannot be
told, the supervisor alone. -/
def ownPids : Session (List Int) := do
  let self := (← get).self
  tryCatch (return self :: (← Host.readAncestors)) fun fault => do
    if isSkipped fault then
      Host.say .debug speaker ("Could not resolve ancestor processes: " ++ fault.message)
      pure [self]
    else throw fault

/-- Leave out the handles of our own processes. -/
def withoutOwn (own : List Int) : List Handle → Session (List Handle)
  | [] => pure []
  | handle :: rest => do
    if own.contains handle.pid then
      Host.say .debug speaker
        ("Ignoring own invocation " ++ toString handle.pid ++ ": " ++ handle.commandLine)
      withoutOwn own rest
    else
      let others ← withoutOwn own rest
      pure (handle :: others)

/-- The instances of a service other than our own processes, one handle for each, in the order of
the table. -/
def find (query : Query) : Session (List Handle) := do
  let own ← ownPids
  let found ← scanMatches query
  return Handle.distinct (← withoutOwn own found)

end Relaunch.Discovery
