/-
  The process table of a host.

  Scanning the table lets the changes due at that scan take place first.  A signal and a wait are
  kept only when the process is in the table at that moment.  A wait ends the processes that end on
  their own in that time.
-/
import Relaunch.Host.Basic

namespace Relaunch.Host

/-- The number of the signal that asks a process to end. -/
def termSignal : Int := 15

/-- The number of the signal that ends a process. -/
def killSignal : Int := 9

/-- Take every entry with the pid out of the table. -/
def remove (pid : Int) : Session Unit :=
  modify fun host => { host with processes := host.processes.filter fun p => p.pid != pid }

/-- The table after a change. -/
def applyChange (change : TableChange) (processes : List TableEntry) : List TableEntry :=
  processes.filter (fun p => !change.leaving.contains p.pid) ++ change.joining

/-- The table, after the change due at this scan. -/
def scan : Session (List TableEntry) := do
  note .scan
  modify fun host => { host with scans := host.scans + 1 }
  let host ← get
  match host.changes.lookup host.scans with
  | none => pure host.processes
  | some change =>
    let processes := applyChange change host.processes
    set { host with processes }
    meet change.fault
    pure processes

/-- The first entry with the pid. -/
def entry (pid : Int) : Session TableEntry := do
  match (← get).processes.find? fun p => p.pid == pid with
  | some process => pure process
  | none => throw (.gone (some pid) "" "")

/-- The pids of the processes that started the supervisor. -/
def readAncestors : Session (List Int) := do
  let host ← get
  meet host.ancestorsFault
  pure host.ancestors

/-- Does a process end when it receives the signal? -/
def diesOn (process : TableEntry) (number : Int) : Bool :=
  number == killSignal || (number == termSignal && process.onTerm == .endsAtOnce)

/-- Send a signal to a process. -/
def signal (pid number : Int) : Session Unit := do
  let process ← entry pid
  note (.signal pid number)
  meet (process.signalFaults.lookup number)
  if diesOn process number then remove pid

/-- Does a process end on its own within the time? -/
def endsWithin (process : TableEntry) (timeout : Number) : Bool :=
  match process.onTerm with
  | .endsWithin seconds => seconds.atMost timeout
  | _ => false

/-- Wait for a process to end. -/
def wait (pid : Int) (timeout : Number) : Session Unit := do
  let process ← entry pid
  note (.wait pid timeout)
  meet process.waitFault
  if endsWithin process timeout then remove pid
  else throw (.expired timeout (some pid))

end Relaunch.Host
