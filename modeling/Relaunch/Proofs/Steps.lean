/-
  What single steps do to a host.

  The journal may write files, so everything that is said about the work changes the host.  None of
  it changes the work: `Alike` hosts differ at most in what was said about them, and whatever reads
  neither the records, nor standard error, nor the files reads the same of both.

  Below that, each step that the search for a stale instance takes on the machine gets one rule: a
  scan (`ends_scan`), a signal (`ends_signal`), a wait (`ends_wait`), a sleep (`ends_sleep`).  A rule
  names the host that the step leaves, so that a proof about a run never opens a step again.
-/
import Relaunch.Host.Network
import Relaunch.Host.Table
import Relaunch.Proofs.Session

namespace Relaunch.Host

/-! ## Hosts that differ in what was said -/

/-- A host without what was said about the work: no records, nothing on standard error, and no files,
for the journal may be among them. -/
def silenced (host : Host) : Host := { host with records := #[], stderr := "", files := {} }

/-- Hosts that differ at most in what was said about the work. -/
def Alike (a b : Host) : Prop := a.silenced = b.silenced

namespace Alike

variable {a b c : Host}

theorem refl (host : Host) : Alike host host := rfl

theorem trans (h : Alike a b) (h' : Alike b c) : Alike a c := Eq.trans h h'

/-- What does not read anything said is the same for hosts that are alike. -/
theorem view {α : Type} (h : Alike a b) (read : Host → α)
    (deaf : ∀ host, read host.silenced = read host := by intro _; rfl) : read a = read b := by
  rw [← deaf a, ← deaf b, show a.silenced = b.silenced from h]

/-- A step that neither reads nor changes anything said keeps hosts alike. -/
theorem step (h : Alike a b) (change : Host → Host)
    (deaf : ∀ host, (change host).silenced = (change host.silenced).silenced := by intro _; rfl) :
    Alike (change a) (change b) := by
  show (change a).silenced = (change b).silenced
  rw [deaf a, deaf b, show a.silenced = b.silenced from h]

end Alike

/-! ## Saying something -/

/-- The host once something has been said. -/
def said (level : Level) (speaker message : String) (host : Host) : Host :=
  publish ⟨level, speaker, message⟩
    { host with records := host.records.push ⟨level, speaker, message⟩ }

/-- A handler writes to standard error or to a file. -/
theorem deliver_alike (record : Record) (host : Host) (handler : Handler) :
    Alike (deliver record host handler) host := by
  cases handler <;> rfl

theorem deliverAll_alike (record : Record) :
    ∀ (handlers : List Handler) (host : Host), Alike (handlers.foldl (deliver record) host) host
  | [], host => .refl host
  | handler :: rest, host =>
    (deliverAll_alike record rest _).trans (deliver_alike record host handler)

theorem publish_alike (record : Record) (host : Host) : Alike (publish record host) host := by
  unfold publish
  split
  · exact .refl host
  · split
    · split
      · rfl
      · exact .refl host
    · exact deliverAll_alike record _ host

/-- **Whatever is said, hosts stay alike.** -/
theorem said_alike (level : Level) (speaker message : String) (host : Host) :
    Alike (said level speaker message host) host :=
  (publish_alike _ _).trans rfl

section Rules

variable {host : Host} {fault : Fault → Host → Prop}

@[simp] theorem ends_say {level : Level} {speaker message : String}
    {value : Unit → Host → Prop} :
    Ends (say level speaker message) host value fault ↔
      value () (said level speaker message host) := Iff.rfl

/-- What is due decides: nothing, and all goes on; or a fault, and it is raised. -/
@[simp] theorem ends_meet {met : Option Fault} {value : Unit → Host → Prop} :
    Ends (meet met) host value fault ↔
      (met = none → value () host) ∧ ∀ f, met = some f → fault f host := by
  cases met with
  | none => simp [meet]
  | some f => simp [meet]

/-! ## Dealings with the machine -/

/-- The host with a dealing kept. -/
def noted (call : Call) (host : Host) : Host := { host with calls := host.calls.push call }

@[simp] theorem ends_note {call : Call} {value : Unit → Host → Prop} :
    Ends (note call) host value fault ↔ value () (host.noted call) := Iff.rfl

/-! ## Scans -/

/-- The change of the table that comes with the next scan. -/
def dueChange (host : Host) : Option TableChange := host.changes.lookup (host.scans + 1)

/-- The table that the next scan sees. -/
def dueTable (host : Host) : List TableEntry :=
  match host.dueChange with
  | none => host.processes
  | some change => applyChange change host.processes

/-- The fault that meets the next scan. -/
def dueFault (host : Host) : Option Fault := host.dueChange.bind (·.fault)

/-- The host after a scan, whether it fails or not. -/
def afterScan (host : Host) : Host :=
  { host with
    scans := host.scans + 1, processes := host.dueTable, calls := host.calls.push .scan }

/-- The change that is due is made even if the scan fails. -/
theorem ends_scan {value : List TableEntry → Host → Prop} :
    Ends scan host value fault ↔
      (host.dueFault = none → value host.dueTable host.afterScan) ∧
        ∀ f, host.dueFault = some f → fault f host.afterScan := by
  simp only [scan, note, ends_bind, ends_modify, ends_get]
  cases h : host.changes.lookup (host.scans + 1) with
  | none => simp [dueFault, dueTable, dueChange, afterScan, h]
  | some change => simp [dueFault, dueTable, dueChange, afterScan, h]

/-! ## Signals and waits -/

/-- The first process with the pid. -/
def first? (host : Host) (pid : Int) : Option TableEntry :=
  host.processes.find? fun p => p.pid == pid

/-- The host without the processes with the pid. -/
def without (host : Host) (pid : Int) : Host :=
  { host with processes := host.processes.filter fun p => p.pid != pid }

theorem first?_without (host : Host) (pid : Int) : (host.without pid).first? pid = none := by
  simp [first?, without]

theorem ends_entry {pid : Int} {value : TableEntry → Host → Prop} :
    Ends (entry pid) host value fault ↔
      (∀ process, host.first? pid = some process → value process host) ∧
        (host.first? pid = none → fault (.gone (some pid) "" "") host) := by
  simp only [entry, ends_bind, ends_get, first?]
  cases host.processes.find? fun p => p.pid == pid with
  | none => simp
  | some process => simp

/-- The host that a delivered signal leaves. -/
def signalled (host : Host) (process : TableEntry) (pid number : Int) : Host :=
  if diesOn process number then (host.noted (.signal pid number)).without pid
  else host.noted (.signal pid number)

/-- A signal to a process in the table counts as sent, whether it is delivered or not. -/
theorem ends_signal {pid number : Int} {process : TableEntry} {value : Unit → Host → Prop}
    (present : host.first? pid = some process) :
    Ends (signal pid number) host value fault ↔
      (process.signalFaults.lookup number = none →
          value () (host.signalled process pid number)) ∧
        ∀ f, process.signalFaults.lookup number = some f →
          fault f (host.noted (.signal pid number)) := by
  simp only [signal, ends_bind, ends_entry, present, ends_note, ends_meet, Option.some.injEq,
    forall_eq', reduceCtorEq, false_implies, and_true, signalled]
  cases diesOn process number with
  | true => exact Iff.rfl
  | false => exact Iff.rfl

/-- The host that a wait leaves when the process ended in time. -/
def awaited (host : Host) (pid : Int) (timeout : Number) : Host :=
  (host.noted (.wait pid timeout)).without pid

/-- A wait is over when the process ends, when the time is up, or when a fault is due. -/
theorem ends_wait {pid : Int} {timeout : Number} {process : TableEntry}
    {value : Unit → Host → Prop} (present : host.first? pid = some process) :
    Ends (wait pid timeout) host value fault ↔
      (process.waitFault = none →
          if endsWithin process timeout then value () (host.awaited pid timeout)
          else fault (.expired timeout (some pid)) (host.noted (.wait pid timeout))) ∧
        ∀ f, process.waitFault = some f → fault f (host.noted (.wait pid timeout)) := by
  simp only [wait, ends_bind, ends_entry, present, ends_note, ends_meet, Option.some.injEq,
    forall_eq', reduceCtorEq, false_implies, and_true]
  cases endsWithin process timeout with
  | true => exact Iff.rfl
  | false => exact Iff.rfl

/-! ## Sleeps -/

/-- The host after a sleep that took its clock to `clock`. -/
def slept (host : Host) (seconds clock : Number) : Host :=
  { host with calls := host.calls.push (.sleep seconds), clock }

/-- A sleep counts even if the clock cannot go on by that much. -/
theorem ends_sleep {seconds : Number} {value : Unit → Host → Prop} :
    Ends (sleep seconds) host value fault ↔
      (∀ clock, host.clock.add? seconds = some clock → value () (host.slept seconds clock)) ∧
        (host.clock.add? seconds = none → fault .intTooLarge (host.noted (.sleep seconds))) := by
  simp only [sleep, advance, sum, ends_bind, ends_note, ends_get, noted]
  cases host.clock.add? seconds with
  | none => simp
  | some clock => simp [slept]

end Rules

end Relaunch.Host
