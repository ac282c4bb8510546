/-
  The machine that the supervisor runs on.

  A host is everything a run can see or change, in one flat record: the process table and how its
  processes take a signal, the limits on open files, what starting an executable does, what the
  network answers, the clock, the files, the journal and the two output streams.  How things will
  turn out is part of the host, so that a run is a function of it: the table changes at given scans,
  faults wait in their queues.  Every dealing with the machine outside the files is kept, in order, in
  `calls`.

  A `Session` is a piece of work on a host.  It ends with a value or with a fault, and either way with
  the host as the work left it: a fault takes nothing back.
-/
import Relaunch.Fault
import Relaunch.Journal
import Relaunch.Timestamp

namespace Relaunch

/-! ## Processes -/

/-- What a process does when it is asked to end. -/
inductive TermResponse
  /-- It ends at once. -/
  | endsAtOnce
  /-- It ends once it has been waited for this long. -/
  | endsWithin (seconds : Number)
  /-- It goes on. -/
  | ignores
  deriving BEq, Repr, Inhabited

/-- A process in the table. -/
structure TableEntry where
  pid : Int
  name : Option String := none
  commandLine : Option (List String) := none
  /-- Why its information cannot be read, if it cannot. -/
  unreadable : Option Fault := none
  /-- Faults that meet the delivery of certain signals. -/
  signalFaults : List (Int × Fault) := []
  onTerm : TermResponse := .endsAtOnce
  /-- The fault that meets a wait for its end. -/
  waitFault : Option Fault := none
  deriving BEq, Repr, Inhabited

/-- A change of the process table at a scan: some leave, some join, and the scan may fail. -/
structure TableChange where
  leaving : List Int := []
  joining : List TableEntry := []
  fault : Option Fault := none
  deriving BEq, Repr, Inhabited

/-! ## Limits, executables, connections -/

/-- A limit on open files: the one in force and the one up to which it may be raised; -1 stands for
no limit. -/
structure FileLimits where
  soft : Int
  hard : Int
  deriving DecidableEq, Repr, Inhabited

/-- What starting an executable leads to. -/
inductive SpawnResponse
  | fails (fault : Fault)
  /-- It writes its output; it stays in the table unless it exits. -/
  | runs (output : String) (exits : Bool)
  deriving BEq, Repr, Inhabited

/-- Whether a log starts over or goes on. -/
inductive OpenMode
  | truncate
  | append
  deriving DecidableEq, Repr, Inhabited

/-- How an executable is started: detached, in a session of its own, with nothing on standard input
and both output streams in the log. -/
structure SpawnCommand where
  argv : List String
  directory : String
  mode : OpenMode
  deriving DecidableEq, Repr, Inhabited

/-- A dealing with the machine. -/
inductive Call
  | scan
  | signal (pid number : Int)
  | wait (pid : Int) (timeout : Number)
  | sleep (seconds : Number)
  | readLimits
  | setLimits (limits : FileLimits)
  | connect (host : String) (port : Int) (timeout : Number)
  | close
  | spawn (command : SpawnCommand)
  deriving BEq, Repr, Inhabited

/-! ## The host -/

/-- The machine. -/
structure Host where
  /-- The process table, in order. -/
  processes : List TableEntry := []
  /-- Changes of the table, by the number of the scan they come with. -/
  changes : List (Nat × TableChange) := []
  /-- Scans made so far. -/
  scans : Nat := 0
  /-- The pid of the supervisor. -/
  self : Int := 4242
  /-- The pids of the processes that started the supervisor. -/
  ancestors : List Int := []
  ancestorsFault : Option Fault := none
  limits : FileLimits := ⟨1024, 1048576⟩
  limitsReadFault : Option Fault := none
  /-- What meets the next attempts to set the limits, in order; success once they run out. -/
  limitsSetFaults : List (Option Fault) := []
  /-- What starting an executable leads to, by its text. -/
  executables : List (String × SpawnResponse) := []
  nextPid : Int := 5000
  /-- What meets the next attempts to connect, in order: a fault or, for `none`, success.  They are
  refused once these run out. -/
  connections : List (Option Fault) := []
  /-- The reading of the clock. -/
  clock : Number := .float 100.0
  /-- What every reading of the clock adds to it. -/
  tick : Number := .float 0.0
  /-- What every attempt to connect adds to the clock. -/
  connectCost : Number := .float 0.0
  /-- The calendar time. -/
  now : Timestamp := ⟨2024, 1, 2, 3, 4, 5, 678901, none⟩
  /-- The time that journal lines carry. -/
  journalTime : String := "2023-11-14 22:13:20,125"
  /-- The working directory of the supervisor, absolute. -/
  cwd : Path := ⟨.slash, ["work"]⟩
  files : FileTree := {}
  /-- Paths, by their text, that may be neither opened nor made. -/
  deniedPaths : List String := []
  /-- The logs of services that are open. -/
  openLogs : List Place := []
  journal : Journal := {}
  /-- Everything said so far, whatever its level. -/
  records : Array Record := #[]
  calls : Array Call := #[]
  stdout : String := ""
  stderr : String := ""
  /-- How often a probe may try before the run is cut short. -/
  probeLimit : Nat := 10000000
  deriving Inhabited

/-- Work on a host that ends with a value or a fault. -/
abbrev Session := EStateM Fault Host

namespace Host

/-! ## Steps common to all parts -/

/-- Keep a dealing with the machine. -/
def note (call : Call) : Session Unit :=
  modify fun host => { host with calls := host.calls.push call }

/-- Fail if there is a fault. -/
def meet (fault : Option Fault) : Session Unit :=
  match fault with
  | some fault => throw fault
  | none => pure ()

/-- Write to standard output. -/
def print (text : String) : Session Unit :=
  modify fun host => { host with stdout := host.stdout ++ text }

/-- Write to standard error. -/
def complain (text : String) : Session Unit :=
  modify fun host => { host with stderr := host.stderr ++ text }

/-! ## The journal -/

/-- What is said on standard error about a record that is lost. -/
def lostRecord : String := "--- Logging error ---\n"

/-- Hand a record to a handler. -/
def deliver (record : Record) (host : Host) : Handler → Host
  | .console => { host with stderr := host.stderr ++ record.line host.journalTime ++ "\n" }
  | .file log =>
    let (files, written) := log.writeLine (record.line host.journalTime) host.files
    { host with files, stderr := host.stderr ++ if written then "" else lostRecord }
  | .silent => host

/-- Hand a record to every handler, or show it bare when there is none. -/
def publish (record : Record) (host : Host) : Host :=
  if !record.level.reaches host.journal.level then host
  else if host.journal.handlers.isEmpty then
    if record.level.reaches .warning then
      { host with stderr := host.stderr ++ record.message ++ "\n" }
    else host
  else host.journal.handlers.foldl (deliver record) host

/-- Say something. -/
def say (level : Level) (speaker message : String) : Session Unit :=
  modify fun host =>
    publish ⟨level, speaker, message⟩
      { host with records := host.records.push ⟨level, speaker, message⟩ }

end Host

end Relaunch
