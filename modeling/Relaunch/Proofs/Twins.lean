/-
  Hosts that differ in the arguments of one process.

  Two hosts are `Twins` if one executable was started on both, with different arguments, and nothing
  else tells them apart: the start stands among the dealings of each with its own arguments, and so
  does the command line of the process in the table, if it is there.

  Nothing that follows a start reads either, so all of it respects twins: talk (`say_respects`), time
  that passes and attempts to connect (`twins_attuned`), and so a whole probe (`probe_respects`).
-/
import Relaunch.Proofs.Attuned
import Relaunch.Proofs.RestartStages

namespace Relaunch

open Relaunch.Host

/-- Both sessions may begin by saying the same. -/
theorem Mirrors.say {α α' : Type} {level : Level} {speaker message : String} {host host' : Host}
    {next : Unit → Session α} {next' : Unit → Session α'}
    {value : α → Host → α' → Host → Prop} {fault : Host → Host → Prop}
    (h : Mirrors (next ()) (said level speaker message host) (next' ())
      (said level speaker message host') value fault) :
    Mirrors (Host.say level speaker message >>= next) host
      (Host.say level speaker message >>= next') host' value fault := h

/-! ## Twins -/

namespace Host

/-- The host with other dealings and another table. -/
def dressed (host : Host) (calls : Array Call) (processes : List TableEntry) : Host :=
  { host with calls, processes }

/-- Two hosts on which an executable was started by different commands, and once. -/
structure Twins (command command' : SpawnCommand) (host host' : Host) : Prop where
  frame : host' = host.dressed host'.calls host'.processes
  calls : ∃ early late, host.calls.toList = early ++ .spawn command :: late ∧
    host'.calls.toList = early ++ .spawn command' :: late ∧
    ∀ call ∈ early ++ late, Restart.spawns call = false
  processes : host'.processes = host.processes ∨ ∃ table entry,
    entry.commandLine = some command.argv ∧ host.processes = table ++ [entry] ∧
    host'.processes = table ++ [{ entry with commandLine := some command'.argv }]

namespace Twins

variable {command command' : SpawnCommand} {host host' : Host}

/-- A change that has nothing to do with dealings and processes keeps twins. -/
theorem step (h : Twins command command' host host') (change : Host → Host)
    (deaf : ∀ host calls processes,
      change (host.dressed calls processes) = (change host).dressed calls processes) :
    Twins command command' (change host) (change host') := by
  have hsame : ∀ host : Host, (change host).calls = host.calls ∧
      (change host).processes = host.processes := by
    intro host
    have hdressed : change host = (change host).dressed host.calls host.processes :=
      deaf host host.calls host.processes
    have hcalls := congrArg Host.calls hdressed
    have hprocesses := congrArg Host.processes hdressed
    exact ⟨hcalls, hprocesses⟩
  have hframe : change host' = (change host).dressed host'.calls host'.processes := by
    rw [← deaf, ← h.frame]
  refine ⟨?_, ?_, ?_⟩
  · rw [(hsame host').1, (hsame host').2]
    exact hframe
  · rw [(hsame host').1, (hsame host).1]
    exact h.calls
  · rw [(hsame host').2, (hsame host).2]
    exact h.processes

/-- What does not read dealings and processes is the same for twins. -/
theorem view {α : Type} (h : Twins command command' host host') (read : Host → α)
    (deaf : ∀ host calls processes, read (host.dressed calls processes) = read host) :
    read host' = read host := by
  rw [h.frame]
  exact deaf host _ _

end Twins

/-! ## Talk -/

section Talk

variable (calls : Array Call) (processes : List TableEntry)

theorem deliverAll_dressed (record : Record) : ∀ (handlers : List Handler) (host : Host),
    handlers.foldl (deliver record) (host.dressed calls processes) =
      (handlers.foldl (deliver record) host).dressed calls processes := by
  intro handlers
  induction handlers with
  | nil => exact fun _ => rfl
  | cons handler rest ih =>
    intro host
    have hfirst : deliver record (host.dressed calls processes) handler =
        (deliver record host handler).dressed calls processes := by
      cases handler <;> rfl
    rw [List.foldl_cons, List.foldl_cons, hfirst, ih]

theorem publish_dressed (record : Record) (host : Host) :
    publish record (host.dressed calls processes) =
      (publish record host).dressed calls processes := by
  have hjournal : (host.dressed calls processes).journal = host.journal := rfl
  rw [publish, publish, hjournal]
  cases record.level.reaches host.journal.level with
  | false => rfl
  | true =>
    cases host.journal.handlers.isEmpty with
    | true => cases record.level.reaches .warning <;> rfl
    | false => exact deliverAll_dressed calls processes record _ host

/-- What is said is the same, whatever the dealings and the table. -/
theorem said_dressed (level : Level) (speaker message : String) (host : Host) :
    said level speaker message (host.dressed calls processes) =
      (said level speaker message host).dressed calls processes :=
  publish_dressed calls processes _ { host with records := host.records.push _ }

end Talk

/-! ## Steps that twins take together -/

section Steps

variable (command command' : SpawnCommand)

theorem say_respects (level : Level) (speaker message : String) :
    Respects (Twins command command') (say level speaker message) :=
  Respects.modify fun _ _ h => h.step (said level speaker message)
    fun host calls processes => said_dressed calls processes level speaker message host

/-- A dealing that starts no executable is kept on both. -/
theorem note_respects {call : Call} (quiet : Restart.spawns call = false) :
    Respects (Twins command command') (note call) := by
  refine Respects.modify fun host host' h => ?_
  obtain ⟨early, late, hcalls, hcalls', halone⟩ := h.calls
  refine ⟨?_, ⟨early, late ++ [call], ?_, ?_, fun other hmem => ?_⟩, h.processes⟩
  · exact congrArg (fun host : Host => { host with calls := host'.calls.push call }) h.frame
  · rw [Array.toList_push, hcalls, List.append_assoc, List.cons_append]
  · rw [Array.toList_push, hcalls', List.append_assoc, List.cons_append]
  · rw [← List.append_assoc] at hmem
    rcases List.mem_append.mp hmem with hmem | hmem
    · exact halone other hmem
    · rw [List.mem_singleton.mp hmem]
      exact quiet

/-- Twins keep the same time, and have the same connections before them. -/
theorem twins_attuned : Attuned (Twins command command') where
  clock _ _ h := h.view Host.clock fun _ _ _ => rfl
  tick _ _ h := h.view Host.tick fun _ _ _ => rfl
  connectCost _ _ h := h.view Host.connectCost fun _ _ _ => rfl
  connections _ _ h := h.view Host.connections fun _ _ _ => rfl
  probeLimit _ _ h := h.view Host.probeLimit fun _ _ _ => rfl
  passing clock _ _ h := h.step (fun host => { host with clock }) fun _ _ _ => rfl
  taking _ _ h := h.step (fun host => { host with connections := host.connections.tail })
    fun _ _ _ => rfl
  say := say_respects command command'
  note _ quiet := note_respects command command' quiet

end Steps

end Host

/-- A probe does the same on twins. -/
theorem probe_respects (command command' : SpawnCommand) (health : Option Probe) :
    Respects (Twins command command') (Restart.probe health) :=
  (twins_attuned command command').probe health

end Relaunch
