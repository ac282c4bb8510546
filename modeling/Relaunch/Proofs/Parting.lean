/-
  How a process is ended.

  What happens to the chosen process follows from its entry in the table alone: how it takes a signal,
  how long it goes on when asked to end, what meets a wait for it.  `parting` says it without sessions:
  the signals and waits, in order; the fault that stops them, if one does; and whether the process is
  out of the table afterwards.

  * without a grace period there is one signal, the one that kills;
  * with a grace period the process is asked to end first.  If that cannot be delivered, nothing else
    is tried; a process that ended at once is not waited for; one that did not is waited for once, and
    killed if the wait runs out of time.

  `tryToEnd_ends` says that the session does just that, and which faults it lets through.
-/
import Relaunch.Proofs.Steps
import Relaunch.Retirement

namespace Relaunch

namespace Host

theorem first?_pid {host : Host} {pid : Int} {process : TableEntry}
    (h : host.first? pid = some process) : process.pid = pid := by
  have hpid := List.find?_some h
  simpa using hpid

theorem first?_mem {host : Host} {pid : Int} {process : TableEntry}
    (h : host.first? pid = some process) : process ∈ host.processes :=
  List.mem_of_find?_eq_some h

/-- A pid in the table has a first process. -/
theorem exists_first? {host : Host} {process : TableEntry} (h : process ∈ host.processes) :
    ∃ first, host.first? process.pid = some first := by
  cases hfirst : host.first? process.pid with
  | some first => exact ⟨first, rfl⟩
  | none =>
    have hnone := List.find?_eq_none.mp hfirst process h
    simp at hnone

end Host

namespace Retirement

open Relaunch.Host

/-! ## Partings -/

/-- What it takes to end a process. -/
structure Parting where
  /-- The signals and waits, in order. -/
  calls : List Call
  /-- The fault that stops them. -/
  fault : Option Fault := none
  /-- Is the process out of the table afterwards? -/
  leaves : Bool := false

/-- Killing a process. -/
def killing (process : TableEntry) : Parting :=
  match process.signalFaults.lookup killSignal with
  | none => { calls := [.signal process.pid killSignal], leaves := true }
  | some cause =>
    { calls := [.signal process.pid killSignal], fault := deliveryFault process.pid cause }

/-- What a wait makes of a process that did not end at once: is it gone?  A fault of the wait may mean
either, and otherwise stops everything. -/
def waiting (process : TableEntry) (grace : Number) : Except Fault Bool :=
  match process.waitFault with
  | none => .ok (endsWithin process grace)
  | some fault =>
    if fault.isGone then .ok true else if fault.isExpired then .ok false else .error fault

/-- Ending a process, gently if there is a grace period. -/
def parting (process : TableEntry) : (grace : Option Number) → Parting
  | none => killing process
  | some grace =>
    let asked : Call := .signal process.pid termSignal
    let awaited : Call := .wait process.pid grace
    match process.signalFaults.lookup termSignal with
    | some cause => { calls := [asked], fault := deliveryFault process.pid cause }
    | none =>
      if diesOn process termSignal then { calls := [asked], leaves := true }
      else
        match waiting process grace with
        | .error fault => { calls := [asked, awaited], fault := fault }
        | .ok true => { calls := [asked, awaited], leaves := process.waitFault.isNone }
        | .ok false => { killing process with calls := [asked, awaited] ++ (killing process).calls }

/-- The parting from a process that did not end at once goes by what a wait makes of it. -/
theorem parting_of_waiting {process : TableEntry} (grace : Number)
    (hasked : process.signalFaults.lookup termSignal = none)
    (hlives : ¬diesOn process termSignal = true) :
    parting process (some grace) =
      let calls := [Call.signal process.pid termSignal, .wait process.pid grace]
      match waiting process grace with
      | .error fault => { calls, fault := fault }
      | .ok true => { calls, leaves := process.waitFault.isNone }
      | .ok false => { killing process with calls := calls ++ (killing process).calls } := by
  simp only [parting, hasked, if_neg hlives]

/-! ## The calls of a parting -/

/-- Does a wait for the process, which did not end at once, run out of time? -/
def Overstays (process : TableEntry) (grace : Number) : Prop :=
  (process.waitFault = none ∧ endsWithin process grace = false) ∨
    ∃ f, process.waitFault = some f ∧ f.isExpired = true

theorem waiting_eq_false {process : TableEntry} {grace : Number} :
    waiting process grace = .ok false ↔ Overstays process grace := by
  unfold waiting Overstays
  cases process.waitFault with
  | none => simp
  | some f => cases f <;> simp [Fault.isGone, Fault.isExpired]

/-- The calls that a parting may consist of, and when it does. -/
inductive Farewell (process : TableEntry) : (grace : Option Number) → List Call → Prop
  /-- Without a grace period the process is killed. -/
  | killed : Farewell process none [.signal process.pid killSignal]
  /-- Asking the process to end cannot be done, or is enough. -/
  | asked {grace : Number}
      (settled : process.signalFaults.lookup termSignal ≠ none ∨ diesOn process termSignal = true) :
      Farewell process (some grace) [.signal process.pid termSignal]
  /-- The process is asked to end, and the wait for it does not run out of time. -/
  | awaited {grace : Number} (delivered : process.signalFaults.lookup termSignal = none)
      (lives : ¬diesOn process termSignal = true) (settled : ¬Overstays process grace) :
      Farewell process (some grace) [.signal process.pid termSignal, .wait process.pid grace]
  /-- The process is asked to end, the wait for it runs out of time, and it is killed. -/
  | forced {grace : Number} (delivered : process.signalFaults.lookup termSignal = none)
      (lives : ¬diesOn process termSignal = true) (late : Overstays process grace) :
      Farewell process (some grace)
        [.signal process.pid termSignal, .wait process.pid grace, .signal process.pid killSignal]

theorem killing_calls (process : TableEntry) :
    (killing process).calls = [.signal process.pid killSignal] := by
  unfold killing
  split <;> rfl

/-- A parting makes the calls that it may consist of. -/
theorem parting_farewell (process : TableEntry) (grace : Option Number) :
    Farewell process grace (parting process grace).calls := by
  cases grace with
  | none =>
    rw [parting, killing_calls]
    exact .killed
  | some grace =>
    cases hasked : process.signalFaults.lookup termSignal with
    | some cause =>
      simp only [parting, hasked]
      exact .asked (.inl (by simp [hasked]))
    | none =>
      by_cases hdies : diesOn process termSignal = true
      · simp only [parting, hasked, hdies, if_true]
        exact .asked (.inr hdies)
      · rw [parting_of_waiting _ hasked hdies]
        cases hwait : waiting process grace with
        | error f =>
          exact .awaited hasked hdies fun h => by simp [waiting_eq_false.mpr h] at hwait
        | ok gone =>
          cases gone with
          | true => exact .awaited hasked hdies fun h => by simp [waiting_eq_false.mpr h] at hwait
          | false =>
            show Farewell process (some grace) (_ ++ (killing process).calls)
            rw [killing_calls]
            exact .forced hasked hdies (waiting_eq_false.mp hwait)

/-- The pid that a signal or a wait is about. -/
def pid? : Call → Option Int
  | .signal pid _ | .wait pid _ => some pid
  | _ => none

/-- A parting concerns no other process. -/
theorem Farewell.pid?_eq {process : TableEntry} {grace : Option Number} {calls : List Call}
    (h : Farewell process grace calls) : ∀ call ∈ calls, pid? call = some process.pid := by
  cases h <;> simp [pid?]

/-- The host after a parting. -/
def parted (host : Host) (pid : Int) (parting : Parting) : Host :=
  { host with
    calls := host.calls ++ parting.calls
    processes :=
      if parting.leaves then host.processes.filter fun p => p.pid != pid else host.processes }

theorem parted_calls (host : Host) (pid : Int) (parting : Parting) :
    (parted host pid parting).calls.toList = host.calls.toList ++ parting.calls := by
  simp [parted]

/-! ## Signals -/

section Signals

variable {host : Host} {pid number : Int} {process : TableEntry}

theorem deliver_ends (present : host.first? pid = some process) :
    Ends (deliver pid number) host
      (fun _ after =>
        process.signalFaults.lookup number = none ∧ after = host.signalled process pid number)
      (fun f after => ∃ cause, process.signalFaults.lookup number = some cause ∧
        f = deliveryFault pid cause ∧ after = host.noted (.signal pid number)) := by
  rw [deliver, ends_tryCatch, ends_signal present]
  exact ⟨fun h => ⟨h, rfl⟩, fun cause h => ⟨cause, h, rfl, rfl⟩⟩

theorem diesOn_kill (process : TableEntry) : diesOn process killSignal = true := by
  simp [diesOn]

theorem kill_ends (query : Query) (present : host.first? pid = some process) :
    Ends (kill query pid) host
      (fun _ after => (killing process).fault = none ∧
        Alike after (parted host pid (killing process)))
      (fun f after => (killing process).fault = some f ∧
        Alike after (parted host pid (killing process))) := by
  obtain rfl := first?_pid present
  rw [kill, ends_bind]
  refine (deliver_ends present).imp (fun _ killed h => ?_) (fun f after h => ?_)
  · obtain ⟨hlookup, rfl⟩ := h
    rw [ends_say, killing, hlookup]
    refine ⟨rfl, (said_alike ..).trans ?_⟩
    rw [signalled, if_pos (diesOn_kill process)]
    rfl
  · obtain ⟨cause, hlookup, rfl, rfl⟩ := h
    rw [killing, hlookup]
    exact ⟨rfl, .refl _⟩

/-! ## Waits -/

/-- A process that is not in the table any more is gone, and nobody waits for it. -/
theorem awaitEnd_absent {grace : Number} (absent : host.first? pid = none) :
    Ends (awaitEnd pid grace) host (fun gone after => gone = true ∧ after = host)
      (fun _ _ => False) := by
  rw [awaitEnd, ends_tryCatch, ends_bind, wait, ends_bind, ends_entry, absent]
  refine ⟨fun process h => by simp at h, fun _ => ?_⟩
  exact ⟨rfl, rfl⟩

theorem awaitEnd_present {grace : Number} (present : host.first? pid = some process) :
    Ends (awaitEnd pid grace) host
      (fun gone after => waiting process grace = .ok gone ∧
        after = if gone && process.waitFault.isNone then host.awaited pid grace
          else host.noted (.wait pid grace))
      (fun f after => waiting process grace = .error f ∧ after = host.noted (.wait pid grace)) := by
  rw [awaitEnd, ends_tryCatch, ends_bind, ends_wait present]
  refine ⟨fun hwait => ?_, fun f hwait => ?_⟩
  · by_cases hends : endsWithin process grace = true
    · rw [if_pos hends, ends_pure, waiting, hwait, hends]
      exact ⟨rfl, rfl⟩
    · rw [if_neg hends, waiting, hwait, eq_false_of_ne_true hends]
      exact ⟨rfl, rfl⟩
  · rw [waiting, hwait]
    by_cases hgone : f.isGone = true
    · rw [if_pos hgone]
      exact ⟨if_pos hgone, rfl⟩
    · by_cases hexpired : f.isExpired = true
      · rw [if_neg hgone, if_pos hexpired]
        exact ⟨(if_neg hgone).trans (if_pos hexpired), rfl⟩
      · rw [if_neg hgone, if_neg hexpired]
        exact ⟨(if_neg hgone).trans (if_neg hexpired), rfl⟩

/-! ## The whole of it -/

/-- Asking a process to end either settles the matter, or leaves a process that must be killed. -/
theorem askToEnd_ends (query : Query) (grace : Number) (present : host.first? pid = some process) :
    Ends (askToEnd query pid grace) host
      (fun gone after =>
        if gone then (parting process (some grace)).fault = none ∧
          Alike after (parted host pid (parting process (some grace)))
        else process.signalFaults.lookup termSignal = none ∧ ¬diesOn process termSignal ∧
          waiting process grace = .ok false ∧
          Alike after ((host.noted (.signal pid termSignal)).noted (.wait pid grace)))
      (fun f after => (parting process (some grace)).fault = some f ∧
        Alike after (parted host pid (parting process (some grace)))) := by
  obtain rfl := first?_pid present
  rw [askToEnd, ends_bind]
  refine (deliver_ends present).imp (fun _ asked h => ?_) (fun f after h => ?_)
  · obtain ⟨hlookup, rfl⟩ := h
    by_cases hdies : diesOn process termSignal = true
    · -- The process ended at once: it is out of the table, and the wait finds nobody.
      rw [signalled, if_pos hdies, ends_bind]
      refine (awaitEnd_absent (first?_without _ _)).imp (fun gone after h => ?_)
        (fun _ _ h => h.elim)
      obtain ⟨rfl, rfl⟩ := h
      simp only [parting, hlookup, hdies, if_true, ends_bind, ends_say, ends_pure]
      exact ⟨trivial, said_alike ..⟩
    · rw [signalled, if_neg hdies, ends_bind]
      -- It goes on, so it is in the table still, and the wait is for this very process.
      have hpresent : (host.noted (.signal process.pid termSignal)).first? process.pid =
          some process := present
      have hparting := parting_of_waiting grace hlookup hdies
      refine (awaitEnd_present hpresent).imp (fun gone after h => ?_) (fun f after h => ?_)
      · obtain ⟨hwait, rfl⟩ := h
        cases gone with
        | true =>
          rw [if_pos rfl, ends_bind, ends_say, ends_pure, if_pos rfl, hparting, hwait]
          refine ⟨rfl, (said_alike ..).trans ?_⟩
          cases process.waitFault <;> rfl
        | false =>
          rw [if_neg Bool.false_ne_true, ends_bind, ends_say, ends_pure, if_neg Bool.false_ne_true]
          exact ⟨hlookup, hdies, hwait, said_alike ..⟩
      · obtain ⟨hwait, rfl⟩ := h
        rw [hparting, hwait]
        exact ⟨rfl, .refl _⟩
  · obtain ⟨cause, hlookup, rfl, rfl⟩ := h
    simp only [parting, hlookup]
    exact ⟨trivial, .refl _⟩

theorem endProcess_ends (query : Query) (grace : Option Number)
    (present : host.first? pid = some process) :
    Ends (endProcess query pid grace) host
      (fun _ after => (parting process grace).fault = none ∧
        Alike after (parted host pid (parting process grace)))
      (fun f after => (parting process grace).fault = some f ∧
        Alike after (parted host pid (parting process grace))) := by
  cases grace with
  | none => exact kill_ends query present
  | some grace =>
    rw [endProcess, ends_bind]
    refine (askToEnd_ends query grace present).imp (fun gone after h => ?_) (fun f after h => h)
    cases gone with
    | true => exact h
    | false =>
      obtain ⟨hlookup, hdies, hwait, hafter⟩ := h
      obtain rfl := first?_pid present
      have hpresent : after.first? process.pid = some process :=
        (hafter.view fun host => host.first? process.pid).trans present
      -- What remains of the parting is a killing, on the host that the wait left.
      have hparting : (parting process (some grace)).fault = (killing process).fault ∧
          parted host process.pid (parting process (some grace)) =
            parted ((host.noted (.signal process.pid termSignal)).noted (.wait process.pid grace))
              process.pid (killing process) := by
        rw [parting_of_waiting grace hlookup hdies, hwait]
        simp [parted, noted]
      rw [hparting.1, hparting.2]
      have hkill := hafter.step fun host => parted host process.pid (killing process)
      exact (kill_ends query hpresent).imp (fun _ _ h => ⟨h.1, h.2.trans hkill⟩)
        (fun _ _ h => ⟨h.1, h.2.trans hkill⟩)

/-- **A parting is a function of the process.**  A system fault on the way means that the process could
not be signalled; any other fault goes on. -/
theorem tryToEnd_ends (query : Query) (grace : Option Number)
    (present : host.first? pid = some process) :
    Ends (tryToEnd query pid grace) host
      (fun delivered after => delivered = (parting process grace).fault.isNone ∧
        (∀ f, (parting process grace).fault = some f → f.isSystemFault = true) ∧
        Alike after (parted host pid (parting process grace)))
      (fun f after => (parting process grace).fault = some f ∧ f.isSystemFault = false ∧
        Alike after (parted host pid (parting process grace))) := by
  rw [tryToEnd, ends_tryCatch, ends_bind]
  refine (endProcess_ends query grace present).imp (fun _ after h => ?_) (fun f after h => ?_)
  · obtain ⟨hnone, hafter⟩ := h
    rw [ends_pure, hnone]
    exact ⟨rfl, fun f hf => by simp at hf, hafter⟩
  · obtain ⟨hsome, hafter⟩ := h
    -- Both branches that catch a fault catch a system fault, so one question decides.
    have hlost : f.isLostProcess = true → f.isSystemFault = true := by
      cases f <;> simp [Fault.isLostProcess, Fault.isSystemFault]
    by_cases hsystem : f.isSystemFault = true
    · have hall : ∀ f', (parting process grace).fault = some f' → f'.isSystemFault = true := by
        intro f' hf'
        rw [hsome, Option.some.injEq] at hf'
        rw [← hf']
        exact hsystem
      have hnot : false = (parting process grace).fault.isNone := by rw [hsome]; rfl
      rw [if_pos hsystem]
      split
      · exact ⟨hnot, hall, (said_alike ..).trans hafter⟩
      · exact ⟨hnot, hall, (said_alike ..).trans hafter⟩
    · rw [if_neg (fun h => hsystem (hlost h)), if_neg hsystem, ends_throw]
      exact ⟨hsome, eq_false_of_ne_true hsystem, hafter⟩

end Signals

end Retirement

end Relaunch
