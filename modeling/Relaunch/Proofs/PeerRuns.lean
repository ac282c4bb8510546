/-
  Requests seen to by peers.

  Whatever is said on the way, a search, a retirement, a launch and a probe do the same on peers.  A
  launch asks about the working directory and opens the log of the service, so the paths of both must
  be clear of the area that peers differ in (`Unexposed`).  Then a whole restart does the same on
  peers (`restart_peers`), and so does a listing (`find_peers`), which looks at no path at all.
-/
import Relaunch.Proofs.Peers
import Relaunch.Proofs.Program

namespace Relaunch

open Relaunch.FileTree Relaunch.Host

variable {area cwd : Place}

/-! ## Searching -/

namespace Discovery

/-- Peers know the same processes for their own.  A fault that keeps one from its ancestors keeps
the other from them as well. -/
theorem ownPids_peers : Respects (Peers area cwd) ownPids := by
  refine Respects.get (fun a b h => ?_) fun host =>
    (readAncestors_peers.bind fun _ => .pure _).tryCatch fun fault => ?_
  · rw [h.view Host.self fun _ _ => rfl]
  · split
    · exact (say_peers _ _ _).bind fun _ => .pure _
    · exact .throw _

/-- Of the same processes the same ones match, and the same fault breaks off. -/
theorem matchAll_peers (query : Query) : ∀ processes,
    Respects (Peers area cwd) (matchAll query processes) := by
  intro processes
  induction processes with
  | nil => exact .pure _
  | cons process rest ih =>
    rw [matchAll]
    split
    · split
      · exact (say_peers _ _ _).bind fun _ => ih
      · exact .throw _
    · exact ih.bind fun _ => .pure _

/-- What is left out for being our own is only talked about. -/
theorem withoutOwn_peers (own : List Int) : ∀ handles,
    Respects (Peers area cwd) (withoutOwn own handles) := by
  intro handles
  induction handles with
  | nil => exact .pure _
  | cons handle rest ih =>
    rw [withoutOwn]
    split
    · exact (say_peers _ _ _).bind fun _ => ih
    · exact ih.bind fun _ => .pure _

/-- Peers find the same processes. -/
theorem find_peers (query : Query) : Respects (Peers area cwd) (find query) :=
  ownPids_peers.bind fun own =>
    Respects.bind (scan_peers.bind fun _ => matchAll_peers query _) fun found =>
      (withoutOwn_peers own found).bind fun _ => .pure _

end Discovery

/-! ## Retiring -/

namespace Retirement

/-- A signal is met by the same fault on both, and so amounts to the same. -/
theorem deliver_peers (pid number : Int) : Respects (Peers area cwd) (deliver pid number) :=
  (signal_peers pid number).tryCatch fun _ => .throw _

/-- Peers wait with the same outcome: the process is gone, or it is not, or a fault goes on. -/
theorem awaitEnd_peers (pid : Int) (timeout : Number) :
    Respects (Peers area cwd) (awaitEnd pid timeout) := by
  refine ((wait_peers pid timeout).bind fun _ => .pure _).tryCatch fun fault => ?_
  split
  · exact .pure _
  · split
    · exact .pure _
    · exact .throw _

theorem askToEnd_peers (query : Query) (pid : Int) (grace : Number) :
    Respects (Peers area cwd) (askToEnd query pid grace) := by
  refine (deliver_peers _ _).bind fun _ => (awaitEnd_peers _ _).bind fun gone => ?_
  cases gone with
  | true => exact (say_peers _ _ _).bind fun _ => .pure _
  | false => exact (say_peers _ _ _).bind fun _ => .pure _

theorem kill_peers (query : Query) (pid : Int) : Respects (Peers area cwd) (kill query pid) :=
  (deliver_peers _ _).bind fun _ => say_peers _ _ _

/-- A process that is asked to end is killed by both or by neither. -/
theorem endProcess_peers (query : Query) (pid : Int) (grace : Option Number) :
    Respects (Peers area cwd) (endProcess query pid grace) := by
  cases grace with
  | none => exact kill_peers query pid
  | some grace =>
    refine (askToEnd_peers query pid grace).bind fun gone => ?_
    cases gone with
    | true => exact .pure _
    | false => exact kill_peers query pid

/-- Which faults are part of the outcome depends on the fault alone. -/
theorem tryToEnd_peers (query : Query) (pid : Int) (grace : Option Number) :
    Respects (Peers area cwd) (tryToEnd query pid grace) := by
  refine ((endProcess_peers query pid grace).bind fun _ => .pure _).tryCatch fun fault => ?_
  split
  · exact (say_peers _ _ _).bind fun _ => .pure _
  · split
    · exact (say_peers _ _ _).bind fun _ => .pure _
    · exact .throw _

/-- A search that fails on one fails on the other, and counts as one that found nothing. -/
theorem searchOnce_peers (query : Query) : Respects (Peers area cwd) (searchOnce query) :=
  (Discovery.find_peers query).tryCatch fun _ => (say_peers _ _ _).bind fun _ => .pure _

theorem retire_peers (query : Query) (patience : Patience) (attempts : Nat) (target : Handle)
    (candidates : List Handle) :
    Respects (Peers area cwd) (retire query patience attempts target candidates) := by
  have hothers : Respects (Peers area cwd) (announceOthers query target candidates) := by
    unfold announceOthers
    split
    · exact .pure _
    · exact say_peers _ _ _
  exact hothers.bind fun _ => (say_peers _ _ _).bind fun _ =>
    (tryToEnd_peers _ _ _).bind fun _ => .pure _

/-- By induction on the searches that are left: peers find a process in the same search. -/
theorem search_peers (query : Query) (patience : Patience) : ∀ remaining made,
    Respects (Peers area cwd) (search query patience remaining made) := by
  intro remaining
  induction remaining with
  | zero => exact fun _ => .pure _
  | succ remaining ih =>
    intro made
    refine (searchOnce_peers query).bind fun candidates => ?_
    cases Handle.least? candidates with
    | some target => exact retire_peers query patience (made + 1) target candidates
    | none =>
      refine (say_peers _ _ _).bind fun _ => ?_
      -- There is a pause unless this was the last search.
      split
      · exact ih (made + 1)
      · exact (peers_attuned.sleep _).bind fun _ => ih (made + 1)

/-- Peers retire the same processes in the same way. -/
theorem run_peers (query : Query) (patience : Patience) :
    Respects (Peers area cwd) (run query patience) :=
  search_peers query patience _ _

end Retirement

/-! ## Launching -/

/-- What a launch asks about, and where it writes, is clear of the area. -/
structure Launch.Unexposed (area cwd : Place) (plan : LaunchPlan) : Prop where
  directory : Clear area cwd plan.directory
  log : Clear area cwd plan.resolvedLog
  normal : plan.directory.Normal
  normal_log : plan.log.Normal

/-- The limits and what meets a change of them are no part of the surroundings. -/
theorem FileLimit.raise_peers (wanted : Int) : Respects (Peers area cwd) (FileLimit.raise wanted) := by
  refine readLimits_peers.bind fun limits => ?_
  split
  · exact .pure _
  · refine Respects.bind ((setLimits_peers _).tryCatch fun fault => ?_) fun _ =>
      (say_peers _ _ _).bind fun _ => .pure _
    split
    · exact .throw _
    · exact .throw _

/-- Opening the log of a service makes directories and a file, all of them clear of the area. -/
theorem ServiceLog.openFile_peers (log : ServiceLog) (normal : log.path.Normal)
    (clear : Clear area cwd log.path) : Respects (Peers area cwd) log.openFile :=
  (makeDirectories_peers normal.parent clear.parent).bind fun _ => (say_peers _ _ _).bind fun _ =>
    (Host.openFile_peers log.mode normal clear).bind fun place =>
      Respects.bind (change_peers fun _ _ => rfl) fun _ => .pure place

namespace Launch

theorem raiseLimit_peers (plan : LaunchPlan) : Respects (Peers area cwd) (raiseLimit plan) := by
  unfold raiseLimit
  split
  · exact .pure _
  · exact .pure _
  · exact (FileLimit.raise_peers _).bind fun _ => .pure _

/-- What a fault in opening the log amounts to depends on the fault alone. -/
theorem openLog_peers (log : ServiceLog) (normal : log.path.Normal)
    (clear : Clear area cwd log.path) : Respects (Peers area cwd) (openLog log) := by
  refine (log.openFile_peers normal clear).tryCatch fun fault => ?_
  split
  · exact .throw _
  · exact .throw _

/-- The log is closed on both, whether the executable could be started or not. -/
theorem startAndClose_peers (plan : LaunchPlan) {log : Place} (outside : ¬Within area log) :
    Respects (Peers area cwd) (startAndClose plan log) := by
  refine Respects.tryFinally ((spawn_peers _ outside).tryCatch fun fault => ?_)
    (change_peers fun _ _ => rfl)
  split
  · exact .throw _
  · exact .throw _

variable {plan : LaunchPlan}

/-- Peers launch a service in the same way. -/
theorem run_peers (unexposed : Unexposed area cwd plan) : Respects (Peers area cwd) (run plan) := by
  refine (raiseLimit_peers plan).bind fun _ => (isDirectory_peers unexposed.directory).bind
    fun found => ?_
  cases found with
  | false => exact .throw_bind _ _
  | true =>
    have hnormal : plan.resolvedLog.Normal := unexposed.normal.join unexposed.normal_log
    refine (openLog_peers ⟨plan.resolvedLog, plan.mode⟩ hnormal unexposed.log).bind_known
      (fun a b h => ?_) fun log houtside => (startAndClose_peers plan houtside).bind fun pid =>
        Respects.get (fun a b h => ?_) fun host => (say_peers _ _ _).bind fun _ => .pure _
    · -- The log is opened at the place of its path, which is outside of the area.
      refine (openLog_spec ⟨plan.resolvedLog, plan.mode⟩ a).imp (fun place _ hopened => ?_)
        fun _ _ _ => trivial
      rw [hopened.atPlace, h.here]
      exact unexposed.log.outside
    · rw [h.view Host.now fun _ _ => rfl]

end Launch

/-! ## Restarting -/

/-- Peers restart a service in the same way. -/
theorem Restart.run_peers (query : Query) (patience : Patience) {plan : LaunchPlan}
    (health : Option Probe) (unexposed : Launch.Unexposed area cwd plan) :
    Respects (Peers area cwd) (Restart.run query patience plan health) :=
  (Retirement.run_peers query patience).bind fun _ => (say_peers _ _ _).bind fun _ =>
    (Launch.run_peers unexposed).bind fun _ => (peers_attuned.probe health).bind fun _ => .pure _

namespace App

/-- A restart fails on both or on neither, and a failed launch is put into the same words. -/
theorem attemptRestart_peers (definition : Service.Definition)
    (unexposed : Launch.Unexposed area cwd definition.launchPlan) :
    Respects (Peers area cwd) (attemptRestart definition) := by
  have hquery : Respects (Peers area cwd) (queryOf definition) := by
    unfold queryOf
    split
    · exact .pure _
    · exact .throw _
  have hpatience : Respects (Peers area cwd) (patienceOf definition) := by
    unfold patienceOf
    split
    · exact .pure _
    · exact .throw _
  refine Respects.tryCatch ?_ fun fault => ?_
  · exact Respects.bind (hquery.bind fun query => hpatience.bind fun patience =>
      Restart.run_peers query patience definition.probe? unexposed) fun _ => .pure _
  · split
    · exact (say_peers _ _ _).bind fun _ => .pure _
    · exact .throw _

/-- A request to restart a service is seen to in the same way on peers. -/
theorem restart_peers (settings : Settings) (service : String) (choices : Options.Choices)
    (arguments : List String)
    (unexposed : ∀ definition,
      Service.Definition.resolve settings service (overrides choices arguments) = .ok definition →
      Launch.Unexposed area cwd definition.launchPlan) :
    Respects (Peers area cwd) (restart settings service choices arguments) := by
  unfold restart
  split
  · exact (say_peers _ _ _).bind fun _ => .pure _
  · rename_i definition hresolves
    -- The definition comes of the settings and the choices, which no host has a part in.
    refine (say_peers _ _ _).bind fun _ =>
      (attemptRestart_peers definition (unexposed definition hresolves)).bind fun report => ?_
    cases report with
    | none => exact .pure _
    | some report =>
      dsimp only
      split
      · exact Respects.bind (change_peers fun _ _ => rfl) fun _ => .pure _
      · exact .pure _

/-- A request to list a service is seen to in the same way on peers. -/
theorem find_peers (service : String) (pattern : Option String) :
    Respects (Peers area cwd) (find service pattern) := by
  unfold find
  split
  · exact (say_peers _ _ _).bind fun _ => .pure _
  · refine (Discovery.find_peers _).bind fun found => ?_
    dsimp only
    split
    · exact (say_peers _ _ _).bind fun _ => Respects.bind (change_peers fun _ _ => rfl) fun _ => .pure _
    · exact Respects.bind (change_peers fun _ _ => rfl) fun _ => .pure _

end App

end Relaunch
