/-
  Starting an executable with other arguments.

  How an executable starts depends on the executable, not on its arguments.  So a launch with other
  arguments goes as it would have gone: up to the start the host is the very same, and from there on it
  is a twin (`Diverge`).  The same holds of a restart, whose probe does not tell twins apart.
-/
import Relaunch.Proofs.Program
import Relaunch.Proofs.Twins

namespace Relaunch

open Relaunch.Host

/-! ## Dealings without a start -/

namespace Host

/-- Nothing was started on the host. -/
def Unspawned (host : Host) : Prop := ∀ call ∈ host.calls.toList, Restart.spawns call = false

/-- Whatever was dealt with before a start, nothing was started. -/
theorem Unspawned.of_early {before after : Host} (h : before.Unspawned)
    (early : ∃ more, after.calls.toList = before.calls.toList ++ more ∧
      ∀ call ∈ more, Restart.isEarly call = true) : after.Unspawned := by
  obtain ⟨more, hcalls, hearly⟩ := early
  intro call hmem
  rw [hcalls] at hmem
  rcases List.mem_append.mp hmem with hmem | hmem
  · exact h call hmem
  · have hcall := hearly call hmem
    rw [Restart.isEarly, Bool.and_eq_true, Bool.not_eq_true'] at hcall
    exact hcall.1

theorem Unspawned.of_akin {before after : Host} (h : before.Unspawned)
    (akin : Akin after before) : after.Unspawned :=
  fun call hmem => h call (akin.view Host.calls ▸ hmem)

theorem Unspawned.of_alike {before after : Host} (h : before.Unspawned)
    (alike : Alike after before) : after.Unspawned := h.of_akin (.of_alike alike)

/-- Two hosts that are the same, unless an executable was started on both. -/
inductive Diverge (command command' : SpawnCommand) (host host' : Host) : Prop
  | never (same : host' = host) (unspawned : host.Unspawned)
  | started (twins : Twins command command' host host')

end Host

/-! ## Launches -/

/-- The plan with other arguments for the executable. -/
def LaunchPlan.passing (plan : LaunchPlan) (arguments : List String) : LaunchPlan :=
  { plan with arguments }

namespace Launch

variable (plan : LaunchPlan) (arguments : List String)

/-- How an executable starts does not depend on its arguments. -/
theorem startAndClose_mirrors (log : Place) {ready : Host} (unspawned : ready.Unspawned) :
    Mirrors (startAndClose plan log) ready (startAndClose (plan.passing arguments) log) ready
      (fun pid after pid' after' => pid' = pid ∧
        Twins (command plan) (command (plan.passing arguments)) after after')
      (Twins (command plan) (command (plan.passing arguments))) := by
  have hsame : ready.response (command (plan.passing arguments)) = ready.response (command plan) :=
    rfl
  have hcalls : ∃ early late,
      (ready.calls.push (.spawn (command plan))).toList =
        early ++ .spawn (command plan) :: late ∧
      (ready.calls.push (.spawn (command (plan.passing arguments)))).toList =
        early ++ .spawn (command (plan.passing arguments)) :: late ∧
      ∀ call ∈ early ++ late, Restart.spawns call = false := by
    refine ⟨ready.calls.toList, [], Array.toList_push, Array.toList_push, fun call hmem => ?_⟩
    rw [List.append_nil] at hmem
    exact unspawned call hmem
  unfold Mirrors
  rcases (startAndClose_spec (plan.passing arguments) log ready).cases with
    ⟨pid', after', hran', hpid', output', exits', hresponse', rfl⟩ |
      ⟨f', after', hran', ⟨cause', hfails', rfl⟩, rfl⟩
  · refine (startAndClose_spec plan log ready).imp ?_ ?_
    · rintro pid after ⟨rfl, output, exits, hresponse, rfl⟩
      obtain ⟨rfl, rfl⟩ : output' = output ∧ exits' = exits := by
        simpa using hresponse'.symm.trans (hsame.trans hresponse)
      refine ⟨pid', _, hran', hpid', rfl, hcalls, ?_⟩
      cases exits' with
      | true => exact Or.inl rfl
      | false => exact Or.inr ⟨ready.processes, ready.started (command plan), rfl, rfl, rfl⟩
    · rintro f after ⟨⟨cause, hfails, rfl⟩, rfl⟩
      exact absurd (hresponse'.symm.trans (hsame.trans hfails)) (by simp)
  · refine (startAndClose_spec plan log ready).imp ?_ ?_
    · rintro pid after ⟨rfl, output, exits, hresponse, rfl⟩
      exact absurd (hfails'.symm.trans (hsame.trans hresponse)) (by simp)
    · rintro f after ⟨⟨cause, hfails, rfl⟩, rfl⟩
      obtain rfl : cause' = cause := by
        simpa using hfails'.symm.trans (hsame.trans hfails)
      exact ⟨_, hran', rfl, hcalls, Or.inl rfl⟩

/-- Once the executable was started, all that is left is to say so. -/
theorem announce_mirrors (pid : Int) {started started' : Host}
    (twins : Twins (command plan) (command (plan.passing arguments)) started started') :
    Mirrors
      (say .info speaker (announcement plan pid) >>= fun _ =>
        pure (Daemon.mk pid plan.argv plan.resolvedLog started.now)) started
      (say .info speaker (announcement plan pid) >>= fun _ =>
        pure (Daemon.mk pid (plan.passing arguments).argv plan.resolvedLog started'.now)) started'
      (fun daemon after daemon' after' =>
        daemon.argv = plan.argv ∧ daemon' = { daemon with argv := (plan.passing arguments).argv } ∧
          Twins (command plan) (command (plan.passing arguments)) after after')
      (Diverge (command plan) (command (plan.passing arguments))) := by
  have hnow : started'.now = started.now := twins.view Host.now fun _ _ _ => rfl
  have hsaid := say_respects _ _ .info speaker (announcement plan pid) _ _ twins
  rw [hnow]
  refine (hsaid.imp_fault fun _ _ h => .started h).bind fun _ _ _ _ h => ?_
  exact Mirrors.pure ⟨rfl, rfl, h.2⟩

/-- How a launch goes does not depend on the arguments. -/
theorem launch_mirrors {before : Host} (unspawned : before.Unspawned) :
    Mirrors (run plan) before (run (plan.passing arguments)) before
      (fun daemon after daemon' after' =>
        daemon.argv = plan.argv ∧ daemon' = { daemon with argv := (plan.passing arguments).argv } ∧
          Twins (command plan) (command (plan.passing arguments)) after after')
      (Diverge (command plan) (command (plan.passing arguments))) := by
  have hreadied : ∀ {fault? : Option Fault} {after : Host}, Readies plan before fault? after →
      after.Unspawned := by
    intro fault? after h
    obtain ⟨more, hmore, hlimits⟩ := h.calls
    exact unspawned.of_early
      ⟨more, hmore, fun call hmem => Restart.isEarly_of_limits (hlimits call hmem)⟩
  show Mirrors (raiseLimit plan >>= _) before (raiseLimit plan >>= _) before _ _
  refine Mirrors.bind_same (fun f after hraises => ?_) fun _ ready hraises => ?_
  · exact .never rfl (hreadied ((raiseLimit_ends plan before).of_error hraises))
  have hready : ready.Unspawned := hreadied ((raiseLimit_ends plan before).of_ok hraises)
  show Mirrors (isDirectory plan.directory >>= _) ready (isDirectory plan.directory >>= _) ready _ _
  refine Mirrors.bind_same (fun f after hlooked => ?_) fun found after hlooked => ?_
  · obtain ⟨rfl, -⟩ := (isDirectory_ends plan.directory ready).of_error hlooked
    exact .never rfl hready
  obtain ⟨rfl, -⟩ := (isDirectory_ends plan.directory ready).of_ok hlooked
  cases found with
  | false => exact Mirrors.throw (.never rfl hready)
  | true =>
    show Mirrors (openLog ⟨plan.resolvedLog, plan.mode⟩ >>= _) after
      (openLog ⟨plan.resolvedLog, plan.mode⟩ >>= _) after _ _
    refine Mirrors.bind_same (fun f left hopens => ?_) fun place opened hopens => ?_
    · exact .never rfl (hready.of_alike ((openLog_spec _ _).of_error hopens).2.alike)
    have hheld : (after.held place).Unspawned := hready
    have hopened : opened.Unspawned := hheld.of_alike ((openLog_spec _ _).of_ok hopens).frame
    have hstarts := startAndClose_mirrors plan arguments place hopened
    refine (hstarts.imp_fault fun _ _ h => .started h).bind fun pid started pid' started' h => ?_
    obtain ⟨rfl, htwins⟩ := h
    refine Mirrors.get ?_
    exact announce_mirrors plan arguments pid' htwins

end Launch

/-! ## Restarts -/

/-- The report with another command line for the service. -/
def Report.withArgv (report : Report) (argv : List String) : Report :=
  { report with daemon := { report.daemon with argv } }

/-- How a restart goes does not depend on the arguments. -/
theorem Restart.run_mirrors (query : Query) (patience : Patience) (plan : LaunchPlan)
    (health : Option Probe) (arguments : List String) {host : Host} (unspawned : host.Unspawned) :
    Mirrors (run query patience plan health) host
      (run query patience (plan.passing arguments) health) host
      (fun report after report' after' =>
        report.daemon.argv = plan.argv ∧ report' = report.withArgv (plan.passing arguments).argv ∧
          Twins (Launch.command plan) (Launch.command (plan.passing arguments)) after after')
      (Diverge (Launch.command plan) (Launch.command (plan.passing arguments))) := by
  have hdealings := Retirement.run_dealings query patience host
  show Mirrors (Retirement.run query patience >>= _) host (Retirement.run query patience >>= _) host
    _ _
  refine Mirrors.bind_same (fun f after hretires => ?_) fun outcome retired hretires => ?_
  · exact .never rfl (unspawned.of_early (early_of_retirement (hdealings.of_error hretires)))
  have hretired : retired.Unspawned :=
    unspawned.of_early (early_of_retirement (hdealings.of_ok hretires))
  refine Mirrors.say (Mirrors.bind (Launch.launch_mirrors plan arguments ?_)
    fun daemon launched daemon' launched' h => ?_)
  · exact hretired.of_alike (said_alike ..)
  obtain ⟨hargv, rfl, htwins⟩ := h
  have hprobed := probe_respects _ _ health launched launched' htwins
  refine (hprobed.imp_fault fun _ _ h => .started h).bind
    fun healthy probed healthy' probed' h => ?_
  obtain ⟨rfl, hprobed⟩ := h
  exact Mirrors.pure ⟨hargv, rfl, hprobed⟩

end Relaunch
