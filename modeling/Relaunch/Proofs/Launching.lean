/-
  What a launch does to a host.

  A launch is work aside but for one step, the start of the executable.  That step is kept, moves on to
  the next pid, and puts the process into the table unless it exits at once (`Host.spawned`).

  * `launch_ends` says where that step stands in a launch: a launch that ends with a daemon has started
    its executable once, and one that fails has started nothing, or has tried once.  Both are read off
    the stages of the launch (`Returns.launched`, `Stops.refused`);
  * `run_eq` and `finish_ends` say the same of a restart: it is the retirement, and if that comes to an
    outcome, one launch, and then at most work aside.
-/
import Relaunch.Proofs.Aside
import Relaunch.Proofs.LaunchStages

namespace Relaunch

open Relaunch.Host

namespace Launch

/-! ## Launches -/

/-- A launch on `before` that ended with a daemon and left `after`. -/
structure Launched (plan : LaunchPlan) (before : Host) (daemon : Daemon) (after : Host) : Prop where
  pid : daemon.pid = before.nextPid
  argv : daemon.argv = plan.argv
  started : ∃ output exits, before.response (command plan) = .runs output exits ∧
    after.processes = before.processes ++ if exits then [] else [before.started (command plan)]
  nextPid : after.nextPid = before.nextPid + 1
  scans : after.scans = before.scans
  givens : after.givens = before.givens
  /-- The executable was started once, and everything else was incidental. -/
  calls : ∃ prelude,
    after.calls.toList = before.calls.toList ++ prelude ++ [.spawn (command plan)] ∧
    ∀ call ∈ prelude, call.incidental = true

/-- A launch on `before` that failed and left `after`. -/
structure Refused (plan : LaunchPlan) (before after : Host) : Prop where
  processes : after.processes = before.processes
  nextPid : after.nextPid = before.nextPid
  scans : after.scans = before.scans
  givens : after.givens = before.givens
  /-- The executable was not started, or its start was the last thing that was tried. -/
  calls : ∃ prelude tried, after.calls.toList = before.calls.toList ++ prelude ++ tried ∧
    (∀ call ∈ prelude, call.incidental = true) ∧ (tried = [] ∨ tried = [.spawn (command plan)])

/-- A dealing with the limits is incidental. -/
theorem incidental_of_limits {call : Call} (h : FileLimit.concernsLimits call = true) :
    call.incidental = true := by
  cases call <;> simp_all [FileLimit.concernsLimits, Call.incidental]

theorem Returns.launched {plan : LaunchPlan} {before after : Host} {daemon : Daemon}
    (h : Returns plan before daemon after) : Launched plan before daemon after := by
  obtain ⟨prelude, hcalls, hlimits⟩ := h.calls
  have hincidental : ∀ call ∈ prelude, call.incidental = true :=
    fun call hcall => incidental_of_limits (hlimits call hcall)
  cases h with
  | started readied looked opens starts =>
    have hframe := opened_frame ((raiseLimit_ends plan before).of_ok readied)
      ((openLog_spec _ _).of_ok opens)
    obtain ⟨hpid, output, exits, hresponse, rfl⟩ := (startAndClose_spec _ _ _).of_ok starts
    have hnext := hframe.view Host.nextPid
    refine ⟨hpid.trans hnext, rfl, ⟨output, exits, ?_, ?_⟩, ?_, ?_, ?_, prelude, hcalls, hincidental⟩
    · exact (hframe.view fun host => host.response (command plan)).symm.trans hresponse
    · have hprocesses := hframe.view Host.processes
      have hstarted := hframe.view fun host => host.started (command plan)
      rw [(said_alike ..).view Host.processes, closed, spawned, hprocesses, hstarted]
      rfl
    · rw [(said_alike ..).view Host.nextPid, closed, spawned, hnext]
      rfl
    · exact ((said_alike ..).view Host.scans).trans (hframe.view Host.scans)
    · exact ((said_alike ..).view Host.givens).trans (hframe.view Host.givens)

theorem Stops.refused {plan : LaunchPlan} {before after : Host} {step : Step} {f : Fault}
    (h : Stops plan before step f after) : Refused plan before after := by
  obtain ⟨prelude, tried, hcalls, hlimits, htried⟩ := h.calls
  have hincidental : ∀ call ∈ prelude, call.incidental = true :=
    fun call hcall => incidental_of_limits (hlimits call hcall)
  have hlast : tried = [] ∨ tried = [.spawn (command plan)] := htried.imp_right And.left
  -- Up to the stop, the hosts differ in the limits, the open logs, the calls and what was said.
  have hrefused : ∀ {reached : Host}, Alike after reached →
      reached.processes = before.processes → reached.nextPid = before.nextPid →
      reached.scans = before.scans → reached.givens = before.givens → Refused plan before after := by
    intro reached hframe hprocesses hnext hscans hgivens
    exact ⟨(hframe.view Host.processes).trans hprocesses, (hframe.view Host.nextPid).trans hnext,
      (hframe.view Host.scans).trans hscans, (hframe.view Host.givens).trans hgivens,
      prelude, tried, hcalls, hincidental, hlast⟩
  cases h with
  | limit rejected =>
    exact hrefused ((raiseLimit_ends plan before).of_error rejected).frame rfl rfl rfl rfl
  | missing readied | unclear readied =>
    exact hrefused ((raiseLimit_ends plan before).of_ok readied).frame rfl rfl rfl rfl
  | log readied looked unopened =>
    have hready := ((raiseLimit_ends plan before).of_ok readied).frame
    have hlog := ((openLog_spec _ _).of_error unopened).2.alike
    exact hrefused (hlog.trans hready) rfl rfl rfl rfl
  | @start f ready opened after place readied looked opens unstarted =>
    have hframe := opened_frame ((raiseLimit_ends plan before).of_ok readied)
      ((openLog_spec _ _).of_ok opens)
    obtain ⟨-, rfl⟩ := (startAndClose_spec _ _ _).of_error unstarted
    have hstart := hframe.step fun host => (host.noted (.spawn (command plan))).closed place
    exact hrefused hstart rfl rfl rfl rfl

/-- **A launch starts its executable once**, or fails. -/
theorem launch_ends (plan : LaunchPlan) (host : Host) :
    Ends (run plan) host (Launched plan host) (fun _ after => Refused plan host after) := by
  refine (run_stages plan host).imp (fun _ _ h => h.launched) (fun _ _ h => ?_)
  obtain ⟨step, hstops⟩ := h
  exact hstops.refused

end Launch

/-! ## The rest of a restart -/

namespace Restart

open Relaunch.Launch

/-- What a restart does once the retirement has come to an outcome. -/
def finish (plan : LaunchPlan) (health : Option Probe) (retirement : Retirement.Outcome) :
    Session Report := do
  let daemon ← Launch.run plan
  let healthy ← probe health
  return { retirement, daemon, healthy }

/-- The host once the outcome of the retirement has been said. -/
def announced (query : Query) (outcome : Retirement.Outcome) : Host → Host :=
  said .info speaker
    ("Search for " ++ query.pattern ++ " finished after " ++ toString outcome.attempts
      ++ " attempt(s): " ++ outcome.status.name)

/-- A restart is the retirement and, if that comes to an outcome, the rest. -/
theorem run_eq (query : Query) (patience : Patience) (plan : LaunchPlan) (health : Option Probe)
    (host : Host) :
    run query patience plan health host =
      match Retirement.run query patience host with
      | .ok outcome retired => finish plan health outcome (announced query outcome retired)
      | .error f retired => .error f retired := by
  simp only [run, bind, EStateM.bind]
  cases Retirement.run query patience host with
  | ok outcome retired => rfl
  | error f retired => rfl

/-- A launch on `told` and what may follow it, leaving `after`; the daemon is there if the launch
succeeded. -/
inductive Finishes (plan : LaunchPlan) (told : Host) : (daemon? : Option Daemon) → Host → Prop
  | launched {daemon : Daemon} {launched after : Host}
      (ran : Launch.run plan told = .ok daemon launched)
      (did : Launched plan told daemon launched) (aside : Aside launched after) :
      Finishes plan told (some daemon) after
  | failed {f : Fault} {after : Host} (ran : Launch.run plan told = .error f after)
      (did : Refused plan told after) : Finishes plan told none after

theorem finish_ends (plan : LaunchPlan) (health : Option Probe) (outcome : Retirement.Outcome)
    (told : Host) :
    Ends (finish plan health outcome) told
      (fun report after => report.retirement = outcome ∧
        Finishes plan told (some report.daemon) after)
      (fun _ after => ∃ daemon?, Finishes plan told daemon? after) := by
  rw [finish, ends_bind]
  rcases (launch_ends plan told).cases with
    ⟨daemon, launched, ran, did⟩ | ⟨f, after, ran, did⟩
  · rw [Ends, ran]
    show Ends (probe health >>= _) launched _ _
    rw [ends_bind]
    exact (probe_aside health launched).imp (fun _ _ aside => ⟨rfl, .launched ran did aside⟩)
      (fun _ _ aside => ⟨some daemon, .launched ran did aside⟩)
  · rw [Ends, ran]
    exact ⟨none, .failed ran did⟩

namespace Finishes

variable {plan : LaunchPlan} {told after : Host} {daemon? : Option Daemon}

theorem givens (h : Finishes plan told daemon? after) : after.givens = told.givens := by
  cases h with
  | launched ran did aside => exact aside.givens.trans did.givens
  | failed ran did => exact did.givens

/-- Nothing but the start of the executable is more than incidental. -/
theorem calls (h : Finishes plan told daemon? after) :
    ∃ more, after.calls.toList = told.calls.toList ++ more ∧
      ∀ call ∈ more, call.incidental = true ∨ call = .spawn (command plan) := by
  cases h with
  | launched ran did aside =>
    obtain ⟨prelude, hprelude, hincidental⟩ := did.calls
    obtain ⟨rest, hrest, hall⟩ := aside.calls
    refine ⟨prelude ++ [.spawn (command plan)] ++ rest, by simp [hrest, hprelude], ?_⟩
    intro call hcall
    rcases List.mem_append.mp hcall with hcall | hcall
    · rcases List.mem_append.mp hcall with hcall | hcall
      · exact .inl (hincidental call hcall)
      · exact .inr (List.mem_singleton.mp hcall)
    · exact .inl (hall call hcall)
  | failed ran did =>
    obtain ⟨prelude, tried, hcalls, hincidental, htried⟩ := did.calls
    refine ⟨prelude ++ tried, by simp [hcalls], fun call hcall => ?_⟩
    rcases List.mem_append.mp hcall with hcall | hcall
    · exact .inl (hincidental call hcall)
    · rcases htried with rfl | rfl
      · exact absurd hcall List.not_mem_nil
      · exact .inr (List.mem_singleton.mp hcall)

end Finishes

end Restart

end Relaunch
