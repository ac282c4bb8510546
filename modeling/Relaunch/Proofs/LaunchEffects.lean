/-
  What a launch leaves behind.

  Whatever becomes of it, a launch changes no file but the log of the service, makes no directory but
  those above that log, has closed what it opened, and lowers no limit (`Bounded`).  Apart from that,
  what it leaves depends on where it stops (`Leaves`):

  * at the limit or at the working directory, the files are as they were, so a working directory that
    is missing stays missing;
  * at the log, no file has changed;
  * at the start of the executable, the log is there, empty or with its old content.

  A launch that comes through has started the executable of its plan once (`Delivers`).
-/
import Relaunch.Proofs.Launching

namespace Relaunch.Launch

open Relaunch.FileTree Relaunch.Host

/-! ## What a launch may leave -/

/-- The place of the log that a plan leads to. -/
def logPlace (plan : LaunchPlan) (host : Host) : Place := placeOf host.cwdPlace plan.resolvedLog

/-- What holds of every launch on `before` that left `after`, whatever became of it. -/
structure Bounded (plan : LaunchPlan) (before after : Host) : Prop where
  /-- No log is left open. -/
  openLogs : after.openLogs = before.openLogs
  /-- No file but the log of the service has changed, and every new directory is above that log. -/
  touched : Touched (LeadsThrough plan.resolvedLog.parent) (Denotes plan.resolvedLog) before after
  /-- The limits are as they were, or raised as the plan asks. -/
  limits : after.limits = before.limits ∨ after.limits = limitsFor plan before.limits
  /-- No limit has become lower. -/
  lowered : ∀ files,
    (FileLimit.allows before.limits.soft files = true →
      FileLimit.allows after.limits.soft files = true) ∧
    (FileLimit.allows before.limits.hard files = true →
      FileLimit.allows after.limits.hard files = true)

/-- What a launch on `before` that stopped at a step leaves, as far as the step decides it. -/
def Leaves (plan : LaunchPlan) (before after : Host) : Step → Prop
  | .limit => after.files = before.files ∧ after.limits = before.limits
  | .directory => ∀ place, ¬before.journal.Owns place → SameAt before.files after.files place
  | .log => ∀ place, ¬before.journal.Owns place →
      after.files.content? place = before.files.content? place
  | .start => ¬before.journal.Owns (logPlace plan before) →
      after.files.content? (logPlace plan before) =
        some (startingContent before.files (logPlace plan before) plan.mode)

/-- A launch on `before` that came through with a daemon has left `after`. -/
structure Delivers (plan : LaunchPlan) (before : Host) (daemon : Daemon) (after : Host) : Prop where
  pid : daemon.pid = before.nextPid
  argv : daemon.argv = plan.executable :: plan.arguments
  log : daemon.log = plan.directory / plan.log
  /-- The executable was started once, and last of all. -/
  calls : ∃ prelude, after.calls.toList = before.calls.toList ++ prelude ++
      [.spawn ⟨plan.executable :: plan.arguments, plan.directory.text, plan.mode⟩] ∧
    ∀ call ∈ prelude, call.incidental = true
  /-- The log holds what it started with and then the output. -/
  output : ∃ output exits, before.response (command plan) = .runs output exits ∧
    (¬before.journal.Owns (logPlace plan before) →
      after.files.content? (logPlace plan before) =
        some (startingContent before.files (logPlace plan before) plan.mode ++ output))

/-! ## From stage to stage -/

section Stages

variable {plan : LaunchPlan} {before ready opened after : Host} {place : Place}

/-- Limits that are as they were, or raised as the plan asks, are no lower. -/
theorem allows_of_limits
    (h : after.limits = before.limits ∨ after.limits = limitsFor plan before.limits) (files : Int) :
    (FileLimit.allows before.limits.soft files = true →
      FileLimit.allows after.limits.soft files = true) ∧
    (FileLimit.allows before.limits.hard files = true →
      FileLimit.allows after.limits.hard files = true) := by
  rcases h with h | h
  · rw [h]
    exact ⟨id, id⟩
  · rw [h]
    exact allows_limitsFor plan before.limits files

theorem Bounded.of (openLogs : after.openLogs = before.openLogs)
    (touched : Touched (LeadsThrough plan.resolvedLog.parent) (Denotes plan.resolvedLog) before after)
    (limits : after.limits = before.limits ∨ after.limits = limitsFor plan before.limits) :
    Bounded plan before after :=
  ⟨openLogs, touched, limits, allows_of_limits limits⟩

theorem Readies.openLogs {fault? : Option Fault} (h : Readies plan before fault? ready) :
    ready.openLogs = before.openLogs :=
  h.frame.view Host.openLogs

/-- A launch that stopped before it came to the log has touched nothing. -/
theorem Readies.bounded {fault? : Option Fault} (h : Readies plan before fault? ready) :
    Bounded plan before ready := by
  refine .of h.openLogs h.touched.of_nowhere ?_
  cases fault? with
  | none => exact Or.inr h.limits
  | some f => exact Or.inl h.limits_of_fault

theorem unowned_ready (h : Readies plan before none ready) {place : Place}
    (unowned : ¬before.journal.Owns place) : ¬ready.journal.Owns place :=
  h.touched.journal ▸ unowned

/-- The log was opened on a host whose limit was readied. -/
theorem opened_touched (readied : Readies plan before none ready)
    (opens : ServiceLog.Opened ⟨plan.resolvedLog, plan.mode⟩ ready place opened) :
    Touched (LeadsThrough plan.resolvedLog.parent) (Denotes plan.resolvedLog) before opened :=
  readied.touched.of_nowhere.trans opens.touched

theorem opened_place (readied : Readies plan before none ready)
    (opens : ServiceLog.Opened ⟨plan.resolvedLog, plan.mode⟩ ready place opened) :
    place = logPlace plan before := by
  rw [opens.atPlace, readied.touched.cwdPlace]
  rfl

theorem opened_content (readied : Readies plan before none ready)
    (opens : ServiceLog.Opened ⟨plan.resolvedLog, plan.mode⟩ ready place opened)
    (unowned : ¬before.journal.Owns place) :
    opened.files.content? place = some (startingContent before.files place plan.mode) := by
  have hsame := (readied.touched.sameAt unowned).1
  rw [opens.content? (unowned_ready readied unowned), startingContent_congr hsame]

/-- Closing the log leaves open what was open before. -/
theorem closed_openLogs (readied : Readies plan before none ready)
    (opens : ServiceLog.Opened ⟨plan.resolvedLog, plan.mode⟩ ready place opened) :
    opened.openLogs.erase place = before.openLogs := by
  have hopened : opened.openLogs = place :: ready.openLogs := opens.frame.view Host.openLogs
  rw [hopened, List.erase_cons_head, readied.openLogs]

theorem opened_limits (readied : Readies plan before none ready)
    (opens : ServiceLog.Opened ⟨plan.resolvedLog, plan.mode⟩ ready place opened) :
    opened.limits = limitsFor plan before.limits :=
  (opens.frame.view Host.limits).trans readied.limits

/-- The output of the executable goes to the log. -/
theorem spawned_touched (readied : Readies plan before none ready)
    (opens : ServiceLog.Opened ⟨plan.resolvedLog, plan.mode⟩ ready place opened)
    (output : String) (exits : Bool) :
    Touched (LeadsThrough plan.resolvedLog.parent) (Denotes plan.resolvedLog) before
      ((opened.spawned (command plan) place output exits).closed place) := by
  have hopened := opened_touched readied opens
  have hplace : place = placeOf opened.cwdPlace plan.resolvedLog := by
    rw [opened_place readied opens, hopened.cwdPlace, logPlace]
  have hwritten : Touched Nowhere (Denotes plan.resolvedLog) opened
      ((opened.spawned (command plan) place output exits).closed place) := by
    refine .of_write ((opened.files.content? place).getD "" ++ output) rfl rfl ?_
    exact congrArg (fun log => opened.files.write log _) hplace
  exact hopened.trans (hwritten.mono (fun _ => False.elim) (fun _ => id))

end Stages

/-! ## Every launch -/

variable {plan : LaunchPlan} {before after : Host}

/-- A launch that stopped is bounded, and leaves what the step says. -/
theorem Stops.leaves {step : Step} {f : Fault} (h : Stops plan before step f after) :
    Bounded plan before after ∧ Leaves plan before after step := by
  cases h with
  | limit rejected =>
    have hreadied := (raiseLimit_ends plan before).of_error rejected
    exact ⟨hreadied.bounded, hreadied.files_of_fault, hreadied.limits_of_fault⟩
  | missing readied looked =>
    have hreadied := (raiseLimit_ends plan before).of_ok readied
    exact ⟨hreadied.bounded, fun place unowned => hreadied.touched.sameAt unowned⟩
  | unclear readied looked =>
    have hreadied := (raiseLimit_ends plan before).of_ok readied
    exact ⟨hreadied.bounded, fun place unowned => hreadied.touched.sameAt unowned⟩
  | log readied looked unopened =>
    have hreadied := (raiseLimit_ends plan before).of_ok readied
    obtain ⟨-, hconfined⟩ := (openLog_spec _ _).of_error unopened
    -- The limits stay raised, and directories above the log may have been made.
    have hlogs := (hconfined.alike.view Host.openLogs).trans hreadied.openLogs
    have hlimits := (hconfined.alike.view Host.limits).trans hreadied.limits
    refine ⟨.of hlogs ?_ (Or.inr hlimits), fun place unowned => ?_⟩
    · have hmade : Touched (LeadsThrough plan.resolvedLog.parent) (Denotes plan.resolvedLog) _ _ :=
        hconfined.toTouched.mono (fun _ => id) (fun _ => False.elim)
      exact hreadied.touched.of_nowhere.trans hmade
    · have hready := (hreadied.touched.sameAt unowned).1
      exact (hconfined.contents place (unowned_ready hreadied unowned) id).trans hready
  | @start _ ready opened _ place readied looked opens unstarted =>
    have hreadied := (raiseLimit_ends plan before).of_ok readied
    have hopened := (openLog_spec _ _).of_ok opens
    obtain ⟨-, rfl⟩ := (startAndClose_spec _ _ _).of_error unstarted
    have hlogs : opened.openLogs.erase place = before.openLogs := closed_openLogs hreadied hopened
    have hlimits : opened.limits = limitsFor plan before.limits := opened_limits hreadied hopened
    have htouched := opened_touched hreadied hopened
    refine ⟨.of hlogs (htouched.trans (.of_files rfl rfl rfl)) (Or.inr hlimits), fun unowned => ?_⟩
    rw [← opened_place hreadied hopened] at unowned ⊢
    have hcontent := opened_content hreadied hopened unowned
    exact hcontent

/-- A launch that came through is bounded, and delivers what its plan asks for. -/
theorem Returns.delivers {daemon : Daemon} (h : Returns plan before daemon after)
    (did : Launched plan before daemon after) :
    Bounded plan before after ∧ Delivers plan before daemon after := by
  cases h with
  | @started ready opened started place pid readied looked opens starts =>
    have hreadied := (raiseLimit_ends plan before).of_ok readied
    have hopened := (openLog_spec _ _).of_ok opens
    obtain ⟨-, output, exits, hresponse, rfl⟩ := (startAndClose_spec _ _ _).of_ok starts
    have htouched := spawned_touched hreadied hopened output exits
    have halike := said_alike .info speaker (announcement plan pid)
      ((opened.spawned (command plan) place output exits).closed place)
    have hlogs : opened.openLogs.erase place = before.openLogs := closed_openLogs hreadied hopened
    have hlimits : opened.limits = limitsFor plan before.limits := opened_limits hreadied hopened
    have hbounded := Bounded.of ((halike.view Host.openLogs).trans hlogs)
      (htouched.trans (said_touched ..)) (Or.inr ((halike.view Host.limits).trans hlimits))
    refine ⟨hbounded, did.pid, rfl, rfl, did.calls, output, exits, ?_, fun unowned => ?_⟩
    · rw [← hresponse]
      exact ((opened_frame hreadied hopened).view fun host => host.response (command plan)).symm
    · -- Nothing that is said goes to the log.
      have hsaid := (said_sameAt .info speaker (announcement plan pid) _
        (htouched.journal ▸ unowned)).1
      rw [← opened_place hreadied hopened] at unowned hsaid ⊢
      have hcontent := opened_content hreadied hopened unowned
      refine hsaid.trans ?_
      show (opened.files.append place output).content? place = _
      rw [content?_append, if_pos rfl, hcontent]
      rfl

/-- **What a launch leaves behind**, whether it comes through or stops, and wherever it stops. -/
theorem launch_leaves (plan : LaunchPlan) (before : Host) :
    Ends (run plan) before
      (fun daemon after => Bounded plan before after ∧ Delivers plan before daemon after)
      (fun f after => Bounded plan before after ∧ after.processes = before.processes ∧
        ∃ step, Stops plan before step f after ∧ Leaves plan before after step) := by
  have hstages := run_stages plan before
  rcases (launch_ends plan before).cases with
    ⟨daemon, after, hran, hdid⟩ | ⟨f, after, hran, hrefused⟩
  · rw [Ends, hran]
    exact (hstages.of_ok hran).delivers hdid
  · rw [Ends, hran]
    obtain ⟨step, hstops⟩ := hstages.of_error hran
    obtain ⟨hbounded, hleaves⟩ := hstops.leaves
    exact ⟨hbounded, hrefused.processes, step, hstops, hleaves⟩

end Relaunch.Launch
