/-
  The stages of a launch.

  A launch readies the limit on open files, looks for the working directory, opens the log and starts
  the executable.  `Stops` says at which of the four a launch stopped, and `Returns` that it came
  through, both in terms of the steps themselves; `run_stages` says that every launch does one or the
  other.  Each step has a rule of its own, so that whatever is asked about a launch is asked stage by
  stage and answered by the rule of the step.
-/
import Relaunch.Launch
import Relaunch.Proofs.Limits

namespace Relaunch

open Relaunch.FileTree Relaunch.Host

namespace Host

/-! ## Starting an executable -/

/-- What starting an executable leads to. -/
def response (host : Host) (command : SpawnCommand) : SpawnResponse :=
  (host.executables.lookup (command.argv.headD "")).getD (.runs "" false)

/-- The entry of a started process. -/
def started (host : Host) (command : SpawnCommand) : TableEntry where
  pid := host.nextPid
  name := some (lastPiece (command.argv.headD ""))
  commandLine := some command.argv

/-- The host after an executable was started. -/
def spawned (host : Host) (command : SpawnCommand) (log : Place) (output : String) (exits : Bool) :
    Host :=
  { host with
    calls := host.calls.push (.spawn command)
    nextPid := host.nextPid + 1
    processes := host.processes ++ if exits then [] else [host.started command]
    files := host.files.append log output }

theorem ends_spawn {host : Host} {command : SpawnCommand} {log : Place}
    {value : Int → Host → Prop} {fault : Fault → Host → Prop} :
    Ends (spawn command log) host value fault ↔
      (∀ output exits, host.response command = .runs output exits →
        value host.nextPid (host.spawned command log output exits)) ∧
      ∀ f, host.response command = .fails f → fault f (host.noted (.spawn command)) := by
  simp only [spawn, ends_bind, ends_note, ends_get, response]
  cases h : (host.executables.lookup (command.argv.headD "")).getD (.runs "" false) with
  | fails f =>
    simp only [show (host.noted (.spawn command)).executables = host.executables from rfl, h]
    simp
  | runs output exits =>
    simp only [show (host.noted (.spawn command)).executables = host.executables from rfl, h]
    simp only [ends_bind, ends_set, ends_pure]
    constructor
    · intro hvalue
      refine ⟨fun output' exits' heq => ?_, fun f heq => by simp at heq⟩
      obtain ⟨rfl, rfl⟩ : output = output' ∧ exits = exits' := by simpa using heq
      exact hvalue
    · intro hall
      exact hall.1 output exits rfl

/-! ## Open logs -/

/-- The host with one more log open. -/
def held (host : Host) (place : Place) : Host := { host with openLogs := place :: host.openLogs }

/-- The host once a log has been closed. -/
def closed (host : Host) (log : Place) : Host := { host with openLogs := host.openLogs.erase log }

end Host

/-! ## Opening the log of a service -/

namespace ServiceLog

/-- On `before` the log was opened at `place`: the directories above it were made first. -/
structure Opened (log : ServiceLog) (before : Host) (place : Place) (after : Host) : Prop where
  atPlace : place = placeOf before.cwdPlace log.path
  ready : ∃ made, Confined (LeadsThrough log.path.parent) Nowhere before made ∧
    after = (made.opened place log.mode).held place

theorem fileFault_of_parent {path : Path} {f : Fault} (h : FileFault path.parent f) :
    FileFault path f := by
  have hparent : path.parent = upTo path (path.parts.length - 1) := by
    rw [Path.parent, upTo, List.dropLast_eq_take]
  exact FileFault.of_upTo (hparent ▸ h)

/-- A log that cannot be opened changes no file, and leaves no more than directories above it. -/
theorem openFile_ends (log : ServiceLog) (host : Host) :
    Ends log.openFile host (Opened log host)
      (fun f after => FileFault log.path f ∧
        Confined (LeadsThrough log.path.parent) Nowhere host after) := by
  rw [openFile, ends_bind]
  refine (makeDirectories_ends log.path.parent host).imp (fun _ made hmade => ?_) (fun f after h => ?_)
  · rw [ends_bind, ends_say, ends_bind]
    have htold : Confined (LeadsThrough log.path.parent) Nowhere host _ := hmade.trans
      (said_confined .debug speaker
        ("Opening log sink " ++ log.path.text ++ " (" ++ log.mode.name ++ ")") made)
    refine (Host.openFile_ends log.path log.mode _).imp (fun place after h => ?_) (fun f after h => ?_)
    · obtain ⟨hplace, rfl⟩ := h
      rw [ends_bind, holdLog, ends_modify, ends_pure]
      exact ⟨hplace.trans (by rw [htold.cwdPlace]), _, htold, rfl⟩
    · obtain ⟨rfl, hfault⟩ := h
      exact ⟨hfault, htold⟩
  · exact ⟨fileFault_of_parent h.1, h.2⟩

namespace Opened

variable {log : ServiceLog} {before after : Host} {place : Place}

theorem touched (h : Opened log before place after) :
    Touched (LeadsThrough log.path.parent) (Denotes log.path) before after := by
  obtain ⟨made, hmade, hafter⟩ := h.ready
  have hplace : place = placeOf made.cwdPlace log.path := by rw [hmade.cwdPlace, h.atPlace]
  have hopened : Touched Nowhere (Denotes log.path) made after := by
    have htouched := (opened_confined made log.path log.mode).toTouched
    rw [hafter, hplace]
    exact ⟨htouched.journal, htouched.cwdPlace, htouched.contents, htouched.directories,
      htouched.kept⟩
  exact (hmade.toTouched.mono (fun _ => id) (fun _ => False.elim)).trans
    (hopened.mono (fun _ => False.elim) (fun _ => id))

/-- The log starts empty, or with what was in it. -/
theorem content? (h : Opened log before place after) (unowned : ¬before.journal.Owns place) :
    after.files.content? place = some (startingContent before.files place log.mode) := by
  obtain ⟨made, hmade, rfl⟩ := h.ready
  have hstart := startingContent_congr (hmade.contents place unowned id) log.mode
  exact (content?_opened made place log.mode).trans (congrArg some hstart)

/-- Apart from the files, one more log is open, and that is all. -/
theorem frame (h : Opened log before place after) : Alike after (before.held place) := by
  obtain ⟨made, hmade, rfl⟩ := h.ready
  have hopened : Alike (made.opened place log.mode) made := by
    cases log.mode with
    | truncate => rfl
    | append => rfl
  exact (hopened.trans hmade.alike).step fun host => host.held place

end Opened

end ServiceLog

namespace Launch

/-- How a plan starts its executable. -/
def command (plan : LaunchPlan) : SpawnCommand := ⟨plan.argv, plan.directory.text, plan.mode⟩

/-! ## Readying the limit -/

/-- The limit that a plan asks for. -/
def asked? (plan : LaunchPlan) : Option Int := plan.fileLimit.filter fun wanted => wanted != 0

/-- How readying the limit for a plan ends: the fault that it ends with, if there is one, and the host
that it leaves. -/
inductive Readies (plan : LaunchPlan) (before : Host) : (fault? : Option Fault) → Host → Prop
  | unasked (none_asked : asked? plan = none) : Readies plan before none before
  | asked {wanted : Int} {fault? : Option Fault} {after : Host} (asked : asked? plan = some wanted)
      (raises : FileLimit.Raises wanted before fault? after) : Readies plan before fault? after

theorem raiseLimit_ends (plan : LaunchPlan) (host : Host) :
    Ends (raiseLimit plan) host (fun _ after => Readies plan host none after)
      (fun f after => Readies plan host (some f) after) := by
  unfold raiseLimit
  split
  · rename_i hnone
    exact .unasked (by rw [asked?, hnone, Option.filter_none])
  · rename_i hzero
    exact .unasked (by rw [asked?, hzero]; rfl)
  · rename_i wanted hzero hwanted
    have hasked : asked? plan = some wanted := by
      have hne : (wanted != 0) = true := by
        rw [bne_iff_ne]
        rintro rfl
        exact hzero rfl
      rw [asked?, hwanted, Option.filter_some, if_pos hne]
    rw [ends_bind]
    refine (FileLimit.raise_ends wanted host).imp (fun _ after h => ?_) (fun f after h => ?_)
    · exact .asked hasked h.2
    · exact .asked hasked h

/-- The limits that a plan asks for, where it is granted. -/
def limitsFor (plan : LaunchPlan) (limits : FileLimits) : FileLimits :=
  match asked? plan with
  | none => limits
  | some wanted =>
    if FileLimit.allows limits.soft wanted then limits else FileLimit.raised limits wanted

/-- What a plan is granted lowers no limit. -/
theorem allows_limitsFor (plan : LaunchPlan) (limits : FileLimits) (files : Int) :
    (FileLimit.allows limits.soft files = true →
      FileLimit.allows (limitsFor plan limits).soft files = true) ∧
    (FileLimit.allows limits.hard files = true →
      FileLimit.allows (limitsFor plan limits).hard files = true) := by
  unfold limitsFor
  split
  · exact ⟨id, id⟩
  · rename_i wanted _
    by_cases hhigh : FileLimit.allows limits.soft wanted = true
    · rw [if_pos hhigh]
      exact ⟨id, id⟩
    · rw [if_neg hhigh]
      exact ⟨FileLimit.allows_raised_soft (eq_false_of_ne_true hhigh),
        FileLimit.allows_raised_hard limits wanted⟩

namespace Readies

variable {plan : LaunchPlan} {before after : Host} {fault? : Option Fault} {f : Fault}

theorem frame (h : Readies plan before fault? after) : Alike after (before.withLimitsOf after) := by
  cases h with
  | unasked => rfl
  | asked _ raises => exact raises.frame

theorem touched (h : Readies plan before fault? after) :
    Touched Nowhere Nowhere before after := by
  cases h with
  | unasked => exact .refl before
  | asked _ raises => exact raises.touched

/-- Nothing but the limits is dealt with. -/
theorem calls (h : Readies plan before fault? after) :
    ∃ more, after.calls.toList = before.calls.toList ++ more ∧
      ∀ call ∈ more, FileLimit.concernsLimits call = true := by
  cases h with
  | unasked => exact ⟨[], by simp, by simp⟩
  | asked _ raises => exact raises.calls

theorem limits (h : Readies plan before none after) :
    after.limits = limitsFor plan before.limits := by
  cases h with
  | unasked none_asked => rw [limitsFor, none_asked]
  | asked asked raises => rw [limitsFor, asked, raises.limits]

theorem limits_of_fault (h : Readies plan before (some f) after) :
    after.limits = before.limits := by
  cases h with
  | asked _ raises => exact raises.limits_of_fault

theorem files_of_fault (h : Readies plan before (some f) after) : after.files = before.files := by
  cases h with
  | asked _ raises => exact raises.files_of_fault

end Readies

/-! ## The stages -/

/-- A step that a launch may stop at. -/
inductive Step
  | limit
  | directory
  | log
  | start
  deriving DecidableEq, Repr

/-- A launch on `before` stopped at a step with a fault, and left a host. -/
inductive Stops (plan : LaunchPlan) (before : Host) : Step → Fault → Host → Prop
  /-- The limit is rejected. -/
  | limit {f : Fault} {after : Host} (rejected : raiseLimit plan before = .error f after) :
      Stops plan before .limit f after
  /-- There is no such working directory. -/
  | missing {ready : Host} (readied : raiseLimit plan before = .ok () ready)
      (looked : isDirectory plan.directory ready = .ok false ready) :
      Stops plan before .directory (.noWorkingDirectory plan.directory) ready
  /-- The working directory cannot be asked about. -/
  | unclear {f : Fault} {ready : Host} (readied : raiseLimit plan before = .ok () ready)
      (looked : isDirectory plan.directory ready = .error f ready) :
      Stops plan before .directory f ready
  /-- The log cannot be opened. -/
  | log {f : Fault} {ready after : Host} (readied : raiseLimit plan before = .ok () ready)
      (looked : isDirectory plan.directory ready = .ok true ready)
      (unopened : openLog ⟨plan.resolvedLog, plan.mode⟩ ready = .error f after) :
      Stops plan before .log f after
  /-- The executable cannot be started. -/
  | start {f : Fault} {ready opened after : Host} {place : Place}
      (readied : raiseLimit plan before = .ok () ready)
      (looked : isDirectory plan.directory ready = .ok true ready)
      (opens : openLog ⟨plan.resolvedLog, plan.mode⟩ ready = .ok place opened)
      (unstarted : startAndClose plan place opened = .error f after) :
      Stops plan before .start f after

/-- What is said of a launch. -/
def announcement (plan : LaunchPlan) (pid : Int) : String :=
  "Launched " ++ plan.executable ++ " with PID " ++ toString pid ++ ", logging to " ++
    plan.resolvedLog.text

/-- A launch on `before` came through and left a host. -/
inductive Returns (plan : LaunchPlan) (before : Host) : Daemon → Host → Prop
  | started {ready opened started : Host} {place : Place} {pid : Int}
      (readied : raiseLimit plan before = .ok () ready)
      (looked : isDirectory plan.directory ready = .ok true ready)
      (opens : openLog ⟨plan.resolvedLog, plan.mode⟩ ready = .ok place opened)
      (starts : startAndClose plan place opened = .ok pid started) :
      Returns plan before ⟨pid, plan.argv, plan.resolvedLog, started.now⟩
        (said .info speaker (announcement plan pid) started)

/-- A launch stops at one of its steps or comes through. -/
theorem run_stages (plan : LaunchPlan) (before : Host) :
    Ends (run plan) before (Returns plan before)
      (fun f after => ∃ step, Stops plan before step f after) := by
  rw [run, ends_bind, Ends]
  cases hreadied : raiseLimit plan before with
  | error f after => exact ⟨.limit, .limit hreadied⟩
  | ok _ ready =>
    show Ends _ ready _ _
    rw [ends_bind]
    rcases (isDirectory_ends plan.directory ready).cases with
      ⟨found, after, hlooked, rfl, -⟩ | ⟨f, after, hlooked, rfl, -⟩
    · rw [Ends, hlooked]
      cases found with
      | false => exact ⟨.directory, .missing hreadied hlooked⟩
      | true =>
        show Ends (openLog ⟨plan.resolvedLog, plan.mode⟩ >>= _) after _ _
        rw [ends_bind, Ends]
        cases hopens : openLog ⟨plan.resolvedLog, plan.mode⟩ after with
        | error f left => exact ⟨.log, .log hreadied hlooked hopens⟩
        | ok place opened =>
          show Ends (startAndClose plan place >>= _) opened _ _
          rw [ends_bind, Ends]
          cases hstarts : startAndClose plan place opened with
          | error f left => exact ⟨.start, .start hreadied hlooked hopens hstarts⟩
          | ok pid started => exact .started hreadied hlooked hopens hstarts
    · rw [Ends, hlooked]
      exact ⟨.directory, .unclear hreadied hlooked⟩

/-- A launch that stops does not come through: it ends with the fault that it stopped with. -/
theorem Stops.runs {plan : LaunchPlan} {before after : Host} {step : Step} {f : Fault}
    (h : Stops plan before step f after) : run plan before = .error f after := by
  cases h with
  | limit rejected => exact bind_of_error rejected
  | missing readied looked =>
    rw [run, bind_of_ok readied, bind_of_ok looked]
    rfl
  | unclear readied looked => rw [run, bind_of_ok readied, bind_of_error looked]
  | log readied looked unopened =>
    rw [run, bind_of_ok readied, bind_of_ok looked]
    exact bind_of_error unopened
  | start readied looked opens unstarted =>
    rw [run, bind_of_ok readied, bind_of_ok looked]
    refine (bind_of_ok opens).trans ?_
    exact bind_of_error unstarted

/-! ## The log and the start -/

/-- The log is opened, or the fault that met that is reported. -/
theorem openLog_spec (log : ServiceLog) (host : Host) :
    Ends (openLog log) host (log.Opened host)
      (fun f after => (∃ cause, log.openFile host = .error cause after ∧
          FileFault log.path cause ∧
          f = if cause.isSystemFault then .logNotOpened log.path cause else cause) ∧
        Confined (LeadsThrough log.path.parent) Nowhere host after) := by
  rw [openLog, ends_tryCatch]
  rcases (ServiceLog.openFile_ends log host).cases with
    ⟨place, opened, hran, hopened⟩ | ⟨cause, after, hran, hfault, hconfined⟩
  · rw [Ends, hran]
    exact hopened
  · rw [Ends, hran]
    by_cases hsystem : cause.isSystemFault = true
    · simp only [if_pos hsystem, ends_throw]
      exact ⟨⟨cause, rfl, hfault, (if_pos hsystem).symm⟩, hconfined⟩
    · simp only [if_neg hsystem, ends_throw]
      exact ⟨⟨cause, rfl, hfault, (if_neg hsystem).symm⟩, hconfined⟩

/-- The start of the executable: it runs, or the fault that met it is reported. -/
theorem startAndClose_spec (plan : LaunchPlan) (log : Place) (ready : Host) :
    Ends (startAndClose plan log) ready
      (fun pid after => pid = ready.nextPid ∧ ∃ output exits,
        ready.response (command plan) = .runs output exits ∧
        after = (ready.spawned (command plan) log output exits).closed log)
      (fun f after => (∃ cause, ready.response (command plan) = .fails cause ∧
          f = if cause.isSystemFault || cause.isBadValue then .notSpawned plan.executable cause
            else cause) ∧
        after = (ready.noted (.spawn (command plan))).closed log) := by
  rw [startAndClose, ends_tryFinally, start, ends_tryCatch, ends_spawn]
  refine ⟨fun output exits hresponse => ?_, fun cause hresponse => ?_⟩
  · exact ⟨rfl, output, exits, hresponse, rfl⟩
  · by_cases hforeseen : (cause.isSystemFault || cause.isBadValue) = true
    · rw [if_pos hforeseen, ends_throw]
      exact ⟨⟨cause, hresponse, (if_pos hforeseen).symm⟩, rfl⟩
    · rw [if_neg hforeseen, ends_throw]
      exact ⟨⟨cause, hresponse, (if_neg hforeseen).symm⟩, rfl⟩

/-! ## The dealings of a launch -/

section Calls

variable {plan : LaunchPlan} {before after : Host}

/-- Where the log has been opened, the host differs in the limits, in the open logs and in what was
said. -/
theorem opened_frame {ready opened : Host} {place : Place} (readied : Readies plan before none ready)
    (opens : ServiceLog.Opened ⟨plan.resolvedLog, plan.mode⟩ ready place opened) :
    Alike opened ((before.withLimitsOf ready).held place) :=
  opens.frame.trans (readied.frame.step fun host => host.held place)

/-- A launch opens no connection and takes none up. -/
theorem Returns.connections {daemon : Daemon} (h : Returns plan before daemon after) :
    after.connections = before.connections := by
  cases h with
  | started readied looked opens starts =>
    have hframe := opened_frame ((raiseLimit_ends plan before).of_ok readied)
      ((openLog_spec _ _).of_ok opens)
    obtain ⟨-, output, exits, -, rfl⟩ := (startAndClose_spec _ _ _).of_ok starts
    exact ((said_alike ..).view Host.connections).trans (hframe.view Host.connections)

/-- A launch that came through dealt with the limits and started the executable. -/
theorem Returns.calls {daemon : Daemon} (h : Returns plan before daemon after) :
    ∃ prelude, after.calls.toList = before.calls.toList ++ prelude ++ [.spawn (command plan)] ∧
      ∀ call ∈ prelude, FileLimit.concernsLimits call = true := by
  cases h with
  | started readied looked opens starts =>
    obtain ⟨more, hmore, hall⟩ := ((raiseLimit_ends plan before).of_ok readied).calls
    have hopened := ((openLog_spec _ _).of_ok opens).frame.view Host.calls
    obtain ⟨-, output, exits, -, rfl⟩ := (startAndClose_spec _ _ _).of_ok starts
    refine ⟨more, ?_, hall⟩
    rw [(said_alike ..).view Host.calls, closed, spawned, Array.toList_push, hopened, held, hmore]

/-- A launch that stopped dealt with the limits, and at most tried in vain to start the executable. -/
theorem Stops.calls {step : Step} {f : Fault} (h : Stops plan before step f after) :
    ∃ prelude tried, after.calls.toList = before.calls.toList ++ prelude ++ tried ∧
      (∀ call ∈ prelude, FileLimit.concernsLimits call = true) ∧
      (tried = [] ∨ tried = [.spawn (command plan)] ∧
        ∃ cause, before.response (command plan) = .fails cause) := by
  cases h with
  | limit rejected =>
    obtain ⟨more, hmore, hall⟩ := ((raiseLimit_ends plan before).of_error rejected).calls
    exact ⟨more, [], by rw [hmore, List.append_nil], hall, Or.inl rfl⟩
  | missing readied | unclear readied =>
    obtain ⟨more, hmore, hall⟩ := ((raiseLimit_ends plan before).of_ok readied).calls
    exact ⟨more, [], by rw [hmore, List.append_nil], hall, Or.inl rfl⟩
  | log readied looked unopened =>
    obtain ⟨more, hmore, hall⟩ := ((raiseLimit_ends plan before).of_ok readied).calls
    have hsame := ((openLog_spec _ _).of_error unopened).2.alike.view Host.calls
    exact ⟨more, [], by rw [hsame, hmore, List.append_nil], hall, Or.inl rfl⟩
  | start readied looked opens unstarted =>
    have hreadied := (raiseLimit_ends plan before).of_ok readied
    have hopened := (openLog_spec _ _).of_ok opens
    obtain ⟨more, hmore, hall⟩ := hreadied.calls
    obtain ⟨⟨cause, hfails, -⟩, rfl⟩ := (startAndClose_spec _ _ _).of_error unstarted
    refine ⟨more, [.spawn (command plan)], ?_, hall, Or.inr ⟨rfl, cause, ?_⟩⟩
    · rw [closed, noted, Array.toList_push, hopened.frame.view Host.calls, held, hmore]
    · have hresponse := (opened_frame hreadied hopened).view fun host =>
        host.response (command plan)
      exact hresponse.symm.trans hfails

end Calls

end Launch

end Relaunch
