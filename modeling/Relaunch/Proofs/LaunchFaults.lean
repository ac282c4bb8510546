/-
  Which faults a launch lets through.

  A launch that fails should end with a launch failure.  Each of its steps takes care of some faults
  and lets others through: `Escaping` lists them.

  * `reports_iff`: a launch ends with a daemon or with a launch failure just if no fault is let
    through;
  * `null_in_log_escapes`: a log whose path holds a null character is such a fault, without anything
    being wrong with the host.
-/
import Relaunch.Proofs.LaunchStages

namespace Relaunch.Launch

open Relaunch.FileTree Relaunch.Host

/-! ## Faults that are let through -/

/-- A launch on `before` meets the fault and does not make a launch failure of it. -/
inductive Escaping (plan : LaunchPlan) (before : Host) : Fault → Prop
  /-- Whatever meets the reading of the limits. -/
  | unread {f : Fault} {wanted : Int} (asked : asked? plan = some wanted)
      (met : before.limitsReadFault = some f) (foreign : f.isLaunchFailure = false) :
      Escaping plan before f
  /-- A fault of no expected family that meets the setting of the limits. -/
  | unset {f : Fault} {wanted : Int} (asked : asked? plan = some wanted)
      (read : before.limitsReadFault = none)
      (low : FileLimit.allows before.limits.soft wanted = false)
      (met : before.setFault? = some f) (unforeseen : FileLimit.stopsLaunch f = false)
      (foreign : f.isLaunchFailure = false) : Escaping plan before f
  /-- A working directory that cannot be asked about. -/
  | unclear {f : Fault} {ready : Host} (readied : raiseLimit plan before = .ok () ready)
      (looked : isDirectory plan.directory ready = .error f ready) : Escaping plan before f
  /-- A log whose path holds a null character. -/
  | unopened {ready after : Host} (readied : raiseLimit plan before = .ok () ready)
      (looked : isDirectory plan.directory ready = .ok true ready)
      (holds : holdsNull plan.resolvedLog = true)
      (opens : ServiceLog.openFile ⟨plan.resolvedLog, plan.mode⟩ ready =
        .error .nullInPath after) : Escaping plan before .nullInPath
  /-- A fault that meets the start and is neither a system fault nor an ill-formed value. -/
  | unstarted {f : Fault} {ready opened : Host} {place : Place}
      (readied : raiseLimit plan before = .ok () ready)
      (looked : isDirectory plan.directory ready = .ok true ready)
      (opens : openLog ⟨plan.resolvedLog, plan.mode⟩ ready = .ok place opened)
      (met : opened.response (command plan) = .fails f)
      (unforeseen : (f.isSystemFault || f.isBadValue) = false)
      (foreign : f.isLaunchFailure = false) : Escaping plan before f

variable {plan : LaunchPlan} {before after : Host} {f : Fault}

/-! ## Every other fault is reported -/

/-- What stops a launch and is no launch failure was let through. -/
theorem Stops.escaping {step : Step} (h : Stops plan before step f after)
    (foreign : f.isLaunchFailure = false) : Escaping plan before f := by
  cases h with
  | limit rejected =>
    cases (raiseLimit_ends plan before).of_error rejected with
    | asked asked raises =>
      cases raises with
      | unread met => exact .unread asked met foreign
      | @refused cause read low met =>
        by_cases hstops : FileLimit.stopsLaunch cause = true
        · rw [if_pos hstops] at foreign
          exact absurd foreign (by simp [Fault.isLaunchFailure])
        · rw [if_neg hstops] at foreign ⊢
          exact .unset asked read low met (eq_false_of_ne_true hstops) foreign
  | missing readied looked => exact absurd foreign (by simp [Fault.isLaunchFailure])
  | unclear readied looked => exact .unclear readied looked
  | log readied looked unopened =>
    obtain ⟨⟨cause, hopens, hfault, rfl⟩, -⟩ := (openLog_spec _ _).of_error unopened
    rcases hfault with hsystem | ⟨rfl, hnull⟩
    · rw [if_pos hsystem] at foreign
      exact absurd foreign (by simp [Fault.isLaunchFailure])
    · exact .unopened readied looked hnull hopens
  | start readied looked opens unstarted =>
    obtain ⟨⟨cause, hmet, rfl⟩, -⟩ := (startAndClose_spec _ _ _).of_error unstarted
    by_cases hforeseen : (cause.isSystemFault || cause.isBadValue) = true
    · rw [if_pos hforeseen] at foreign
      exact absurd foreign (by simp [Fault.isLaunchFailure])
    · rw [if_neg hforeseen] at foreign ⊢
      exact .unstarted readied looked opens hmet (eq_false_of_ne_true hforeseen) foreign

/-! ## What is let through ends the launch -/

/-- The fault that readying the limit for a plan ends with, if there is one. -/
def limitFault? (plan : LaunchPlan) (host : Host) : Option Fault :=
  (asked? plan).bind fun wanted => FileLimit.raiseFault? wanted host

theorem Readies.fault_eq {fault? : Option Fault} (h : Readies plan before fault? after) :
    fault? = limitFault? plan before := by
  cases h with
  | unasked none_asked => rw [limitFault?, none_asked, Option.bind_none]
  | asked asked raises => rw [limitFault?, asked, Option.bind_some, raises.fault_eq]

theorem raiseLimit_error (h : limitFault? plan before = some f) :
    ∃ after, raiseLimit plan before = .error f after := by
  rcases (raiseLimit_ends plan before).cases with
    ⟨_, after, hran, hreadies⟩ | ⟨f', after, hran, hreadies⟩
  · exact absurd (hreadies.fault_eq.trans h) (by simp)
  · obtain rfl : f' = f := by simpa using hreadies.fault_eq.trans h
    exact ⟨after, hran⟩

theorem foreign_of_system (h : f.isSystemFault = true) : f.isLaunchFailure = false := by
  cases f <;> simp_all [Fault.isSystemFault, Fault.isLaunchFailure]

/-- What is let through is what the launch ends with, and no launch failure. -/
theorem Escaping.runs (h : Escaping plan before f) :
    f.isLaunchFailure = false ∧ ∃ after, run plan before = .error f after := by
  cases h with
  | @unread _ wanted asked met foreign =>
    have hfault : limitFault? plan before = some f := by
      rw [limitFault?, asked, Option.bind_some, FileLimit.raiseFault?, met]
    obtain ⟨after, hran⟩ := raiseLimit_error hfault
    exact ⟨foreign, after, (Stops.limit hran).runs⟩
  | @unset _ wanted asked read low met unforeseen foreign =>
    have hfault : limitFault? plan before = some f := by
      simp [limitFault?, asked, FileLimit.raiseFault?, read, low, met, unforeseen]
    obtain ⟨after, hran⟩ := raiseLimit_error hfault
    exact ⟨foreign, after, (Stops.limit hran).runs⟩
  | @unclear _ ready readied looked =>
    have hsystem := ((isDirectory_ends _ _).of_error looked).2.1
    exact ⟨foreign_of_system hsystem, ready, (Stops.unclear readied looked).runs⟩
  | @unopened ready after readied looked holds opens =>
    -- The handler lets it through, for it is no system fault.
    have hunopened : openLog ⟨plan.resolvedLog, plan.mode⟩ ready = .error .nullInPath after :=
      tryCatch_of_error opens _
    exact ⟨rfl, after, (Stops.log readied looked hunopened).runs⟩
  | @unstarted _ ready opened place readied looked opens met unforeseen foreign =>
    rcases (startAndClose_spec plan place opened).cases with
      ⟨pid, started, hran, -, output, exits, hruns, -⟩ | ⟨f', after, hran, ⟨cause, hfails, hf'⟩, -⟩
    · exact absurd (hruns.symm.trans met) (by simp)
    · obtain rfl : cause = f := by simpa using hfails.symm.trans met
      rw [unforeseen, if_neg Bool.false_ne_true] at hf'
      subst hf'
      exact ⟨foreign, after, (Stops.start readied looked opens hran).runs⟩

/-- **A launch ends with a daemon or a launch failure just if it lets no fault through.** -/
theorem reports_iff (plan : LaunchPlan) (before : Host) :
    Ends (run plan) before (fun _ _ => True) (fun f _ => f.isLaunchFailure = true) ↔
      ∀ f, ¬Escaping plan before f := by
  constructor
  · intro hreports f hescaping
    obtain ⟨hforeign, after, hran⟩ := hescaping.runs
    have hreported := hreports.of_error hran
    exact absurd hreported (by simp [hforeign])
  · intro hnone
    refine (run_stages plan before).imp (fun _ _ _ => trivial) (fun f after h => ?_)
    obtain ⟨step, hstops⟩ := h
    cases hfailure : f.isLaunchFailure with
    | true => rfl
    | false => exact absurd (hstops.escaping hfailure) (hnone f)

/-- A host with a working directory and nothing in the way of a launch. -/
def calmHost : Host where
  files := { directories := [["srv"]] }

/-- A null character in the path of the log is an ill-formed value, and no launch failure. -/
theorem null_in_log_escapes :
    Ends (run { executable := "/bin/svc", directory := ⟨.slash, ["srv"]⟩, fileLimit := none,
                log := ⟨.here, ["a\x00b"]⟩ }) calmHost
      (fun _ _ => False)
      (fun f after => f.message = "embedded null byte" ∧ f.isBadValue = true ∧
        f.isLaunchFailure = false ∧ after.calls = #[]) := by
  refine (Ends.of_raised? (fun f after => (f.message, f.isBadValue, f.isLaunchFailure,
    after.calls.toList.length)) ("embedded null byte", true, false, 0)
    (by decide +kernel)).imp (fun _ _ h => h) (fun f after h => ?_)
  simpa using h

end Relaunch.Launch
