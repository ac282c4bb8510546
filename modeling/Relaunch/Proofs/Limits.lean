/-
  What raising the limit on open files does to a host.

  The limits are read, and set where they are too low.  Each of the two may fail, and neither concerns
  anything but the limits (`Raises.frame`).

  * `raise_ends` lists the ways in which raising ends, each with the fault and the host it leaves;
  * a fault leaves the limits as they were (`Raises.limits_of_fault`), and otherwise they are raised
    just where the one in force was too low (`Raises.limits`), which never lowers one
    (`allows_raised_soft`, `allows_raised_hard`).
-/
import Relaunch.FileLimit
import Relaunch.Proofs.FileWork

namespace Relaunch

open Relaunch.FileTree Relaunch.Host

namespace Host

/-! ## Reading and setting -/

/-- What meets the next attempt to set the limits. -/
def setFault? (host : Host) : Option Fault := host.limitsSetFaults.head?.getD none

/-- The host after an attempt to set the limits that failed. -/
def attempted (host : Host) (limits : FileLimits) : Host :=
  { host with
    calls := host.calls.push (.setLimits limits), limitsSetFaults := host.limitsSetFaults.tail }

/-- The host after an attempt to set the limits that went through. -/
def limited (host : Host) (limits : FileLimits) : Host := { host.attempted limits with limits }

section Rules

variable {host : Host} {fault : Fault → Host → Prop}

theorem ends_readLimits {value : FileLimits → Host → Prop} :
    Ends readLimits host value fault ↔
      (host.limitsReadFault = none → value host.limits (host.noted .readLimits)) ∧
        ∀ f, host.limitsReadFault = some f → fault f (host.noted .readLimits) := by
  simp only [readLimits, ends_bind, ends_note, ends_get, ends_meet, ends_pure]
  exact Iff.rfl

theorem ends_setLimits {limits : FileLimits} {value : Unit → Host → Prop} :
    Ends (setLimits limits) host value fault ↔
      (host.setFault? = none → value () (host.limited limits)) ∧
        ∀ f, host.setFault? = some f → fault f (host.attempted limits) := by
  simp only [setLimits, ends_bind, ends_note, ends_get, ends_set, ends_meet, ends_modify]
  exact Iff.rfl

end Rules

/-- The host with the limits, and all that concerns them, as another host has them. -/
def withLimitsOf (host other : Host) : Host :=
  { host with
    limits := other.limits, limitsSetFaults := other.limitsSetFaults, calls := other.calls }

end Host

namespace FileLimit

/-! ## Limits that are raised -/

/-- A limit that was raised allows for all that it allowed for before. -/
theorem allows_raised_soft {limits : FileLimits} {wanted : Int}
    (low : allows limits.soft wanted = false) {files : Int}
    (allowed : allows limits.soft files = true) :
    allows (raised limits wanted).soft files = true := by
  simp only [allows, raised, Bool.or_eq_true, Bool.or_eq_false_iff, beq_iff_eq, beq_eq_false_iff_ne,
    decide_eq_true_eq, decide_eq_false_iff_not] at low allowed ⊢
  obtain ⟨hbounded, hlow⟩ := low
  have hfiles : files ≤ limits.soft := allowed.resolve_left hbounded
  exact Or.inr (by omega)

theorem allows_raised_hard (limits : FileLimits) (wanted : Int) {files : Int}
    (allowed : allows limits.hard files = true) :
    allows (raised limits wanted).hard files = true := by
  unfold raised
  by_cases hhigh : allows limits.hard wanted = true
  · rw [if_pos hhigh]
    exact allowed
  · rw [if_neg hhigh]
    simp only [allows, Bool.or_eq_true, beq_iff_eq, decide_eq_true_eq, not_or] at hhigh allowed ⊢
    have hfiles : files ≤ limits.hard := allowed.resolve_left hhigh.1
    exact Or.inr (by omega)

/-- Does the dealing concern the limits? -/
def concernsLimits : Call → Bool
  | .readLimits | .setLimits _ => true
  | _ => false

/-! ## How raising ends -/

/-- How raising the limit to `wanted` ends on `before`: the fault that it ends with, if there is one,
and the host that it leaves. -/
inductive Raises (wanted : Int) (before : Host) : (fault? : Option Fault) → Host → Prop
  /-- The limits cannot be read. -/
  | unread {f : Fault} (met : before.limitsReadFault = some f) :
      Raises wanted before (some f) (before.noted .readLimits)
  /-- The limit in force is high enough. -/
  | kept (read : before.limitsReadFault = none)
      (high : allows before.limits.soft wanted = true) :
      Raises wanted before none (before.noted .readLimits)
  /-- The limits cannot be set. -/
  | refused {f : Fault} (read : before.limitsReadFault = none)
      (low : allows before.limits.soft wanted = false) (met : before.setFault? = some f) :
      Raises wanted before (some (if stopsLaunch f then .limitNotRaised wanted f else f))
        ((before.noted .readLimits).attempted (raised before.limits wanted))
  /-- The limits are set. -/
  | raised {message : String} (read : before.limitsReadFault = none)
      (low : allows before.limits.soft wanted = false) (free : before.setFault? = none) :
      Raises wanted before none (said .info speaker message
        ((before.noted .readLimits).limited (raised before.limits wanted)))

/-- The fault that raising the limit to `wanted` ends with, if there is one. -/
def raiseFault? (wanted : Int) (host : Host) : Option Fault :=
  match host.limitsReadFault with
  | some f => some f
  | none =>
    if allows host.limits.soft wanted then none
    else host.setFault?.map fun f => if stopsLaunch f then .limitNotRaised wanted f else f

theorem raise_ends (wanted : Int) (host : Host) :
    Ends (raise wanted) host
      (fun limits after => limits = after.limits ∧ Raises wanted host none after)
      (fun f after => Raises wanted host (some f) after) := by
  rw [raise, ends_bind, ends_readLimits]
  refine ⟨fun hread => ?_, fun f hmet => .unread hmet⟩
  by_cases hhigh : allows host.limits.soft wanted = true
  · rw [if_pos hhigh, ends_pure]
    exact ⟨rfl, .kept hread hhigh⟩
  · have hlow := eq_false_of_ne_true hhigh
    rw [if_neg hhigh, ends_bind, ends_tryCatch, ends_setLimits]
    refine ⟨fun hfree => ?_, fun f hmet => ?_⟩
    · simp only [ends_bind, ends_say, ends_pure]
      rw [(said_alike ..).view Host.limits]
      exact ⟨rfl, .raised hread hlow hfree⟩
    · have hrefused : Raises wanted host _ _ := .refused hread hlow hmet
      by_cases hstops : stopsLaunch f = true
      · rw [if_pos hstops, ends_throw]
        rwa [if_pos hstops] at hrefused
      · rw [if_neg hstops, ends_throw]
        rwa [if_neg hstops] at hrefused

namespace Raises

variable {wanted : Int} {before after : Host} {fault? : Option Fault} {f : Fault}

/-- Which fault it is, if any, can be told beforehand. -/
theorem fault_eq (h : Raises wanted before fault? after) : fault? = raiseFault? wanted before := by
  unfold raiseFault?
  cases h with
  | unread met => simp only [met]
  | kept read high => simp only [read, high, if_true]
  | refused read low met =>
    simp only [read, low, Bool.false_eq_true, if_false, met, Option.map_some]
  | raised read low free =>
    simp only [read, low, Bool.false_eq_true, if_false, free, Option.map_none]

/-- Nothing but the limits is concerned, and the dealings with them. -/
theorem frame (h : Raises wanted before fault? after) :
    Alike after (before.withLimitsOf after) := by
  cases h with
  | unread | kept | refused => rfl
  | @raised message read low free =>
    -- The message is all that the two hosts differ in.
    have halike := said_alike .info speaker message
      ((before.noted .readLimits).limited (FileLimit.raised before.limits wanted))
    rw [withLimitsOf, halike.view Host.limits, halike.view Host.limitsSetFaults,
      halike.view Host.calls]
    exact halike.trans rfl

theorem limits_of_fault (h : Raises wanted before (some f) after) :
    after.limits = before.limits := by
  cases h with
  | unread | refused => rfl

theorem limits (h : Raises wanted before none after) :
    after.limits =
      if allows before.limits.soft wanted then before.limits
      else FileLimit.raised before.limits wanted := by
  cases h with
  | kept read high =>
    rw [if_pos high]
    rfl
  | raised read low free =>
    rw [if_neg (by simp [low]), (said_alike ..).view Host.limits]
    rfl

theorem touched (h : Raises wanted before fault? after) : Touched Nowhere Nowhere before after := by
  cases h with
  | unread | kept | refused => exact .of_files rfl rfl rfl
  | raised read low free =>
    have hset : Touched Nowhere Nowhere before
        ((before.noted .readLimits).limited (FileLimit.raised before.limits wanted)) :=
      .of_files rfl rfl rfl
    exact hset.trans (said_touched ..)

theorem calls (h : Raises wanted before fault? after) :
    ∃ more, after.calls.toList = before.calls.toList ++ more ∧
      ∀ call ∈ more, concernsLimits call = true := by
  cases h with
  | unread | kept => exact ⟨[.readLimits], by simp [noted], by simp [concernsLimits]⟩
  | refused =>
    refine ⟨[.readLimits, .setLimits (FileLimit.raised before.limits wanted)], ?_,
      by simp [concernsLimits]⟩
    simp [noted, attempted]
  | raised =>
    refine ⟨[.readLimits, .setLimits (FileLimit.raised before.limits wanted)], ?_,
      by simp [concernsLimits]⟩
    rw [(said_alike ..).view Host.calls]
    simp [noted, attempted, limited]

/-- The files are the very same where raising ends with a fault: nothing has been said. -/
theorem files_of_fault (h : Raises wanted before (some f) after) : after.files = before.files := by
  cases h with
  | unread | refused => rfl

end Raises

end FileLimit

end Relaunch
