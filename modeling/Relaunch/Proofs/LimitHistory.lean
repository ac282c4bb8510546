/-
  The limit on open files over time.

  A limit is as high as its number, and one that stands for no limit at all is higher than any number
  (`height`).  In that order, whatever the supervisor does is one kind of step: the limits stay as they
  are, or the one in force is too low for what is wanted and is raised to it (`Grows`).

  * `perform_grows`: raising, a launch and a restart are such steps, however they end;
  * `Grows.noLower`, `Grows.sensible`, `Grows.ordered`: what such a step preserves;
  * `underwent_grown`: what any number of them preserves;
  * `limits_history`: no limit is ever lowered, and the next raise gives what it is asked for.
-/
import Relaunch.Proofs.Dealings
import Relaunch.Proofs.LaunchEffects
import Relaunch.Proofs.RestartStages
import Mathlib.Data.Int.ConditionallyCompleteOrder
import Mathlib.Order.ConditionallyCompleteLattice.Basic
import Mathlib.Order.WithBot

namespace Relaunch

open Relaunch.Host

/-! ## The order of limits -/

namespace FileLimit

/-- How high a limit is. -/
def height (limit : Int) : WithTop Int := if limit = unlimited then ⊤ else limit

theorem height_of_ne {limit : Int} (h : limit ≠ unlimited) : height limit = limit := if_neg h

/-- A limit allows what is no higher than it is. -/
theorem allows_iff {limit wanted : Int} :
    allows limit wanted = true ↔ (wanted : WithTop Int) ≤ height limit := by
  unfold allows height
  by_cases h : limit = unlimited
  · simp [h]
  · simp [h]

theorem low_iff {limit wanted : Int} :
    allows limit wanted = false ↔ height limit < (wanted : WithTop Int) := by
  rw [← not_le, ← allows_iff, Bool.not_eq_true]

end FileLimit

namespace FileLimits

open Relaunch.FileLimit

/-- Both limits are numbers of files, or stand for none. -/
def Sensible (limits : FileLimits) : Prop := unlimited ≤ limits.soft ∧ unlimited ≤ limits.hard

/-- The limit in force is no higher than the one up to which it may be raised. -/
def Ordered (limits : FileLimits) : Prop := height limits.soft ≤ height limits.hard

/-- Neither limit is lower afterwards. -/
def NoLower (before after : FileLimits) : Prop :=
  height before.soft ≤ height after.soft ∧ height before.hard ≤ height after.hard

theorem NoLower.refl (limits : FileLimits) : NoLower limits limits := ⟨le_refl _, le_refl _⟩

theorem NoLower.trans {a b c : FileLimits} (h : NoLower a b) (h' : NoLower b c) : NoLower a c :=
  ⟨h.1.trans h'.1, h.2.trans h'.2⟩

/-! ## Limits that are raised -/

section Raised

variable {limits : FileLimits} {wanted : Int}

/-- What is too high for a limit that makes sense is a number of files. -/
theorem pos_of_low (sensible : Sensible limits) (low : allows limits.soft wanted = false) :
    0 < wanted := by
  simp only [allows, Bool.or_eq_false_iff, beq_eq_false_iff_ne, decide_eq_false_iff_not] at low
  unfold Sensible unlimited at sensible
  unfold unlimited at low
  omega

/-- What a limit does not allow is no request for no limit at all. -/
theorem height_of_low (sensible : Sensible limits) (low : allows limits.soft wanted = false) :
    height wanted = wanted := by
  have hpos := pos_of_low sensible low
  exact height_of_ne (by unfold unlimited; omega)

/-- The hard limit only changes where it is too low, and then to what is wanted. -/
theorem hard_raised (limits : FileLimits) (wanted : Int) :
    allows limits.hard wanted = true ∧ (raised limits wanted).hard = limits.hard ∨
      allows limits.hard wanted = false ∧ (raised limits wanted).hard = wanted := by
  cases hhard : allows limits.hard wanted with
  | true => exact Or.inl ⟨rfl, if_pos hhard⟩
  | false => exact Or.inr ⟨rfl, if_neg (by rw [hhard]; exact Bool.false_ne_true)⟩

end Raised

/-! ## Steps -/

/-- The limits stay, or the one in force is too low for what is wanted and is raised. -/
inductive Grows (before : FileLimits) : FileLimits → Prop
  | stays : Grows before before
  | raises {wanted : Int} (low : allows before.soft wanted = false) :
      Grows before (raised before wanted)

namespace Grows

variable {before after : FileLimits}

theorem noLower (h : Grows before after) (sensible : Sensible before) : NoLower before after := by
  cases h with
  | stays => exact .refl before
  | @raises wanted low =>
    have hheight := height_of_low sensible low
    refine ⟨hheight ▸ (low_iff.mp low).le, ?_⟩
    rcases hard_raised before wanted with ⟨-, heq⟩ | ⟨hlow, heq⟩
    · rw [heq]
    · rw [heq, hheight]
      exact (low_iff.mp hlow).le

theorem sensible (h : Grows before after) (sensible : Sensible before) : Sensible after := by
  cases h with
  | stays => exact sensible
  | @raises wanted low =>
    have hwanted : unlimited ≤ wanted :=
      (show unlimited ≤ 0 by decide).trans (pos_of_low sensible low).le
    refine ⟨hwanted, ?_⟩
    rcases hard_raised before wanted with ⟨-, heq⟩ | ⟨-, heq⟩
    · exact heq ▸ sensible.2
    · rw [heq]
      exact hwanted

theorem ordered (h : Grows before after) (sensible : Sensible before) (ordered : Ordered before) :
    Ordered after := by
  cases h with
  | stays => exact ordered
  | @raises wanted low =>
    have hsoft : height (raised before wanted).soft = wanted := height_of_low sensible low
    rw [Ordered, hsoft]
    rcases hard_raised before wanted with ⟨hhigh, heq⟩ | ⟨-, heq⟩
    · exact heq ▸ allows_iff.mp hhigh
    · rw [heq, height_of_low sensible low]

end Grows

end FileLimits

open Relaunch.FileLimit Relaunch.FileLimits

/-! ## What the supervisor does -/

/-- What the supervisor may be asked to do that may raise a limit. -/
inductive Undertaking
  | raise (wanted : Int)
  | launch (plan : LaunchPlan)
  | restart (query : Query) (patience : Patience) (plan : LaunchPlan) (health : Option Probe)

/-- The host that an undertaking leaves. -/
def Undertaking.perform : Undertaking → Host → Host
  | .raise wanted, host => left (FileLimit.raise wanted) host
  | .launch plan, host => left (Launch.run plan) host
  | .restart query patience plan health, host => left (Restart.run query patience plan health) host

/-- The host that has undergone undertakings, one after the other. -/
def underwent (undertakings : List Undertaking) (host : Host) : Host :=
  undertakings.foldl (fun host undertaking => undertaking.perform host) host

/-- A limit in force is raised where it is too low for what is wanted. -/
theorem grows_to (limits : FileLimits) (wanted : Int) :
    Grows limits (if allows limits.soft wanted then limits else raised limits wanted) := by
  split
  · exact .stays
  · rename_i hlow
    exact .raises (eq_false_of_ne_true hlow)

/-- A raise changes the limits to higher ones, or it leaves them as they are. -/
theorem grows_of_raises {wanted : Int} {before after : Host} {fault? : Option Fault}
    (h : Raises wanted before fault? after) : Grows before.limits after.limits := by
  cases fault? with
  | some f => exact h.limits_of_fault ▸ .stays
  | none => exact h.limits ▸ grows_to before.limits wanted

/-- A session that leaves the limits, or raises the one in force. -/
def Raising {α : Type} (session : Session α) (host : Host) : Prop :=
  Ends session host (fun _ after => Grows host.limits after.limits)
    (fun _ after => Grows host.limits after.limits)

theorem raise_raising (wanted : Int) (host : Host) : Raising (FileLimit.raise wanted) host :=
  (raise_ends wanted host).imp (fun _ _ h => grows_of_raises h.2) (fun _ _ h => grows_of_raises h)

/-- Of all that a launch does, only raising the limit touches it. -/
theorem launch_raising (plan : LaunchPlan) (host : Host) : Raising (Launch.run plan) host := by
  have hgrows : ∀ after, Launch.Bounded plan host after → Grows host.limits after.limits := by
    intro after h
    rcases h.limits with heq | heq
    · exact heq ▸ .stays
    · rw [heq, Launch.limitsFor]
      split
      · exact .stays
      · exact grows_to _ _
  exact (Launch.launch_leaves plan host).imp (fun _ _ h => hgrows _ h.1) (fun _ _ h => hgrows _ h.1)

/-- The limits only change in the launch that is part of a restart. -/
theorem restart_raising (query : Query) (patience : Patience) (plan : LaunchPlan)
    (health : Option Probe) (host : Host) :
    Raising (Restart.run query patience plan health) host := by
  have hretires := Retirement.run_frame query patience host
  have hlaunches : ∀ outcome retired, Retirement.run query patience host = .ok outcome retired →
      Ends (Launch.run plan) (Restart.announced query outcome retired)
        (fun _ after => Grows host.limits after.limits)
        (fun _ after => Grows host.limits after.limits) := by
    intro outcome retired hran
    have htold : (Restart.announced query outcome retired).limits = host.limits :=
      ((said_alike ..).view Host.limits).trans (hretires.of_ok hran).limits
    rw [← htold]
    exact launch_raising plan _
  refine (Restart.run_stages query patience plan health host).imp (fun _ after h => ?_)
    (fun _ after h => ?_)
  · cases h with
    | probed retires launches probes =>
      rw [((probe_passes health _).of_ok probes).limits]
      exact (hlaunches _ _ retires).of_ok launches
  · cases h with
    | retiring retires =>
      rw [(hretires.of_error retires).limits]
      exact .stays
    | launching retires launches => exact (hlaunches _ _ retires).of_error launches
    | probing retires launches probes =>
      rw [((probe_passes health _).of_error probes).limits]
      exact (hlaunches _ _ retires).of_ok launches

/-- **Whatever is undertaken, the limits stay or the one in force is raised.** -/
theorem perform_grows (undertaking : Undertaking) (host : Host) :
    Grows host.limits (undertaking.perform host).limits := by
  cases undertaking with
  | raise wanted => exact Ends.left (raise_raising wanted host)
  | launch plan => exact Ends.left (launch_raising plan host)
  | restart query patience plan health =>
    exact Ends.left (restart_raising query patience plan health host)

/-- What any number of undertakings preserves. -/
theorem underwent_grown (undertakings : List Undertaking) : ∀ host : Host, Sensible host.limits →
    NoLower host.limits (underwent undertakings host).limits ∧
      Sensible (underwent undertakings host).limits ∧
      (Ordered host.limits → Ordered (underwent undertakings host).limits) := by
  induction undertakings with
  | nil => exact fun host hsensible => ⟨.refl _, hsensible, id⟩
  | cons undertaking rest ih =>
    intro host hsensible
    have hgrows := perform_grows undertaking host
    obtain ⟨hlower, hsensible', hordered⟩ := ih (undertaking.perform host) (hgrows.sensible hsensible)
    exact ⟨(hgrows.noLower hsensible).trans hlower, hsensible',
      fun h => hordered (hgrows.ordered hsensible h)⟩

/-! ## The next raise -/

/-- What raising to `wanted` on `before` comes to when it returns `limits`. -/
structure Granted (wanted : Int) (before : Host) (limits : FileLimits) (after : Host) : Prop where
  in_force : limits = after.limits
  high_enough : wanted ≤ height limits.soft
  /-- The hard limit only changes where it was too low, and then to what was wanted. -/
  hard : limits.hard = before.limits.hard ∨
    height before.limits.hard < wanted ∧ limits.hard = wanted
  /-- Raising to that or to less once more only reads the limits, and returns the same. -/
  again : ∀ less ≤ wanted, ∃ later, FileLimit.raise less after = .ok limits later ∧
    later.calls.toList = after.calls.toList ++ [.readLimits]

/-- Where the limit in force is high enough, raising only reads it. -/
theorem raise_of_allowed {host : Host} {wanted : Int} (read : host.limitsReadFault = none)
    (high : allows host.limits.soft wanted = true) :
    FileLimit.raise wanted host = .ok host.limits (host.noted .readLimits) := by
  have hread : Ends Host.readLimits host
      (fun limits after => limits = host.limits ∧ after = host.noted .readLimits)
      (fun _ _ => False) :=
    ends_readLimits.mpr ⟨fun _ => ⟨rfl, rfl⟩, fun f hmet => by rw [read] at hmet; simp at hmet⟩
  obtain ⟨limits, after, hran, rfl, rfl⟩ := hread.exists_ok
  rw [FileLimit.raise, bind_of_ok hran, if_pos high]
  rfl

theorem granted_of_raises {wanted : Int} {before after : Host} (sensible : Sensible before.limits)
    (h : Raises wanted before none after) : Granted wanted before after.limits after := by
  have hread : after.limitsReadFault = none := by
    have hsame : after.limitsReadFault = before.limitsReadFault :=
      h.frame.view Host.limitsReadFault
    cases h with
    | kept read | raised read => exact hsame.trans read
  have hhigh : wanted ≤ height after.limits.soft := by
    rw [h.limits]
    cases hallows : allows before.limits.soft wanted with
    | true => exact allows_iff.mp hallows
    | false => exact (height_of_low sensible hallows).ge
  have hhard : after.limits.hard = before.limits.hard ∨
      height before.limits.hard < wanted ∧ after.limits.hard = wanted := by
    rw [h.limits]
    split
    · exact Or.inl rfl
    · exact (hard_raised before.limits wanted).imp (fun h => h.2) (fun h => ⟨low_iff.mp h.1, h.2⟩)
  refine ⟨rfl, hhigh, hhard, fun less hless => ⟨_, raise_of_allowed hread ?_, Array.toList_push⟩⟩
  exact allows_iff.mpr ((WithTop.coe_le_coe.mpr hless).trans hhigh)

/-- What is so on `before`, once it was reached from `start`. -/
structure OnlyRaised (start before : Host) : Prop where
  so_far : NoLower start.limits before.limits
  ordered : Ordered start.limits → Ordered before.limits
  /-- Whatever is undertaken next lowers no limit. -/
  next : ∀ undertaking : Undertaking, NoLower before.limits (undertaking.perform before).limits
  /-- Raising gives what it is asked for, or leaves the limits alone. -/
  raise : ∀ wanted, Ends (FileLimit.raise wanted) before (Granted wanted before)
    (fun _ after => after.limits = before.limits)

/-- **The limits on open files are only ever raised**, whatever is undertaken, and however often an
attempt to read or to set them fails on the way. -/
theorem limits_history (start : Host) (sensible : Sensible start.limits)
    (earlier : List Undertaking) : OnlyRaised start (underwent earlier start) := by
  obtain ⟨hlower, hsensible, hordered⟩ := underwent_grown earlier start sensible
  refine ⟨hlower, hordered, fun undertaking => (perform_grows undertaking _).noLower hsensible,
    fun wanted => ?_⟩
  refine (raise_ends wanted _).imp (fun limits after h => ?_) (fun f after h => h.limits_of_fault)
  obtain ⟨rfl, hraises⟩ := h
  exact granted_of_raises hsensible hraises

/-- A host on which the first attempt to set the limits fails. -/
def strainedHost : Host where
  limits := ⟨1024, 2048⟩
  limitsSetFaults := [some (.numbered 1 "Operation not permitted" none)]

theorem limits_history_strained :
    OnlyRaised strainedHost (underwent [.raise 4096, .raise 4096, .raise 512] strainedHost) ∧
      (underwent [.raise 4096] strainedHost).limits = ⟨1024, 2048⟩ ∧
      (underwent [.raise 4096, .raise 4096, .raise 512] strainedHost).limits = ⟨4096, 4096⟩ :=
  ⟨limits_history strainedHost ⟨by decide, by decide⟩ _, by decide, by decide⟩

end Relaunch
