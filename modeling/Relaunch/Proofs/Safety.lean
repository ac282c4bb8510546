/-
  The supervisor never signals itself.

  The command lines of the supervisor and of whatever started it usually hold the very text that is
  searched for, so leaving them out of every search is what keeps the supervisor alive.  Here that is
  said of whole runs: any number of operations, in any order, each carried out on the host that the one
  before it left, whatever came of that one.

  * `perform_spares`: an operation leaves the parts of the host as they are that say who we are, and all
    its signals go to one process, which is not one of our own;
  * `performAll_safe`: so does every operation of a run.
-/
import Relaunch.Proofs.Dealings
import Relaunch.Proofs.Launching

namespace Relaunch

open Relaunch.Host Relaunch.Discovery

/-! ## Operations -/

/-- What the supervisor may be asked to do about a service. -/
inductive Operation
  | retire (query : Query) (patience : Patience)
  | restart (query : Query) (patience : Patience) (plan : LaunchPlan) (health : Option Probe)

/-- The host that an operation leaves. -/
def Operation.perform : Operation → Host → Host
  | .retire query patience, host => left (Retirement.run query patience) host
  | .restart query patience plan health, host => left (Restart.run query patience plan health) host

/-- The host that operations leave, one after the other. -/
def performAll : List Operation → Host → Host
  | [], host => host
  | operation :: rest, host => performAll rest (operation.perform host)

/-- The dealings that each of the operations adds. -/
def deeds : List Operation → Host → List (List Call)
  | [], _ => []
  | operation :: rest, host =>
    (operation.perform host).calls.toList.drop host.calls.size ::
      deeds rest (operation.perform host)

/-! ## Safe dealings -/

/-- The pid that a signal goes to. -/
def signalled? : Call → Option Int
  | .signal pid _ => some pid
  | _ => none

/-- All signals among the dealings go to one process, which is neither the supervisor nor, as far as
these can be told, one of the processes that started it. -/
def Safe (host : Host) (dealings : List Call) : Prop :=
  ∃ target : Option Int, ∀ call ∈ dealings, ∀ pid, signalled? call = some pid →
    target = some pid ∧ pid ≠ host.self ∧ (host.ancestorsFault = none → pid ∉ host.ancestors)

theorem Safe.of_givens {a b : Host} {dealings : List Call} (h : Safe a dealings)
    (givens : a.givens = b.givens) : Safe b dealings := by
  unfold Safe at h ⊢
  rw [← show a.self = b.self from congrArg Givens.self givens,
    ← show a.ancestorsFault = b.ancestorsFault from congrArg Givens.ancestorsFault givens,
    ← show a.ancestors = b.ancestors from congrArg Givens.ancestors givens]
  exact h

/-- Dealings without signals may follow. -/
theorem Safe.append {host : Host} {dealings more : List Call} (h : Safe host dealings)
    (quiet : ∀ call ∈ more, signalled? call = none) : Safe host (dealings ++ more) := by
  obtain ⟨target, hall⟩ := h
  refine ⟨target, fun call hcall pid hpid => ?_⟩
  rcases List.mem_append.mp hcall with hcall | hcall
  · exact hall call hcall pid hpid
  · rw [quiet call hcall] at hpid
    exact absurd hpid (by simp)

/-! ## One operation -/

/-- The host before and after an operation. -/
structure Spared (before after : Host) : Prop where
  givens : after.givens = before.givens
  calls : ∃ more, after.calls.toList = before.calls.toList ++ more ∧ Safe before more

/-- A retirement signals nobody of our own. -/
theorem spared_of_dealings {host after : Host} (h : Retirement.Dealings host after) :
    Spared host after := by
  obtain ⟨searching, farewell, hcalls, hsearching, hfarewell⟩ := h.calls
  refine ⟨h.givens, searching ++ farewell, by rw [hcalls, List.append_assoc], ?_⟩
  have hquiet : ∀ call ∈ searching, signalled? call = none := by
    intro call hcall
    rcases hsearching call hcall with rfl | ⟨seconds, rfl⟩
    · rfl
    · rfl
  -- A retirement that parts from nobody sends no signal at all.
  rcases hfarewell with rfl | ⟨target, howned, hpid⟩
  · rw [List.append_nil]
    refine ⟨none, fun call hcall pid hsignal => ?_⟩
    rw [hquiet call hcall] at hsignal
    exact absurd hsignal (by simp)
  · refine ⟨some target, fun call hcall pid hsignal => ?_⟩
    rcases List.mem_append.mp hcall with hcall | hcall
    · rw [hquiet call hcall] at hsignal
      exact absurd hsignal (by simp)
    · have htarget : target = pid := by
        have hpid := hpid call hcall
        cases call <;> simp_all [Retirement.pid?, signalled?]
      subst htarget
      refine ⟨rfl, fun hself => ?_, fun hknown hancestor => ?_⟩
      · exact howned (hself ▸ self_mem_own host)
      · exact howned (ancestor_mem_own hknown hancestor)

/-- What follows the retirement in a restart signals nobody at all. -/
theorem Spared.finish {host told after : Host} {plan : LaunchPlan} {daemon? : Option Daemon}
    (h : Spared host told) (finishes : Restart.Finishes plan told daemon? after) :
    Spared host after := by
  obtain ⟨more, hmore, hsafe⟩ := h.calls
  obtain ⟨rest, hrest, hall⟩ := finishes.calls
  refine ⟨finishes.givens.trans h.givens, more ++ rest, by rw [hrest, hmore, List.append_assoc],
    hsafe.append fun call hcall => ?_⟩
  rcases hall call hcall with hincidental | rfl
  · cases call <;> simp_all [Call.incidental, signalled?]
  · rfl

theorem Spared.of_alike {host a b : Host} (h : Spared host a) (alike : Alike b a) :
    Spared host b := by
  obtain ⟨more, hmore, hsafe⟩ := h.calls
  exact ⟨(alike.view Host.givens).trans h.givens, more, by rw [alike.view Host.calls, hmore], hsafe⟩

/-- **An operation signals one process at most, and never one of our own.** -/
theorem perform_spares (operation : Operation) (host : Host) :
    Spared host (operation.perform host) := by
  cases operation with
  | retire query patience =>
    refine Ends.left ((Retirement.run_dealings query patience host).imp ?_ ?_)
    · exact fun _ _ h => spared_of_dealings h
    · exact fun _ _ h => spared_of_dealings h
  | restart query patience plan health =>
    refine Ends.left ?_
    rw [Ends, Restart.run_eq]
    rcases (Retirement.run_dealings query patience host).cases with
      ⟨outcome, retired, hran, hdealings⟩ | ⟨f, retired, hran, hdealings⟩
    · rw [hran]
      have htold : Spared host (Restart.announced query outcome retired) :=
        (spared_of_dealings hdealings).of_alike (said_alike ..)
      refine (Restart.finish_ends plan health outcome _).imp (fun _ _ h => ?_) (fun _ _ h => ?_)
      · exact htold.finish h.2
      · obtain ⟨daemon?, hfinishes⟩ := h
        exact htold.finish hfinishes
    · rw [hran]
      exact spared_of_dealings hdealings

/-! ## Whole runs -/

/-- **However many operations there are, none of them signals one of our own**, and each signals one
process at most. -/
theorem performAll_safe (operations : List Operation) (host : Host) :
    (performAll operations host).calls.toList =
        host.calls.toList ++ (deeds operations host).flatten ∧
      (deeds operations host).length = operations.length ∧
      ∀ deed ∈ deeds operations host, Safe host deed := by
  induction operations generalizing host with
  | nil => simp [performAll, deeds]
  | cons operation rest ih =>
    obtain ⟨hgivens, more, hmore, hsafe⟩ := perform_spares operation host
    obtain ⟨hcalls, hlength, hall⟩ := ih (operation.perform host)
    have hdeed : (operation.perform host).calls.toList.drop host.calls.size = more := by
      rw [hmore, ← Array.length_toList, List.drop_left]
    refine ⟨?_, ?_, fun deed hdeed' => ?_⟩
    · rw [performAll, hcalls, deeds, hdeed, hmore, List.flatten_cons, List.append_assoc]
    · rw [deeds, List.length_cons, hlength, List.length_cons]
    · rw [deeds, hdeed] at hdeed'
      rcases List.mem_cons.mp hdeed' with rfl | hmem
      · exact hsafe
      · exact (hall deed hmem).of_givens hgivens

end Relaunch
