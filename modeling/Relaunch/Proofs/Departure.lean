/-
  Departures.

  A process that meets no fault when it is signalled or waited for does leave, whatever it does when it
  is asked to end.  The first search that finds anything leads to it, however many found nothing before
  (`run_ends_found`):

  * `mem_parting_calls_iff`: a process is killed just if it has to be (`Forced`);
  * `run_departs`: the retirement ends the process, and takes nothing else out of the table.
-/
import Relaunch.Proofs.Account
import Relaunch.Proofs.Dealings
import Relaunch.Proofs.Instances
import Relaunch.Proofs.Order

namespace Relaunch.Retirement

open Relaunch.Host Relaunch.Discovery

/-! ## Who has to be killed -/

/-- Does the process only leave when it is killed?  It does without a grace period, and if it neither
ends at once when it is asked to nor within the period. -/
def Forced (process : TableEntry) : (grace : Option Number) → Prop
  | none => True
  | some grace =>
    process.onTerm ≠ .endsAtOnce ∧
      ¬∃ seconds, process.onTerm = .endsWithin seconds ∧ seconds.NoMoreThan grace

theorem diesOn_term_iff {process : TableEntry} :
    diesOn process termSignal = true ↔ process.onTerm = .endsAtOnce := by
  have hother : (termSignal == killSignal) = false := rfl
  rw [diesOn, hother, Bool.false_or, beq_self_eq_true, Bool.true_and]
  cases process.onTerm with
  | endsAtOnce => exact iff_of_true rfl rfl
  | endsWithin seconds => exact iff_of_false Bool.false_ne_true (by simp)
  | ignores => exact iff_of_false Bool.false_ne_true (by simp)

/-- A process that was asked to end does so in time if it needs no more than the grace period. -/
theorem endsWithin_iff {process : TableEntry} {grace : Number} :
    endsWithin process grace = true ↔
      ∃ seconds, process.onTerm = .endsWithin seconds ∧ seconds.NoMoreThan grace := by
  unfold endsWithin
  cases process.onTerm <;> simp [Number.atMost_iff]

section Faultless

variable {process : TableEntry} (deliverable : process.signalFaults = [])
  (awaitable : process.waitFault = none)

include awaitable in
theorem overstays_iff {grace : Number} : Overstays process grace ↔
    ¬∃ seconds, process.onTerm = .endsWithin seconds ∧ seconds.NoMoreThan grace := by
  rw [Overstays, awaitable, ← endsWithin_iff, Bool.not_eq_true]
  simp

include deliverable awaitable in
/-- A process that cannot fail us is killed just if it has to be, and no other process is. -/
theorem mem_parting_calls_iff {grace : Option Number} {pid : Int} :
    .signal pid killSignal ∈ (parting process grace).calls ↔
      pid = process.pid ∧ Forced process grace := by
  have hfarewell := parting_farewell process grace
  generalize (parting process grace).calls = calls at hfarewell ⊢
  have hnumber : killSignal ≠ termSignal := by decide
  cases hfarewell with
  | killed => simp [Forced]
  | asked settled =>
    have hends : process.onTerm = .endsAtOnce := by
      rw [deliverable] at settled
      exact diesOn_term_iff.mp (settled.resolve_left fun h => h rfl)
    simp [Forced, hends, hnumber]
  | awaited delivered lives settled =>
    rw [overstays_iff awaitable, not_not] at settled
    simp [Forced, settled, hnumber]
  | forced delivered lives late =>
    rw [diesOn_term_iff] at lives
    rw [overstays_iff awaitable] at late
    have hforced : Forced process (some _) := ⟨lives, late⟩
    simp [hforced, hnumber]

end Faultless

/-! ## What a retirement does to a process that cannot fail us -/

/-- The retirement on `host` found `target`, with the entry `process`, after `made` searches in vain
that led to `last`; and it is gone. -/
structure Departed (query : Query) (grace : Option Number) (host : Host) (made : Nat) (last : Host)
    (target : Handle) (process : TableEntry) (outcome : Outcome) (after : Host) : Prop where
  outcome_eq : outcome =
    { status := .ended, attempts := (made + 1 : Nat), target, candidates := found query last }
  /-- The table is as the last search saw it, without the entries of that pid. -/
  table : after.processes = last.dueTable.filter fun other => other.pid != target.pid
  /-- The process was killed just if it had to be, and no other was. -/
  killed : ∃ dealings, after.calls.toList = host.calls.toList ++ dealings ∧
    ∀ pid, .signal pid killSignal ∈ dealings ↔ pid = target.pid ∧ Forced process grace

section Departed

variable {query : Query} {patience : Patience} {host last after : Host} {searches made : Nat}
  {target : Handle} {process : TableEntry}
  (chosen : Handle.least? (found query last) = some target)
  (present : last.dueTable.find? (fun entry => entry.pid == target.pid) = some process)
  (deliverable : process.signalFaults = []) (awaitable : process.waitFault = none)

include chosen present in
/-- The process that is parted from is the one that the last search saw. -/
theorem eq_of_present {other : TableEntry}
    (h : (afterSearch last).first? target.pid = some other) : process = other := by
  rw [afterSearch_of_found (Handle.ne_nil_of_least? chosen)] at h
  exact Option.some.inj (present.symm.trans h)

include chosen present deliverable awaitable in
/-- The process that was chosen has gone as it would: at once, in time, or killed. -/
theorem Concludes.departed {outcome : Outcome}
    (earlier : Fruitless query patience.delay host made last)
    (h : Concludes query patience searches made last outcome after) :
    Departed query patience.grace host made last target process outcome after := by
  obtain ⟨process', hpresent, rfl, hleft⟩ := h.of_chosen chosen
  obtain rfl : process = process' := eq_of_present chosen present hpresent
  obtain ⟨hfault, hleaves⟩ := parting_calm deliverable awaitable patience.grace
  have hcalls : after.calls.toList = host.calls.toList ++
      ((List.replicate made (searchCalls host ++ [.sleep patience.delay])).flatten ++
        searchCalls host ++ (parting process patience.grace).calls) := by
    rw [hleft.view Host.calls, parted_calls, earlier.calls_afterSearch]
    simp only [List.append_assoc]
  refine ⟨?_, ?_, _, hcalls, fun pid => ?_⟩
  · rw [outcomeOf, hfault]
    rfl
  · rw [hleft.view Host.processes, parted, hleaves, if_pos rfl,
      afterSearch_of_found (Handle.ne_nil_of_least? chosen)]
    rfl
  · -- Before the parting there were only scans and sleeps.
    have hsearching : .signal pid killSignal ∉ (List.replicate made
        (searchCalls host ++ [.sleep patience.delay])).flatten ++ searchCalls host := by
      intro hcall
      rcases pauses_searching host patience.delay made _ hcall with h | ⟨seconds, h⟩ <;>
        simp at h
    rw [List.mem_append, or_iff_right hsearching, mem_parting_calls_iff deliverable awaitable,
      first?_pid hpresent]

include chosen present deliverable awaitable in
/-- Where no fault meets a signal or the wait, nothing breaks off once a process is chosen. -/
theorem Breaks.not_faultless {f : Fault}
    (h : Breaks query patience searches made last f after) : False := by
  obtain ⟨process', hpresent, hmet, -⟩ := h.of_chosen chosen
  obtain rfl : process = process' := eq_of_present chosen present hpresent
  rw [(parting_calm deliverable awaitable patience.grace).1] at hmet
  exact absurd hmet (by simp)

end Departed

/-- **A process that cannot fail us departs**, whatever it does when it is asked to end, and nothing
else does. -/
theorem run_departs (query : Query) (patience : Patience) (host last : Host) (made : Nat)
    (target : Handle) (process : TableEntry) (some_left : made < patience.searches)
    (earlier : Fruitless query patience.delay host made last)
    (chosen : target ∈ found query last)
    (least : ∀ other ∈ found query last, target.pid ≤ other.pid)
    (present : last.dueTable.find? (fun entry => entry.pid == target.pid) = some process)
    (deliverable : process.signalFaults = []) (awaitable : process.waitFault = none) :
    ∃ outcome after, run query patience host = .ok outcome after ∧
      Departed query patience.grace host made last target process outcome after := by
  have hchosen := (Handle.least?_eq_some_iff (nodup_found query last)).mpr ⟨chosen, least⟩
  rcases (run_ends_found query patience some_left earlier hchosen).cases with
    ⟨outcome, after, hran, hconcludes⟩ | ⟨f, after, -, hbreaks⟩
  · exact ⟨outcome, after, hran, hconcludes.departed hchosen present deliverable awaitable earlier⟩
  · exact (hbreaks.not_faultless hchosen present deliverable awaitable).elim

/-- A process that ends just when the grace period is over. -/
def punctualProcess : TableEntry where
  pid := 7
  commandLine := some ["svc"]
  onTerm := .endsWithin 5

/-- A host on which the service comes up between the first search and the second, under two pids, one
of which has two entries. -/
def punctualHost : Host where
  processes := [{ pid := 3, commandLine := some ["sh"] }]
  changes := [(2, { joining := [punctualProcess, { pid := 8, commandLine := some ["svc"] },
    { pid := 7, commandLine := some ["svc", "-d"], onTerm := .ignores }] })]
  clock := 0

theorem run_departs_punctual :
    Ends (run sampleQuery latePatience) punctualHost
      (fun outcome after => outcome.status = .ended ∧ outcome.attempts = 2 ∧
        after.processes.map (fun entry => entry.pid) = [3, 8] ∧
        ∀ pid, .signal pid killSignal ∉ after.calls.toList)
      (fun _ _ => False) := by
  obtain ⟨last, hvain⟩ : ∃ last, SearchesInVain sampleQuery 2 punctualHost last :=
    exists_searchesInVain (by rw [found_eq]; rfl) (show _ = some (2 : Number) from rfl)
  obtain ⟨-, clock, -, hlast⟩ := hvain.spec
  have htable : last.dueTable = (afterSearch (afterSearch punctualHost)).processes :=
    hlast.view dueTable
  have hfound : found sampleQuery last = [⟨7, "svc", none⟩, ⟨8, "svc", none⟩] := by
    rw [found_eq, hlast.view searchFault?, hlast.view (hits sampleQuery)]
    rfl
  obtain ⟨outcome, after, hran, houtcome, hprocesses, dealings, hcalls, hkilled⟩ :=
    run_departs sampleQuery latePatience punctualHost last 1 ⟨7, "svc", none⟩ punctualProcess
      (by decide) (.more hvain (.none last)) (by rw [hfound]; exact List.mem_cons_self ..)
      (by rw [hfound]; simp) (by rw [htable]; rfl) rfl rfl
  -- The process takes all the time that it has, and no more.
  have hspared : ¬Forced punctualProcess latePatience.grace := fun hforced =>
    hforced.2 ⟨5, rfl, Number.atMost_iff.mp (by decide)⟩
  rw [Ends, hran]
  refine ⟨by rw [houtcome], by rw [houtcome]; rfl, by rw [hprocesses, htable]; rfl, fun pid h => ?_⟩
  rw [hcalls] at h
  exact hspared ((hkilled pid).mp h).2

end Relaunch.Retirement
