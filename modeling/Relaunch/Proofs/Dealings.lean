/-
  With whom a retirement deals.

  A retirement scans and sleeps, and then it may deal with one process, which is not one of our own
  (`run_dealings`).  That holds however it ends and whatever the host does on the way, and it is all that
  a run of many operations needs to know of one of them.  Nothing of the machine changes in it but the
  table and the clock (`run_frame`).
-/
import Relaunch.Proofs.Course

namespace Relaunch.Retirement

open Relaunch.Host Relaunch.Discovery

/-- The dealings of a retirement on `host` that left `after`. -/
structure Dealings (host after : Host) : Prop where
  givens : after.givens = host.givens
  /-- First there are scans and sleeps, and then signals and waits that concern one process. -/
  calls : ∃ searching farewell, after.calls.toList = host.calls.toList ++ searching ++ farewell ∧
    (∀ call ∈ searching, call = .scan ∨ ∃ seconds, call = .sleep seconds) ∧
    (farewell = [] ∨ ∃ pid ∉ own host, ∀ call ∈ farewell, pid? call = some pid)

section Dealings

variable {query : Query} {patience : Patience} {host last after : Host} {searches made : Nat}

/-- Who is one of our own is settled by what a host is given. -/
theorem own_of_givens {a b : Host} (h : a.givens = b.givens) : own a = own b := by
  rw [own, show a.ancestorsFault = b.ancestorsFault from congrArg Givens.ancestorsFault h,
    show a.self = b.self from congrArg Givens.self h,
    show a.ancestors = b.ancestors from congrArg Givens.ancestors h]
  rfl

theorem searchCalls_scan (host : Host) : ∀ call ∈ searchCalls host, call = .scan := by
  unfold searchCalls
  split <;> simp

/-- Searches in vain and one more are nothing but scans and sleeps. -/
theorem pauses_searching (host : Host) (delay : Number) (n : Nat) :
    ∀ call ∈ (List.replicate n (searchCalls host ++ [.sleep delay])).flatten ++ searchCalls host,
      call = .scan ∨ ∃ seconds, call = .sleep seconds := by
  intro call hcall
  rcases List.mem_append.mp hcall with hcall | hcall
  · obtain ⟨calls, hcalls, hcall⟩ := List.mem_flatten.mp hcall
    rw [List.eq_of_mem_replicate hcalls] at hcall
    rcases List.mem_append.mp hcall with hcall | hcall
    · exact .inl (searchCalls_scan host call hcall)
    · exact .inr ⟨delay, List.mem_singleton.mp hcall⟩
  · exact .inl (searchCalls_scan host call hcall)

/-- Nobody that a search finds is one of our own. -/
theorem not_own_of_found {target : Handle} (h : target ∈ found query host) :
    target.pid ∉ own host :=
  (mem_pids_hits.mp (List.mem_map_of_mem (found_subset_hits query host target h))).1

/-- A parting after searches in vain. -/
theorem Dealings.of_parted {target : Handle} {process : TableEntry} {delay : Number}
    {grace : Option Number} (earlier : Fruitless query delay host made last)
    (chosen : Handle.least? (found query last) = some target)
    (present : (afterSearch last).first? target.pid = some process)
    (left : Alike after (parted (afterSearch last) target.pid (parting process grace))) :
    Dealings host after := by
  refine ⟨?_, _, (parting process grace).calls, ?_, pauses_searching host delay made,
    .inr ⟨target.pid, ?_, ?_⟩⟩
  · rw [left.view Host.givens]
    exact (afterSearch_givens last).trans earlier.givens
  · rw [left.view Host.calls, parted_calls, earlier.calls_afterSearch,
      List.append_assoc _ _ (searchCalls host)]
  · rw [← own_of_givens earlier.givens]
    exact not_own_of_found (Handle.least?_mem chosen)
  · rw [← first?_pid present]
    exact (parting_farewell process grace).pid?_eq

/-- A retirement that comes to an outcome found nobody, or dealt with the one that it chose. -/
theorem Concludes.dealings {outcome : Outcome}
    (earlier : Fruitless query patience.delay host made last)
    (h : Concludes query patience searches made last outcome after) : Dealings host after := by
  cases h with
  | exhausted nothing all left =>
    refine ⟨?_, _, [], ?_, pauses_searching host patience.delay made, .inl rfl⟩
    · rw [left.view Host.givens, afterSearch_givens, earlier.givens]
    · rw [left.view Host.calls, earlier.calls_afterSearch, List.append_nil, List.append_assoc]
  | retired chosen present caught left => exact .of_parted earlier chosen present left

/-- So did one that a fault broke off, be it in a pause or while it dealt with that one. -/
theorem Breaks.dealings {f : Fault} (earlier : Fruitless query patience.delay host made last)
    (h : Breaks query patience searches made last f after) : Dealings host after := by
  cases h with
  | clock nothing more stuck left =>
    -- The sleep that broke the retirement off was noted before it failed.
    refine ⟨?_, (List.replicate made (searchCalls host ++ [.sleep patience.delay])).flatten ++
      searchCalls host ++ [.sleep patience.delay], [], ?_, fun call hcall => ?_, .inl rfl⟩
    · rw [left.view Host.givens]
      exact (afterSearch_givens last).trans earlier.givens
    · rw [left.view Host.calls, noted, Array.toList_push, earlier.calls_afterSearch]
      simp only [List.append_assoc, List.append_nil]
    · rcases List.mem_append.mp hcall with hcall | hcall
      · exact pauses_searching host patience.delay made call hcall
      · exact .inr ⟨patience.delay, List.mem_singleton.mp hcall⟩
  | parting chosen present met uncaught left => exact .of_parted earlier chosen present left

end Dealings

/-- **A retirement deals with one process at most, and never with one of our own.** -/
theorem run_dealings (query : Query) (patience : Patience) (host : Host) :
    Ends (run query patience) host (fun _ => Dealings host) (fun _ => Dealings host) := by
  rcases Nat.eq_zero_or_pos patience.searches with hnone | hsome
  · rw [Ends, run_of_no_search query patience host hnone]
    exact ⟨rfl, [], [], by simp, by simp, .inl rfl⟩
  · obtain ⟨made, last, -, earlier, hends⟩ := run_course query patience host hsome
    exact hends.imp (fun _ _ h => h.dealings earlier) (fun _ _ h => h.dealings earlier)

/-! ## What a retirement leaves alone -/

/-- The host with its table, its clock and its dealings as another host has them. -/
def withTableOf (host other : Host) : Host :=
  { host with
    processes := other.processes, scans := other.scans, clock := other.clock, calls := other.calls }

/-- Between the two hosts only the table and the clock changed, apart from what was said. -/
def TableOnly (before after : Host) : Prop := Alike after (withTableOf before after)

namespace TableOnly

variable {a b c : Host}

theorem refl (host : Host) : TableOnly host host := Alike.refl host

theorem trans (h : TableOnly a b) (h' : TableOnly b c) : TableOnly a c :=
  Alike.trans h' (h.step fun host => withTableOf host c)

/-- What was said besides makes no difference. -/
theorem of_alike (h : TableOnly a b) (alike : Alike c b) : TableOnly a c := by
  rw [TableOnly, withTableOf, alike.view Host.processes, alike.view Host.scans,
    alike.view Host.clock, alike.view Host.calls]
  exact alike.trans h

theorem limits (h : TableOnly a b) : b.limits = a.limits := Alike.view h Host.limits

end TableOnly

/-- A search makes the change that is due, and counts as a scan. -/
theorem afterSearch_tableOnly (host : Host) : TableOnly host (afterSearch host) := by
  unfold afterSearch
  split <;> exact Alike.refl _

section Frame

variable {query : Query} {patience : Patience} {host last after : Host} {searches made : Nat}

/-- By induction on the searches in vain: each of them scans, and then the clock goes on. -/
theorem Fruitless.tableOnly {delay : Number} {n : Nat} (h : Fruitless query delay host n after) :
    TableOnly host after := by
  induction h with
  | none host => exact .refl host
  | @more host rested after n first rest ih =>
    obtain ⟨-, clock, -, halike⟩ := first.spec
    have hslept : TableOnly (afterSearch host) ((afterSearch host).slept delay clock) :=
      Alike.refl _
    exact (((afterSearch_tableOnly host).trans hslept).of_alike halike).trans ih

theorem Concludes.tableOnly {outcome : Outcome}
    (h : Concludes query patience searches made last outcome after) : TableOnly last after := by
  cases h with
  | exhausted nothing all left => exact (afterSearch_tableOnly last).of_alike left
  | @retired target process _ chosen present caught left =>
    have hparted : TableOnly (afterSearch last)
        (parted (afterSearch last) target.pid (parting process patience.grace)) := Alike.refl _
    exact ((afterSearch_tableOnly last).trans hparted).of_alike left

theorem Breaks.tableOnly {f : Fault} (h : Breaks query patience searches made last f after) :
    TableOnly last after := by
  cases h with
  | clock nothing more stuck left =>
    have hnoted : TableOnly (afterSearch last) ((afterSearch last).noted (.sleep patience.delay)) :=
      Alike.refl _
    exact ((afterSearch_tableOnly last).trans hnoted).of_alike left
  | @parting target process _ _ chosen present met uncaught left =>
    have hparted : TableOnly (afterSearch last) (parted (afterSearch last) target.pid
        (Retirement.parting process patience.grace)) := Alike.refl _
    exact ((afterSearch_tableOnly last).trans hparted).of_alike left

end Frame

/-- **A retirement changes nothing of the machine but the table and the clock.** -/
theorem run_frame (query : Query) (patience : Patience) : Keeps TableOnly (run query patience) := by
  intro host
  rcases Nat.eq_zero_or_pos patience.searches with hnone | hsome
  · rw [Ends, run_of_no_search query patience host hnone]
    exact .refl host
  · obtain ⟨made, last, -, earlier, hends⟩ := run_course query patience host hsome
    exact hends.imp (fun _ _ h => earlier.tableOnly.trans h.tableOnly)
      (fun _ _ h => earlier.tableOnly.trans h.tableOnly)

end Relaunch.Retirement
