/-
  The course of a retirement.

  Every retirement is a number of searches that find nothing, each followed by a pause, and then one
  last search.  `Fruitless` is the first part, said with the steps of the program itself.  The last
  search concludes the retirement in one of two ways (`Concludes`): it finds nothing either, and there
  are no more searches to make, or it finds something, and the process with the least pid is parted
  from.  Or it breaks the retirement off (`Breaks`): the clock cannot take the pause that would
  follow, or the parting meets a fault that nobody expects.

  `run_course` says that there is no other course.  What a retirement does to the machine, how often
  it searches and what comes of it all follow from that, without opening the loop again.
-/
import Relaunch.Proofs.Parting
import Relaunch.Proofs.Search

namespace Relaunch

/-! ## What no session changes -/

/-- The parts of a host that stay as they are. -/
structure Givens where
  self : Int
  ancestors : List Int
  ancestorsFault : Option Fault
  changes : List (Nat × TableChange)
  executables : List (String × SpawnResponse)

/-- The parts of the host that stay as they are. -/
def Host.givens (host : Host) : Givens :=
  ⟨host.self, host.ancestors, host.ancestorsFault, host.changes, host.executables⟩

namespace Retirement

open Relaunch.Host Relaunch.Discovery

/-! ## One search -/

/-- What a search on the host finds: nothing if it fails. -/
def found (query : Query) (host : Host) : List Handle :=
  match Discovery.find query host with
  | .ok handles _ => handles
  | .error _ _ => []

theorem found_eq (query : Query) (host : Host) :
    found query host = if (searchFault? host).isSome then [] else hits query host := by
  rcases (find_ends query host).cases with
    ⟨handles, after, hrun, hfault, hhits, -⟩ | ⟨f, after, hrun, hfault, -⟩
  · rw [found, hrun, hfault]
    exact hhits
  · rw [found, hrun, hfault]
    rfl

theorem found_subset_hits (query : Query) (host : Host) : ∀ handle ∈ found query host,
    handle ∈ hits query host := by
  intro handle hmem
  rw [found_eq] at hmem
  split at hmem
  · exact absurd hmem List.not_mem_nil
  · exact hmem

theorem searchOnce_ends (query : Query) (host : Host) :
    Ends (searchOnce query) host
      (fun handles after => handles = found query host ∧ Alike after (afterSearch host))
      (fun _ _ => False) := by
  rw [searchOnce, ends_tryCatch, found_eq]
  refine (find_ends query host).imp (fun handles after h => ?_) (fun f after h => ?_)
  · obtain ⟨hfault, rfl, hafter⟩ := h
    rw [hfault]
    exact ⟨rfl, hafter⟩
  · rw [ends_bind, ends_say, ends_pure, h.1]
    exact ⟨rfl, (said_alike ..).trans h.2⟩

/-- What a search finds has one handle for each pid. -/
theorem nodup_found (query : Query) (host : Host) : (Handle.pids (found query host)).Nodup := by
  rw [found_eq]
  split
  · exact List.nodup_nil
  · exact Handle.nodup_distinct _

/-- A search that finds something was not broken off before its scan. -/
theorem afterSearch_of_found {query : Query} {host : Host} (something : found query host ≠ []) :
    afterSearch host = host.afterScan := by
  rw [found_eq] at something
  have hclear : searchFault? host = none := by
    by_contra hmet
    rw [Option.isSome_iff_ne_none.mpr hmet] at something
    exact something rfl
  have hlookup : lookupFault? host = none := (Option.or_eq_none_iff.mp hclear).1
  rw [afterSearch, hlookup]
  rfl

/-- What a search finds is in the table that it leaves. -/
theorem exists_first?_of_found {query : Query} {host : Host} {handle : Handle}
    (hmem : handle ∈ found query host) :
    ∃ process, (afterSearch host).first? handle.pid = some process := by
  have hpid : handle.pid ∈ Handle.pids (hits query host) :=
    List.mem_map_of_mem (found_subset_hits query host handle hmem)
  obtain ⟨-, process, hprocess, hpid, -⟩ := mem_pids_hits.mp hpid
  rw [afterSearch_of_found (List.ne_nil_of_mem hmem), ← hpid]
  exact exists_first? (show process ∈ host.afterScan.processes from hprocess)

theorem afterSearch_givens (host : Host) : (afterSearch host).givens = host.givens := by
  unfold afterSearch
  split <;> rfl

/-- A search takes no time. -/
theorem clock_of_searched {searched host : Host} (h : Alike searched (afterSearch host)) :
    searched.clock = host.clock := by
  rw [h.view Host.clock, afterSearch]
  split <;> rfl

/-! ## Searches that find nothing -/

/-- A search that finds nothing, says so, and pauses. -/
def SearchesInVain (query : Query) (delay : Number) (host rested : Host) : Prop :=
  ∃ searched told, searchOnce query host = .ok [] searched ∧
    Host.say .info speaker ("No " ++ query.pattern ++ " process") searched = .ok () told ∧
    Host.sleep delay told = .ok () rested

/-- `Fruitless query delay host n after`: on `host`, `n` searches in a row find nothing, each of them
followed by a pause, and that leads to `after`. -/
inductive Fruitless (query : Query) (delay : Number) : Host → Nat → Host → Prop
  | none (host : Host) : Fruitless query delay host 0 host
  | more {host rested after : Host} {n : Nat} (first : SearchesInVain query delay host rested)
      (rest : Fruitless query delay rested n after) : Fruitless query delay host (n + 1) after

/-- What a search in vain comes to: it leaves the host searched and slept on. -/
theorem SearchesInVain.spec {query : Query} {delay : Number} {host rested : Host}
    (h : SearchesInVain query delay host rested) :
    found query host = [] ∧ ∃ clock, host.clock.add? delay = some clock ∧
      Alike rested ((afterSearch host).slept delay clock) := by
  obtain ⟨searched, told, hsearch, htell, hpause⟩ := h
  obtain ⟨hfound, hsearched⟩ := (searchOnce_ends query host).of_ok hsearch
  have htold : told = said .info speaker ("No " ++ query.pattern ++ " process") searched := by
    injection htell with _ heq
    exact heq.symm
  have halike : Alike told (afterSearch host) := htold ▸ (said_alike ..).trans hsearched
  have hclock := clock_of_searched halike
  have hsleep : Ends (Host.sleep delay) told
      (fun _ after => ∃ clock, told.clock.add? delay = some clock ∧ after = told.slept delay clock)
      (fun _ _ => True) :=
    ends_sleep.mpr ⟨fun clock h => ⟨clock, h, rfl⟩, fun _ => trivial⟩
  obtain ⟨clock, hadd, rfl⟩ := hsleep.of_ok hpause
  exact ⟨hfound.symm, clock, hclock ▸ hadd, halike.step fun host => host.slept delay clock⟩

/-- A step of the program is a function, so a search in vain leads to one host. -/
theorem SearchesInVain.unique {query : Query} {delay : Number} {host a b : Host}
    (h : SearchesInVain query delay host a) (h' : SearchesInVain query delay host b) : a = b := by
  obtain ⟨searched, told, hsearch, htell, hpause⟩ := h
  obtain ⟨searched', told', hsearch', htell', hpause'⟩ := h'
  obtain rfl : searched = searched' := by
    rw [hsearch] at hsearch'
    injection hsearch'
  obtain rfl : told = told' := by
    rw [htell] at htell'
    injection htell'
  rw [hpause] at hpause'
  injection hpause'

namespace Fruitless

variable {query : Query} {delay : Number} {host after : Host} {n : Nat}

theorem givens (h : Fruitless query delay host n after) : after.givens = host.givens := by
  induction h with
  | none host => rfl
  | @more host rested after n first rest ih =>
    obtain ⟨-, clock, -, halike⟩ := first.spec
    rw [ih, halike.view Host.givens]
    exact afterSearch_givens host

/-- Every search has the same dealings. -/
theorem searchCalls_eq (h : Fruitless query delay host n after) :
    searchCalls after = searchCalls host := by
  rw [searchCalls, lookupFault?, show after.ancestorsFault = host.ancestorsFault from
    congrArg Givens.ancestorsFault h.givens]
  rfl

/-- The dealings of fruitless searches: each search is followed by one pause. -/
theorem calls (h : Fruitless query delay host n after) :
    after.calls.toList = host.calls.toList ++
      (List.replicate n (searchCalls host ++ [.sleep delay])).flatten := by
  induction h with
  | none host => simp
  | @more host rested after n first rest ih =>
    obtain ⟨-, clock, -, halike⟩ := first.spec
    have hrested : rested.calls.toList =
        host.calls.toList ++ (searchCalls host ++ [.sleep delay]) := by
      rw [halike.view Host.calls, slept, Array.toList_push, afterSearch_calls, List.append_assoc]
    have hsame : searchCalls rested = searchCalls host := (more first (none rested)).searchCalls_eq
    rw [ih, hrested, hsame, List.replicate_succ, List.flatten_cons, List.append_assoc]

/-- The dealings of fruitless searches and of one more search. -/
theorem calls_afterSearch (h : Fruitless query delay host n after) :
    (afterSearch after).calls.toList = host.calls.toList ++
      (List.replicate n (searchCalls host ++ [.sleep delay])).flatten ++ searchCalls host := by
  rw [Discovery.afterSearch_calls, h.calls, h.searchCalls_eq]

/-- The searches that were made are determined by their number. -/
theorem unique {other : Host} (h : Fruitless query delay host n after)
    (h' : Fruitless query delay host n other) : after = other := by
  induction h with
  | none host =>
    cases h'
    rfl
  | more first rest ih =>
    cases h' with
    | more first' rest' =>
      obtain rfl := first.unique first'
      exact ih rest'

/-- More searches go on from where fewer of them led. -/
theorem goesOn {m : Nat} {before : Host} (h : Fruitless query delay host m before)
    (h' : Fruitless query delay host n after) (hlt : m < n) :
    ∃ rested, SearchesInVain query delay before rested := by
  induction h generalizing n with
  | none host =>
    cases h' with
    | none => omega
    | more first rest => exact ⟨_, first⟩
  | more first rest ih =>
    cases h' with
    | none => omega
    | more first' rest' =>
      obtain rfl := first.unique first'
      exact ih rest' (by omega)

/-- A search that finds something is not among the searches in vain. -/
theorem not_all_in_vain {m : Nat} (h : Fruitless query delay host n after)
    (something : found query after ≠ []) (hle : n ≤ m) :
    ¬∃ last, Fruitless query delay host m last ∧ found query last = [] := by
  rintro ⟨last, hlast, hnothing⟩
  -- Either it would be the last of them, or one after which they go on.
  rcases Nat.eq_or_lt_of_le hle with rfl | hlt
  · rw [← h.unique hlast] at hnothing
    exact something hnothing
  · obtain ⟨rested, hvain⟩ := h.goesOn hlast hlt
    exact something hvain.spec.1

end Fruitless

/-! ## The last search -/

/-- The outcome of a retirement that found a process. -/
def outcomeOf (made : Nat) (target : Handle) (candidates : List Handle) (parting : Parting) :
    Outcome where
  status := if parting.fault.isNone then .ended else .notDelivered
  attempts := (made + 1 : Nat)
  target := some target
  candidates

/-- How the last search, after `made` others, concludes a retirement that takes `searches` of them. -/
inductive Concludes (query : Query) (patience : Patience) (searches made : Nat) (last : Host) :
    Outcome → Host → Prop
  /-- It finds nothing, and there are no more searches. -/
  | exhausted {after : Host} (nothing : found query last = []) (all : made + 1 = searches)
      (left : Alike after (afterSearch last)) :
      Concludes query patience searches made last
        { status := .notFound, attempts := (made + 1 : Nat) } after
  /-- It finds processes, and the one with the least pid is parted from. -/
  | retired {target : Handle} {process : TableEntry} {after : Host}
      (chosen : Handle.least? (found query last) = some target)
      (present : (afterSearch last).first? target.pid = some process)
      (caught : ∀ f, (parting process patience.grace).fault = some f → f.isSystemFault = true)
      (left : Alike after
        (parted (afterSearch last) target.pid (parting process patience.grace))) :
      Concludes query patience searches made last
        (outcomeOf made target (found query last) (parting process patience.grace)) after

/-- How the last search, after `made` others, breaks off a retirement that takes `searches` of them. -/
inductive Breaks (query : Query) (patience : Patience) (searches made : Nat) (last : Host) :
    Fault → Host → Prop
  /-- It finds nothing, and the clock cannot take the pause before the next one. -/
  | clock {after : Host} (nothing : found query last = []) (more : made + 1 < searches)
      (stuck : last.clock.add? patience.delay = none)
      (left : Alike after ((afterSearch last).noted (.sleep patience.delay))) :
      Breaks query patience searches made last .intTooLarge after
  /-- It finds processes, and the parting from the chosen one meets a fault that is not caught. -/
  | parting {target : Handle} {process : TableEntry} {f : Fault} {after : Host}
      (chosen : Handle.least? (found query last) = some target)
      (present : (afterSearch last).first? target.pid = some process)
      (met : (parting process patience.grace).fault = some f)
      (uncaught : f.isSystemFault = false)
      (left : Alike after
        (parted (afterSearch last) target.pid (parting process patience.grace))) :
      Breaks query patience searches made last f after

section Chosen

variable {query : Query} {patience : Patience} {searches made : Nat} {last after : Host}
  {target : Handle}

/-- A search that finds something concludes a retirement with a parting. -/
theorem Concludes.of_chosen {outcome : Outcome}
    (chosen : Handle.least? (found query last) = some target)
    (h : Concludes query patience searches made last outcome after) :
    ∃ process, (afterSearch last).first? target.pid = some process ∧
      outcome = outcomeOf made target (found query last) (parting process patience.grace) ∧
      Alike after (parted (afterSearch last) target.pid (parting process patience.grace)) := by
  cases h with
  | exhausted nothing => exact absurd nothing (Handle.ne_nil_of_least? chosen)
  | @retired other process _ chosen' present caught left =>
    obtain rfl : target = other := Option.some.inj (chosen.symm.trans chosen')
    exact ⟨process, present, rfl, left⟩

/-- A search that finds something breaks a retirement off in a parting. -/
theorem Breaks.of_chosen {f : Fault} (chosen : Handle.least? (found query last) = some target)
    (h : Breaks query patience searches made last f after) :
    ∃ process, (afterSearch last).first? target.pid = some process ∧
      (Retirement.parting process patience.grace).fault = some f ∧ Alike after
        (parted (afterSearch last) target.pid (Retirement.parting process patience.grace)) := by
  cases h with
  | clock nothing => exact absurd nothing (Handle.ne_nil_of_least? chosen)
  | @parting other process _ _ chosen' present met uncaught left =>
    obtain rfl : target = other := Option.some.inj (chosen.symm.trans chosen')
    exact ⟨process, present, met, left⟩

end Chosen

/-! ## The whole course -/

theorem announceOthers_ends (query : Query) (target : Handle) (candidates : List Handle)
    (host : Host) :
    Ends (announceOthers query target candidates) host (fun _ after => Alike after host)
      (fun _ _ => False) := by
  unfold announceOthers
  split
  · exact .refl host
  · exact said_alike ..

theorem retire_ends (query : Query) (patience : Patience) (made : Nat) (target : Handle)
    (candidates : List Handle) (host : Host) {process : TableEntry}
    (present : host.first? target.pid = some process) :
    Ends (retire query patience (made + 1) target candidates) host
      (fun outcome after =>
        outcome = outcomeOf made target candidates (parting process patience.grace) ∧
        (∀ f, (parting process patience.grace).fault = some f → f.isSystemFault = true) ∧
        Alike after (parted host target.pid (parting process patience.grace)))
      (fun f after => (parting process patience.grace).fault = some f ∧ f.isSystemFault = false ∧
        Alike after (parted host target.pid (parting process patience.grace))) := by
  simp only [retire, ends_bind, ends_say, ends_pure]
  refine (announceOthers_ends query target candidates host).imp (fun _ announced h => ?_)
    (fun _ _ h => h.elim)
  have halike := (said_alike .info speaker
    ("Found " ++ query.pattern ++ " process: " ++ toString target.pid) announced).trans h
  have hpresent := (halike.view fun host => host.first? target.pid).trans present
  have hparted := halike.step fun host =>
    parted host target.pid (parting process patience.grace)
  refine (tryToEnd_ends query patience.grace hpresent).imp (fun delivered after h => ?_)
    (fun f after h => ⟨h.1, h.2.1, h.2.2.trans hparted⟩)
  obtain ⟨rfl, hcaught, hafter⟩ := h
  exact ⟨rfl, hcaught, hafter.trans hparted⟩

/-- A search that finds something is the last one. -/
theorem search_ends_found (query : Query) (patience : Patience) (searches remaining made : Nat)
    (host : Host) {target : Handle} (chosen : Handle.least? (found query host) = some target) :
    Ends (search query patience (remaining + 1) made) host
      (Concludes query patience searches made host) (Breaks query patience searches made host) := by
  rw [search, ends_bind]
  refine (searchOnce_ends query host).imp (fun handles searched h => ?_) (fun _ _ h => h.elim)
  obtain ⟨rfl, hsearched⟩ := h
  obtain ⟨process, hprocess⟩ := exists_first?_of_found (Handle.least?_mem chosen)
  have hpresent := (hsearched.view fun host => host.first? target.pid).trans hprocess
  have hparted := hsearched.step fun host =>
    parted host target.pid (parting process patience.grace)
  simp only [chosen]
  refine (retire_ends query patience made target _ searched hpresent).imp
    (fun outcome after h => ?_) (fun f after h => ?_)
  · obtain ⟨rfl, hcaught, hafter⟩ := h
    exact .retired chosen hprocess hcaught (hafter.trans hparted)
  · exact .parting chosen hprocess h.1 h.2.1 (h.2.2.trans hparted)

/-- The last search that there is ends the matter even if it finds nothing. -/
theorem search_ends_exhausted (query : Query) (patience : Patience) (made : Nat) (host : Host)
    (nothing : found query host = []) :
    Ends (search query patience 1 made) host
      (Concludes query patience (made + 1) made host)
      (Breaks query patience (made + 1) made host) := by
  rw [search, ends_bind]
  refine (searchOnce_ends query host).imp (fun handles searched h => ?_) (fun _ _ h => h.elim)
  obtain ⟨rfl, hsearched⟩ := h
  simp only [nothing, Handle.least?, if_true, ends_bind, ends_say, ends_pure, search]
  exact .exhausted nothing rfl ((said_alike ..).trans hsearched)

/-- A pause that the clock cannot take breaks the search off. -/
theorem search_ends_stuck (query : Query) (patience : Patience) (searches remaining made : Nat)
    (host : Host) (nothing : found query host = []) (more : made + 1 < searches)
    (stuck : host.clock.add? patience.delay = none) :
    Ends (search query patience (remaining + 2) made) host
      (Concludes query patience searches made host) (Breaks query patience searches made host) := by
  rw [search, ends_bind]
  refine (searchOnce_ends query host).imp (fun handles searched h => ?_) (fun _ _ h => h.elim)
  obtain ⟨rfl, hsearched⟩ := h
  have halike := (said_alike .info speaker ("No " ++ query.pattern ++ " process") searched).trans
    hsearched
  have hclock := clock_of_searched halike
  simp only [nothing, Handle.least?, ends_bind, ends_say]
  rw [if_neg (Nat.succ_ne_zero remaining), ends_bind, ends_sleep, hclock]
  refine ⟨fun clock h => ?_, fun _ => ?_⟩
  · rw [stuck] at h
    exact absurd h (by simp)
  · exact .clock nothing more stuck (halike.step (noted _))

theorem exists_searchesInVain {query : Query} {delay clock : Number} {host : Host}
    (nothing : found query host = []) (goes : host.clock.add? delay = some clock) :
    ∃ rested, SearchesInVain query delay host rested := by
  obtain ⟨handles, searched, hsearch, rfl, hsearched⟩ := (searchOnce_ends query host).exists_ok
  rw [nothing] at hsearch
  have halike := (said_alike .info speaker ("No " ++ query.pattern ++ " process") searched).trans
    hsearched
  have hclock := clock_of_searched halike
  have hsleep : Ends (Host.sleep delay)
      (said .info speaker ("No " ++ query.pattern ++ " process") searched)
      (fun _ _ => True) (fun _ _ => False) := by
    rw [ends_sleep, hclock, goes]
    exact ⟨fun _ _ => trivial, fun h => by simp at h⟩
  obtain ⟨_, rested, hpause, -⟩ := hsleep.exists_ok
  exact ⟨rested, searched, _, hsearch, rfl, hpause⟩

/-- After a search in vain the rest of the searches go on. -/
theorem search_eq_of_vain {query : Query} {patience : Patience} {remaining made : Nat}
    {host rested : Host} (h : SearchesInVain query patience.delay host rested) :
    search query patience (remaining + 2) made host =
      search query patience (remaining + 1) (made + 1) rested := by
  obtain ⟨searched, told, hsearch, htell, hpause⟩ := h
  rw [search]
  simp only [bind, EStateM.bind, hsearch, Handle.least?, htell, Nat.succ_ne_zero, if_false, hpause]

/-- The searches still to be made run a course of their own. -/
theorem search_course (query : Query) (patience : Patience) :
    ∀ (remaining made : Nat) (host : Host), ∃ n last, n < remaining + 1 ∧
      Fruitless query patience.delay host n last ∧
      Ends (search query patience (remaining + 1) made) host
        (Concludes query patience (made + remaining + 1) (made + n) last)
        (Breaks query patience (made + remaining + 1) (made + n) last) := by
  intro remaining
  induction remaining with
  | zero =>
    intro made host
    refine ⟨0, host, Nat.zero_lt_one, .none host, ?_⟩
    cases hfound : Handle.least? (found query host) with
    | some target => exact search_ends_found query patience _ 0 made host hfound
    | none => exact search_ends_exhausted query patience made host (Handle.least?_eq_none.mp hfound)
  | succ remaining ih =>
    intro made host
    -- A search that finds something is the last; one that does not hands on to the rest of them,
    -- unless the clock stops it.
    cases hfound : Handle.least? (found query host) with
    | some target =>
      exact ⟨0, host, Nat.succ_pos _, .none host,
        search_ends_found query patience _ _ made host hfound⟩
    | none =>
      have hnothing := Handle.least?_eq_none.mp hfound
      cases hclock : host.clock.add? patience.delay with
      | none =>
        refine ⟨0, host, Nat.succ_pos _, .none host, ?_⟩
        exact search_ends_stuck query patience _ remaining made host hnothing (by omega) hclock
      | some clock =>
        obtain ⟨rested, hvain⟩ := exists_searchesInVain hnothing hclock
        obtain ⟨n, last, hn, hfruitless, hends⟩ := ih (made + 1) rested
        refine ⟨n + 1, last, by omega, .more hvain hfruitless, ?_⟩
        rw [Ends, search_eq_of_vain hvain]
        rw [show made + (remaining + 1) + 1 = made + 1 + remaining + 1 by omega,
          show made + (n + 1) = made + 1 + n by omega]
        exact hends

/-- **The course of a retirement**: fruitless searches, and a last one that concludes it or breaks it
off. -/
theorem run_course (query : Query) (patience : Patience) (host : Host)
    (some_search : 0 < patience.searches) :
    ∃ made last, made < patience.searches ∧ Fruitless query patience.delay host made last ∧
      Ends (run query patience) host (Concludes query patience patience.searches made last)
        (Breaks query patience patience.searches made last) := by
  obtain ⟨remaining, hremaining⟩ := Nat.exists_eq_succ_of_ne_zero (Nat.ne_of_gt some_search)
  obtain ⟨n, last, hn, hfruitless, hends⟩ := search_course query patience remaining 0 host
  rw [Nat.zero_add, Nat.zero_add] at hends
  rw [run, hremaining]
  exact ⟨n, last, hn, hfruitless, hends⟩

/-- After searches in vain, whatever their number, the rest of the searches go on. -/
theorem search_eq_of_fruitless {query : Query} {patience : Patience} {host last : Host} {n : Nat}
    (h : Fruitless query patience.delay host n last) : ∀ remaining made : Nat,
    search query patience (n + remaining + 1) made host =
      search query patience (remaining + 1) (made + n) last := by
  induction h with
  | none host =>
    intro remaining made
    rw [Nat.zero_add]
    rfl
  | @more host rested after n first rest ih =>
    intro remaining made
    rw [show n + 1 + remaining + 1 = n + remaining + 2 by omega, search_eq_of_vain first, ih,
      show made + 1 + n = made + (n + 1) by omega]

/-- The first search that finds anything is the last of a retirement. -/
theorem run_ends_found (query : Query) (patience : Patience) {host last : Host} {made : Nat}
    {target : Handle} (some_left : made < patience.searches)
    (earlier : Fruitless query patience.delay host made last)
    (chosen : Handle.least? (found query last) = some target) :
    Ends (run query patience) host (Concludes query patience patience.searches made last)
      (Breaks query patience patience.searches made last) := by
  obtain ⟨remaining, hsearches⟩ : ∃ remaining, patience.searches = made + remaining + 1 :=
    ⟨patience.searches - made - 1, by omega⟩
  have hrun : run query patience host = search query patience (remaining + 1) made last := by
    rw [run, hsearches, search_eq_of_fruitless earlier, Nat.zero_add]
  rw [Ends, hrun]
  exact search_ends_found query patience patience.searches remaining made last chosen

/-- Bounds that allow no search at all leave the host alone. -/
theorem run_of_no_search (query : Query) (patience : Patience) (host : Host)
    (none_allowed : patience.searches = 0) :
    run query patience host = .ok { status := .notFound, attempts := 0 } host := by
  rw [run, none_allowed]
  rfl

end Retirement

end Relaunch
