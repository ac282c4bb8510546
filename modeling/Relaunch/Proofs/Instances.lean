/-
  The instances of a service, and what a retirement does to them.

  The instances are the pids, apart from our own, of the processes whose command line the query accepts.
  On a calm host, where every pid stands once in the table, nothing fails and nobody else comes or
  goes, a retirement takes the least of them out of the table and changes nothing else, whether it asks
  or kills (`run_calm`).

  * `mem_pids_found`: on a calm host a search finds the instances;
  * `parting_calm`: on a calm host a parting ends the process, in whichever of three ways;
  * `withoutLeast`: what is left, and `card_withoutLeast` its number.
-/
import Relaunch.Proofs.Dealings
import Mathlib.Data.Finset.Card
import Mathlib.Data.Finset.Max

namespace Relaunch

open Relaunch.Host Relaunch.Discovery

/-! ## All but the least -/

/-- The numbers but for the least one: those above some other. -/
def withoutLeast (pids : Finset Int) : Finset Int :=
  pids.filter fun pid => ∃ other ∈ pids, other < pid

/-- A set without its least element loses that one alone. -/
theorem mem_withoutLeast {pids : Finset Int} {least : Int} (hmem : least ∈ pids)
    (hle : ∀ other ∈ pids, least ≤ other) {pid : Int} :
    pid ∈ withoutLeast pids ↔ pid ∈ pids ∧ pid ≠ least := by
  rw [withoutLeast, Finset.mem_filter]
  constructor
  · rintro ⟨hpid, other, hother, hlt⟩
    have := hle other hother
    exact ⟨hpid, by omega⟩
  · rintro ⟨hpid, hne⟩
    have := hle pid hpid
    exact ⟨hpid, least, hmem, by omega⟩

/-- Without the least of them there is one less, if there was one. -/
theorem card_withoutLeast (pids : Finset Int) : (withoutLeast pids).card = pids.card - 1 := by
  rcases pids.eq_empty_or_nonempty with rfl | hnonempty
  · rfl
  · -- The numbers above some other are those that are not the minimum.
    have herase : withoutLeast pids = pids.erase (pids.min' hnonempty) := by
      ext pid
      rw [mem_withoutLeast (pids.min'_mem hnonempty) fun other => pids.min'_le other,
        Finset.mem_erase]
      exact and_comm
    rw [herase, Finset.card_erase_of_mem (pids.min'_mem hnonempty)]

/-! ## Instances -/

/-- Is the process an instance of the service, and not one of our own? -/
def isInstance (query : Query) (host : Host) (process : TableEntry) : Bool :=
  !(own host).contains process.pid &&
    query.accepts (shownCommandLine process.commandLine process.name)

/-- The pids of the instances of a service. -/
def instances (query : Query) (host : Host) : Finset Int :=
  ((host.processes.filter (isInstance query host)).map (·.pid)).toFinset

/-- The processes that are no instances of the service. -/
def others (query : Query) (host : Host) : List TableEntry :=
  host.processes.filter fun process => !isInstance query host process

/-- The processes that a retirement leaves: all but the instance with the least pid. -/
def survivors (query : Query) (host : Host) : List TableEntry :=
  host.processes.filter fun process =>
    decide (process.pid ∈ instances query host → process.pid ∈ withoutLeast (instances query host))

section Instances

variable {query : Query} {host after : Host} {pid : Int}

theorem mem_instances :
    pid ∈ instances query host ↔
      ∃ process ∈ host.processes, isInstance query host process = true ∧ process.pid = pid := by
  simp [instances, and_assoc]

theorem isInstance_givens (h : after.givens = host.givens) :
    isInstance query after = isInstance query host := by
  unfold isInstance
  rw [Retirement.own_of_givens h]

/-- Everything stays but the instance with the least pid. -/
theorem mem_survivors {process : TableEntry} :
    process ∈ survivors query host ↔ process ∈ host.processes ∧
      (process.pid ∈ instances query host → process.pid ∈ withoutLeast (instances query host)) := by
  rw [survivors, List.mem_filter, decide_eq_true_iff]

/-- Without instances everybody survives. -/
theorem survivors_of_empty (h : instances query host = ∅) :
    survivors query host = host.processes := by
  rw [survivors, List.filter_eq_self]
  intro process _
  simp [h]

/-- Who is not the least instance survives. -/
theorem survivors_of_least {least : Int} (hmem : least ∈ instances query host)
    (hle : ∀ other ∈ instances query host, least ≤ other) :
    survivors query host = host.processes.filter fun process => process.pid != least := by
  rw [survivors]
  refine List.filter_congr fun process hprocess => ?_
  rw [Bool.eq_iff_iff, decide_eq_true_iff, mem_withoutLeast hmem hle, bne_iff_ne]
  constructor
  · rintro hsurvives rfl
    exact (hsurvives hmem).2 rfl
  · intro hne hpid
    exact ⟨hpid, hne⟩

/-- The instances among the survivors. -/
theorem instances_survivors (hgivens : after.givens = host.givens)
    (hprocesses : after.processes = survivors query host) :
    instances query after = withoutLeast (instances query host) := by
  ext pid
  rw [mem_instances, hprocesses, isInstance_givens hgivens]
  constructor
  · rintro ⟨process, hprocess, hinstance, rfl⟩
    obtain ⟨hmem, hsurvives⟩ := mem_survivors.mp hprocess
    exact hsurvives (mem_instances.mpr ⟨process, hmem, hinstance, rfl⟩)
  · intro hpid
    have hinstance := (Finset.mem_filter.mp hpid).1
    obtain ⟨process, hprocess, haccepted, rfl⟩ := mem_instances.mp hinstance
    exact ⟨process, mem_survivors.mpr ⟨hprocess, fun _ => hpid⟩, haccepted, rfl⟩

end Instances

/-! ## Calm hosts -/

/-- Every pid stands once in the table, no process can fail us, and nobody else changes the table. -/
structure Calm (host : Host) : Prop where
  distinct : (host.processes.map (·.pid)).Nodup
  readable : ∀ process ∈ host.processes, process.unreadable = none
  deliverable : ∀ process ∈ host.processes, process.signalFaults = []
  awaitable : ∀ process ∈ host.processes, process.waitFault = none
  known : host.ancestorsFault = none
  steady : host.changes = []

namespace Calm

variable {query : Query} {host after : Host} {pid : Int}

theorem of_same (h : Calm host) (givens : after.givens = host.givens)
    (processes : after.processes = host.processes) : Calm after where
  distinct := processes ▸ h.distinct
  readable := processes ▸ h.readable
  deliverable := processes ▸ h.deliverable
  awaitable := processes ▸ h.awaitable
  known := (congrArg Givens.ancestorsFault givens).trans h.known
  steady := (congrArg Givens.changes givens).trans h.steady

/-- A host stays calm when processes leave. -/
theorem of_sublist (h : Calm host) (givens : after.givens = host.givens)
    (processes : after.processes.Sublist host.processes) : Calm after where
  distinct := h.distinct.sublist (processes.map _)
  readable process hmem := h.readable process (processes.subset hmem)
  deliverable process hmem := h.deliverable process (processes.subset hmem)
  awaitable process hmem := h.awaitable process (processes.subset hmem)
  known := (congrArg Givens.ancestorsFault givens).trans h.known
  steady := (congrArg Givens.changes givens).trans h.steady

/-- No change is due on a calm host, so a scan finds the table as it is. -/
theorem dueTable (h : Calm host) : host.dueTable = host.processes := by
  rw [Host.dueTable, Host.dueChange, h.steady]
  rfl

theorem lookupFault? (h : Calm host) : lookupFault? host = none := by
  rw [Discovery.lookupFault?, h.known]
  rfl

/-- Nothing fails a search on a calm host. -/
theorem searchFault? (h : Calm host) : searchFault? host = none := by
  have hread : readFault? host.processes = none := by
    rw [readFault?, List.findSome?_eq_none_iff]
    intro process hmem
    rw [h.readable process hmem]
    rfl
  rw [Discovery.searchFault?, h.lookupFault?, h.dueTable, hread, dueFault, dueChange, h.steady]
  rfl

theorem found_eq_hits (h : Calm host) : Retirement.found query host = hits query host := by
  rw [Retirement.found_eq, h.searchFault?]
  rfl

/-- On a calm host a search finds the instances. -/
theorem mem_pids_found (h : Calm host) :
    pid ∈ Handle.pids (Retirement.found query host) ↔ pid ∈ instances query host := by
  rw [h.found_eq_hits, mem_pids_hits, h.dueTable, mem_instances]
  simp only [isInstance, Bool.and_eq_true, Bool.not_eq_true', List.contains_eq_mem,
    decide_eq_false_iff_not]
  constructor
  · rintro ⟨hown, process, hmem, rfl, -, haccepts⟩
    exact ⟨process, hmem, ⟨hown, haccepts⟩, rfl⟩
  · rintro ⟨process, hmem, ⟨hown, haccepts⟩, rfl⟩
    exact ⟨hown, process, hmem, rfl, h.readable process hmem, haccepts⟩

/-- On a calm host a search changes the table in nothing. -/
theorem afterSearch_processes (h : Calm host) : (afterSearch host).processes = host.processes := by
  rw [afterSearch, h.lookupFault?]
  exact h.dueTable

/-- Who is no instance is not touched by the retirement of one. -/
theorem others_survivors (h : Calm host) (hgivens : after.givens = host.givens)
    (hprocesses : after.processes = survivors query host) :
    others query after = others query host := by
  rw [others, others, hprocesses, isInstance_givens hgivens, survivors, List.filter_filter]
  refine List.filter_congr fun process hmem => ?_
  by_cases hinstance : isInstance query host process = true
  · simp [hinstance]
  · -- Every pid stands once in the table, so no instance has this one.
    have hpid : process.pid ∉ instances query host := by
      intro hpid
      obtain ⟨other, hother, haccepted, heq⟩ := mem_instances.mp hpid
      rw [List.inj_on_of_nodup_map h.distinct hother hmem heq] at haccepted
      exact hinstance haccepted
    simp [hpid]

end Calm

/-! ## Retirements on calm hosts -/

namespace Retirement

variable {query : Query} {patience : Patience} {host last after : Host}

/-- A process that cannot fail us ends, in whichever way. -/
theorem parting_calm {process : TableEntry} (deliverable : process.signalFaults = [])
    (awaitable : process.waitFault = none) (grace : Option Number) :
    (parting process grace).fault = none ∧ (parting process grace).leaves = true := by
  have hkilling : killing process =
      { calls := [.signal process.pid killSignal], leaves := true } := by
    rw [killing, deliverable]
    rfl
  have hasked : process.signalFaults.lookup termSignal = none := by rw [deliverable]; rfl
  cases grace with
  | none =>
    rw [parting, hkilling]
    exact ⟨rfl, rfl⟩
  | some grace =>
    by_cases hdies : diesOn process termSignal = true
    · simp [parting, hasked, hdies]
    · rw [parting_of_waiting grace hasked hdies, waiting, awaitable]
      cases endsWithin process grace with
      | true => exact ⟨rfl, rfl⟩
      | false => exact ⟨congrArg Parting.fault hkilling, congrArg Parting.leaves hkilling⟩

/-- What `host` leaves to `after`: these processes, and everything else that starting and finding
processes depends on. -/
structure Leaves (host : Host) (processes : List TableEntry) (after : Host) : Prop where
  givens : after.givens = host.givens
  processes : after.processes = processes
  nextPid : after.nextPid = host.nextPid

theorem Leaves.of_alike {processes : List TableEntry} {other : Host}
    (h : Leaves host processes after) (alike : Alike other after) : Leaves host processes other :=
  ⟨(alike.view Host.givens).trans h.givens, (alike.view Host.processes).trans h.processes,
    (alike.view Host.nextPid).trans h.nextPid⟩

/-- On a calm host a search changes the table in nothing. -/
theorem afterSearch_leaves (calm : Calm host) : Leaves host host.processes (afterSearch host) :=
  ⟨afterSearch_givens host, calm.afterSearch_processes, by unfold afterSearch; split <;> rfl⟩

/-- Searches in vain change the table in nothing either. -/
theorem Fruitless.leaves {delay : Number} {n : Nat} (h : Fruitless query delay host n after)
    (calm : Calm host) : Leaves host host.processes after := by
  induction h with
  | none host => exact ⟨rfl, rfl, rfl⟩
  | @more host rested after n first rest ih =>
    obtain ⟨-, clock, -, halike⟩ := first.spec
    have hslept : Leaves host host.processes ((afterSearch host).slept delay clock) := by
      obtain ⟨hgivens, hprocesses, hnext⟩ := afterSearch_leaves calm
      exact ⟨hgivens, hprocesses, hnext⟩
    obtain ⟨hgivens, hprocesses, hnext⟩ := hslept.of_alike halike
    obtain ⟨hgivens', hprocesses', hnext'⟩ := ih (calm.of_same hgivens hprocesses)
    exact ⟨hgivens'.trans hgivens, hprocesses'.trans hprocesses, hnext'.trans hnext⟩

/-- The last search finds the host as it was, and leaves it so. -/
theorem Fruitless.last_search {delay : Number} {n : Nat} (h : Fruitless query delay host n last)
    (calm : Calm host) :
    Leaves host host.processes (afterSearch last) ∧
      ∀ pid, pid ∈ Handle.pids (found query last) ↔ pid ∈ instances query host := by
  obtain ⟨hgivens, hprocesses, hnext⟩ := h.leaves calm
  have hcalm : Calm last := calm.of_same hgivens hprocesses
  obtain ⟨hgivens', hprocesses', hnext'⟩ := afterSearch_leaves hcalm
  refine ⟨⟨hgivens'.trans hgivens, hprocesses'.trans hprocesses, hnext'.trans hnext⟩, fun pid => ?_⟩
  rw [hcalm.mem_pids_found, mem_instances, mem_instances, hprocesses, isInstance_givens hgivens]

/-- A retirement that came to an outcome leaves the survivors, and nobody else. -/
theorem Concludes.calm {searches made : Nat} {outcome : Outcome}
    (earlier : Fruitless query patience.delay host made last) (calm : Calm host)
    (h : Concludes query patience searches made last outcome after) :
    Leaves host (survivors query host) after := by
  obtain ⟨hsearched, hfound⟩ := earlier.last_search calm
  cases h with
  | exhausted nothing all left =>
    -- A search that does not fail and finds nothing means that there are no instances.
    have hempty : instances query host = ∅ := by
      rw [Finset.eq_empty_iff_forall_notMem]
      intro pid hpid
      rw [← hfound, nothing] at hpid
      exact absurd hpid List.not_mem_nil
    rw [survivors_of_empty hempty]
    exact hsearched.of_alike left
  | @retired target process _ chosen present caught left =>
    have hmem : target.pid ∈ instances query host :=
      (hfound _).mp (List.mem_map_of_mem (Handle.least?_mem chosen))
    have hle : ∀ other ∈ instances query host, target.pid ≤ other := by
      intro other hother
      obtain ⟨handle, hhandle, rfl⟩ := List.mem_map.mp ((hfound _).mpr hother)
      exact Handle.least?_le chosen handle hhandle
    have hprocess : process ∈ host.processes := hsearched.processes ▸ first?_mem present
    obtain ⟨-, hleaves⟩ := parting_calm (calm.deliverable process hprocess)
      (calm.awaitable process hprocess) patience.grace
    have hparted : Leaves host (survivors query host)
        (parted (afterSearch last) target.pid (parting process patience.grace)) := by
      refine ⟨hsearched.givens, ?_, hsearched.nextPid⟩
      rw [parted, hleaves, if_pos rfl, hsearched.processes, survivors_of_least hmem hle]
    exact hparted.of_alike left

/-- One that a fault broke off has ended nobody. -/
theorem Breaks.calm {searches made : Nat} {f : Fault}
    (earlier : Fruitless query patience.delay host made last) (calm : Calm host)
    (h : Breaks query patience searches made last f after) : Leaves host host.processes after := by
  obtain ⟨hsearched, -⟩ := earlier.last_search calm
  cases h with
  | clock nothing more stuck left =>
    have hnoted : Leaves host host.processes ((afterSearch last).noted (.sleep patience.delay)) :=
      ⟨hsearched.givens, hsearched.processes, hsearched.nextPid⟩
    exact hnoted.of_alike left
  | @parting target process _ _ chosen present met uncaught left =>
    -- No parting from a process of a calm host meets a fault.
    have hprocess : process ∈ host.processes := hsearched.processes ▸ first?_mem present
    obtain ⟨hfault, -⟩ := parting_calm (calm.deliverable process hprocess)
      (calm.awaitable process hprocess) patience.grace
    rw [hfault] at met
    exact absurd met (by simp)

/-- **On a calm host a retirement takes the least instance out of the table**, and nothing else. -/
theorem run_calm (query : Query) (calm : Calm host) (some_search : 0 < patience.searches) :
    Ends (run query patience) host (fun _ => Leaves host (survivors query host))
      (fun _ => Leaves host host.processes) := by
  obtain ⟨made, last, -, earlier, hends⟩ := run_course query patience host some_search
  exact hends.imp (fun _ _ h => h.calm earlier calm) (fun _ _ h => h.calm earlier calm)

end Retirement

end Relaunch
