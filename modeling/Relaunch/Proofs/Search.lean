/-
  What a search finds.

  A search is a function of the host: of its table as the next scan sees it, and of what is known of
  the processes that started the supervisor.  Said without sessions,

  * `searchFault?` is the fault that makes it fail, if one does: a lookup of the ancestors that
    breaks off, then the scan, then a process that can neither be read nor be skipped;
  * `hits` is what it finds otherwise: a handle for each pid of a readable process that the query
    accepts and that is not one of our own;
  * `afterSearch` is the host it leaves: scanned, unless the lookup of the ancestors broke off first.

  `find_ends` says that a search is just that, apart from what it says in the journal.
-/
import Relaunch.Discovery
import Relaunch.Proofs.Handles
import Relaunch.Proofs.Steps

namespace Relaunch

/-- A query to try things on. -/
def sampleQuery : Query := ⟨"svc", by decide⟩

namespace Discovery

open Relaunch.Host

/-! ## Ourselves -/

/-- The pids of the supervisor and of the processes that started it, as far as they can be told. -/
def own (host : Host) : List Int :=
  if host.ancestorsFault.isNone then host.self :: host.ancestors else [host.self]

/-- The fault that breaks off the lookup of the ancestors, and the search with it. -/
def lookupFault? (host : Host) : Option Fault :=
  host.ancestorsFault.filter fun fault => !isSkipped fault

theorem self_mem_own (host : Host) : host.self ∈ own host := by
  unfold own
  split <;> simp

theorem ancestor_mem_own {host : Host} (h : host.ancestorsFault = none) {pid : Int}
    (hpid : pid ∈ host.ancestors) : pid ∈ own host := by
  simp [own, h, hpid]

/-- A fault that says that a process is gone or denied leaves us with our own pid; any other goes
on. -/
theorem ownPids_ends (host : Host) :
    Ends ownPids host
      (fun pids after => lookupFault? host = none ∧ pids = own host ∧ Alike after host)
      (fun f after => lookupFault? host = some f ∧ Alike after host) := by
  simp only [ownPids, readAncestors, ends_bind, ends_get, ends_tryCatch, ends_meet, ends_pure]
  refine ⟨fun h => ?_, fun f h => ?_⟩
  · simp [lookupFault?, own, h, Alike.refl]
  · by_cases hskip : isSkipped f = true
    · rw [if_pos hskip, ends_bind, ends_say, ends_pure]
      simp [lookupFault?, own, h, hskip, said_alike]
    · rw [if_neg hskip, ends_throw]
      simp [lookupFault?, h, hskip, Alike.refl]

/-! ## Matches -/

/-- The first fault among processes that breaks off the reading of them. -/
def readFault? (processes : List TableEntry) : Option Fault :=
  processes.findSome? fun process => process.unreadable.filter fun fault => !isSkipped fault

/-- The handles of the readable processes that the query accepts, in order. -/
def matched (query : Query) (processes : List TableEntry) : List Handle :=
  (processes.filter fun process => process.unreadable.isNone).filterMap (handleOf? query)

/-- By induction on the table: the first process that cannot be read for a reason of weight ends the
matching. -/
theorem matchAll_ends (query : Query) : ∀ (processes : List TableEntry) (host : Host),
    Ends (matchAll query processes) host
      (fun found after =>
        readFault? processes = none ∧ found = matched query processes ∧ Alike after host)
      (fun f after => readFault? processes = some f ∧ Alike after host) := by
  intro processes
  induction processes with
  | nil =>
    intro host
    exact ⟨rfl, rfl, .refl host⟩
  | cons process rest ih =>
    intro host
    rw [matchAll]
    cases hread : process.unreadable with
    | some fault =>
      -- A process that cannot be read is skipped, or breaks off the reading of the rest.
      by_cases hskip : isSkipped fault = true
      · simp only [if_pos hskip, ends_bind, ends_say]
        have halike := said_alike .debug speaker
          ("Skipping process during scan: " ++ fault.message) host
        refine (ih _).imp (fun found after h => ?_) (fun f after h => ?_)
        · obtain ⟨hnone, hfound, hafter⟩ := h
          refine ⟨?_, ?_, hafter.trans halike⟩
          · simpa [readFault?, hread, hskip] using hnone
          · simpa [matched, hread] using hfound
        · refine ⟨?_, h.2.trans halike⟩
          simpa [readFault?, hread, hskip] using h.1
      · simp only [if_neg hskip, ends_throw]
        refine ⟨?_, .refl host⟩
        simp [readFault?, hread, hskip]
    | none =>
      simp only [ends_bind, ends_pure]
      refine (ih host).imp (fun found after h => ?_) (fun f after h => ?_)
      · obtain ⟨hnone, hfound, hafter⟩ := h
        refine ⟨?_, ?_, hafter⟩
        · simpa [readFault?, hread] using hnone
        · rw [hfound]
          cases hhandle : handleOf? query process <;> simp [matched, hread, hhandle]
      · refine ⟨?_, h.2⟩
        simpa [readFault?, hread] using h.1

/-- Leaving out our own cannot fail, and only talks about it. -/
theorem withoutOwn_ends (pids : List Int) : ∀ (handles : List Handle) (host : Host),
    Ends (withoutOwn pids handles) host
      (fun found after =>
        found = (handles.filter fun handle => !pids.contains handle.pid) ∧ Alike after host)
      (fun _ _ => False) := by
  intro handles
  induction handles with
  | nil =>
    intro host
    exact ⟨rfl, .refl host⟩
  | cons handle rest ih =>
    intro host
    rw [withoutOwn]
    by_cases hown : pids.contains handle.pid = true
    · rw [if_pos hown, ends_bind, ends_say]
      refine (ih _).imp (fun found after h => ?_) (fun _ _ h => h)
      refine ⟨?_, h.2.trans (said_alike ..)⟩
      rw [h.1, List.filter_cons_of_neg (by simpa using hown)]
    · simp only [if_neg hown, ends_bind, ends_pure]
      refine (ih host).imp (fun found after h => ?_) (fun _ _ h => h)
      refine ⟨?_, h.2⟩
      rw [h.1, List.filter_cons_of_pos (by simpa using hown)]

/-! ## The search -/

/-- The fault that makes a search fail. -/
def searchFault? (host : Host) : Option Fault :=
  (lookupFault? host).or (host.dueFault.or (readFault? host.dueTable))

/-- What a search finds if it does not fail. -/
def hits (query : Query) (host : Host) : List Handle :=
  Handle.distinct
    ((matched query host.dueTable).filter fun handle => !(own host).contains handle.pid)

/-- The host after a search. -/
def afterSearch (host : Host) : Host :=
  if (lookupFault? host).isSome then host else host.afterScan

/-- The dealings that a search has with the machine: a scan, unless the lookup of the ancestors breaks
it off before. -/
def searchCalls (host : Host) : List Call := if (lookupFault? host).isSome then [] else [.scan]

theorem afterSearch_calls (host : Host) :
    (afterSearch host).calls.toList = host.calls.toList ++ searchCalls host := by
  unfold afterSearch searchCalls
  split <;> simp [afterScan]

/-- A scan that fails comes before any process that cannot be read. -/
theorem scanMatches_ends (query : Query) (host : Host) :
    Ends (scanMatches query) host
      (fun found after => host.dueFault = none ∧ readFault? host.dueTable = none ∧
        found = matched query host.dueTable ∧ Alike after host.afterScan)
      (fun f after => host.dueFault.or (readFault? host.dueTable) = some f ∧
        Alike after host.afterScan) := by
  rw [scanMatches, ends_bind, ends_scan]
  refine ⟨fun hdue => ?_, fun f hdue => ?_⟩
  · refine (matchAll_ends query host.dueTable host.afterScan).imp (fun found after h => ?_)
      (fun f after h => ?_)
    · exact ⟨hdue, h⟩
    · rw [hdue, Option.none_or]
      exact h
  · rw [hdue, Option.some_or]
    exact ⟨rfl, .refl _⟩

/-- **A search is a function of the host.**  It fails with `searchFault?` or finds `hits`, and leaves
the host scanned. -/
theorem find_ends (query : Query) (host : Host) :
    Ends (find query) host
      (fun found after =>
        searchFault? host = none ∧ found = hits query host ∧ Alike after (afterSearch host))
      (fun f after => searchFault? host = some f ∧ Alike after (afterSearch host)) := by
  simp only [find, ends_bind, ends_pure]
  refine (ownPids_ends host).imp (fun pids told h => ?_) (fun f after h => ?_)
  · obtain ⟨hlookup, rfl, htold⟩ := h
    have hstep : Alike told.afterScan (afterSearch host) := by
      rw [afterSearch, hlookup]
      exact htold.step afterScan
    have hdue : told.dueFault = host.dueFault := htold.view dueFault
    have htable : told.dueTable = host.dueTable := htold.view dueTable
    refine (scanMatches_ends query told).imp (fun found scanned h => ?_) (fun f scanned h => ?_)
    · obtain ⟨hfault, hread, rfl, hscanned⟩ := h
      refine (withoutOwn_ends (own host) _ scanned).imp (fun others after h => ?_)
        (fun _ _ h => h.elim)
      refine ⟨?_, ?_, h.2.trans (hscanned.trans hstep)⟩
      · rw [searchFault?, hlookup, ← hdue, hfault, ← htable, hread]
        rfl
      · rw [h.1, htable, hits]
    · refine ⟨?_, h.2.trans hstep⟩
      rw [searchFault?, hlookup, ← hdue, ← htable, Option.none_or]
      exact h.1
  · refine ⟨?_, ?_⟩
    · rw [searchFault?, h.1, Option.some_or]
    · rw [afterSearch, h.1]
      exact h.2

/-! ## What the hits are -/

/-- A process has a hit just if it is in the table, can be read, shows a command line that the query
accepts, and is not one of our own. -/
theorem mem_pids_hits {query : Query} {host : Host} {pid : Int} :
    pid ∈ Handle.pids (hits query host) ↔
      pid ∉ own host ∧ ∃ process ∈ host.dueTable, process.pid = pid ∧ process.unreadable = none ∧
        query.accepts (shownCommandLine process.commandLine process.name) = true := by
  rw [hits, Handle.mem_pids_distinct]
  simp only [Handle.pids, matched, List.mem_map, List.mem_filter, List.mem_filterMap, handleOf?,
    Option.isNone_iff_eq_none, Option.ite_none_right_eq_some, Option.some.injEq, Bool.not_eq_true',
    List.contains_eq_mem, decide_eq_false_iff_not]
  constructor
  · rintro ⟨handle, ⟨⟨process, ⟨hmem, hread⟩, haccept, rfl⟩, hown⟩, rfl⟩
    exact ⟨hown, process, hmem, rfl, hread, haccept⟩
  · rintro ⟨hown, process, hmem, rfl, hread, haccept⟩
    exact ⟨_, ⟨⟨process, ⟨hmem, hread⟩, haccept, rfl⟩, hown⟩, rfl⟩

end Discovery

end Relaunch
