/-
  What a search sees.

  A process is sighted by the text that it shows: its words with spaces between them, or else its name
  in brackets, or else nothing (`Shows`).  The pattern may stand anywhere in that text, across words as
  well (`accepts_iff`).  A search that can read the table sees every pid but our own that was sighted,
  once, by the first of its processes that was (`mem_hits_iff`):

  * `find?_distinct`: of the handles of one pid, the first is kept;
  * `find?_matched`: the first match of some kind belongs to the first process sighted as that kind;
  * `find_sees`: what a search finds is just that, and it is the same without the processes that
    cannot be read.
-/
import Relaunch.Proofs.Search

namespace Relaunch

/-! ## Patterns in texts -/

/-- A pattern occurs in a text just if the text is the pattern with something before and after it. -/
theorem occursIn_iff {pattern text : List Char} :
    occursIn pattern text = true ↔ pattern <:+: text := by
  induction text with
  | nil => rw [occursIn, List.isEmpty_iff, List.infix_nil]
  | cons c rest ih =>
    rw [occursIn, Bool.or_eq_true, List.isPrefixOf_iff_prefix, ih, List.infix_cons_iff]

/-- The pattern is a literal text, and it may stand anywhere. -/
theorem Query.accepts_iff {query : Query} {text : String} :
    query.accepts text = true ↔ ∃ before after, text = before ++ query.pattern ++ after := by
  rw [Query.accepts, occursIn_iff]
  constructor
  · rintro ⟨before, after, h⟩
    refine ⟨String.ofList before, String.ofList after, String.toList_inj.mp ?_⟩
    rw [String.toList_append, String.toList_append, String.toList_ofList, String.toList_ofList, h]
  · rintro ⟨before, after, rfl⟩
    exact ⟨before.toList, after.toList, by rw [String.toList_append, String.toList_append]⟩

/-! ## The text that a process shows -/

/-- The text that a process with these words and this name shows. -/
inductive Shows : (words : Option (List String)) → (name : Option String) → (text : String) → Prop
  /-- Words are shown with spaces between them. -/
  | words {words : List String} {name : Option String} (some_word : words ≠ []) :
      Shows (some words) name (String.intercalate " " words)
  /-- Without words the name is shown, in brackets. -/
  | name {words : Option (List String)} {name : String} (no_word : words.getD [] = [])
      (named : name ≠ "") : Shows words (some name) ("[" ++ name ++ "]")
  /-- Without a name either, there is nothing to show. -/
  | nothing {words : Option (List String)} {name : Option String} (no_word : words.getD [] = [])
      (unnamed : name.getD "" = "") : Shows words name ""

/-- Where there are no words, only the name matters. -/
theorem shownCommandLine_of_wordless {words : Option (List String)} (no_word : words.getD [] = [])
    (name : Option String) : shownCommandLine words name = shownCommandLine none name := by
  cases words with
  | none => rfl
  | some words =>
    obtain rfl : words = [] := no_word
    rfl

/-- A process without a command line is shown by its name in brackets. -/
theorem shownCommandLine_of_named {name : String} (named : name ≠ "") :
    shownCommandLine none (some name) = "[" ++ name ++ "]" := by
  simp [shownCommandLine]

theorem shows_iff {words : Option (List String)} {name : Option String} {text : String} :
    Shows words name text ↔ text = shownCommandLine words name := by
  constructor
  · intro h
    cases h with
    | @words words name some_word =>
      obtain ⟨word, more, rfl⟩ := List.exists_cons_of_ne_nil some_word
      rfl
    | @name words name no_word named =>
      rw [shownCommandLine_of_wordless no_word, shownCommandLine_of_named named]
    | @nothing words name no_word unnamed =>
      rw [shownCommandLine_of_wordless no_word]
      cases name with
      | none => rfl
      | some name =>
        obtain rfl : name = "" := unnamed
        rfl
  · rintro rfl
    by_cases hword : words.getD [] = []
    · rw [shownCommandLine_of_wordless hword]
      cases name with
      | none => exact .nothing hword rfl
      | some name =>
        by_cases hname : name = ""
        · rw [hname]
          exact .nothing hword rfl
        · rw [shownCommandLine_of_named hname]
          exact .name hword hname
    · cases words with
      | none => exact absurd rfl hword
      | some words =>
        obtain ⟨word, more, rfl⟩ := List.exists_cons_of_ne_nil hword
        exact .words hword

namespace Discovery

open Relaunch.Host

/-! ## Sightings -/

/-- The process can be read and the text that it shows holds the pattern; the handle carries its pid,
that text and its name. -/
structure Sighted (query : Query) (process : TableEntry) (handle : Handle) : Prop where
  readable : process.unreadable = none
  pid : handle.pid = process.pid
  shown : Shows process.commandLine process.name handle.commandLine
  holds : ∃ before after, handle.commandLine = before ++ query.pattern ++ after
  name : handle.name = process.name

/-- A process is seen if it can be read and has a handle for the query. -/
theorem sighted_iff {query : Query} {process : TableEntry} {handle : Handle} :
    Sighted query process handle ↔
      process.unreadable = none ∧ handleOf? query process = some handle := by
  simp only [handleOf?, Option.ite_none_right_eq_some, Option.some.injEq]
  constructor
  · rintro ⟨readable, hpid, hshown, hholds, hname⟩
    have htext := shows_iff.mp hshown
    refine ⟨readable, ?_, ?_⟩
    · rw [← htext]
      exact Query.accepts_iff.mpr hholds
    · rw [← htext, ← hpid, ← hname]
  · rintro ⟨readable, haccepts, rfl⟩
    exact ⟨readable, rfl, shows_iff.mpr rfl, Query.accepts_iff.mp haccepts, rfl⟩

/-- The first match of some kind is the handle of the first process that was sighted as that kind. -/
theorem find?_matched {query : Query} {processes : List TableEntry} {kind : Handle → Bool}
    {handle : Handle} :
    (matched query processes).find? kind = some handle ↔
      ∃ before process later, processes = before ++ process :: later ∧
        Sighted query process handle ∧ kind handle = true ∧
        ∀ earlier ∈ before, ∀ other, Sighted query earlier other → kind other = false := by
  rw [matched, List.find?_filterMap, List.find?_filter, Option.bind_eq_some_iff]
  simp only [List.find?_eq_some_iff_append, sighted_iff, Option.any_eq_true, decide_eq_true_eq,
    Option.isNone_iff_eq_none, Bool.not_eq_true', decide_eq_false_iff_not]
  constructor
  · rintro ⟨process, ⟨⟨readable, found, hfound, hkind⟩, before, later, hsplit, hbefore⟩, hhandle⟩
    obtain rfl : found = handle := Option.some.inj (hfound.symm.trans hhandle)
    refine ⟨before, process, later, hsplit, ⟨readable, hfound⟩, hkind, fun earlier hearlier other h => ?_⟩
    -- A process before it that was sighted as that kind would have come first.
    refine eq_false_of_ne_true fun hother => hbefore earlier hearlier ?_
    exact ⟨h.1, other, h.2, hother⟩
  · rintro ⟨before, process, later, hsplit, ⟨readable, hhandle⟩, hkind, hbefore⟩
    refine ⟨process, ⟨⟨readable, handle, hhandle, hkind⟩, before, later, hsplit, ?_⟩, hhandle⟩
    rintro earlier hearlier ⟨hreadable, other, hother, hkind'⟩
    rw [hbefore earlier hearlier other ⟨hreadable, hother⟩] at hkind'
    exact absurd hkind' (by simp)

/-- What a search hits: each pid but our own, by the first of its processes that was sighted. -/
theorem mem_hits_iff {query : Query} {host : Host} {handle : Handle} :
    handle ∈ hits query host ↔ handle.pid ∉ own host ∧
      ∃ before process later, host.dueTable = before ++ process :: later ∧
        Sighted query process handle ∧
        ∀ earlier ∈ before, ∀ other, Sighted query earlier other → earlier.pid ≠ handle.pid := by
  rw [hits, Handle.mem_iff_find? (Handle.nodup_distinct _), Handle.find?_distinct, List.find?_filter,
    find?_matched]
  simp only [Bool.not_eq_true', List.contains_eq_mem, decide_eq_false_iff_not, beq_iff_eq,
    decide_eq_true_eq, and_true]
  constructor
  · rintro ⟨before, process, later, hsplit, hsighted, hforeign, hbefore⟩
    refine ⟨hforeign, before, process, later, hsplit, hsighted, fun earlier hearlier other h heq => ?_⟩
    have hpid : other.pid = handle.pid := h.pid.trans heq
    exact hbefore earlier hearlier other h ⟨hpid ▸ hforeign, hpid⟩
  · rintro ⟨hforeign, before, process, later, hsplit, hsighted, hbefore⟩
    refine ⟨before, process, later, hsplit, hsighted, hforeign, fun earlier hearlier other h hkind => ?_⟩
    exact hbefore earlier hearlier other h (h.pid.symm.trans hkind.2)

/-! ## Tables that can be read -/

/-- A search goes on without what is gone or denied. -/
theorem isSkipped_iff {f : Fault} : isSkipped f = true ↔ f.isGone = true ∨ f.isDenied = true := by
  rw [isSkipped, Bool.or_eq_true]

/-- The host as its next scan shows it, without the processes that cannot be read. -/
def legible (host : Host) : Host :=
  { host with
    processes := host.dueTable.filter fun process => process.unreadable.isNone, changes := [] }

/-- Those that cannot be read match nothing. -/
theorem matched_legible (query : Query) (processes : List TableEntry) :
    matched query (processes.filter fun process => process.unreadable.isNone) =
      matched query processes := by
  simp only [matched, List.filter_filter, Bool.and_self]

theorem hits_legible (query : Query) (host : Host) :
    hits query (legible host) = hits query host := by
  have htable : (legible host).dueTable =
      host.dueTable.filter fun process => process.unreadable.isNone := rfl
  rw [hits, htable, matched_legible]
  rfl

/-- A search that meets no fault finds its hits. -/
theorem find_of_searchFault (query : Query) {host : Host} (clear : searchFault? host = none) :
    ∃ after, find query host = .ok (hits query host) after := by
  rcases (find_ends query host).cases with ⟨found, after, hran, -, rfl, -⟩ | ⟨f, after, -, hfault, -⟩
  · exact ⟨after, hran⟩
  · rw [clear] at hfault
    exact absurd hfault (by simp)

section Readable

variable {host : Host}

theorem readFault?_of_skipped {processes : List TableEntry}
    (skipped : ∀ process ∈ processes, ∀ f, process.unreadable = some f → isSkipped f = true) :
    readFault? processes = none := by
  rw [readFault?, List.findSome?_eq_none_iff]
  intro process hmem
  cases hread : process.unreadable with
  | none => rfl
  | some f => simp [skipped process hmem f hread]

theorem lookupFault?_of_skipped
    (looked_up : ∀ f, host.ancestorsFault = some f → isSkipped f = true) :
    lookupFault? host = none := by
  rw [lookupFault?]
  cases hmet : host.ancestorsFault with
  | none => rfl
  | some f => simp [looked_up f hmet]

/-- What can be read of a table can be searched. -/
theorem searchFault?_legible (looked_up : lookupFault? host = none) :
    searchFault? (legible host) = none := by
  have hread : readFault? (legible host).dueTable = none := by
    refine readFault?_of_skipped fun process hmem f hunreadable => ?_
    have hreadable := (List.mem_filter.mp hmem).2
    rw [hunreadable] at hreadable
    exact absurd hreadable (by simp)
  have hlookup : lookupFault? (legible host) = none := looked_up
  rw [searchFault?, hlookup, hread]
  rfl

end Readable

/-! ## Every search of a table that can be read -/

/-- The handles are just what there is to see of the service on the host. -/
structure Sees (query : Query) (host : Host) (found : List Handle) : Prop where
  /-- There is one handle for each pid. -/
  one_each : (Handle.pids found).Nodup
  /-- A pid is found just if it is not one of our own, as far as these can be told, and one of its
  processes was sighted. -/
  found_iff : ∀ pid, pid ∈ Handle.pids found ↔
    (pid ≠ host.self ∧ (host.ancestorsFault = none → pid ∉ host.ancestors)) ∧
      ∃ process ∈ host.dueTable, process.pid = pid ∧ ∃ handle, Sighted query process handle
  /-- The handle is that of the first such process. -/
  first : ∀ handle ∈ found, ∃ before process later, host.dueTable = before ++ process :: later ∧
    Sighted query process handle ∧
    ∀ earlier ∈ before, ∀ other, Sighted query earlier other → earlier.pid ≠ handle.pid
  /-- Sorted, the pids strictly increase. -/
  ordered : (Handle.pids (Handle.sort found)).Pairwise (· < ·)

/-- Our own are the supervisor and, where they can be read, the processes that started it. -/
theorem mem_own_iff {host : Host} {pid : Int} :
    pid ∈ own host ↔ pid = host.self ∨ host.ancestorsFault = none ∧ pid ∈ host.ancestors := by
  unfold own
  cases host.ancestorsFault <;> simp

/-- What a search hits is what there is to see. -/
theorem hits_sees (query : Query) (host : Host) : Sees query host (hits query host) where
  one_each := Handle.nodup_distinct _
  found_iff pid := by
    rw [mem_pids_hits, mem_own_iff, not_or, not_and]
    refine and_congr_right fun _ => exists_congr fun process => and_congr_right fun _ =>
      and_congr_right fun _ => ?_
    simp [sighted_iff, handleOf?]
  first handle hmem := (mem_hits_iff.mp hmem).2
  ordered := Handle.pids_sort_increasing (Handle.nodup_distinct _)

/-- **A search sees just what there is to see.**  Processes that cannot be read, and ancestors that
cannot be told, neither stop it nor change what it finds. -/
theorem find_sees (query : Query) (host : Host) (scanned : host.dueFault = none)
    (skipped : ∀ process ∈ host.dueTable, ∀ f, process.unreadable = some f →
      f.isGone = true ∨ f.isDenied = true)
    (looked_up : ∀ f, host.ancestorsFault = some f → f.isGone = true ∨ f.isDenied = true) :
    ∃ found after alone, find query host = .ok found after ∧ Sees query host found ∧
      find query (legible host) = .ok found alone := by
  have hlookup : lookupFault? host = none :=
    lookupFault?_of_skipped fun f hmet => isSkipped_iff.mpr (looked_up f hmet)
  have hread : readFault? host.dueTable = none :=
    readFault?_of_skipped fun process hmem f hmet => isSkipped_iff.mpr (skipped process hmem f hmet)
  have hclear : searchFault? host = none := by
    rw [searchFault?, hlookup, scanned, hread]
    rfl
  obtain ⟨after, hfound⟩ := find_of_searchFault query hclear
  obtain ⟨alone, hlegible⟩ := find_of_searchFault query (searchFault?_legible hlookup)
  rw [hits_legible] at hlegible
  exact ⟨hits query host, after, alone, hfound, hits_sees query host, hlegible⟩

/-- A query that spans two words. -/
def spanningQuery : Query := ⟨"c -d", by decide⟩

/-- A host with processes that cannot be read, with several of one pid, and with our own among them,
whose ancestors cannot be told. -/
def crowdedHost : Host where
  processes := [
    { pid := 3, unreadable := some (.gone (some 3) "" "") },
    { pid := 7, name := some "svc -d", commandLine := some [] },
    { pid := 7, name := some "svc", commandLine := some ["svc", "-d"] },
    { pid := 9, unreadable := some (.denied (some 9) "" "") },
    { pid := 4242, commandLine := some ["restart", "svc -d"] },
    { pid := 7, commandLine := some ["svc", "-d", "-d"] },
    { pid := 5, commandLine := some ["x-svc", "-debug"] }]
  ancestors := [5]
  ancestorsFault := some (.zombie none "" "")

theorem find_sees_crowd :
    Ends (find spanningQuery) crowdedHost
      (fun found _ => Sees spanningQuery crowdedHost found ∧
        found.map (fun handle => (handle.pid, handle.commandLine, handle.name)) =
          [(7, "[svc -d]", some "svc -d"), (5, "x-svc -debug", none)])
      (fun _ _ => False) := by
  have hall : crowdedHost.dueTable.all (fun process => process.unreadable.all isSkipped) = true := by
    decide
  have hskipped : ∀ process ∈ crowdedHost.dueTable, ∀ f, process.unreadable = some f →
      f.isGone = true ∨ f.isDenied = true := by
    intro process hmem f hmet
    have hprocess := List.all_eq_true.mp hall process hmem
    rw [hmet] at hprocess
    exact isSkipped_iff.mp hprocess
  have hlooked : ∀ f, crowdedHost.ancestorsFault = some f → f.isGone = true ∨ f.isDenied = true := by
    intro f hmet
    obtain rfl := Option.some.inj hmet
    exact Or.inl rfl
  obtain ⟨found, after, -, hran, hsees, -⟩ :=
    find_sees spanningQuery crowdedHost rfl hskipped hlooked
  have hends : Ends (find spanningQuery) crowdedHost
      (fun found _ => found.map (fun handle => (handle.pid, handle.commandLine, handle.name)) =
        [(7, "[svc -d]", some "svc -d"), (5, "x-svc -debug", none)]) (fun _ _ => False) :=
    .of_returned? (fun (found : List Handle) _ =>
        found.map fun handle => (handle.pid, handle.commandLine, handle.name))
      [(7, "[svc -d]", some "svc -d"), (5, "x-svc -debug", none)] (by decide +kernel)
  rw [Ends, hran]
  exact ⟨hsees, hends.of_ok hran⟩

end Discovery

end Relaunch
