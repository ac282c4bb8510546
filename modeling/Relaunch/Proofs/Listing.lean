/-
  A listing shows what a restart would end.

  Listing the instances of a service and restarting it lead to the same query (`SearchedAsListed`),
  and so to the same search.  A listing shows what that search finds in the order of the pids
  (`Lists`); a restart of the same service on the same machine finds the same, ends the process that
  was listed first, and searches no further (`Foretold`).

  `listing_foretells` puts the two runs of the program side by side.
-/
import Relaunch.Proofs.ExitCodes

namespace Relaunch

open Relaunch.Host Relaunch.Discovery

/-! ## A search that finds something -/

namespace Retirement

variable {query : Query} {patience : Patience} {host after : Host} {target : Handle}

/-- The dealings of a retirement that ends the target after one search. -/
def EndsAtOnce (target : Handle) (before after : Host) : Prop :=
  ∃ number farewell, after.calls.toList =
      before.calls.toList ++ [.scan, .signal target.pid number] ++ farewell ∧
    ∀ call ∈ farewell, pid? call = some target.pid

/-- Every parting starts with a signal. -/
theorem Farewell.exists_signal {process : TableEntry} {grace : Option Number} {calls : List Call}
    (h : Farewell process grace calls) :
    ∃ number rest, calls = .signal process.pid number :: rest := by
  cases h with
  | killed => exact ⟨_, _, rfl⟩
  | asked => exact ⟨_, _, rfl⟩
  | awaited => exact ⟨_, _, rfl⟩
  | forced => exact ⟨_, _, rfl⟩

theorem endsAtOnce_of_parted {process : TableEntry} {grace : Option Number}
    (lookup : lookupFault? host = none)
    (present : (afterSearch host).first? target.pid = some process)
    (left : Alike after (parted (afterSearch host) target.pid (parting process grace))) :
    EndsAtOnce target host after := by
  have hfarewell := parting_farewell process grace
  have hpid : process.pid = target.pid := first?_pid present
  obtain ⟨number, rest, hcalls⟩ := hfarewell.exists_signal
  rw [hcalls] at hfarewell
  refine ⟨number, rest, ?_, fun call hcall => ?_⟩
  · have hscan : searchCalls host = [.scan] := by
      rw [searchCalls, lookup]
      rfl
    rw [left.view Host.calls, parted_calls, hcalls, afterSearch_calls, hscan, hpid]
    simp
  · rw [← hpid]
    exact hfarewell.pid?_eq call (List.mem_cons_of_mem _ hcall)

/-- **A search that finds something is the only one**, and the process with the least pid is ended. -/
theorem run_of_found (some_search : 0 < patience.searches) (lookup : lookupFault? host = none)
    (chosen : Handle.least? (found query host) = some target) :
    Ends (run query patience) host
      (fun outcome after => (outcome.attempts = 1 ∧ outcome.target = some target ∧
        outcome.candidates = found query host) ∧ EndsAtOnce target host after)
      (fun _ after => EndsAtOnce target host after) := by
  refine (run_ends_found query patience some_search (.none host) chosen).imp
    (fun outcome after h => ?_) (fun f after h => ?_)
  · obtain ⟨process, hpresent, rfl, hleft⟩ := h.of_chosen chosen
    exact ⟨⟨rfl, rfl, rfl⟩, endsAtOnce_of_parted lookup hpresent hleft⟩
  · obtain ⟨process, hpresent, -, hleft⟩ := h.of_chosen chosen
    exact endsAtOnce_of_parted lookup hpresent hleft

end Retirement

namespace Restart

open Relaunch.Retirement Relaunch.Launch

/-- The dealings of a restart that ends the target after one search: whatever follows is no search
and no signal. -/
def EndsFirst (plan : LaunchPlan) (target : Handle) (before after : Host) : Prop :=
  ∃ number farewell rest, after.calls.toList =
      before.calls.toList ++ [.scan, .signal target.pid number] ++ farewell ++ rest ∧
    (∀ call ∈ farewell, pid? call = some target.pid) ∧
    ∀ call ∈ rest, call.incidental = true ∨ call = .spawn (command plan)

theorem run_of_found {query : Query} {patience : Patience} {plan : LaunchPlan}
    {health : Option Probe} {host : Host} {target : Handle} (some_search : 0 < patience.searches)
    (lookup : lookupFault? host = none)
    (chosen : Handle.least? (found query host) = some target) :
    Ends (run query patience plan health) host
      (fun _ after => EndsFirst plan target host after)
      (fun _ after => EndsFirst plan target host after) := by
  have hretires := Retirement.run_of_found some_search lookup chosen
  rw [Ends, run_eq]
  rcases hretires.cases with ⟨outcome, retired, hran, -, hends⟩ | ⟨f, retired, hran, hends⟩
  · rw [hran]
    obtain ⟨number, farewell, hcalls, hfarewell⟩ := hends
    have htold : (announced query outcome retired).calls = retired.calls :=
      (said_alike ..).view Host.calls
    have hrest : ∀ {daemon? after}, Finishes plan (announced query outcome retired) daemon? after →
        EndsFirst plan target host after := by
      intro daemon? after h
      obtain ⟨rest, hmade, hall⟩ := h.calls
      exact ⟨number, farewell, rest, by rw [hmade, htold, hcalls], hfarewell, hall⟩
    refine (finish_ends plan health outcome _).imp (fun _ _ h => hrest h.2) (fun _ _ h => ?_)
    obtain ⟨daemon?, hfinishes⟩ := h
    exact hrest hfinishes
  · rw [hran]
    obtain ⟨number, farewell, hcalls, hfarewell⟩ := hends
    exact ⟨number, farewell, [], by rw [hcalls, List.append_nil], hfarewell, by simp⟩

end Restart

namespace App

open Relaunch.JournalSetup Relaunch.Launch

/-! ## One query for both -/

/-- However a service is defined, it is searched for as it is listed. -/
structure SearchedAsListed (name : String) (pattern : Option String) : Prop where
  /-- Whatever else is given, a definition leads to the query of the listing. -/
  accepted : ∀ settings (given : Service.Overrides) definition,
    Service.Definition.resolve settings name { given with pattern := pattern.map .text } =
        .ok definition →
      definition.query? = Service.query? name pattern ∧ definition.query?.isSome = true
  /-- Where there is no query for a listing, there is no definition. -/
  refused : Service.query? name pattern = none → ∀ settings (given : Service.Overrides), ∃ error,
    Service.Definition.resolve settings name { given with pattern := pattern.map .text } =
      .error error

theorem searchedAsListed (name : String) (pattern : Option String) :
    SearchedAsListed name pattern where
  accepted _ _ _ hresolves := Service.Definition.query?_of_resolve hresolves
  refused hrefused settings given := by
    cases hresolves : Service.Definition.resolve settings name
        { given with pattern := pattern.map .text } with
    | error error => exact ⟨error, rfl⟩
    | ok definition =>
      obtain ⟨hquery, hsome⟩ := Service.Definition.query?_of_resolve hresolves
      rw [hquery, hrefused] at hsome
      exact absurd hsome Bool.false_ne_true

/-! ## The two runs -/

/-- The first arguments ask for a listing and the second ones for a restart, of the same service with
the same pattern. -/
structure AskBoth (finding restarting : List String) (name : String) (pattern : Option String) :
    Prop where
  lists : ∃ request, asked finding = .ok request ∧ request.command = .find ∧
    request.service = name ∧ request.choices.pattern = pattern
  restarts : ∃ request, asked restarting = .ok request ∧ request.command = .restart ∧
    request.service = name ∧ request.choices.pattern = pattern

/-- The program does not get as far as to see to a request on the host. -/
def Unprepared (env : Environment) (envFile : Option String) (arguments : List String)
    (host : Host) : Prop :=
  ∀ request settings ready, ¬Ready env envFile arguments host request settings ready

/-- A run that listed the handles, in this order, and left a host. -/
inductive Lists (env : Environment) (envFile : Option String) (arguments : List String)
    (host : Host) (query : Query) (printed : List Handle) : Nat → Host → Prop
  | shown {request : Options.Request} {settings : Settings} {ready searched after : Host}
      {located : List Handle} (ready_for : Ready env envFile arguments host request settings ready)
      (locates : Discovery.find query ready = .ok located searched) (all : printed.Perm located)
      (stdout : after.stdout = String.join (printed.map listingLine))
      (scanned : Scanned settings host after) :
      Lists env envFile arguments host query printed Ending.success.code after

/-- A restart on `told` that found what was listed, and left a host. -/
structure Foretold (printed : List Handle) (query : Query) (patience : Patience)
    (plan : LaunchPlan) (told after : Host) : Prop where
  /-- The first search of the restart finds just what was listed. -/
  locates : ∃ located searched, Discovery.find query told = .ok located searched ∧
    located.Perm printed
  /-- It is the only search if it finds anything, and the first of the list is the target. -/
  retires : ∀ first, printed.head? = some first →
    Ends (Retirement.run query patience) told
      (fun outcome _ => outcome.attempts = 1 ∧ outcome.target = some first ∧
        outcome.candidates.Perm printed)
      (fun _ _ => True)
  /-- Then there is one scan, and every signal goes to the first of the list. -/
  calls : ∀ first, printed.head? = some first → ∃ number farewell rest,
    after.calls.toList = [.scan, .signal first.pid number] ++ farewell ++ rest ∧
      (∀ call ∈ farewell, Retirement.pid? call = some first.pid) ∧
      ∀ call ∈ rest, call.incidental = true ∨ call = .spawn (command plan)

/-- What becomes of a restart after a listing, however the run ends. -/
inductive Follows (env : Environment) (envFile : Option String) (arguments : List String)
    (host : Host) (printed : List Handle) : Host → Prop
  /-- The program does not get as far. -/
  | unprepared {after : Host} (never : Unprepared env envFile arguments host) :
      Follows env envFile arguments host printed after
  /-- The restart is rejected, and nothing is done. -/
  | rejected {request : Options.Request} {settings : Settings} {ready after : Host}
      {error : Service.DefinitionError}
      (ready_for : Ready env envFile arguments host request settings ready)
      (resolves : Service.Definition.resolve settings request.service
        (overrides request.choices (passed arguments)) = .error error)
      (idle : after.calls = #[]) : Follows env envFile arguments host printed after
  /-- The restart is accepted, and finds what was listed. -/
  | accepted {request : Options.Request} {settings : Settings} {ready after : Host}
      {definition : Service.Definition} {query : Query} {patience : Patience}
      (ready_for : Ready env envFile arguments host request settings ready)
      (accepts : Accepts settings request.service (overrides request.choices (passed arguments))
        definition query patience)
      (foretold : Foretold printed query patience definition.launchPlan
        (announced definition ready) after) :
      Follows env envFile arguments host printed after

section Runs

variable {env : Environment} {envFile : Option String} {arguments : List String} {host after : Host}
  {request : Options.Request}

theorem unprepared_of_loading {f : Fault}
    (loads : Settings.load env envFile (newProcess host) = .error f after) :
    Unprepared env envFile arguments host := by
  intro request settings ready hready
  obtain ⟨loaded, hloads, -⟩ := hready.prepared
  rw [loads] at hloads
  cases hloads

theorem unprepared_of_settingUp {settings : Settings} {loaded : Host} {f : Fault}
    (asks : asked arguments = .ok request)
    (loads : Settings.load env envFile (newProcess host) = .ok settings loaded)
    (sets : JournalSetup.run settings request.choices.verbose loaded = .error f after) :
    Unprepared env envFile arguments host := by
  intro request' settings' ready hready
  obtain ⟨loaded', hloads, hsets⟩ := hready.prepared
  obtain rfl := Except.ok.inj (asks.symm.trans hready.asks)
  rw [loads] at hloads
  cases hloads
  rw [sets] at hsets
  cases hsets

/-- A run whose arguments make sense sees to the request, or is not prepared for it. -/
theorem run_of_asked (asks : asked arguments = .ok request) :
    Ends (run env envFile arguments) (newProcess host)
      (fun code after => ∃ settings ready ending,
        Ready env envFile arguments host request settings ready ∧
        seeTo settings request arguments ready = .ok ending after ∧ code = ending.code)
      (fun f after => Unprepared env envFile arguments host ∨ ∃ settings ready,
        Ready env envFile arguments host request settings ready ∧
        seeTo settings request arguments ready = .error f after) := by
  refine (run_ends env envFile arguments host).imp (fun code after h => ?_) (fun f after h => ?_)
  · cases h with
    | stopped asks' => exact absurd (asks.symm.trans asks') (by simp)
    | obeyed ready_for saw =>
      obtain rfl := Except.ok.inj (asks.symm.trans ready_for.asks)
      exact ⟨_, _, _, ready_for, saw, rfl⟩
  · cases h with
    | loading loads => exact .inl (unprepared_of_loading loads)
    | settingUp asks loads sets => exact .inl (unprepared_of_settingUp asks loads sets)
    | seeing ready_for saw =>
      obtain rfl := Except.ok.inj (asks.symm.trans ready_for.asks)
      exact .inr ⟨_, _, ready_for, saw⟩

theorem run_of_find (asks : asked arguments = .ok request) (finds : request.command = .find) :
    Ends (run env envFile arguments) (newProcess host)
      (fun code after => ∃ settings ready ending,
        Ready env envFile arguments host request settings ready ∧
        Finds request.service request.choices.pattern ready ending after ∧ code = ending.code)
      (fun f after => Unprepared env envFile arguments host ∨ ∃ settings ready query,
        Ready env envFile arguments host request settings ready ∧
        Service.query? request.service request.choices.pattern = some query ∧
        Discovery.find query ready = .error f after) := by
  refine (run_of_asked asks).imp (fun code after h => ?_) (fun f after h => ?_)
  · obtain ⟨settings, ready, ending, hready, hsaw, rfl⟩ := h
    rw [seeTo, finds] at hsaw
    exact ⟨settings, ready, ending, hready, (find_stages _ _ ready).of_ok hsaw, rfl⟩
  · rcases h with hnever | ⟨settings, ready, hready, hsaw⟩
    · exact Or.inl hnever
    · rw [seeTo, finds] at hsaw
      obtain ⟨query, haccepted, hbroken⟩ := (find_stages _ _ ready).of_error hsaw
      exact Or.inr ⟨settings, ready, query, hready, haccepted, hbroken⟩

/-- A listing shows what the search finds, in order. -/
theorem run_lists (asks : asked arguments = .ok request) (finds : request.command = .find)
    (absolute : host.cwd.isAbsolute = true) (searchable : searchFault? host = none) {query : Query}
    (accepted : Service.query? request.service request.choices.pattern = some query) :
    Ends (run env envFile arguments) (newProcess host)
      (Lists env envFile arguments host query (Handle.sort (hits query host)))
      (fun _ _ => Unprepared env envFile arguments host) := by
  refine (run_of_find asks finds).imp (fun code after h => ?_) (fun f after h => ?_)
  · obtain ⟨settings, ready, ending, hready, hfinds, rfl⟩ := h
    have hbackstage := hready.backstage absolute
    cases hfinds with
    | unsearchable refused => exact absurd (refused.symm.trans accepted) (by simp)
    | @listed query' located searched accepted' locates =>
      obtain rfl := Option.some.inj (accepted.symm.trans accepted')
      obtain ⟨-, hlocated, hsearched⟩ := (find_ends query ready).of_ok locates
      -- What the search reads of the machine is as the program found it.
      have hhits : hits query ready = hits query host := hbackstage.akin.view (hits query)
      rw [← hhits, ← hlocated]
      refine .shown hready locates (Handle.sort_perm located) ?_
        (Finds.scanned hbackstage (.listed accepted locates))
      have hsilent : searched.stdout = "" := by
        rw [hsearched.view Host.stdout, afterSearch]
        split
        · exact hbackstage.akin.view Host.stdout
        · exact hbackstage.akin.view Host.stdout
      rw [(listed_alike query _ searched).view Host.stdout, hsilent, String.empty_append]
  · rcases h with hnever | ⟨settings, ready, query', hready, -, hbroken⟩
    · exact hnever
    · have hfault := ((find_ends query' ready).of_error hbroken).1
      have hsame : searchFault? ready = searchFault? host :=
        (hready.backstage absolute).akin.view searchFault?
      exact absurd (hfault.symm.trans (hsame.trans searchable)) (by simp)

/-- Where there is no query, nothing is listed. -/
theorem run_refuses (asks : asked arguments = .ok request) (finds : request.command = .find)
    (absolute : host.cwd.isAbsolute = true)
    (refused : Service.query? request.service request.choices.pattern = none) :
    Ends (run env envFile arguments) (newProcess host)
      (fun code after => code = Ending.badRequest.code ∧ ∃ settings, LeftAlone settings host after)
      (fun _ _ => Unprepared env envFile arguments host) := by
  refine (run_of_find asks finds).imp (fun code after h => ?_) (fun f after h => ?_)
  · obtain ⟨settings, ready, ending, hready, hfinds, rfl⟩ := h
    cases hfinds with
    | unsearchable => exact ⟨rfl, settings, .of_backstage ((hready.backstage absolute).said ..)⟩
    | listed accepted => exact absurd (refused.symm.trans accepted) (by simp)
  · rcases h with hnever | ⟨settings, ready, query, -, haccepted, -⟩
    · exact hnever
    · exact absurd (refused.symm.trans haccepted) (by simp)

/-- A restart on a machine that is as the listing found it finds what is listed. -/
theorem foretold_of_calls {query : Query} {patience : Patience} {plan : LaunchPlan} {told : Host}
    (akin : Akin told (newProcess host)) (searchable : searchFault? host = none)
    (some_search : 0 < patience.searches)
    (dealt : ∀ first, Handle.least? (Retirement.found query told) = some first →
      Restart.EndsFirst plan first told after) :
    Foretold (Handle.sort (hits query host)) query patience plan told after := by
  -- The search reads nothing that talking about the restart has changed, so it goes as foreseen.
  have hfault : searchFault? told = none := (akin.view searchFault?).trans searchable
  have hlookup : lookupFault? told = none := (Option.or_eq_none_iff.mp hfault).1
  have hhits : hits query told = hits query host := akin.view (hits query)
  have hfound : Retirement.found query told = hits query host := by
    rw [Retirement.found_eq, hfault, hhits]
    rfl
  have hcalls : told.calls.toList = [] := by
    rw [akin.view Host.calls]
    rfl
  have hperm := Handle.sort_perm (hits query host)
  have hleast : (Handle.sort (hits query host)).head? =
      Handle.least? (Retirement.found query told) := by
    rw [hfound]
    exact Handle.head?_sort (Handle.nodup_distinct _)
  refine ⟨?_, fun first hfirst => ?_, fun first hfirst => ?_⟩
  · obtain ⟨located, searched, hlocates, -, rfl, -⟩ | ⟨f, searched, -, hbroken, -⟩ :=
      (find_ends query told).cases
    · exact ⟨_, searched, hlocates, hhits ▸ hperm.symm⟩
    · exact absurd (hbroken.symm.trans hfault) (by simp)
  · rw [hleast] at hfirst
    refine (Retirement.run_of_found some_search hlookup hfirst).imp (fun outcome _ h => ?_)
      (fun _ _ _ => trivial)
    obtain ⟨⟨hattempts, htarget, hcandidates⟩, -⟩ := h
    exact ⟨hattempts, htarget, by rw [hcandidates, hfound]; exact hperm.symm⟩
  · rw [hleast] at hfirst
    obtain ⟨number, farewell, rest, hmade, hfarewell, hrest⟩ := dealt first hfirst
    refine ⟨number, farewell, rest, ?_, hfarewell, hrest⟩
    rw [hmade, hcalls, List.nil_append]

theorem follows_of_accepted {settings : Settings} {ready : Host} {definition : Service.Definition}
    {query : Query} {patience : Patience} (absolute : host.cwd.isAbsolute = true)
    (searchable : searchFault? host = none)
    (ready_for : Ready env envFile arguments host request settings ready)
    (accepts : Accepts settings request.service (overrides request.choices (passed arguments))
      definition query patience)
    (dealt : after.calls = (left
      (Restart.run query patience definition.launchPlan definition.probe?)
      (announced definition ready)).calls) :
    Follows env envFile arguments host (Handle.sort (hits query host)) after := by
  have hakin : Akin (announced definition ready) (newProcess host) :=
    (Akin.of_alike (said_alike ..)).trans (ready_for.backstage absolute).akin
  have hlookup : lookupFault? (announced definition ready) = none := by
    have hfault := (hakin.view searchFault?).trans searchable
    exact (Option.or_eq_none_iff.mp hfault).1
  obtain ⟨patience', hpatience, hsearches⟩ := Service.Definition.patience_of_resolve accepts.resolves
  obtain rfl := Except.ok.inj (accepts.patience.symm.trans hpatience)
  refine .accepted ready_for accepts (foretold_of_calls hakin searchable hsearches ?_)
  intro first hfirst
  have hends : Restart.EndsFirst definition.launchPlan first (announced definition ready)
      (left (Restart.run query patience definition.launchPlan definition.probe?)
        (announced definition ready)) :=
    (Restart.run_of_found hsearches hlookup hfirst).left
  obtain ⟨number, farewell, rest, hmade, hrest⟩ := hends
  exact ⟨number, farewell, rest, by rw [dealt, hmade], hrest⟩

/-- A restart finds what a listing shows, however it ends. -/
theorem run_follows (asks : asked arguments = .ok request) (restarts : request.command = .restart)
    (absolute : host.cwd.isAbsolute = true) (searchable : searchFault? host = none) {query : Query}
    (accepted : Service.query? request.service request.choices.pattern = some query) :
    Ends (run env envFile arguments) (newProcess host)
      (fun _ => Follows env envFile arguments host (Handle.sort (hits query host)))
      (fun _ => Follows env envFile arguments host (Handle.sort (hits query host))) := by
  -- An accepted restart searches by the query of the listing.
  have hquery : ∀ {settings definition query' patience},
      Accepts settings request.service (overrides request.choices (passed arguments)) definition
        query' patience → query' = query := by
    intro settings definition query' patience haccepts
    have hsame := ((searchedAsListed request.service request.choices.pattern).accepted settings
      (overrides request.choices (passed arguments)) definition haccepts.resolves).1
    exact Option.some.inj (haccepts.query.symm.trans (hsame.trans accepted))
  refine (run_of_asked asks).imp (fun code after h => ?_) (fun f after h => ?_)
  · obtain ⟨settings, ready, ending, hready, hsaw, rfl⟩ := h
    rw [seeTo, restarts] at hsaw
    have hran := (restart_stages settings request.service request.choices (passed arguments)
      ready).of_ok hsaw
    cases hran with
    | undefined resolves =>
      refine .rejected hready resolves ?_
      exact ((hready.backstage absolute).said ..).akin.view Host.calls
    | failed accepts runs =>
      obtain rfl := hquery accepts
      refine follows_of_accepted absolute searchable hready accepts ?_
      rw [left, runs]
      exact (said_alike ..).view Host.calls
    | @reported definition query' patience report came accepts runs =>
      obtain rfl := hquery accepts
      refine follows_of_accepted absolute searchable hready accepts ?_
      rw [left, runs, reported]
      split <;> rfl
  · rcases h with hnever | ⟨settings, ready, hready, hsaw⟩
    · exact .unprepared hnever
    · rw [seeTo, restarts] at hsaw
      obtain ⟨-, definition, query', patience, haccepts, hruns⟩ :=
        (restart_stages settings request.service request.choices (passed arguments)
          ready).of_error hsaw
      obtain rfl := hquery haccepts
      refine follows_of_accepted absolute searchable hready haccepts ?_
      rw [left, hruns]

end Runs

/-! ## A listing and a restart -/

/-- **A listing foretells a restart.**  A service is searched for as it is listed, whatever else is
given for a restart of it.  So, on a machine whose next search does not fail, a restart finds just what
a listing shows, and if that is anything, ends the process that is listed first, and no other. -/
theorem listing_foretells (name : String) (pattern : Option String) :
    SearchedAsListed name pattern ∧
    ∀ (env : Environment) (envFile : Option String) (host : Host)
      (finding restarting : List String), AskBoth finding restarting name pattern →
      host.cwd.isAbsolute = true → searchFault? host = none →
      match Service.query? name pattern with
      | none => Ends (run env envFile finding) (newProcess host)
          (fun code after => code = Ending.badRequest.code ∧
            ∃ settings, LeftAlone settings host after)
          (fun _ _ => Unprepared env envFile finding host)
      | some query => ∃ printed, (Handle.pids printed).Pairwise (· < ·) ∧
          Ends (run env envFile finding) (newProcess host)
            (Lists env envFile finding host query printed)
            (fun _ _ => Unprepared env envFile finding host) ∧
          Ends (run env envFile restarting) (newProcess host)
            (fun _ => Follows env envFile restarting host printed)
            (fun _ => Follows env envFile restarting host printed) := by
  refine ⟨searchedAsListed name pattern, ?_⟩
  intro env envFile host finding restarting ask absolute searchable
  obtain ⟨listing, hlists, hfind, rfl, rfl⟩ := ask.lists
  obtain ⟨request, hasks, hrestart, hservice, hpattern⟩ := ask.restarts
  split
  · rename_i hrefused
    exact run_refuses hlists hfind absolute hrefused
  · rename_i query haccepted
    have hsame : Service.query? request.service request.choices.pattern = some query := by
      rw [hservice, hpattern, haccepted]
    exact ⟨Handle.sort (hits query host), Handle.pids_sort_increasing (Handle.nodup_distinct _),
      run_lists hlists hfind absolute searchable haccepted,
      run_follows hasks hrestart absolute searchable hsame⟩

/-- Two instances of a service, the older one listed last in the table. -/
def twinHost : Host where
  processes := [
    { pid := 9, commandLine := some ["svc", "-x"], onTerm := .ignores },
    { pid := 7, commandLine := some ["svc"] }]

theorem listing_foretells_twins :
    Service.query? "svc" none = some sampleQuery ∧ ∃ printed,
      (Handle.pids printed).Pairwise (· < ·) ∧
      Ends (run {} none ["find", "svc"]) (newProcess twinHost)
        (Lists {} none ["find", "svc"] twinHost sampleQuery printed)
        (fun _ _ => Unprepared {} none ["find", "svc"] twinHost) ∧
      Ends (run {} none ["restart", "svc", "--executable", "/bin/svc"]) (newProcess twinHost)
        (fun _ => Follows {} none ["restart", "svc", "--executable", "/bin/svc"] twinHost printed)
        (fun _ => Follows {} none ["restart", "svc", "--executable", "/bin/svc"] twinHost
          printed) :=
  ⟨rfl, (listing_foretells "svc" none).2 {} none twinHost ["find", "svc"]
    ["restart", "svc", "--executable", "/bin/svc"] ⟨⟨_, rfl, rfl, rfl, rfl⟩, ⟨_, rfl, rfl, rfl, rfl⟩⟩
    rfl (by decide)⟩

end App

end Relaunch
