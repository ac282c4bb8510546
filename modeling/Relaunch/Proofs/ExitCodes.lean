/-
  What the exit code tells.

  A run of the program that ends with an exit code was stopped by its arguments, listed the instances
  of a service, or restarted one.  `Verdict` is the table of what it may end with, in terms of what the
  arguments ask for, of the definition of the service, of the launch and of the probe: 2 where the
  request makes no sense, 1 where the launch failed, 3 where the service does not accept connections,
  and 0 otherwise.  What came of the retirement is not in the table.

  `exit_codes` says that the exit code is the one that stands in the table, and no other, that a run
  without one was interrupted by one of its steps (`Interrupted`), and what an exit code says of the
  machine (`Contract`):

  * nothing outside the data directory after a request that makes no sense (`LeftAlone`);
  * one scan after a listing (`Scanned`);
  * no started process and no connection after a failed launch (`NothingStarted`);
  * one start, after every scan, signal and wait and before every connection, after a launch that came
    through (`StartedOnce`).
-/
import Relaunch.Proofs.Program

namespace Relaunch.App

open Relaunch.FileTree Relaunch.Host Relaunch.JournalSetup Relaunch.Launch Relaunch.Restart

variable {env : Environment} {envFile : Option String} {arguments : List String} {host : Host}
  {settings : Settings}

/-! ## The table of endings -/

/-- A run of the program has come to the launch of a service: the arguments ask for a restart, the
service is defined, and the retirement has come to an outcome, whichever that is. -/
inductive AtLaunch (env : Environment) (envFile : Option String) (arguments : List String)
    (host : Host) (settings : Settings) : Service.Definition → Retirement.Outcome → Host → Prop
  | reached {request : Options.Request} {ready retired : Host} {definition : Service.Definition}
      {query : Query} {patience : Patience} {outcome : Retirement.Outcome}
      (ready_for : Ready env envFile arguments host request settings ready)
      (restarts : request.command = .restart)
      (accepts : Accepts settings request.service (overrides request.choices (passed arguments))
        definition query patience)
      (retires : Retirement.run query patience (announced definition ready) = .ok outcome retired) :
      AtLaunch env envFile arguments host settings definition outcome
        (Restart.announced query outcome retired)

/-- How a service fares that is launched on a host. -/
inductive Fares (definition : Service.Definition) (told : Host) : Ending → Prop
  /-- It cannot be started. -/
  | failed {f : Fault} {after : Host}
      (launches : Launch.run definition.launchPlan told = .error f after)
      (failure : f.isLaunchFailure = true) : Fares definition told .launchFailed
  /-- It is started, and has no port to be probed at. -/
  | unprobed {daemon : Daemon} {launched : Host}
      (launches : Launch.run definition.launchPlan told = .ok daemon launched)
      (no_port : definition.probe? = none) : Fares definition told .success
  /-- It is started and accepts connections. -/
  | healthy {daemon : Daemon} {launched after : Host} {probe : Probe}
      (launches : Launch.run definition.launchPlan told = .ok daemon launched)
      (port : definition.probe? = some probe) (probes : probe.run launched = .ok true after) :
      Fares definition told .success
  /-- It is started and does not accept connections in time. -/
  | unhealthy {daemon : Daemon} {launched after : Host} {probe : Probe}
      (launches : Launch.run definition.launchPlan told = .ok daemon launched)
      (port : definition.probe? = some probe) (probes : probe.run launched = .ok false after) :
      Fares definition told .unhealthy

/-- What a run of the program may end with. -/
inductive Verdict (env : Environment) (envFile : Option String) (arguments : List String)
    (host : Host) (settings : Settings) : Ending → Prop
  /-- The arguments ask for help. -/
  | help {topic : Options.Topic} (asks : asked arguments = .error (.help topic)) :
      Verdict env envFile arguments host settings .success
  /-- The arguments ask for the version. -/
  | version (asks : asked arguments = .error .version) :
      Verdict env envFile arguments host settings .success
  /-- The arguments make no sense. -/
  | misread {topic : Options.Topic} {misuse : Options.Misuse}
      (asks : asked arguments = .error (.misuse topic misuse)) :
      Verdict env envFile arguments host settings .badRequest
  /-- There is nothing to search for. -/
  | unsearchable {request : Options.Request} (asks : asked arguments = .ok request)
      (finds : request.command = .find)
      (refused : Service.query? request.service request.choices.pattern = none) :
      Verdict env envFile arguments host settings .badRequest
  /-- The instances of the service are listed. -/
  | listed {request : Options.Request} {query : Query} (asks : asked arguments = .ok request)
      (finds : request.command = .find)
      (accepted : Service.query? request.service request.choices.pattern = some query) :
      Verdict env envFile arguments host settings .success
  /-- The service cannot be defined. -/
  | undefined {request : Options.Request} {error : Service.DefinitionError}
      (asks : asked arguments = .ok request) (restarts : request.command = .restart)
      (resolves : Service.Definition.resolve settings request.service
        (overrides request.choices (passed arguments)) = .error error) :
      Verdict env envFile arguments host settings .badRequest
  /-- The service is launched, whatever came of the retirement. -/
  | launched {definition : Service.Definition} {outcome : Retirement.Outcome} {told : Host}
      {ending : Ending}
      (at_launch : AtLaunch env envFile arguments host settings definition outcome told)
      (fares : Fares definition told ending) :
      Verdict env envFile arguments host settings ending

/-- A run of the program that a fault broke off before it came to an exit code: the step that raised
it, and the host that is left. -/
inductive Interrupted (env : Environment) (envFile : Option String) (arguments : List String)
    (host : Host) : Fault → Host → Prop
  /-- The settings make no sense. -/
  | loading {f : Fault} {after : Host}
      (loads : Settings.load env envFile (newProcess host) = .error f after) :
      Interrupted env envFile arguments host f after
  /-- The journal cannot be set up. -/
  | settingUp {request : Options.Request} {settings : Settings} {loaded after : Host} {f : Fault}
      (asks : asked arguments = .ok request)
      (loads : Settings.load env envFile (newProcess host) = .ok settings loaded)
      (sets : JournalSetup.run settings request.choices.verbose loaded = .error f after) :
      Interrupted env envFile arguments host f after
  /-- The search of a listing fails. -/
  | searching {request : Options.Request} {settings : Settings} {query : Query} {f : Fault}
      {ready after : Host} (ready_for : Ready env envFile arguments host request settings ready)
      (finds : request.command = .find)
      (accepted : Service.query? request.service request.choices.pattern = some query)
      (fails : Discovery.find query ready = .error f after) :
      Interrupted env envFile arguments host f after
  /-- A restart stops, with a fault that is no launch failure. -/
  | restarting {request : Options.Request} {settings : Settings} {definition : Service.Definition}
      {query : Query} {patience : Patience} {f : Fault} {ready after : Host}
      (ready_for : Ready env envFile arguments host request settings ready)
      (restarts : request.command = .restart)
      (accepts : Accepts settings request.service (overrides request.choices (passed arguments))
        definition query patience)
      (stops : Stopped query patience definition.launchPlan definition.probe?
        (announced definition ready) f after)
      (foreign : f.isLaunchFailure = false) :
      Interrupted env envFile arguments host f after

/-! ## There is one ending -/

theorem Ending.code_injective : Function.Injective Ending.code := by
  intro a b h
  cases a <;> cases b <;> first | rfl | exact absurd h (by decide)

theorem Ready.unique {request request' : Options.Request} {ready ready' : Host}
    (h : Ready env envFile arguments host request settings ready)
    (h' : Ready env envFile arguments host request' settings ready') :
    request = request' ∧ ready = ready' := by
  obtain rfl : request = request' := Except.ok.inj (h.asks.symm.trans h'.asks)
  obtain ⟨loaded, hloads, hsets⟩ := h.prepared
  obtain ⟨loaded', hloads', hsets'⟩ := h'.prepared
  rw [hloads] at hloads'
  cases hloads'
  rw [hsets] at hsets'
  cases hsets'
  exact ⟨rfl, rfl⟩

namespace AtLaunch

variable {definition definition' : Service.Definition} {outcome outcome' : Retirement.Outcome}
  {told told' : Host}

theorem asks (h : AtLaunch env envFile arguments host settings definition outcome told) :
    ∃ request, asked arguments = .ok request ∧ request.command = .restart ∧
      Service.Definition.resolve settings request.service
        (overrides request.choices (passed arguments)) = .ok definition := by
  cases h with
  | reached ready_for restarts accepts retires =>
    exact ⟨_, ready_for.asks, restarts, accepts.resolves⟩

/-- A run comes to one launch. -/
theorem unique (h : AtLaunch env envFile arguments host settings definition outcome told)
    (h' : AtLaunch env envFile arguments host settings definition' outcome' told') :
    definition = definition' ∧ told = told' := by
  cases h with
  | reached ready_for restarts accepts retires =>
    cases h' with
    | reached ready_for' restarts' accepts' retires' =>
      obtain ⟨rfl, rfl⟩ := ready_for.unique ready_for'
      obtain rfl := Except.ok.inj (accepts.resolves.symm.trans accepts'.resolves)
      obtain rfl := Option.some.inj (accepts.query.symm.trans accepts'.query)
      obtain rfl := Except.ok.inj (accepts.patience.symm.trans accepts'.patience)
      rw [retires] at retires'
      cases retires'
      exact ⟨rfl, rfl⟩

end AtLaunch

/-- A service fares in one way. -/
theorem Fares.unique {definition : Service.Definition} {told : Host} {a b : Ending}
    (h : Fares definition told a) (h' : Fares definition told b) : a = b := by
  -- Two different ways contradict each other at the launch, at the port or at the probe.
  cases h <;> cases h' <;> first | rfl | simp_all

/-- A run ends in one way. -/
theorem Verdict.unique {a b : Ending} (h : Verdict env envFile arguments host settings a)
    (h' : Verdict env envFile arguments host settings b) : a = b := by
  -- Only two launches need a look at what was run; every other pair differs in what was asked for.
  cases h with
  | launched at_launch fares =>
    obtain ⟨request, hasks, hrestarts, hresolves⟩ := at_launch.asks
    cases h' with
    | launched at_launch' fares' =>
      obtain ⟨rfl, rfl⟩ := at_launch.unique at_launch'
      exact fares.unique fares'
    | _ => simp_all
  | _ =>
    cases h' with
    | launched at_launch' fares' =>
      obtain ⟨request, hasks, hrestarts, hresolves⟩ := at_launch'.asks
      simp_all
    | _ => first | rfl | simp_all

/-! ## What has become of the machine -/

/-- Nothing was done to the machine, and no file outside the data directory was changed. -/
structure LeftAlone (settings : Settings) (host after : Host) : Prop where
  /-- There were no dealings: no scan, no signal, no limits, no start and no connection. -/
  calls : after.calls = #[]
  processes : after.processes = host.processes
  limits : after.limits = host.limits
  contents : ∀ place, ¬Inside (dataPlace settings host.cwd) place →
    after.files.content? place = host.files.content? place

/-- The process table was scanned, and nothing else was done. -/
structure Scanned (settings : Settings) (host after : Host) : Prop where
  calls : after.calls = #[.scan]
  processes : after.processes = host.dueTable
  limits : after.limits = host.limits
  contents : ∀ place, ¬Inside (dataPlace settings host.cwd) place →
    after.files.content? place = host.files.content? place

/-- The launch of a plan on `told` started nothing, and there was no connection. -/
structure NothingStarted (plan : LaunchPlan) (told after : Host) : Prop where
  processes : after.processes = told.processes
  nextPid : after.nextPid = told.nextPid
  calls : ∃ early tried, after.calls.toList = early ++ tried ∧
    (∀ call ∈ early, isEarly call = true) ∧
    (tried = [] ∨ tried = [.spawn (command plan)] ∧
      ∃ cause, told.response (command plan) = .fails cause)

/-- The executable of a plan was started once, after every scan, signal and wait and before every
connection. -/
structure StartedOnce (plan : LaunchPlan) (after : Host) : Prop where
  calls : ∃ early late, after.calls.toList = early ++ [.spawn (command plan)] ++ late ∧
    (∀ call ∈ early, isEarly call = true) ∧ ∀ call ∈ late, call.incidental = true

/-- What an exit code says about the run that ended with it. -/
structure Contract (env : Environment) (envFile : Option String) (arguments : List String)
    (host : Host) (settings : Settings) (code : Nat) (after : Host) : Prop where
  known : ∃ ending : Ending, code = ending.code
  verdict : ∀ ending : Ending,
    code = ending.code ↔ Verdict env envFile arguments host settings ending
  /-- Once a run has come to its launch, the launch and the probe decide, whatever came of the
  retirement. -/
  regardless : ∀ {definition outcome told},
    AtLaunch env envFile arguments host settings definition outcome told →
      ∀ ending : Ending, code = ending.code ↔ Fares definition told ending
  rejected : code = Ending.badRequest.code → LeftAlone settings host after
  informed : ∀ {stop}, asked arguments = .error stop → LeftAlone settings host after
  listed : ∀ {request}, asked arguments = .ok request → request.command = .find →
    code = Ending.success.code → Scanned settings host after
  failed : ∀ {definition outcome told},
    AtLaunch env envFile arguments host settings definition outcome told →
      code = Ending.launchFailed.code → NothingStarted definition.launchPlan told after
  started : ∀ {definition outcome told},
    AtLaunch env envFile arguments host settings definition outcome told →
      code = Ending.success.code ∨ code = Ending.unhealthy.code →
        StartedOnce definition.launchPlan after

variable {request : Options.Request} {ready after : Host} {ending : Ending}

/-- A run that ended because a launch failed, or because its service does not accept connections, has
come to that launch. -/
theorem Contract.at_launch {code : Nat}
    (h : Contract env envFile arguments host settings code after) (ending : Ending)
    (ended : code = ending.code) (launched : ending = .launchFailed ∨ ending = .unhealthy) :
    ∃ definition outcome told,
      AtLaunch env envFile arguments host settings definition outcome told := by
  cases (h.verdict ending).mp ended with
  | launched at_launch _ => exact ⟨_, _, _, at_launch⟩
  | _ => simp at launched

theorem Verdict.code_iff (h : Verdict env envFile arguments host settings ending)
    (other : Ending) :
    ending.code = other.code ↔ Verdict env envFile arguments host settings other := by
  constructor
  · intro hcode
    exact Ending.code_injective hcode ▸ h
  · intro hother
    rw [h.unique hother]

theorem Verdict.regardless (h : Verdict env envFile arguments host settings ending)
    {definition : Service.Definition} {outcome : Retirement.Outcome} {told : Host}
    (at_launch : AtLaunch env envFile arguments host settings definition outcome told)
    (other : Ending) : ending.code = other.code ↔ Fares definition told other := by
  rw [h.code_iff]
  constructor
  · intro hother
    obtain ⟨request, hasks, hrestarts, hresolves⟩ := at_launch.asks
    cases hother with
    | launched at_launch' fares =>
      obtain ⟨rfl, rfl⟩ := at_launch.unique at_launch'
      exact fares
    | _ => simp_all
  · exact .launched at_launch

/-- What was done backstage leaves the machine alone. -/
theorem LeftAlone.of_backstage (h : Backstage settings (newProcess host) after) :
    LeftAlone settings host after :=
  ⟨h.akin.view Host.calls, h.akin.view Host.processes, h.akin.view Host.limits, h.contents⟩

/-! ## Runs that their arguments stop -/

theorem contract_of_stop {stop : Options.Stop} {loaded : Host}
    (asks : asked arguments = .error stop)
    (loads : Settings.load env envFile (newProcess host) = .ok settings loaded) :
    Contract env envFile arguments host settings stop.exitCode
      (shown stop settings.columns loaded) := by
  have hloaded := (Settings.load_confined env envFile _).of_ok loads
  have halone : LeftAlone settings host (shown stop settings.columns loaded) := by
    refine ⟨hloaded.alike.view Host.calls, hloaded.alike.view Host.processes,
      hloaded.alike.view Host.limits, fun place _ => ?_⟩
    exact (hloaded.toTouched.sameAt (newProcess_unowned host place)).1
  have hverdict : ∃ ending : Ending, stop.exitCode = ending.code ∧
      Verdict env envFile arguments host settings ending := by
    cases stop with
    | help topic => exact ⟨.success, rfl, .help asks⟩
    | version => exact ⟨.success, rfl, .version asks⟩
    | misuse topic misuse => exact ⟨.badRequest, rfl, .misread asks⟩
  obtain ⟨ending, hcode, hverdict⟩ := hverdict
  -- No run that its arguments stop comes to a launch.
  have hnever : ∀ {definition outcome told},
      ¬AtLaunch env envFile arguments host settings definition outcome told := by
    intro definition outcome told hat
    obtain ⟨request, hasks, -⟩ := hat.asks
    exact absurd (asks.symm.trans hasks) (by simp)
  rw [hcode]
  refine ⟨⟨ending, rfl⟩, hverdict.code_iff, hverdict.regardless, fun _ => halone, fun _ => halone,
    fun hasks => ?_, fun hat => (hnever hat).elim, fun hat => (hnever hat).elim⟩
  exact absurd (asks.symm.trans hasks) (by simp)

/-! ## Runs that list -/

theorem listed_alike (query : Query) (handles : List Handle) (host : Host) :
    Alike (listed query handles host)
      { host with stdout := host.stdout ++ String.join (handles.map listingLine) } := by
  unfold listed
  split
  · exact (said_alike ..).step fun host =>
      { host with stdout := host.stdout ++ String.join (handles.map listingLine) }
  · exact .refl _

theorem listed_touched (query : Query) (handles : List Handle) (host : Host) :
    Touched Nowhere Nowhere host (listed query handles host) := by
  unfold listed
  split
  · exact (said_touched ..).trans (.of_files rfl rfl rfl)
  · exact .of_files rfl rfl rfl

/-- A listing makes one scan. -/
theorem Finds.scanned {service : String} {pattern : Option String}
    (backstage : Backstage settings (newProcess host) ready)
    (h : Finds service pattern ready .success after) : Scanned settings host after := by
  cases h with
  | @listed query found searched accepted finds =>
    obtain ⟨hfault, -, hsearched⟩ := (Discovery.find_ends query ready).of_ok finds
    have hlookup : Discovery.lookupFault? ready = none := (Option.or_eq_none_iff.mp hfault).1
    have hscan : Discovery.afterSearch ready = ready.afterScan := by
      rw [Discovery.afterSearch, hlookup]
      rfl
    rw [hscan] at hsearched
    have hlisted := listed_alike query (Handle.sort found) searched
    have htouched := ((Discovery.find_touched query ready).of_ok finds).trans
      (listed_touched query (Handle.sort found) searched)
    refine ⟨?_, ?_, ?_, fun place houtside => backstage.contents_of_touched htouched houtside⟩
    · have hcalls : ready.calls = #[] := backstage.akin.view Host.calls
      have hscanned : ready.afterScan.calls = #[.scan] := congrArg (·.push Call.scan) hcalls
      rw [hlisted.view Host.calls, hsearched.view Host.calls, hscanned]
    · rw [hlisted.view Host.processes, hsearched.view Host.processes]
      exact backstage.akin.view dueTable
    · rw [hlisted.view Host.limits, hsearched.view Host.limits]
      exact backstage.akin.view Host.limits

theorem contract_of_find (absolute : host.cwd.isAbsolute = true)
    (ready_for : Ready env envFile arguments host request settings ready)
    (finds : request.command = .find)
    (h : Finds request.service request.choices.pattern ready ending after) :
    Contract env envFile arguments host settings ending.code after := by
  have hbackstage := ready_for.backstage absolute
  have hnever : ∀ {definition outcome told},
      ¬AtLaunch env envFile arguments host settings definition outcome told := by
    intro definition outcome told hat
    obtain ⟨request', hasks, hrestarts, -⟩ := hat.asks
    obtain rfl := Except.ok.inj (ready_for.asks.symm.trans hasks)
    exact absurd (finds.symm.trans hrestarts) (by decide)
  have hverdict : Verdict env envFile arguments host settings ending := by
    cases h with
    | unsearchable refused => exact .unsearchable ready_for.asks finds refused
    | listed accepted _ => exact .listed ready_for.asks finds accepted
  refine ⟨⟨ending, rfl⟩, hverdict.code_iff, hverdict.regardless, fun hcode => ?_, fun hasks => ?_,
    fun _ _ hcode => ?_, fun hat => (hnever hat).elim, fun hat => (hnever hat).elim⟩
  · obtain rfl := Ending.code_injective hcode
    cases h with
    | unsearchable refused => exact .of_backstage (hbackstage.said ..)
  · exact absurd (ready_for.asks.symm.trans hasks) (by simp)
  · obtain rfl := Ending.code_injective hcode
    exact h.scanned hbackstage

/-! ## Runs that restart -/

/-- What came of the probe of a service. -/
theorem probe_eq_ok {health : Option Probe} {launched probed : Host} {healthy : Option Bool}
    (h : probe health launched = .ok healthy probed) :
    (health = none ∧ healthy = none) ∨ ∃ asked accepts, health = some asked ∧
      asked.run launched = .ok accepts probed ∧ healthy = some accepts := by
  cases health with
  | none =>
    cases h
    exact .inl ⟨rfl, rfl⟩
  | some asked =>
    rw [probe] at h
    cases hprobes : asked.run launched with
    | error f left =>
      rw [bind_of_error hprobes] at h
      cases h
    | ok accepts left =>
      rw [bind_of_ok hprobes] at h
      cases h
      exact .inr ⟨asked, accepts, rfl, hprobes, rfl⟩

/-- The report of a restart tells how the service fared, whatever it says of the retirement. -/
theorem fares_of_probe {definition : Service.Definition} {told launched probed : Host}
    (outcome : Retirement.Outcome) {daemon : Daemon} {healthy : Option Bool}
    (launches : Launch.run definition.launchPlan told = .ok daemon launched)
    (probes : probe definition.probe? launched = .ok healthy probed) :
    Fares definition told (endingOf ⟨outcome, daemon, healthy⟩) := by
  rcases probe_eq_ok probes with ⟨hport, rfl⟩ | ⟨asked, accepts, hport, hprobes, rfl⟩
  · exact .unprobed launches hport
  · cases accepts with
    | true => exact .healthy launches hport hprobes
    | false => exact .unhealthy launches hport hprobes

/-- Nothing that was done backstage makes a host less genuine. -/
theorem genuine_of_backstage (h : Backstage settings (newProcess host) ready)
    (genuine : host.Genuine) : ready.Genuine :=
  genuine.of_leaving (fun _ hmem => h.akin.view Host.processes ▸ hmem) (h.akin.view Host.changes)
    (h.akin.view Host.connections)

/-- A run that came to a launch keeps the contract if it did with the launch. -/
theorem contract_of_launch {definition : Service.Definition} {outcome : Retirement.Outcome}
    {told : Host} (at_launch : AtLaunch env envFile arguments host settings definition outcome told)
    (fares : Fares definition told ending)
    (failed : ending = .launchFailed → NothingStarted definition.launchPlan told after)
    (started : ending = .success ∨ ending = .unhealthy → StartedOnce definition.launchPlan after) :
    Contract env envFile arguments host settings ending.code after := by
  have hverdict := Verdict.launched at_launch fares
  obtain ⟨request, hasks, hrestarts, -⟩ := at_launch.asks
  refine ⟨⟨ending, rfl⟩, hverdict.code_iff, hverdict.regardless, fun hcode => ?_, fun hstop => ?_,
    fun hfind hfinds _ => ?_, fun at_launch' hcode => ?_, fun at_launch' hcode => ?_⟩
  · rw [Ending.code_injective hcode] at fares
    cases fares
  · exact absurd (hasks.symm.trans hstop) (by simp)
  · obtain rfl := Except.ok.inj (hasks.symm.trans hfind)
    exact absurd (hrestarts.symm.trans hfinds) (by decide)
  · obtain ⟨rfl, rfl⟩ := at_launch.unique at_launch'
    exact failed (Ending.code_injective hcode)
  · obtain ⟨rfl, -⟩ := at_launch.unique at_launch'
    have hcode := hcode.imp (fun h => Ending.code_injective h) (fun h => Ending.code_injective h)
    exact started hcode

/-- A launch that failed after a retirement started nothing. -/
theorem nothingStarted_of_failed {query : Query} {patience : Patience} {plan : LaunchPlan}
    {told retired failed : Host} {outcome : Retirement.Outcome} {f : Fault}
    (fresh : told.calls.toList = []) (retires : Retirement.run query patience told = .ok outcome retired)
    (launches : Launch.run plan (Restart.announced query outcome retired) = .error f failed) :
    NothingStarted plan (Restart.announced query outcome retired) failed := by
  have hrefused := (launch_ends _ _).of_error launches
  obtain ⟨early, tried, hmade, hearly, htried⟩ := failed_calls retires launches
  rw [fresh, List.nil_append] at hmade
  exact ⟨hrefused.processes, hrefused.nextPid, early, tried, hmade, hearly, htried⟩

/-- What is said afterwards starts nothing either. -/
theorem NothingStarted.said {plan : LaunchPlan} {told failed : Host}
    (h : NothingStarted plan told failed) (level : Level) (speaker message : String) :
    NothingStarted plan told (said level speaker message failed) := by
  have halike := said_alike level speaker message failed
  refine ⟨(halike.view Host.processes).trans h.processes, (halike.view Host.nextPid).trans h.nextPid,
    ?_⟩
  rw [halike.view Host.calls]
  exact h.calls

theorem endingOf_ne_launchFailed (report : Report) : endingOf report ≠ .launchFailed := by
  unfold endingOf
  split <;> decide

theorem contract_of_restart (absolute : host.cwd.isAbsolute = true) (genuine : host.Genuine)
    (ready_for : Ready env envFile arguments host request settings ready)
    (restarts : request.command = .restart)
    (h : Restarts settings request.service request.choices (passed arguments) ready ending after) :
    Contract env envFile arguments host settings ending.code after := by
  have hbackstage := ready_for.backstage absolute
  -- Nothing has been dealt with when the retirement begins.
  have hfresh : ∀ definition, (announced definition ready).calls.toList = [] := by
    intro definition
    have hcalls : (announced definition ready).calls = #[] :=
      ((said_alike ..).view Host.calls).trans (hbackstage.akin.view Host.calls)
    rw [hcalls]
  cases h with
  | undefined resolves =>
    have hverdict : Verdict env envFile arguments host settings .badRequest :=
      .undefined ready_for.asks restarts resolves
    refine ⟨⟨_, rfl⟩, hverdict.code_iff, hverdict.regardless,
      fun _ => .of_backstage (hbackstage.said ..), fun _ => .of_backstage (hbackstage.said ..),
      fun _ _ hcode => ?_, fun _ hcode => ?_, fun _ hcode => ?_⟩
    · exact absurd hcode (by decide)
    · exact absurd hcode (by decide)
    · exact absurd hcode (by decide)
  | @failed definition query patience f failed accepts runs failure =>
    have hstops := (run_stages query patience definition.launchPlan definition.probe? _).of_error runs
    have hgenuine : (announced definition ready).Genuine :=
      (genuine_of_backstage hbackstage genuine).of_alike (said_alike ..)
    -- On a genuine host nothing but the launch raises a launch failure.
    obtain ⟨outcome, retired, hretires, hlaunches⟩ := hstops.launch_failed hgenuine failure
    have hnothing := nothingStarted_of_failed (hfresh definition) hretires hlaunches
    refine contract_of_launch (.reached ready_for restarts accepts hretires)
      (.failed hlaunches failure) (fun _ => hnothing.said ..) (fun hended => ?_)
    rcases hended with hended | hended
    · cases hended
    · cases hended
  | @reported definition query patience report came accepts runs =>
    have hcame := (run_stages query patience definition.launchPlan definition.probe? _).of_ok runs
    obtain ⟨early, late, hmade, hearly, hlate⟩ := hcame.calls
    rw [hfresh, List.nil_append] at hmade
    have hshown : (reported request.choices report came).calls = came.calls := by
      unfold reported
      split <;> rfl
    cases hcame with
    | @probed outcome _ _ _ _ _ retires launches probes =>
      refine contract_of_launch (.reached ready_for restarts accepts retires)
        (fares_of_probe outcome launches probes)
        (fun hended => absurd hended (endingOf_ne_launchFailed _)) (fun _ => ?_)
      exact ⟨early, late, by rw [hshown, hmade], hearly, hlate⟩

/-! ## The contract -/

theorem interrupted_of_broke {f : Fault} (h : Broke env envFile arguments host f after) :
    Interrupted env envFile arguments host f after := by
  cases h with
  | loading loads => exact .loading loads
  | settingUp asks loads sets => exact .settingUp asks loads sets
  | @seeing request settings ready _ _ ready_for saw =>
    cases hcommand : request.command with
    | restart =>
      rw [seeTo, hcommand] at saw
      obtain ⟨hforeign, definition, query, patience, haccepts, hruns⟩ :=
        (restart_stages _ _ _ _ ready).of_error saw
      have hstops := (run_stages query patience definition.launchPlan definition.probe? _).of_error
        hruns
      exact .restarting ready_for hcommand haccepts hstops hforeign
    | find =>
      rw [seeTo, hcommand] at saw
      obtain ⟨query, haccepted, hfails⟩ := (find_stages _ _ ready).of_error saw
      exact .searching ready_for hcommand haccepted hfails

theorem contract_of_ran (absolute : host.cwd.isAbsolute = true) (genuine : host.Genuine) {code : Nat}
    (h : Ran env envFile arguments host code after) :
    ∃ settings loaded, Settings.load env envFile (newProcess host) = .ok settings loaded ∧
      Contract env envFile arguments host settings code after := by
  cases h with
  | stopped asks loads => exact ⟨_, _, loads, contract_of_stop asks loads⟩
  | @obeyed request settings ready _ ending ready_for saw =>
    obtain ⟨loaded, hloads, -⟩ := ready_for.prepared
    refine ⟨settings, loaded, hloads, ?_⟩
    cases hcommand : request.command with
    | restart =>
      rw [seeTo, hcommand] at saw
      have hran := (restart_stages _ _ _ _ ready).of_ok saw
      exact contract_of_restart absolute genuine ready_for hcommand hran
    | find =>
      rw [seeTo, hcommand] at saw
      have hran := (find_stages _ _ ready).of_ok saw
      exact contract_of_find absolute ready_for hcommand hran

/-- **The exit code tells what came of a run**: the one that stands in the table of endings, and no
other, with what that says about the machine.  A run without an exit code was interrupted by a fault
of one of its steps, and a restart by no launch failure.  This supposes that nothing that meets a
process or an attempt to connect is a launch failure of our own, and that the working directory is
absolute. -/
theorem exit_codes (env : Environment) (envFile : Option String) (arguments : List String)
    {host : Host} (absolute : host.cwd.isAbsolute = true) (genuine : host.Genuine) :
    Ends (run env envFile arguments) (newProcess host)
      (fun code after => ∃ settings loaded,
        Settings.load env envFile (newProcess host) = .ok settings loaded ∧
        Contract env envFile arguments host settings code after)
      (Interrupted env envFile arguments host) :=
  (run_ends env envFile arguments host).imp (fun _ _ h => contract_of_ran absolute genuine h)
    (fun _ _ h => interrupted_of_broke h)

/-- An instance of a service that nobody knows by name, and that may not be killed. -/
def strangerHost : Host where
  processes := [{
    pid := 7, commandLine := some ["svc"], onTerm := .ignores
    signalFaults := [(killSignal, .denied (some 7) "svc" "")] }]
  files := { directories := [["srv"]] }

/-- The log of the supervisor is never rotated. -/
def strangerEnv : Environment := { bindings := [("LOG_MAX_BYTES", "0")] }

/-- A request to restart the service in a directory, and to look once whether it accepts
connections. -/
def strangerArguments (directory : String) : List String :=
  ["restart", "svc", "--executable", "/bin/svc", "--workdir", directory, "--no-fd-limit",
    "--health-port", "80", "--health-timeout", "0"]

theorem exit_codes_stranger :
    strangerHost.cwd.isAbsolute = true ∧ strangerHost.Genuine ∧
    (∃ settings after,
      run strangerEnv none ["find", "svc"] (newProcess strangerHost) = .ok 0 after ∧
      Scanned settings strangerHost after) ∧
    (∃ settings definition outcome told after,
      run strangerEnv none (strangerArguments "/nowhere") (newProcess strangerHost) = .ok 1 after ∧
      AtLaunch strangerEnv none (strangerArguments "/nowhere") strangerHost settings definition
        outcome told ∧
      (∀ ending : Ending, 1 = ending.code ↔ Fares definition told ending) ∧
      NothingStarted definition.launchPlan told after) ∧
    (∃ settings after,
      run strangerEnv none ["restart", "svc"] (newProcess strangerHost) = .ok 2 after ∧
      LeftAlone settings strangerHost after) ∧
    ∃ settings definition outcome told after,
      run strangerEnv none (strangerArguments "/srv") (newProcess strangerHost) = .ok 3 after ∧
      AtLaunch strangerEnv none (strangerArguments "/srv") strangerHost settings definition outcome
        told ∧
      (∀ ending : Ending, 3 = ending.code ↔ Fares definition told ending) ∧
      StartedOnce definition.launchPlan after := by
  have hgenuine : strangerHost.Genuine := by
    refine ⟨fun process hmem => ?_, fun _ hmem => absurd hmem List.not_mem_nil,
      fun _ hmem => absurd hmem List.not_mem_nil⟩
    rw [List.mem_singleton.mp hmem]
    refine ⟨fun met hmet => ?_, fun _ hmet => absurd hmet (by simp)⟩
    rw [List.mem_singleton.mp hmet]
    rfl
  have hkept : ∀ arguments code,
      returned? (run strangerEnv none arguments) (newProcess strangerHost) (fun code _ => code) =
        some code →
      ∃ settings after, run strangerEnv none arguments (newProcess strangerHost) = .ok code after ∧
        Contract strangerEnv none arguments strangerHost settings code after := by
    intro arguments code hreturned
    obtain ⟨_, after, hran, rfl⟩ := exists_of_returned? hreturned
    obtain ⟨settings, _, -, hcontract⟩ :=
      (exit_codes strangerEnv none arguments rfl hgenuine).of_ok hran
    exact ⟨settings, after, hran, hcontract⟩
  -- One run for each exit code; the retirement fails in those that come to a launch.
  refine ⟨rfl, hgenuine, ?_, ?_, ?_, ?_⟩
  · obtain ⟨settings, after, hran, hcontract⟩ := hkept ["find", "svc"] 0 (by decide +kernel)
    exact ⟨settings, after, hran, hcontract.listed rfl rfl rfl⟩
  · obtain ⟨settings, after, hran, hcontract⟩ :=
      hkept (strangerArguments "/nowhere") 1 (by decide +kernel)
    obtain ⟨definition, outcome, told, hat⟩ := hcontract.at_launch .launchFailed rfl (.inl rfl)
    exact ⟨settings, definition, outcome, told, after, hran, hat, hcontract.regardless hat,
      hcontract.failed hat rfl⟩
  · obtain ⟨settings, after, hran, hcontract⟩ := hkept ["restart", "svc"] 2 (by decide +kernel)
    exact ⟨settings, after, hran, hcontract.rejected rfl⟩
  · obtain ⟨settings, after, hran, hcontract⟩ :=
      hkept (strangerArguments "/srv") 3 (by decide +kernel)
    obtain ⟨definition, outcome, told, hat⟩ := hcontract.at_launch .unhealthy rfl (.inr rfl)
    exact ⟨settings, definition, outcome, told, after, hran, hat, hcontract.regardless hat,
      hcontract.started hat (.inr rfl)⟩

end Relaunch.App
