/-
  The stages of a run of the program.

  A run loads the settings, reads the arguments, sets the journal up and sees to the request.  `Ran`
  says how it may end with an exit code, and `Broke` where it may break off, in terms of the steps
  themselves; `run_ends` says that every run does one or the other.  What comes before the request is
  work backstage (`Ready.backstage`), so a request starts from the machine as it was.

  Seeing to a request is taken apart in the same way: `Restarts` and `restart_stages` for a restart,
  `Finds` and `find_stages` for a listing.  The search of a listing touches no file
  (`Discovery.find_touched`).
-/
import Relaunch.Proofs.Backstage
import Relaunch.Proofs.Definitions
import Relaunch.Proofs.RestartStages

namespace Relaunch

/-! ## Searches touch no file -/

namespace Discovery

open Relaunch.Host

theorem ownPids_touched : Keeps (Touched Nowhere Nowhere) ownPids := by
  have hread : Keeps (Touched Nowhere Nowhere) readAncestors :=
    Keeps.get.bind fun host => (meet_touched host.ancestorsFault).bind fun _ => .pure _
  refine Keeps.get.bind fun host => .tryCatch (hread.bind fun _ => .pure _) fun fault => ?_
  split
  · exact (say_touched _ _ _).bind fun _ => .pure _
  · exact .throw _

theorem scan_touched : Keeps (Touched Nowhere Nowhere) scan := by
  intro host
  rw [ends_scan]
  exact ⟨fun _ => .of_files rfl rfl rfl, fun _ _ => .of_files rfl rfl rfl⟩

theorem matchAll_touched (query : Query) : ∀ processes,
    Keeps (Touched Nowhere Nowhere) (matchAll query processes) := by
  intro processes
  induction processes with
  | nil => exact .pure _
  | cons process rest ih =>
    rw [matchAll]
    split
    · split
      · exact (say_touched _ _ _).bind fun _ => ih
      · exact .throw _
    · exact ih.bind fun _ => .pure _

theorem withoutOwn_touched (own : List Int) : ∀ handles,
    Keeps (Touched Nowhere Nowhere) (withoutOwn own handles) := by
  intro handles
  induction handles with
  | nil => exact .pure _
  | cons handle rest ih =>
    rw [withoutOwn]
    split
    · exact (say_touched _ _ _).bind fun _ => ih
    · exact ih.bind fun _ => .pure _

theorem find_touched (query : Query) : Keeps (Touched Nowhere Nowhere) (find query) :=
  ownPids_touched.bind fun own =>
    (scan_touched.bind fun _ => matchAll_touched query _).bind fun found =>
      (withoutOwn_touched own found).bind fun _ => .pure _

end Discovery

namespace App

open Relaunch.FileTree Relaunch.Host Relaunch.JournalSetup

/-! ## Before the request -/

/-- What the arguments before the first double dash ask for. -/
def asked (arguments : List String) : Except Options.Stop Options.Request :=
  Options.read (splitArguments arguments).1

/-- The arguments for the service. -/
def passed (arguments : List String) : List String := (splitArguments arguments).2

/-- The arguments ask for the request, and the program is ready to see to it on a host. -/
structure Ready (env : Environment) (envFile : Option String) (arguments : List String)
    (host : Host) (request : Options.Request) (settings : Settings) (ready : Host) : Prop where
  asks : asked arguments = .ok request
  prepared : ∃ loaded, Settings.load env envFile (newProcess host) = .ok settings loaded ∧
    JournalSetup.run settings request.choices.verbose loaded = .ok () ready

variable {env : Environment} {envFile : Option String} {arguments : List String} {host : Host}
  {request : Options.Request} {settings : Settings}

theorem newProcess_unowned (host : Host) (place : Place) : ¬(newProcess host).journal.Owns place := by
  rintro ⟨log, hmem, -⟩
  exact List.not_mem_nil hmem

/-- A request starts from the machine as the program found it. -/
theorem Ready.backstage {ready : Host} (h : Ready env envFile arguments host request settings ready)
    (absolute : host.cwd.isAbsolute = true) : Backstage settings (newProcess host) ready := by
  obtain ⟨loaded, hloads, hsets⟩ := h.prepared
  have hloaded := (Settings.load_confined env envFile _).of_ok hloads
  have hcwd : loaded.cwd = host.cwd := hloaded.alike.view Host.cwd
  have hfresh : loaded.journal.handlers = [] := congrArg Journal.handlers hloaded.journal
  have hready := (JournalSetup.run_ends settings request.choices.verbose loaded hfresh
    (hcwd ▸ absolute)).of_ok hsets
  have hplace : dataPlace settings loaded.cwd = dataPlace settings (newProcess host).cwd := by
    rw [hcwd]
    rfl
  refine ⟨hready.akin.trans (.of_alike hloaded.alike), fun place howns => ?_,
    fun place houtside => ?_⟩
  · exact hplace ▸ hready.owned place howns
  · have hsame := (hloaded.sameAt (newProcess_unowned host place)).1
    exact (hready.contents place (hplace ▸ houtside)).trans hsame

/-! ## The stages -/

/-- See to a request. -/
def seeTo (settings : Settings) (request : Options.Request) (arguments : List String) :
    Session Ending :=
  match request.command with
  | .restart => restart settings request.service request.choices (passed arguments)
  | .find => find request.service request.choices.pattern

/-- The host once a stop has been shown. -/
def shown (stop : Options.Stop) (columns : Nat) (host : Host) : Host :=
  { host with
    stdout := host.stdout ++ stop.stdout columns, stderr := host.stderr ++ stop.stderr columns }

/-- A run of the program that ended with an exit code and left a host. -/
inductive Ran (env : Environment) (envFile : Option String) (arguments : List String)
    (host : Host) : Nat → Host → Prop
  /-- The arguments led to no request. -/
  | stopped {stop : Options.Stop} {settings : Settings} {loaded : Host}
      (asks : asked arguments = .error stop)
      (loads : Settings.load env envFile (newProcess host) = .ok settings loaded) :
      Ran env envFile arguments host stop.exitCode (shown stop settings.columns loaded)
  /-- The request was seen to. -/
  | obeyed {request : Options.Request} {settings : Settings} {ready after : Host} {ending : Ending}
      (ready_for : Ready env envFile arguments host request settings ready)
      (saw : seeTo settings request arguments ready = .ok ending after) :
      Ran env envFile arguments host ending.code after

/-- A run of the program that broke off with a fault and left a host. -/
inductive Broke (env : Environment) (envFile : Option String) (arguments : List String)
    (host : Host) : Fault → Host → Prop
  /-- The settings make no sense. -/
  | loading {f : Fault} {after : Host}
      (loads : Settings.load env envFile (newProcess host) = .error f after) :
      Broke env envFile arguments host f after
  /-- The journal cannot be set up. -/
  | settingUp {request : Options.Request} {settings : Settings} {loaded after : Host} {f : Fault}
      (asks : asked arguments = .ok request)
      (loads : Settings.load env envFile (newProcess host) = .ok settings loaded)
      (sets : JournalSetup.run settings request.choices.verbose loaded = .error f after) :
      Broke env envFile arguments host f after
  /-- The request was broken off. -/
  | seeing {request : Options.Request} {settings : Settings} {ready after : Host} {f : Fault}
      (ready_for : Ready env envFile arguments host request settings ready)
      (saw : seeTo settings request arguments ready = .error f after) :
      Broke env envFile arguments host f after

theorem obey_eq (settings : Settings) (request : Options.Request) (arguments : List String) :
    obey settings request (passed arguments) =
      (do JournalSetup.run settings request.choices.verbose; seeTo settings request arguments) := by
  unfold obey seeTo
  cases request.command <;> rfl

/-- A run ends at one of its stages or comes through. -/
theorem run_ends (env : Environment) (envFile : Option String) (arguments : List String)
    (host : Host) :
    Ends (run env envFile arguments) (newProcess host) (Ran env envFile arguments host)
      (Broke env envFile arguments host) := by
  rw [run, ends_bind, Ends]
  cases hloads : Settings.load env envFile (newProcess host) with
  | error f after => exact .loading hloads
  | ok settings loaded =>
    show Ends (runWith settings arguments) loaded _ _
    unfold runWith
    cases hasks : asked arguments with
    | error stop =>
      have hread : Options.read (splitArguments arguments).1 = .error stop := hasks
      simp only [hread]
      exact .stopped hasks hloads
    | ok request =>
      have hread : Options.read (splitArguments arguments).1 = .ok request := hasks
      simp only [hread]
      show Ends (obey settings request (passed arguments) >>= _) loaded _ _
      rw [ends_bind, obey_eq, ends_bind, Ends]
      cases hsets : JournalSetup.run settings request.choices.verbose loaded with
      | error f after => exact .settingUp hasks hloads hsets
      | ok _ ready =>
        have hready : Ready env envFile arguments host request settings ready :=
          ⟨hasks, loaded, hloads, hsets⟩
        show Ends (seeTo settings request arguments) ready _ _
        rw [Ends]
        cases hsaw : seeTo settings request arguments ready with
        | error f after => exact .seeing hready hsaw
        | ok ending after => exact .obeyed hready hsaw

/-! ## Restarts -/

/-- The host once a restart has been announced. -/
def announced (definition : Service.Definition) : Host → Host :=
  said .info speaker
    ("Restarting " ++ definition.name ++ " (pattern '" ++ definition.pattern ++ "') in "
      ++ definition.workingDirectory.text)

/-- A request names a service that can be restarted: it has a definition, and that gives a query and
bounds of the search. -/
structure Accepts (settings : Settings) (service : String) (given : Service.Overrides)
    (definition : Service.Definition) (query : Query) (patience : Patience) : Prop where
  resolves : Service.Definition.resolve settings service given = .ok definition
  query : definition.query? = some query
  patience : definition.patience = .ok patience

/-- A service that is defined can be restarted. -/
theorem exists_accepts {settings : Settings} {service : String} {choices : Options.Choices}
    {arguments : List String} {definition : Service.Definition}
    (resolves : Service.Definition.resolve settings service (overrides choices arguments) =
      .ok definition) :
    ∃ query patience,
      Accepts settings service (overrides choices arguments) definition query patience := by
  obtain ⟨-, hquery⟩ := Service.Definition.query?_of_resolve
    (show Service.Definition.resolve settings service
      { overrides choices arguments with pattern := choices.pattern.map .text } = .ok definition from
        resolves)
  obtain ⟨query, hquery⟩ := Option.isSome_iff_exists.mp hquery
  obtain ⟨patience, hpatience, -⟩ := Service.Definition.patience_of_resolve resolves
  exact ⟨query, patience, resolves, hquery, hpatience⟩

theorem Accepts.restartDefined_eq {service : String} {given : Service.Overrides}
    {definition : Service.Definition} {query : Query} {patience : Patience}
    (h : Accepts settings service given definition query patience) :
    restartDefined definition =
      Restart.run query patience definition.launchPlan definition.probe? := by
  have hquery : queryOf definition = pure query := by
    rw [queryOf, h.query]
  have hpatience : patienceOf definition = pure patience := by
    rw [patienceOf, h.patience]
  rw [restartDefined, hquery, hpatience]
  rfl

/-- The host once a report has been shown, if it is to be shown. -/
def reported (choices : Options.Choices) (report : Report) (host : Host) : Host :=
  if choices.json then { host with stdout := host.stdout ++ (report.toJson.print ++ "\n") } else host

/-- A restart on `ready` that came to an ending and left a host. -/
inductive Restarts (settings : Settings) (service : String) (choices : Options.Choices)
    (arguments : List String) (ready : Host) : Ending → Host → Prop
  /-- The service cannot be defined. -/
  | undefined {error : Service.DefinitionError}
      (resolves : Service.Definition.resolve settings service (overrides choices arguments) =
        .error error) :
      Restarts settings service choices arguments ready .badRequest
        (said .error speaker ("Invalid configuration for " ++ service ++ ": " ++ error.message)
          ready)
  /-- The restart stopped with a launch failure. -/
  | failed {definition : Service.Definition} {query : Query} {patience : Patience} {f : Fault}
      {failed : Host}
      (accepts : Accepts settings service (overrides choices arguments) definition query patience)
      (runs : Restart.run query patience definition.launchPlan definition.probe?
        (announced definition ready) = .error f failed)
      (failure : f.isLaunchFailure = true) :
      Restarts settings service choices arguments ready .launchFailed
        (said .error speaker ("Failed to start service " ++ definition.name ++ ": " ++ f.message)
          failed)
  /-- The restart came through with a report. -/
  | reported {definition : Service.Definition} {query : Query} {patience : Patience}
      {report : Report} {came : Host}
      (accepts : Accepts settings service (overrides choices arguments) definition query patience)
      (runs : Restart.run query patience definition.launchPlan definition.probe?
        (announced definition ready) = .ok report came) :
      Restarts settings service choices arguments ready (endingOf report)
        (reported choices report came)

/-- A restart comes to an ending, or is broken off with a fault that is no launch failure. -/
theorem restart_stages (settings : Settings) (service : String) (choices : Options.Choices)
    (arguments : List String) (ready : Host) :
    Ends (restart settings service choices arguments) ready
      (Restarts settings service choices arguments ready)
      (fun f after => f.isLaunchFailure = false ∧ ∃ definition query patience,
        Accepts settings service (overrides choices arguments) definition query patience ∧
        Restart.run query patience definition.launchPlan definition.probe?
          (announced definition ready) = .error f after) := by
  unfold restart
  split
  · rename_i error hresolves
    rw [ends_bind, ends_say, ends_pure]
    exact .undefined hresolves
  · rename_i definition hresolves
    -- A definition has a query and bounds, so what follows is a restart and nothing else.
    obtain ⟨query, patience, haccepts⟩ := exists_accepts hresolves
    rw [ends_bind, ends_say, ends_bind, attemptRestart, ends_tryCatch, ends_bind,
      haccepts.restartDefined_eq]
    show Ends _ (announced definition ready) _ _
    cases hruns : Restart.run query patience definition.launchPlan definition.probe?
        (announced definition ready) with
    | ok report came =>
      have hreported := Restarts.reported haccepts hruns
      rw [Ends, hruns]
      rw [reported] at hreported
      cases hjson : choices.json with
      | false =>
        rw [hjson] at hreported
        exact hreported
      | true =>
        rw [hjson] at hreported
        exact hreported
    | error f failed =>
      rw [Ends, hruns]
      dsimp only
      by_cases hfailure : f.isLaunchFailure = true
      · rw [if_pos hfailure, ends_bind, ends_say, ends_pure]
        exact .failed haccepts hruns hfailure
      · rw [if_neg hfailure, ends_throw]
        exact ⟨eq_false_of_ne_true hfailure, definition, query, patience, haccepts, hruns⟩

/-! ## Listings -/

/-- The host once a listing of handles has been shown. -/
def listed (query : Query) (handles : List Handle) (host : Host) : Host :=
  let told := if handles.isEmpty then
      said .info speaker ("No " ++ query.pattern ++ " process") host
    else host
  { told with stdout := told.stdout ++ String.join (handles.map listingLine) }

/-- A listing on `ready` that came to an ending and left a host. -/
inductive Finds (service : String) (pattern : Option String) (ready : Host) :
    Ending → Host → Prop
  /-- There is nothing to search for. -/
  | unsearchable (refused : Service.query? service pattern = none) :
      Finds service pattern ready .badRequest
        (said .error speaker
          ("Invalid pattern for " ++ service ++ ": " ++ Query.emptyPatternMessage) ready)
  /-- The search came through. -/
  | listed {query : Query} {found : List Handle} {searched : Host}
      (accepted : Service.query? service pattern = some query)
      (finds : Discovery.find query ready = .ok found searched) :
      Finds service pattern ready .success (listed query (Handle.sort found) searched)

/-- A listing comes to an ending, or its search is broken off. -/
theorem find_stages (service : String) (pattern : Option String) (ready : Host) :
    Ends (find service pattern) ready (Finds service pattern ready)
      (fun f after => ∃ query, Service.query? service pattern = some query ∧
        Discovery.find query ready = .error f after) := by
  unfold find
  split
  · rename_i hrefused
    rw [ends_bind, ends_say, ends_pure]
    exact .unsearchable hrefused
  · rename_i query haccepted
    cases hfinds : Discovery.find query ready with
    | error f after =>
      rw [ends_bind, Ends, hfinds]
      exact ⟨query, haccepted, hfinds⟩
    | ok found searched =>
      have hlisted := Finds.listed haccepted hfinds
      rw [ends_bind, Ends, hfinds]
      dsimp only
      cases hempty : (Handle.sort found).isEmpty with
      | true =>
        simp only [listed, hempty, if_true] at hlisted
        exact hlisted
      | false =>
        simp only [listed, hempty, Bool.false_eq_true, if_false] at hlisted
        exact hlisted

end App

end Relaunch
