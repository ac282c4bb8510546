/-
  The journal has no say in what is done.

  Two worlds may differ in whatever is inside the supervisor's data directory: the log may be there or
  not, it may be full, it may not be opened at all.  They may also ask for different bounds on the log,
  and one may ask for more to be said.  None of that matters to anything but the journal, standard
  error and the inside of the data directory (`run_unswayed`): loading the settings and setting the
  journal up leave peers behind, and what comes after that is the same request, seen to by peers.

  The paths of the working directory and of the log of the service must not lead through the inside of
  the data directory.  It is not enough that they lead to a place outside of it
  (`swayed_through_the_data_directory`).
-/
import Relaunch.Proofs.PeerRuns
import Relaunch.Proofs.Shelter
import Relaunch.Proofs.Whereabouts

namespace Relaunch

open Relaunch.FileTree Relaunch.Host

variable {area : Place}

/-! ## Requests that differ in what is said -/

/-- The request without the wish for more to be said. -/
def Options.Request.quiet (request : Options.Request) : Options.Request :=
  { request with choices := { request.choices with verbose := false } }

namespace App

open Relaunch.JournalSetup (dataPlace logFile)

/-- A definition has nothing to do with the supervisor's own log. -/
theorem resolve_unlogged (settings : Settings) (name : String) (given : Service.Overrides) :
    Service.Definition.resolve settings.unlogged name given =
      Service.Definition.resolve settings name given := by
  have hcheck : ∀ executable given, Service.Definition.check settings.unlogged name executable given =
      Service.Definition.check settings name executable given := fun _ _ => rfl
  unfold Service.Definition.resolve
  simp only [hcheck]

/-- What is said, and where, does not matter to how a request is seen to. -/
theorem seeTo_quiet (settings : Settings) (request : Options.Request) (arguments : List String) :
    seeTo settings.unlogged request.quiet arguments = seeTo settings request arguments := by
  have hgiven : overrides request.quiet.choices (passed arguments) =
      overrides request.choices (passed arguments) := rfl
  have hjson : request.quiet.choices.json = request.choices.json := rfl
  have hrestart : restart settings.unlogged request.quiet.service request.quiet.choices
      (passed arguments) = restart settings request.service request.choices (passed arguments) := by
    unfold restart
    rw [hgiven, resolve_unlogged, hjson]
    rfl
  unfold seeTo
  rw [hrestart]
  rfl

/-! ## Runs on hosts that differ in the data directory -/

/-- Two hosts that differ at most in the files, the directories and the denied paths that are within
an area. -/
structure Beside (area : Place) (a b : Host) : Prop where
  frame : b = { a with files := b.files, deniedPaths := b.deniedPaths }
  trees : ∀ place, ¬Within area place → SameAt a.files b.files place
  denied : ∀ text, ¬Within area (placeOf a.cwdPlace (Path.ofText text)) →
    b.deniedPaths.contains text = a.deniedPaths.contains text

/-- The area is the inside of a data directory that exists on both hosts, and a restart needs no path
that leads through it. -/
structure Reserved (area : Place) (settings : Settings) (request : Options.Request)
    (arguments : List String) (a b : Host) : Prop where
  place : dataPlace settings a.cwd = area
  there : isDirectory settings.dataDirectory a = .ok true a
  there' : isDirectory settings.dataDirectory b = .ok true b
  clear : request.command = .restart → ∀ definition,
    Service.Definition.resolve settings request.service
        (overrides request.choices (passed arguments)) = .ok definition →
      Clear area a.cwdPlace definition.workingDirectory ∧
        Clear area a.cwdPlace definition.launchPlan.resolvedLog

/-- Two runs have come to the same, as far as anybody can tell who looks at neither standard error nor
the area. -/
structure SameOutcome (area : Place) (after after' : Host) : Prop where
  stdout : after'.stdout = after.stdout
  calls : after'.calls = after.calls
  processes : after'.processes = after.processes
  limits : after'.limits = after.limits
  trees : ∀ place, ¬Within area place → SameAt after.files after'.files place

variable {env env' : Environment} {envFile envFile' : Option String}
  {arguments arguments' : List String} {request request' : Options.Request} {a b : Host}

/-- A process starts without a journal, so hosts that differ in the area alone are peers then. -/
theorem Beside.peers (h : Beside area a b) :
    Peers area a.cwdPlace (newProcess a) (newProcess b) := by
  obtain ⟨files, denied, rfl⟩ : ∃ files deniedPaths, b = { a with files, deniedPaths } :=
    ⟨_, _, h.frame⟩
  have huntaken : ∀ place : Place, ¬({} : Journal).Takes place := by
    rintro place ⟨log, hmem, -⟩
    exact List.not_mem_nil hmem
  exact ⟨rfl, rfl, rfl, h.trees, h.denied, fun place h => absurd h (huntaken place),
    fun place h => absurd h (huntaken place)⟩

/-- Once the arguments have been read, all that is left is to set up the journal and to see to the
request. -/
theorem runWith_eq (asks : asked arguments = .ok request) (settings : Settings) :
    runWith settings arguments = do
      JournalSetup.run settings request.choices.verbose
      let ending ← seeTo settings request arguments
      return ending.code := by
  have hread : Options.read (splitArguments arguments).1 = .ok request := asks
  have hpassed : (splitArguments arguments).2 = passed arguments := rfl
  unfold runWith
  simp only [hread]
  rw [hpassed, obey_eq, bind_assoc]

/-- Loading the settings comes to the same on both hosts, but for the bounds on the log. -/
theorem load_mirrors (beside : Beside area a b)
    (sets : (Settings.loaded env' envFile' a.cwd).map Settings.unlogged =
      (Settings.loaded env envFile a.cwd).map Settings.unlogged) :
    Mirrors (Settings.load env envFile) (newProcess a) (Settings.load env' envFile') (newProcess b)
      (fun settings ready settings' ready' => Settings.loaded env envFile a.cwd = .ok settings ∧
        settings'.unlogged = settings.unlogged ∧ Confined Nowhere Nowhere (newProcess a) ready ∧
        Confined Nowhere Nowhere (newProcess b) ready')
      (Peers area a.cwdPlace) := by
  have hcwd : (newProcess b).cwd = a.cwd := beside.peers.here'
  have hloads := (Settings.load_ends env envFile (newProcess a)).and
    (Settings.load_confined env envFile (newProcess a))
  have hloads' := (Settings.load_ends env' envFile' (newProcess b)).and
    (Settings.load_confined env' envFile' (newProcess b))
  rw [hcwd] at hloads'
  refine .of_ends hloads hloads' ?_ ?_
  · rintro settings ready ⟨hloaded, hready⟩
    have hok : Settings.loaded env envFile a.cwd = .ok settings := hloaded
    rw [hok] at sets
    refine ⟨fun settings' ready' h => ?_, fun f ready' h => ?_⟩
    · rw [h.1] at sets
      exact ⟨hok, Except.ok.inj sets, hready, h.2⟩
    · rw [h.1] at sets
      exact absurd sets (by simp [Except.map])
  · rintro f ready ⟨hfails, hready⟩
    have herror : Settings.loaded env envFile a.cwd = .error f := hfails
    rw [herror] at sets
    refine ⟨fun f' ready' h => ?_, fun settings' ready' h => ?_⟩
    · rw [h.1] at sets
      exact ⟨Except.error.inj sets, beside.peers.sheltered
        (Settings.sheltered_of_confined rfl hready) (Settings.sheltered_of_confined rfl h.2)⟩
    · rw [h.1] at sets
      exact absurd sets (by simp [Except.map])

/-- A directory that exists is found once the settings have been loaded. -/
theorem isDirectory_ready {ready : Host} {path : Path}
    (confined : Confined Nowhere Nowhere (newProcess a) ready)
    (there : isDirectory path a = .ok true a) : isDirectory path ready = .ok true ready := by
  obtain ⟨-, hfound⟩ := (isDirectory_ends path a).of_ok there
  obtain ⟨hnull, hdirectory⟩ := hfound rfl
  have hsame : ready.files.resolve ready.cwdPlace path = a.files.resolve a.cwdPlace path := by
    rw [confined.cwdPlace]
    exact resolve_congr fun place _ => confined.sameAt (newProcess_unowned a place)
  have hends : Ends (isDirectory path) ready (fun found after => found = true ∧ after = ready)
      fun _ _ => False := by
    rw [Host.isDirectory, ends_bind, ends_get, if_neg (ne_true_of_eq_false hnull),
      FileTree.isDirectory, hsame, ← FileTree.isDirectory, hdirectory]
    exact ⟨rfl, rfl⟩
  obtain ⟨found, after, hran, rfl, rfl⟩ := hends.exists_ok
  exact hran

theorem seeTo_peers {cwd : Place} {settings : Settings}
    (unexposed : request.command = .restart → ∀ definition,
      Service.Definition.resolve settings request.service
        (overrides request.choices (passed arguments)) = .ok definition →
      Launch.Unexposed area cwd definition.launchPlan) :
    Respects (Peers area cwd) (seeTo settings request arguments) := by
  unfold seeTo
  cases hcommand : request.command with
  | restart => exact restart_peers _ _ _ _ (unexposed hcommand)
  | find => exact find_peers _ _

/-- The launch of a service that is defined looks at the two paths that are reserved, and at no
others. -/
theorem Reserved.unexposed {settings : Settings} (h : Reserved area settings request arguments a b)
    (loads : Settings.loaded env envFile a.cwd = .ok settings)
    (asks : asked arguments = .ok request) (restarts : request.command = .restart)
    {definition : Service.Definition}
    (resolves : Service.Definition.resolve settings request.service
      (overrides request.choices (passed arguments)) = .ok definition) :
    Launch.Unexposed area a.cwdPlace definition.launchPlan := by
  obtain ⟨extended, -, hread⟩ := Settings.bind_eq_ok.mp loads
  have husual : settings.workingDirectory.Normal := by
    rw [(Settings.says_of_read (Settings.mapError_eq_ok.mp hread)).workingDirectory]
    exact Path.normal_ofText _
  obtain ⟨hdirectory, hlog⟩ := launchPlan_normal husual asks resolves
  obtain ⟨hclear, hclear'⟩ := h.clear restarts definition resolves
  exact ⟨hclear, hclear', hdirectory, hlog⟩

theorem sameOutcome_of_peers {cwd : Place} {after after' : Host} (h : Peers area cwd after after') :
    SameOutcome area after after' where
  stdout := h.view Host.stdout fun _ _ => rfl
  calls := h.view Host.calls fun _ _ => rfl
  processes := h.view Host.processes fun _ _ => rfl
  limits := h.view Host.limits fun _ _ => rfl
  trees := h.trees

/-- **The journal has no say in what is done.**  Two runs come to the same if what tells the hosts
apart is within the supervisor's data directory, the settings differ in the bounds on the supervisor's
log, and the requests in whether more is to be said. -/
theorem run_unswayed (beside : Beside area a b) (absolute : a.cwd.isAbsolute = true)
    (sets : (Settings.loaded env' envFile' a.cwd).map Settings.unlogged =
      (Settings.loaded env envFile a.cwd).map Settings.unlogged)
    (asks : asked arguments = .ok request) (asks' : asked arguments' = .ok request')
    (same : request'.quiet = request.quiet) (passes : passed arguments' = passed arguments)
    (reserved : ∀ settings, Settings.loaded env envFile a.cwd = .ok settings →
      Reserved area settings request arguments a b) :
    (∃ code after after', run env envFile arguments (newProcess a) = .ok code after ∧
        run env' envFile' arguments' (newProcess b) = .ok code after' ∧
        SameOutcome area after after') ∨
      ∃ f after after', run env envFile arguments (newProcess a) = .error f after ∧
        run env' envFile' arguments' (newProcess b) = .error f after' ∧
        SameOutcome area after after' := by
  have hmirrors : Mirrors (run env envFile arguments) (newProcess a) (run env' envFile' arguments')
      (newProcess b) (fun code after code' after' => code' = code ∧ Peers area a.cwdPlace after after')
      (Peers area a.cwdPlace) := by
    refine (load_mirrors beside sets).bind fun settings ready settings' ready' h => ?_
    obtain ⟨hloaded, hunlogged, hready, hready'⟩ := h
    have hreserved := reserved settings hloaded
    have hcwd : ready.cwd = a.cwd := hready.alike.view Host.cwd
    have hdirectory : settings'.unlogged.dataDirectory = settings.unlogged.dataDirectory := by
      rw [hunlogged]
    have hpeers : Peers area a.cwdPlace ready ready' := beside.peers.sheltered
      (Settings.sheltered_of_confined rfl hready) (Settings.sheltered_of_confined rfl hready')
    have hsees : seeTo settings' request' arguments' = seeTo settings request arguments := by
      rw [← seeTo_quiet settings' request', hunlogged, same, seeTo_quiet, seeTo, seeTo, passes]
    rw [runWith_eq asks, runWith_eq asks', hsees]
    refine Mirrors.bind (JournalSetup.run_mirrors _ _ hpeers (congrArg Journal.handlers hready.journal)
      (congrArg Journal.handlers hready'.journal) (hcwd ▸ absolute) (hcwd ▸ hreserved.place)
      hdirectory (isDirectory_ready hready hreserved.there)
      (isDirectory_ready hready' hreserved.there')) fun _ set _ set' hset => ?_
    exact ((seeTo_peers (hreserved.unexposed hloaded asks)).bind fun ending => .pure _)
      set set' hset
  rcases hmirrors.cases with
    ⟨code, after, _, after', hran, hran', rfl, hpeers⟩ | ⟨f, after, after', hran, hran', hpeers⟩
  · exact .inl ⟨_, after, after', hran, hran', sameOutcome_of_peers hpeers⟩
  · exact .inr ⟨f, after, after', hran, hran', sameOutcome_of_peers hpeers⟩

/-! ### A data directory in two states -/

/-- The data directory is `/d`, and its log may grow forever. -/
def roomyEnv : Environment := { bindings := [("RESTARTER_HOME", "/d"), ("LOG_MAX_BYTES", "0")] }

/-- The data directory is `/d`, and its log is full after a byte. -/
def crampedEnv : Environment :=
  { bindings := [("RESTARTER_HOME", "/d"), ("LOG_MAX_BYTES", "1"), ("LOG_BACKUP_COUNT", "-3")] }

theorem dataDirectory_of_loaded {settings : Settings}
    (h : Settings.loaded roomyEnv none ⟨.slash, ["work"]⟩ = .ok settings) :
    settings.dataDirectory = ⟨.slash, ["d"]⟩ := by
  have hloaded : (Settings.loaded roomyEnv none ⟨.slash, ["work"]⟩).map Settings.dataDirectory =
    .ok ⟨.slash, ["d"]⟩ := rfl
  rw [h] at hloaded
  exact Except.ok.inj hloaded

/-- A request to restart a service that logs to `/srv/run.log`. -/
def plainArguments : List String :=
  ["restart", "svc", "--executable", "/bin/svc", "--workdir", "/srv", "--log-file", "run.log"]

/-- What the arguments ask for. -/
def plainRequest : Options.Request where
  command := .restart
  service := "svc"
  choices := {
    executable := some "/bin/svc", workingDirectory := some ⟨.slash, ["srv"]⟩, log := some "run.log" }

/-- A host whose data directory is empty. -/
def emptyHost : Host := { files := { directories := [["work"], ["srv"], ["d"]] } }

/-- The same host with a log that may not be opened, and a directory, in its data directory. -/
def filledHost : Host :=
  { files := {
      directories := [["work"], ["srv"], ["d"], ["d", "sub"]]
      files := [(["d", "restarter.log"], "x")] }
    deniedPaths := ["/d/restarter.log"] }

theorem emptyHost_beside : Beside ["d"] emptyHost filledHost where
  frame := rfl
  trees place outside := by
    have hlog : place ≠ ["d", "restarter.log"] := fun heq => outside (heq ▸ by decide)
    have hsub : place ≠ ["d", "sub"] := fun heq => outside (heq ▸ by decide)
    have hunlogged : (place == ["d", "restarter.log"]) = false := by simpa using hlog
    simp [SameAt, content?, isDirectoryAt, emptyHost, filledHost, List.lookup_cons, hunlogged, hsub]
  denied text outside := by
    have hlog : text ≠ "/d/restarter.log" := fun heq => outside (heq ▸ by decide)
    simp [emptyHost, filledHost, hlog]

theorem run_unswayed_filled :
    (∃ code after after', run roomyEnv none plainArguments (newProcess emptyHost) = .ok code after ∧
        run crampedEnv none (plainArguments ++ ["--verbose"]) (newProcess filledHost) =
          .ok code after' ∧
        SameOutcome ["d"] after after') ∨
      ∃ f after after', run roomyEnv none plainArguments (newProcess emptyHost) = .error f after ∧
        run crampedEnv none (plainArguments ++ ["--verbose"]) (newProcess filledHost) =
          .error f after' ∧
        SameOutcome ["d"] after after' := by
  have hasks : asked plainArguments = .ok plainRequest := rfl
  have hasks' : asked (plainArguments ++ ["--verbose"]) = .ok
      { plainRequest with choices := { plainRequest.choices with verbose := true } } := rfl
  refine run_unswayed emptyHost_beside rfl rfl hasks hasks' rfl rfl fun settings hloaded => ?_
  have hdata := dataDirectory_of_loaded hloaded
  refine ⟨by rw [dataPlace, hdata]; rfl, by rw [hdata]; rfl, by rw [hdata]; rfl,
    fun _ definition hresolves => ?_⟩
  have hdirectory : definition.workingDirectory = ⟨.slash, ["srv"]⟩ := (paths_of_resolve hresolves).1
  have hlog : definition.log = "run.log" := (paths_of_resolve hresolves).2
  have hplan : definition.launchPlan.resolvedLog = ⟨.slash, ["srv", "run.log"]⟩ := by
    rw [LaunchPlan.resolvedLog, Service.Definition.launchPlan]
    dsimp only
    rw [hdirectory, hlog]
    decide
  rw [hdirectory, hplan]
  exact ⟨.of_plain (by decide) (by decide), .of_plain (by decide) (by decide)⟩

/-! ### Detours through the data directory -/

/-- A request to restart a service whose log is at `/y/run.log`, by way of `/d/sub`. -/
def detourArguments : List String :=
  ["restart", "svc", "--executable", "/bin/svc", "--workdir", "/srv", "--log-file",
    "../d/sub/../../y/run.log", "--no-fd-limit", "--attempts", "1"]

/-- What the arguments ask for. -/
def detourRequest : Options.Request where
  command := .restart
  service := "svc"
  choices := {
    executable := some "/bin/svc", workingDirectory := some ⟨.slash, ["srv"]⟩
    log := some "../d/sub/../../y/run.log", fileLimit := some 0, attempts := some 1 }

/-- A host with a file in its data directory. -/
def blockedHost : Host :=
  { files := { directories := [["work"], ["srv"], ["d"]], files := [(["d", "sub"], "x")] } }

/-- The same host with a directory in the place of the file. -/
def openHost : Host := { files := { directories := [["work"], ["srv"], ["d"], ["d", "sub"]] } }

theorem blockedHost_beside : Beside ["d"] blockedHost openHost where
  frame := rfl
  trees place outside := by
    have hsub : place ≠ ["d", "sub"] := fun heq => outside (heq ▸ by decide)
    have hunnamed : (place == ["d", "sub"]) = false := by simpa using hsub
    simp [SameAt, content?, isDirectoryAt, blockedHost, openHost, List.lookup_cons, hunnamed, hsub]
  denied _ _ := rfl

/-- What is in the data directory does matter to a log that is outside of it, where the path of the log
leads through a directory in there and out again. -/
theorem swayed_through_the_data_directory :
    Beside ["d"] blockedHost openHost ∧
    asked detourArguments = .ok detourRequest ∧
    (∀ settings, Settings.loaded roomyEnv none blockedHost.cwd = .ok settings →
      dataPlace settings blockedHost.cwd = ["d"] ∧
      isDirectory settings.dataDirectory blockedHost = .ok true blockedHost ∧
      isDirectory settings.dataDirectory openHost = .ok true openHost ∧
      ∀ definition, Service.Definition.resolve settings detourRequest.service
          (overrides detourRequest.choices (passed detourArguments)) = .ok definition →
        isDirectory definition.workingDirectory blockedHost = .ok true blockedHost ∧
        isDirectory definition.workingDirectory openHost = .ok true openHost ∧
        ¬Inside ["d"] (placeOf blockedHost.cwdPlace definition.workingDirectory) ∧
        ¬Inside ["d"] (placeOf blockedHost.cwdPlace definition.launchPlan.resolvedLog)) ∧
    (∃ after, run roomyEnv none detourArguments (newProcess blockedHost) = .ok 1 after) ∧
    ∃ after, run roomyEnv none detourArguments (newProcess openHost) = .ok 0 after := by
  refine ⟨blockedHost_beside, rfl, fun settings hloaded => ?_, ?_, ?_⟩
  · have hdata := dataDirectory_of_loaded hloaded
    refine ⟨by rw [dataPlace, hdata]; rfl, by rw [hdata]; rfl, by rw [hdata]; rfl,
      fun definition hresolves => ?_⟩
    have hdirectory : definition.workingDirectory = ⟨.slash, ["srv"]⟩ :=
      (paths_of_resolve hresolves).1
    have hlog : definition.log = "../d/sub/../../y/run.log" := (paths_of_resolve hresolves).2
    have hplan : definition.launchPlan.resolvedLog =
        ⟨.slash, ["srv", "..", "d", "sub", "..", "..", "y", "run.log"]⟩ := by
      rw [LaunchPlan.resolvedLog, Service.Definition.launchPlan]
      dsimp only
      rw [hdirectory, hlog]
      decide
    rw [hdirectory, hplan]
    exact ⟨rfl, rfl, by decide, by decide⟩
  · have hran : returned? (run roomyEnv none detourArguments) (newProcess blockedHost)
        (fun code _ => code) = some 1 := by decide +kernel
    obtain ⟨code, after, hran, rfl⟩ := exists_of_returned? hran
    exact ⟨after, hran⟩
  · have hran : returned? (run roomyEnv none detourArguments) (newProcess openHost)
        (fun code _ => code) = some 0 := by decide +kernel
    obtain ⟨code, after, hran, rfl⟩ := exists_of_returned? hran
    exact ⟨after, hran⟩

end App

end Relaunch
