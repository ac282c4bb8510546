/-
  The double dash.

  What stands after the first double dash is for the service.  It ends up in the command line that its
  executable is started with, and has no other effect.

  * a definition takes the arguments as they are, and is otherwise the one that it is without any
    (`resolve_passing`);
  * `Compared` says how the hosts differ that are left without and with the arguments; a restart
    (`restart_mirrors`), a request (`obey_mirrors`) and a run (`run_mirrors`) come to the same end on
    hosts that compare;
  * `passed_arguments` says all of this of the command line.
-/
import Relaunch.Proofs.Passing

namespace Relaunch

open Relaunch.Host

/-! ## Definitions that differ in their arguments -/

namespace Service

/-- A check that comes after a change of the value does not see the change. -/
theorem Checked.seq_eq_map {α β γ : Type} {f : β → γ} {first : Checked (α → β)}
    {second : Checked (α → γ)} (a : Checked α) (h : second = (fun g x => f (g x)) <$> first) :
    second <*> a = f <$> (first <*> a) := by
  subst h
  cases first <;> cases a <;> rfl

namespace Definition

/-- The definition with other arguments for the executable. -/
def passing (definition : Definition) (arguments : List String) : Definition :=
  { definition with arguments }

/-- How the executable of a definition is started with arguments. -/
def startedWith (definition : Definition) (arguments : List String) : SpawnCommand :=
  ⟨definition.executable :: arguments, definition.workingDirectory.text, definition.logMode⟩

variable (settings : Settings) (name : String) (executable : Given)

/-- Arguments that are texts pass their check, and no other check sees them. -/
theorem check_passing {given given' : Overrides} {arguments : List String}
    (others : given' = { given with arguments := given'.arguments })
    (bare : given.arguments = none)
    (listed : given'.arguments.getD (.list []) = .list (arguments.map .text)) :
    check settings name executable given' =
      (·.passing arguments) <$> check settings name executable given := by
  have hbare : Field.texts "arguments" (given.arguments.getD (.list [])) = .good [] := by
    rw [bare]
    exact Field.texts_eq_good.mpr rfl
  have hlisted : Field.texts "arguments" (given'.arguments.getD (.list [])) = .good arguments :=
    Field.texts_eq_good.mpr listed
  rw [check, check, hbare, hlisted, others]
  iterate 10 refine Checked.seq_eq_map _ ?_
  cases Field.nonEmptyText "name" (.text name) <;>
    cases Field.nonEmptyText "pattern" (given.pattern.getD (.text name)) <;>
    cases Field.nonEmptyText "executable" executable <;> rfl

/-- A service is defined with arguments just as it is without any. -/
theorem resolve_passing (choices : Options.Choices) (arguments : List String) :
    resolve settings name (App.overrides choices arguments) =
      (resolve settings name (App.overrides choices [])).map (·.passing arguments) := by
  have hlisted : (App.overrides choices arguments).arguments.getD (.list []) =
      .list (arguments.map .text) := by
    rw [App.overrides]
    dsimp only
    split
    · rename_i hnone
      rw [hnone]
      rfl
    · rfl
  have hsame : ((App.overrides choices arguments).withPreset name).executable =
      ((App.overrides choices []).withPreset name).executable := rfl
  unfold resolve
  dsimp only
  rw [hsame]
  cases ((App.overrides choices []).withPreset name).executable with
  | none => rfl
  | some executable =>
    have hchecked :
        check settings name executable ((App.overrides choices arguments).withPreset name) =
          (·.passing arguments) <$>
            check settings name executable ((App.overrides choices []).withPreset name) :=
      check_passing settings name executable rfl rfl hlisted
    dsimp only
    rw [hchecked]
    cases check settings name executable ((App.overrides choices []).withPreset name) <;> rfl

/-- Where no arguments are given there are none. -/
theorem arguments_of_resolve {choices : Options.Choices} {definition : Definition}
    (h : resolve settings name (App.overrides choices []) = .ok definition) :
    definition.arguments = [] := by
  obtain ⟨executable, -, hpasses⟩ := passes_of_resolve h
  have hlist : Given.list [] = .list (definition.arguments.map .text) :=
    Field.texts_eq_good.mp hpasses.arguments
  rw [Given.list.injEq] at hlist
  exact List.map_eq_nil_iff.mp hlist.symm

end Definition

end Service

namespace App

/-! ## The double dash -/

/-- Arguments without a double dash stay in front of those that a later one parts. -/
theorem splitArguments_append {own : List String} (undashed : "--" ∉ own) (rest : List String) :
    splitArguments (own ++ rest) = (own ++ (splitArguments rest).1, (splitArguments rest).2) := by
  induction own with
  | nil => rfl
  | cons argument own ih =>
    obtain ⟨hne, hown⟩ := not_or.mp (List.mem_cons.not.mp undashed)
    rw [List.cons_append, splitArguments, if_neg (Ne.symm hne), ih hown]
    rfl

/-- The first double dash parts the arguments, whatever comes after it. -/
theorem splitArguments_dash {own : List String} (undashed : "--" ∉ own) (post : List String) :
    splitArguments (own ++ "--" :: post) = (own, post) := by
  rw [splitArguments_append undashed, splitArguments, if_pos rfl, List.append_nil]

theorem splitArguments_undashed {own : List String} (undashed : "--" ∉ own) :
    splitArguments own = (own, []) := by
  have hsplit := splitArguments_append undashed []
  rw [List.append_nil, splitArguments, List.append_nil] at hsplit
  exact hsplit

theorem asked_of_undashed {own : List String} (undashed : "--" ∉ own) :
    asked own = Options.read own := by
  rw [asked, splitArguments_undashed undashed]

theorem asked_dash {own : List String} (undashed : "--" ∉ own) (post : List String) :
    asked (own ++ "--" :: post) = asked own := by
  rw [asked, splitArguments_dash undashed, asked_of_undashed undashed]

/-! ## Restarts with arguments -/

/-- How the hosts compare that two runs leave, one without arguments for the service and one with
them: `defined` holds of the definitions that are restarted. -/
inductive Compared (defined : Service.Definition → Prop) (arguments : List String)
    (after after' : Host) : Prop
  /-- Nothing was started, and nothing is different. -/
  | same (equal : after' = after) (unspawned : after.Unspawned)
  /-- The executable was started, and gets its arguments.  What was shown may end with a report. -/
  | started {definition : Service.Definition} (is_defined : defined definition)
      (twins : Twins (definition.startedWith []) (definition.startedWith arguments)
        after { after' with stdout := after.stdout })
      (shown : after'.stdout = after.stdout ∨ ∃ (earlier : String) (report : Report),
        report.daemon.argv = [definition.executable] ∧
        after.stdout = earlier ++ (report.toJson.print ++ "\n") ∧
        after'.stdout = earlier ++
          ((report.withArgv (definition.executable :: arguments)).toJson.print ++ "\n"))

section Compared

variable {defined : Service.Definition → Prop} {arguments : List String} {after after' : Host}
  {definition : Service.Definition}

theorem Compared.imp {defined' : Service.Definition → Prop}
    (h : Compared defined arguments after after')
    (weakens : ∀ definition, defined definition → defined' definition) :
    Compared defined' arguments after after' := by
  cases h with
  | same equal unspawned => exact .same equal unspawned
  | started is_defined twins shown => exact .started (weakens _ is_defined) twins shown

theorem Compared.of_diverge (is_defined : defined definition)
    (h : Diverge (definition.startedWith []) (definition.startedWith arguments) after after') :
    Compared defined arguments after after' := by
  cases h with
  | never same unspawned => exact .same same unspawned
  | started twins =>
    have hstdout : after'.stdout = after.stdout := twins.view Host.stdout fun _ _ _ => rfl
    refine .started is_defined ?_ (.inl hstdout)
    rw [← hstdout]
    exact twins

/-- Reports that are shown on twins are all the difference in what was shown. -/
theorem Compared.of_report (is_defined : defined definition)
    (twins : Twins (definition.startedWith []) (definition.startedWith arguments) after after')
    {report : Report} (argv : report.daemon.argv = [definition.executable]) :
    Compared defined arguments
      { after with stdout := after.stdout ++ (report.toJson.print ++ "\n") }
      { after' with stdout := after'.stdout ++
          ((report.withArgv (definition.executable :: arguments)).toJson.print ++ "\n") } := by
  have hstdout : after'.stdout = after.stdout := twins.view Host.stdout fun _ _ _ => rfl
  refine .started is_defined ?_ (.inr ⟨after.stdout, report, argv, rfl, by rw [hstdout]⟩)
  have hprinted := twins.step
    (fun host => { host with stdout := after.stdout ++ (report.toJson.print ++ "\n") })
    fun _ _ _ => rfl
  exact hprinted

end Compared

/-- Saying something keeps hosts apart just as far as they were. -/
theorem say_diverge (command command' : SpawnCommand) (level : Level) (speaker message : String) :
    Respects (Diverge command command') (say level speaker message) := by
  intro host host' h
  cases h with
  | never same unspawned =>
    subst same
    exact ⟨⟨⟩, _, rfl, rfl, .never rfl (unspawned.of_alike (said_alike ..))⟩
  | started twins =>
    exact (say_respects command command' level speaker message host host' twins).imp
      (fun _ _ _ _ h => ⟨h.1, .started h.2⟩) fun _ _ h => .started h

variable {settings : Settings} {service : String} {choices : Options.Choices}

/-- An attempt to restart a service goes as it does without arguments. -/
theorem attemptRestart_mirrors {definition : Service.Definition} (arguments : List String)
    (resolves : Service.Definition.resolve settings service (overrides choices []) = .ok definition)
    {host : Host} (unspawned : host.Unspawned) :
    Mirrors (attemptRestart definition) host (attemptRestart (definition.passing arguments)) host
      (fun report? after report?' after' =>
        (report? = none ∧ report?' = none ∧
          Diverge (definition.startedWith []) (definition.startedWith arguments) after after') ∨
        ∃ report, report? = some report ∧ report.daemon.argv = [definition.executable] ∧
          report?' = some (report.withArgv (definition.executable :: arguments)) ∧
          Twins (definition.startedWith []) (definition.startedWith arguments) after after')
      (Diverge (definition.startedWith []) (definition.startedWith arguments)) := by
  obtain ⟨query, patience, haccepts⟩ := exists_accepts resolves
  have hresolves' : Service.Definition.resolve settings service (overrides choices arguments) =
      .ok (definition.passing arguments) := by
    rw [Service.Definition.resolve_passing, resolves]
    rfl
  have haccepts' : Accepts settings service (overrides choices arguments)
      (definition.passing arguments) query patience :=
    ⟨hresolves', haccepts.query, haccepts.patience⟩
  have hargv : definition.launchPlan.argv = [definition.executable] :=
    congrArg (definition.executable :: ·)
      (Service.Definition.arguments_of_resolve settings service resolves)
  have hstart : Launch.command definition.launchPlan = definition.startedWith [] := by
    rw [Launch.command, hargv]
    rfl
  have hran := Restart.run_mirrors query patience definition.launchPlan definition.probe? arguments
    unspawned
  rw [hargv, hstart] at hran
  unfold attemptRestart
  rw [haccepts.restartDefined_eq, haccepts'.restartDefined_eq]
  refine Mirrors.tryCatch (hran.bind fun report after report' after' h => ?_)
    fun f after after' h => ?_
  · obtain ⟨hargv, rfl, htwins⟩ := h
    exact Mirrors.pure (.inr ⟨report, rfl, hargv, rfl, htwins⟩)
  · cases hfailure : f.isLaunchFailure with
    | true =>
      refine Mirrors.bind (say_diverge _ _ _ _ _ after after' h) fun _ _ _ _ h => ?_
      exact Mirrors.pure (.inl ⟨rfl, rfl, h.2⟩)
    | false => exact Mirrors.throw h

/-- A restart goes as it does without arguments. -/
theorem restart_mirrors (arguments : List String) {ready : Host} (unspawned : ready.Unspawned) :
    Mirrors (restart settings service choices []) ready
      (restart settings service choices arguments) ready
      (fun ending after ending' after' => ending' = ending ∧ Compared
        (Service.Definition.resolve settings service (overrides choices []) = .ok ·)
        arguments after after')
      (Compared (Service.Definition.resolve settings service (overrides choices []) = .ok ·)
        arguments) := by
  unfold restart
  rw [Service.Definition.resolve_passing settings service choices arguments]
  cases hresolves : Service.Definition.resolve settings service (overrides choices []) with
  | error e =>
    refine Mirrors.say ?_
    exact Mirrors.pure ⟨rfl, .same rfl (unspawned.of_alike (said_alike ..))⟩
  | ok definition =>
    refine Mirrors.say ?_
    have htried := attemptRestart_mirrors arguments hresolves
      (unspawned.of_alike (said_alike .info speaker
        ("Restarting " ++ definition.name ++ " (pattern '" ++ definition.pattern ++ "') in "
          ++ definition.workingDirectory.text) ready))
    refine Mirrors.bind (htried.imp_fault fun _ _ h => .of_diverge rfl h)
      fun report? after report?' after' h => ?_
    rcases h with ⟨rfl, rfl, h⟩ | ⟨report, rfl, hargv, rfl, htwins⟩
    · exact Mirrors.pure ⟨rfl, .of_diverge rfl h⟩
    · cases choices.json with
      | false => exact Mirrors.pure ⟨rfl, .of_diverge rfl (.started htwins)⟩
      | true =>
        refine ⟨endingOf report, _, rfl, rfl, ?_⟩
        refine Compared.of_report ?_ htwins hargv
        rfl

/-! ## Requests with arguments -/

/-- A listing starts nothing. -/
theorem find_unspawned (service : String) (pattern : Option String) {ready : Host}
    (unspawned : ready.Unspawned) :
    Ends (find service pattern) ready (fun _ after => after.Unspawned)
      (fun _ after => after.Unspawned) := by
  have hsearched : ∀ {after : Host}, Alike after (Discovery.afterSearch ready) →
      after.Unspawned := by
    intro after h
    refine unspawned.of_early ⟨Discovery.searchCalls ready, ?_, fun call hmem => ?_⟩
    · rw [h.view Host.calls, Discovery.afterSearch_calls]
    · rw [Retirement.searchCalls_scan ready call hmem]
      rfl
  refine (find_stages service pattern ready).imp (fun ending after h => ?_) (fun f after h => ?_)
  · cases h with
    | unsearchable refused => exact unspawned.of_alike (said_alike ..)
    | @listed query found searched accepted finds =>
      have hleft := hsearched ((Discovery.find_ends query ready).of_ok finds).2.2
      have htold : (said .info speaker ("No " ++ query.pattern ++ " process") searched).Unspawned :=
        hleft.of_alike (said_alike ..)
      unfold listed
      split
      · exact htold
      · exact hleft
  · obtain ⟨query, -, hfails⟩ := h
    exact hsearched ((Discovery.find_ends query ready).of_error hfails).2

variable {env : Environment} {envFile : Option String} {own : List String} {host : Host}

/-- The arguments have no say in a listing. -/
theorem obey_find {request : Options.Request} (settings : Settings) (finds : request.command = .find)
    (arguments : List String) : obey settings request arguments = obey settings request [] := by
  unfold obey
  rw [finds]

/-- The request is to restart a service, and that is its definition. -/
def Defined (settings : Settings) (request : Options.Request) (definition : Service.Definition) :
    Prop :=
  request.command = .restart ∧ Service.Definition.resolve settings request.service
    (overrides request.choices []) = .ok definition

/-- A request is seen to as it is without arguments. -/
theorem obey_mirrors (settings : Settings) (request : Options.Request) (arguments : List String)
    {loaded : Host} (unspawned : loaded.Unspawned) :
    Mirrors (obey settings request []) loaded (obey settings request arguments) loaded
      (fun ending after ending' after' =>
        ending' = ending ∧ Compared (Defined settings request) arguments after after')
      (Compared (Defined settings request) arguments) := by
  have hset := JournalSetup.run_akin settings request.choices.verbose loaded
  refine Mirrors.bind_same (fun f after hsets => .same rfl (unspawned.of_akin (hset.of_error hsets)))
    fun _ ready hsets => ?_
  have hready : ready.Unspawned := unspawned.of_akin (hset.of_ok hsets)
  cases hcommand : request.command with
  | restart =>
    refine (restart_mirrors arguments hready).imp (fun _ _ _ _ h => ⟨h.1, ?_⟩) fun _ _ h => ?_
    · exact h.2.imp fun _ hresolves => ⟨hcommand, hresolves⟩
    · exact h.imp fun _ hresolves => ⟨hcommand, hresolves⟩
  | find =>
    have hfound := find_unspawned request.service request.choices.pattern hready
    exact (Mirrors.same hfound).imp (fun _ _ _ _ h => ⟨h.1, .same h.2.1 h.2.2⟩)
      fun _ _ h => .same h.1 h.2

/-! ## Runs with arguments -/

/-- The definition of the service that a run is to restart. -/
def Restarting (env : Environment) (envFile : Option String) (arguments : List String) (host : Host)
    (definition : Service.Definition) : Prop :=
  ∃ settings loaded request, Settings.load env envFile (newProcess host) = .ok settings loaded ∧
    asked arguments = .ok request ∧ Defined settings request definition

/-- A run that lists a service, or stops at its arguments, does the same with more after a dash. -/
theorem run_eq_of_find (undashed : "--" ∉ own) (post : List String)
    (finds : ∀ request, asked own = .ok request → request.command = .find) :
    run env envFile (own ++ "--" :: post) = run env envFile own := by
  have hwith : ∀ settings, runWith settings (own ++ "--" :: post) = runWith settings own := by
    intro settings
    unfold runWith
    rw [splitArguments_dash undashed, splitArguments_undashed undashed]
    dsimp only
    cases hread : Options.read own with
    | error stop => rfl
    | ok request =>
      dsimp only
      rw [obey_find settings (finds request ((asked_of_undashed undashed).trans hread)) post]
  unfold run
  rw [funext hwith]

/-- A run comes to the same end with arguments for the service as without. -/
theorem run_mirrors (undashed : "--" ∉ own) (post : List String) :
    Mirrors (run env envFile own) (newProcess host)
      (run env envFile (own ++ "--" :: post)) (newProcess host)
      (fun code after code' after' =>
        code' = code ∧ Compared (Restarting env envFile own host) post after after')
      (Compared (Restarting env envFile own host) post) := by
  have hfresh : (newProcess host).Unspawned := fun call hmem => absurd hmem List.not_mem_nil
  have hload := Settings.load_confined env envFile (newProcess host)
  unfold run
  refine Mirrors.bind_same (fun f after hloads => ?_) fun settings loaded hloads => ?_
  · exact .same rfl (hfresh.of_alike (hload.of_error hloads).alike)
  have hloaded : loaded.Unspawned := hfresh.of_alike (hload.of_ok hloads).alike
  unfold runWith
  rw [splitArguments_dash undashed, splitArguments_undashed undashed]
  dsimp only
  cases hread : Options.read own with
  | error stop =>
    exact ⟨stop.exitCode, shown stop settings.columns loaded, rfl, rfl, .same rfl hloaded⟩
  | ok request =>
    have hrestarting : ∀ definition, Defined settings request definition →
        Restarting env envFile own host definition :=
      fun definition h => ⟨settings, loaded, request, hloads, (asked_of_undashed undashed).trans hread, h⟩
    have hobeyed := obey_mirrors settings request post hloaded
    refine Mirrors.bind (hobeyed.imp_fault fun _ _ h => h.imp hrestarting)
      fun ending after ending' after' h => ?_
    obtain ⟨rfl, hcompared⟩ := h
    exact Mirrors.pure ⟨rfl, hcompared.imp hrestarting⟩

/-- **What stands after the double dash reaches the service as it is, and nothing else.** It is passed
on whatever it looks like, and what stands before it is read as if that were all.  A run that lists a
service is not affected.  Any other comes to the same end as without the arguments, and if it starts
the executable of the service it starts it with them: that is the only dealing that differs, the
command line is all that differs in the process table, and the one in the report all that differs in
what is shown. -/
theorem passed_arguments (env : Environment) (envFile : Option String) (host : Host)
    {own : List String} (undashed : "--" ∉ own) (post : List String) :
    asked (own ++ "--" :: post) = asked own ∧ passed (own ++ "--" :: post) = post ∧
      ((∀ request, asked own = .ok request → request.command = .find) →
        run env envFile (own ++ "--" :: post) = run env envFile own) ∧
      ((∃ code after after', run env envFile own (newProcess host) = .ok code after ∧
          run env envFile (own ++ "--" :: post) (newProcess host) = .ok code after' ∧
          Compared (Restarting env envFile own host) post after after') ∨
        ∃ f after after', run env envFile own (newProcess host) = .error f after ∧
          run env envFile (own ++ "--" :: post) (newProcess host) = .error f after' ∧
          Compared (Restarting env envFile own host) post after after') := by
  have hpassed : passed (own ++ "--" :: post) = post := by
    rw [passed, splitArguments_dash undashed]
  refine ⟨asked_dash undashed post, hpassed, run_eq_of_find undashed post, ?_⟩
  rcases (run_mirrors undashed post).cases with
    ⟨code, after, code', after', hran, hran', rfl, hcompared⟩ | hbroke
  · exact .inl ⟨code', after, after', hran, hran', hcompared⟩
  · exact .inr hbroke

/-- A machine on which nothing runs yet, with a directory to start a service in; lines go to the
console alone. -/
def idleHost : Host where
  files := { directories := [["work"]] }
  deniedPaths := ["/.restarter"]

/-- Arguments that look like some of the program's own. -/
def misleading : List String := ["--", "--json", "", "find"]

theorem passed_arguments_misleading :
    "--" ∉ ["restart", "proxy"] ∧
      passed (["restart", "proxy"] ++ "--" :: misleading) = misleading ∧ ∃ after after',
      run {} none ["restart", "proxy"] (newProcess idleHost) = .ok 0 after ∧
      run {} none (["restart", "proxy"] ++ "--" :: misleading) (newProcess idleHost) =
        .ok 0 after' ∧
      Compared (Restarting {} none ["restart", "proxy"] idleHost) misleading after after' ∧
      after'.processes.map TableEntry.commandLine =
        [some ("./concrete-start-proxy.sh" :: misleading)] := by
  have hundashed : "--" ∉ ["restart", "proxy"] := by decide
  have hread : returned? (run {} none (["restart", "proxy"] ++ "--" :: misleading))
      (newProcess idleHost) (fun code after => (code, after.processes.map TableEntry.commandLine)) =
        some (0, [some ("./concrete-start-proxy.sh" :: misleading)]) := by decide +kernel
  obtain ⟨_, _, hran, hvalues⟩ := exists_of_returned? hread
  obtain ⟨-, hpassed, -, hends⟩ := passed_arguments {} none idleHost hundashed misleading
  rcases hends with
    ⟨code, after, after', hruns, hruns', hcompared⟩ | ⟨f, after, after', -, hbroke, -⟩
  · rw [hruns', EStateM.Result.ok.injEq] at hran
    obtain ⟨rfl, rfl⟩ := hran
    rw [Prod.mk.injEq] at hvalues
    obtain ⟨rfl, hlines⟩ := hvalues
    exact ⟨hundashed, hpassed, after, after', hruns, hruns', hcompared, hlines⟩
  · rw [hbroke] at hran
    exact absurd hran (by simp)

end App

end Relaunch
