/-
  What a report tells.

  A restart that is asked for a report prints one JSON document and nothing else, and what the document
  says is true of the run: which process was started and how, how many searches were made, whom they
  found and who was signalled, and whether the service accepts connections (`Truth`).  The reader of
  the document is `Json.parse?`, so nothing is lost on the way, whatever the texts hold.

  * `Restart.calls_of_stages` sets out the dealings of a restart in order; what a report says about
    them is counted off there;
  * `run_silent` says that a restart prints nothing by itself, whichever way it ends, so standard
    output holds the report or nothing;
  * `report_is_true` puts the two together for the runs of the program.
-/
import Relaunch.Proofs.Account
import Relaunch.Proofs.Agreement
import Relaunch.Proofs.ExitCodes
import Relaunch.Proofs.JsonReader

namespace Relaunch

open Relaunch.Host Relaunch.Launch

/-- The document at the end of a path of field names. -/
def Json.at? : (path : List String) → Json → Option Json
  | [], document => some document
  | name :: path, document => (document.field? name).bind (at? path)

theorem Json.ofOption_eq_null {α : Type} {document : α → Json} (filled : ∀ a, document a ≠ .null)
    {a? : Option α} : Json.ofOption (a?.map document) = .null ↔ a? = none := by
  cases a? with
  | none => simp [Json.ofOption]
  | some a => simp [Json.ofOption, filled a]

/-- A retirement is about no process just if it found none. -/
theorem Retirement.Account.target_eq_none {query : Query} {patience : Patience} {n : Int}
    {host after last : Host} {outcome : Outcome} {k : Nat} {farewell : List Call}
    (h : Account query patience n host outcome after k last farewell) :
    outcome.target = none ↔ outcome.status = .notFound := by
  refine ⟨fun hnone => ?_, fun hstatus => (h.notFound hstatus).2.1⟩
  by_contra hstatus
  obtain ⟨-, -, target, process, hsome, -⟩ := h.retired hstatus
  simp [hnone] at hsome

/-! ## The dealings of a restart -/

/-- Is the dealing a scan of the process table? -/
def isScan : Call → Bool
  | .scan => true
  | _ => false

namespace Restart

/-- The dealings of `k` searches, the last of which is not followed by a pause. -/
def searching (patience : Patience) (host : Host) (k : Nat) : List Call :=
  (List.replicate (k - 1) (Discovery.searchCalls host ++ [.sleep patience.delay])).flatten
    ++ Discovery.searchCalls host

/-- Searching is scans and pauses. -/
theorem searching_cases {patience : Patience} {host : Host} {k : Nat} :
    ∀ call ∈ searching patience host k, call = .scan ∨ call = .sleep patience.delay := by
  intro call hcall
  have hscan : call ∈ Discovery.searchCalls host → call = .scan :=
    Retirement.searchCalls_scan host call
  rcases List.mem_append.mp hcall with hcall | hcall
  · obtain ⟨calls, hcalls, hcall⟩ := List.mem_flatten.mp hcall
    obtain rfl := List.eq_of_mem_replicate hcalls
    rcases List.mem_append.mp hcall with hcall | hcall
    · exact .inl (hscan hcall)
    · exact .inr (List.mem_singleton.mp hcall)
  · exact .inl (hscan hcall)

/-- Every search scans the table once, unless it cannot tell which processes are its own. -/
theorem countP_searching (patience : Patience) (host : Host) {k : Nat} (positive : 1 ≤ k) :
    (searching patience host k).countP isScan =
      if (Discovery.lookupFault? host).isSome then 0 else k := by
  obtain ⟨earlier, rfl⟩ := Nat.exists_eq_add_of_le' positive
  rw [searching, Nat.add_sub_cancel, List.countP_append, List.countP_flatten, List.map_replicate,
    List.sum_replicate, Discovery.searchCalls]
  split
  · simp [isScan]
  · simp [isScan, List.countP_cons]

variable {query : Query} {patience : Patience} {plan : LaunchPlan} {health : Option Probe}
  {host retired launched after last : Host} {outcome : Retirement.Outcome} {daemon : Daemon}
  {healthy : Option Bool} {n : Int} {k : Nat} {farewell : List Call}

/-- The dealings of a restart, in order: the searches, the signals and waits, the limits, the start
of the executable, and the attempts to connect. -/
theorem calls_of_stages
    (account : Retirement.Account query patience n host outcome retired k last farewell)
    (launches : Launch.run plan (announced query outcome retired) = .ok daemon launched)
    (probes : probe health launched = .ok healthy after) :
    ∃ prelude late, after.calls.toList = host.calls.toList ++ searching patience host k ++
        farewell ++ prelude ++ [.spawn (command plan)] ++ late ∧
      (∀ call ∈ prelude, FileLimit.concernsLimits call = true) ∧
      ∀ call ∈ late, call.incidental = true := by
  obtain ⟨prelude, hprelude, hlimits⟩ := ((Launch.run_stages _ _).of_ok launches).calls
  obtain ⟨late, hlate, hincidental⟩ := ((probe_aside health _).of_ok probes).calls
  have htold : (announced query outcome retired).calls = retired.calls :=
    (said_alike ..).view Host.calls
  refine ⟨prelude, late, ?_, hlimits, hincidental⟩
  rw [hlate, hprelude, htold, account.calls, searching]
  simp only [List.append_assoc]

theorem kind_of_incidental {call : Call} (h : call.incidental = true) :
    spawns call = false ∧ isScan call = false ∧ Retirement.pid? call = none := by
  cases call <;> simp_all [Call.incidental, spawns, isScan, Retirement.pid?]

theorem kind_of_pid {call : Call} {pid : Int} (h : Retirement.pid? call = some pid) :
    spawns call = false ∧ isScan call = false := by
  cases call <;> simp_all [Retirement.pid?, spawns, isScan]

/-- What can be counted off the dealings of a restart that were the only ones. -/
structure Dealt (plan : LaunchPlan) (host after : Host) (outcome : Retirement.Outcome) (k : Nat) :
    Prop where
  /-- One process was started. -/
  spawned : after.calls.toList.filter spawns = [.spawn (command plan)]
  scans : after.calls.toList.countP isScan =
    if (Discovery.lookupFault? host).isSome then 0 else k
  /-- Signals and waits concern the one process that the retirement was about. -/
  pids : ∀ pid ∈ after.calls.toList.filterMap Retirement.pid?,
    ∃ target, outcome.target = some target ∧ target.pid = pid

theorem filter_spawns_eq_nil {calls : List Call} (h : ∀ call ∈ calls, spawns call = false) :
    calls.filter spawns = [] :=
  List.filter_eq_nil_iff.mpr fun call hcall => by simp [h call hcall]

theorem countP_isScan_eq_zero {calls : List Call} (h : ∀ call ∈ calls, isScan call = false) :
    calls.countP isScan = 0 :=
  List.countP_eq_zero.mpr fun call hcall => by simp [h call hcall]

/-- The dealings of a restart follow each other stage by stage, so each kind can be counted off in
its own stage. -/
theorem dealt_of_stages (fresh : host.calls = #[])
    (account : Retirement.Account query patience n host outcome retired k last farewell)
    (launches : Launch.run plan (announced query outcome retired) = .ok daemon launched)
    (probes : probe health launched = .ok healthy after) : Dealt plan host after outcome k := by
  obtain ⟨prelude, late, hcalls, hlimits, hlate⟩ := calls_of_stages account launches probes
  simp only [fresh, List.nil_append] at hcalls
  -- Each part of the dealings is of a kind of its own.
  have hsearching : ∀ call ∈ searching patience host k,
      spawns call = false ∧ Retirement.pid? call = none := by
    intro call hcall
    rcases searching_cases call hcall with rfl | rfl
    · exact ⟨rfl, rfl⟩
    · exact ⟨rfl, rfl⟩
  have htarget : ∀ call ∈ farewell, ∃ target, outcome.target = some target ∧
      Retirement.pid? call = some target.pid := by
    intro call hcall
    by_cases hstatus : outcome.status = .notFound
    · rw [(account.notFound hstatus).2.2.2] at hcall
      exact absurd hcall List.not_mem_nil
    · obtain ⟨-, -, target, process, htarget, -, -, hpid, -, hcalls, -⟩ := account.retired hstatus
      exact ⟨target, htarget, hpid ▸ hcalls.pid?_eq call hcall⟩
  have hfarewell : ∀ call ∈ farewell, spawns call = false ∧ isScan call = false := by
    intro call hcall
    obtain ⟨target, -, hpid⟩ := htarget call hcall
    exact kind_of_pid hpid
  have hprelude := fun call hcall => kind_of_incidental (incidental_of_limits (hlimits call hcall))
  have hafter := fun call hcall => kind_of_incidental (hlate call hcall)
  refine ⟨?_, ?_, fun pid hpid => ?_⟩
  · rw [hcalls, List.filter_append, List.filter_append, List.filter_append, List.filter_append,
      filter_spawns_eq_nil fun call hcall => (hsearching call hcall).1,
      filter_spawns_eq_nil fun call hcall => (hfarewell call hcall).1,
      filter_spawns_eq_nil fun call hcall => (hprelude call hcall).1,
      filter_spawns_eq_nil fun call hcall => (hafter call hcall).1]
    rfl
  · rw [hcalls, List.countP_append, List.countP_append, List.countP_append, List.countP_append,
      countP_searching patience host account.positive,
      countP_isScan_eq_zero fun call hcall => (hfarewell call hcall).2,
      countP_isScan_eq_zero fun call hcall => (hprelude call hcall).2.1,
      countP_isScan_eq_zero fun call hcall => (hafter call hcall).2.1]
    rfl
  · obtain ⟨call, hcall, hpid⟩ := List.mem_filterMap.mp hpid
    simp only [hcalls, List.mem_append, List.mem_singleton] at hcall
    rcases hcall with (((hcall | hcall) | hcall) | rfl) | hcall
    · simp [(hsearching call hcall).2] at hpid
    · obtain ⟨target, htarget, hsame⟩ := htarget call hcall
      exact ⟨target, htarget, Option.some.inj (hsame.symm.trans hpid)⟩
    · simp [(hprelude call hcall).2.2] at hpid
    · cases hpid
    · simp [(hafter call hcall).2.2] at hpid

/-! ## Nothing is printed -/

/-- Nothing was printed between the two hosts. -/
def Silent (before after : Host) : Prop := after.stdout = before.stdout

instance : Std.Refl Silent := ⟨fun _ => rfl⟩

instance : Trans Silent Silent Silent := ⟨fun h h' => Eq.trans h' h⟩

theorem silent_of_alike {a b : Host} (h : Alike b a) : Silent a b := h.view Host.stdout

/-- A launch prints nothing; the output of the service goes to its log. -/
theorem launch_silent (plan : LaunchPlan) : Keeps Silent (Launch.run plan) := by
  intro host
  refine (Launch.run_stages plan host).imp (fun daemon after h => ?_) (fun f after h => ?_)
  · cases h with
    | started readied looked opens starts =>
      have hopened := opened_frame ((raiseLimit_ends plan host).of_ok readied)
        ((openLog_spec _ _).of_ok opens)
      obtain ⟨-, output, exits, -, rfl⟩ := (startAndClose_spec _ _ _).of_ok starts
      exact ((said_alike ..).view Host.stdout).trans (hopened.view Host.stdout)
  · obtain ⟨step, hstops⟩ := h
    cases hstops with
    | limit rejected =>
      exact ((raiseLimit_ends plan host).of_error rejected).frame.view Host.stdout
    | missing readied | unclear readied =>
      exact ((raiseLimit_ends plan host).of_ok readied).frame.view Host.stdout
    | log readied looked unopened =>
      have hready := ((raiseLimit_ends plan host).of_ok readied).frame
      have hlog := ((openLog_spec _ _).of_error unopened).2.alike
      exact (hlog.view Host.stdout).trans (hready.view Host.stdout)
    | start readied looked opens unstarted =>
      have hopened := opened_frame ((raiseLimit_ends plan host).of_ok readied)
        ((openLog_spec _ _).of_ok opens)
      obtain ⟨-, rfl⟩ := (startAndClose_spec _ _ _).of_error unstarted
      exact hopened.view Host.stdout

/-- A restart prints nothing by itself, whichever way it ends. -/
theorem run_silent (query : Query) (patience : Patience) (plan : LaunchPlan)
    (health : Option Probe) : Keeps Silent (run query patience plan health) := by
  have hretires : Keeps Silent (Retirement.run query patience) :=
    (Retirement.run_frame query patience).imp fun _ _ h => Alike.view h Host.stdout
  have hprobes : Keeps Silent (probe health) :=
    (probe_passes health).imp fun _ _ h => h.frame.view Host.stdout
  have htells : ∀ level speaker message, Keeps Silent (say level speaker message) :=
    fun level speaker message host => silent_of_alike (said_alike level speaker message host)
  exact hretires.bind fun _ => (htells _ _ _).bind fun _ => (launch_silent plan).bind fun _ =>
    hprobes.bind fun _ => .pure _

end Restart

namespace App

open Relaunch.JournalSetup Relaunch.Restart

/-! ## What the document says -/

/-- What a report says, and what is true of the run that it is about: one that started on `host`, went
on to retire a stale instance from `start`, with `k` searches of which the last one was made on
`last`, and ended with an exit code and a host. -/
structure Truth (definition : Service.Definition) (query : Query) (patience : Patience)
    (host start : Host) (code : Nat) (after : Host) (document : Json) (k : Nat) (last : Host) :
    Prop where
  /-- One process was started.  It is in the table, unless it exited at once. -/
  spawned : after.calls.toList.filter spawns = [.spawn (command definition.launchPlan)]
  nextPid : after.nextPid = host.nextPid + 1
  joined : ∃ (others : List TableEntry) (exits : Bool), after.processes =
    others ++ if exits then [] else [host.started (command definition.launchPlan)]
  pid : document.at? ["daemon", "pid"] =
    some (.int (host.started (command definition.launchPlan)).pid)
  argv : document.at? ["daemon", "argv"] =
    some (.list ((command definition.launchPlan).argv.map .text))
  log : document.at? ["daemon", "log_path"] = some (.text definition.launchPlan.resolvedLog.text)
  /-- All searches but the last found nothing or failed. -/
  earlier : 1 ≤ k ∧ Retirement.Fruitless query patience.delay start (k - 1) last
  scans : after.calls.toList.countP isScan =
    if (Discovery.lookupFault? start).isSome then 0 else k
  attempts : document.at? ["termination", "attempts"] = some (.int k)
  unfound : document.at? ["termination", "pid"] = some .null ↔
    document.at? ["termination", "status"] = some (.text "not_found")
  /-- The process is the one with the least pid among what the last search found. -/
  found : document.at? ["termination", "status"] ≠ some (.text "not_found") →
    ∃ target ∈ Retirement.found query last,
      (∀ other ∈ Retirement.found query last, target.pid ≤ other.pid) ∧
      document.at? ["termination", "pid"] = some (.int target.pid)
  /-- No other process was signalled or waited for. -/
  alone : ∀ pid ∈ after.calls.toList.filterMap Retirement.pid?,
    document.at? ["termination", "pid"] = some (.int pid)
  unasked : document.at? ["healthy"] = some .null ↔ definition.healthPort = none
  healthy : ∀ port, definition.healthPort = some port →
    document.at? ["healthy"] = some (.bool (code = Ending.success.code))

theorem name_eq_not_found {status : Retirement.Status} :
    status.name = "not_found" ↔ status = .notFound := by
  cases status <;> simp [Retirement.Status.name]

/-- A service that is defined bounds its searches by an integer. -/
theorem Accepts.account {settings : Settings} {service : String} {given : Service.Overrides}
    {definition : Service.Definition} {query : Query} {patience : Patience} {start retired : Host}
    {outcome : Retirement.Outcome}
    (accepts : Accepts settings service given definition query patience)
    (retires : Retirement.run query patience start = .ok outcome retired) :
    ∃ n k last farewell,
      Retirement.Account query patience n start outcome retired k last farewell := by
  have hchecked := accepts.patience
  obtain ⟨rfl, -⟩ := Patience.check_eq_ok.mp hchecked
  have hone := Patience.one_le_of_int hchecked rfl
  have hsearches := Patience.searches_of_int
    { attempts := .int definition.maxAttempts, delay := .float definition.attemptDelay,
      grace := definition.grace.map .float } definition.maxAttempts rfl
  obtain ⟨made, last, hmade, hearlier, hends⟩ := Retirement.run_course query _ start
    (by rw [hsearches]; omega)
  rw [hsearches] at hmade hends
  obtain ⟨farewell, haccount⟩ := (hends.of_ok retires).account hone hmade hearlier
  exact ⟨_, _, last, farewell, haccount⟩

/-- The pid in a report is that of the process that was to be ended. -/
theorem pid_at (report : Report) : report.toJson.at? ["termination", "pid"] =
    some (.ofOption (report.retirement.target.map fun handle => .int handle.pid)) := rfl

theorem status_at (report : Report) : report.toJson.at? ["termination", "status"] =
    some (.text report.retirement.status.name) := rfl

theorem healthy_at (report : Report) :
    report.toJson.at? ["healthy"] = some (.ofOption (report.healthy.map .bool)) := rfl

variable {settings : Settings} {service : String} {given : Service.Overrides}
  {definition : Service.Definition} {query : Query} {patience : Patience} {host start after : Host}
  {report : Report}

/-- The report of a restart that came through is true of it. -/
theorem truth_of_came (accepts : Accepts settings service given definition query patience)
    (fresh : start.calls = #[]) (next : start.nextPid = host.nextPid)
    (came : Came query patience definition.launchPlan definition.probe? start report after) :
    ∃ k last, Truth definition query patience host start (endingOf report).code after report.toJson k
      last := by
  cases came with
  | @probed outcome daemon healthy retired launched _ retires launches probes =>
    obtain ⟨n, k, last, farewell, haccount⟩ := accepts.account retires
    have hdealt := dealt_of_stages fresh haccount launches probes
    have hlaunched := (launch_ends _ _).of_ok launches
    have haside := (probe_aside _ _).of_ok probes
    have htold : (Restart.announced query outcome retired).nextPid = host.nextPid :=
      ((said_alike ..).view Host.nextPid).trans
        ((Alike.view ((Retirement.run_frame query patience start).of_ok retires) Host.nextPid).trans
          next)
    have hstarted : (Restart.announced query outcome retired).started
        (command definition.launchPlan) = host.started (command definition.launchPlan) := by
      rw [Host.started, Host.started, htold]
    have hlog : daemon.log = definition.launchPlan.resolvedLog := by
      cases (Launch.run_stages _ _).of_ok launches
      rfl
    obtain ⟨output, exits, -, hprocesses⟩ := hlaunched.started
    refine ⟨k, last, {
      spawned := hdealt.spawned
      nextPid := haside.nextPid.trans (hlaunched.nextPid.trans (congrArg (· + 1) htold))
      joined := ⟨_, exits, haside.processes.trans (hstarted ▸ hprocesses)⟩
      pid := congrArg (fun pid => some (Json.int pid)) (hlaunched.pid.trans htold)
      argv := congrArg (fun argv : List String => some (Json.list (argv.map .text))) hlaunched.argv
      log := congrArg (fun log : Path => some (Json.text log.text)) hlog
      earlier := ⟨haccount.positive, haccount.earlier⟩
      scans := hdealt.scans
      attempts := congrArg (fun attempts => some (Json.int attempts)) haccount.attempts
      unfound := ?_
      found := fun hstatus => ?_
      alone := fun pid hmem => ?_
      unasked := ?_
      healthy := fun port hport => ?_ }⟩
    · rw [pid_at, status_at, Option.some.injEq, Option.some.injEq, Json.text.injEq,
        name_eq_not_found, ← haccount.target_eq_none]
      exact Json.ofOption_eq_null (by simp)
    · have hsome : outcome.status ≠ .notFound := fun heq => hstatus (by
        rw [status_at, Option.some.injEq, Json.text.injEq, name_eq_not_found]
        exact heq)
      obtain ⟨-, hcandidates, target, -, htarget, hmem, hleast, -⟩ := haccount.retired hsome
      refine ⟨target, hcandidates ▸ hmem, hcandidates ▸ hleast, ?_⟩
      rw [pid_at, htarget]
      rfl
    · obtain ⟨target, htarget, rfl⟩ := hdealt.pids pid hmem
      rw [pid_at, htarget]
      rfl
    · rcases probe_eq_ok probes with ⟨hport, rfl⟩ | ⟨asked, accepts, hport, -, rfl⟩
      · exact ⟨fun _ => Option.map_eq_none_iff.mp hport, fun _ => rfl⟩
      · refine ⟨fun hnull => ?_, fun hnone => ?_⟩
        · rw [healthy_at] at hnull
          cases hnull
        · rw [Service.Definition.probe?, hnone] at hport
          cases hport
    · rcases probe_eq_ok probes with ⟨hnone, -⟩ | ⟨asked, accepts, -, -, rfl⟩
      · rw [Service.Definition.probe?, hport] at hnone
        cases hnone
      · cases accepts <;> rfl

/-! ## Standard output -/

variable {env : Environment} {envFile : Option String} {arguments : List String}
  {request : Options.Request} {ready : Host} {ending : Ending} {code : Nat}

/-- What standard output holds after a run of the program that ended with an exit code. -/
structure Speaks (env : Environment) (envFile : Option String) (arguments : List String)
    (host : Host) (code : Nat) (after : Host) : Prop where
  /-- A failed launch and a request that makes no sense print nothing. -/
  failed : code = Ending.launchFailed.code ∨ code = Ending.badRequest.code → after.stdout = ""
  unreported : ∀ {request}, asked arguments = .ok request → request.command = .restart →
    request.choices.json = false → after.stdout = ""
  /-- Otherwise, where a report was asked for, it is the one document there, and it is true. -/
  reported : ∀ {request}, asked arguments = .ok request → request.command = .restart →
    request.choices.json = true →
    code = Ending.success.code ∨ code = Ending.unhealthy.code →
    ∃ settings ready definition query patience document k last,
      Ready env envFile arguments host request settings ready ∧
      Accepts settings request.service (overrides request.choices (passed arguments)) definition
        query patience ∧
      Json.parse? after.stdout = some document ∧
      Truth definition query patience host (announced definition ready) code after document k last

/-- The journal has no handler for standard output. -/
theorem said_stdout (level : Level) (speaker message : String) (host : Host) :
    (said level speaker message host).stdout = host.stdout :=
  (said_alike ..).view Host.stdout

/-- A restart that failed tells nothing but that. -/
theorem Speaks.of_empty (empty : after.stdout = "")
    (failed : ending ≠ .success ∧ ending ≠ .unhealthy) :
    Speaks env envFile arguments host ending.code after := by
  refine ⟨fun _ => empty, fun _ _ _ => empty, fun _ _ _ hcode => ?_⟩
  rcases hcode with hcode | hcode
  · exact absurd (Ending.code_injective hcode) failed.1
  · exact absurd (Ending.code_injective hcode) failed.2

theorem endingOf_ne_badRequest (report : Report) : endingOf report ≠ .badRequest := by
  unfold endingOf
  split <;> decide

/-- Showing a report changes nothing that it is about. -/
theorem Truth.reported (choices : Options.Choices) (shown : Report) {document : Json} {k : Nat}
    {last : Host} (h : Truth definition query patience host start code after document k last) :
    Truth definition query patience host start code (App.reported choices shown after) document k
      last := by
  unfold App.reported
  split
  · exact { h with }
  · exact h

/-- A request to restart says what its restart did, or nothing. -/
theorem speaks_of_restart (absolute : host.cwd.isAbsolute = true)
    (ready_for : Ready env envFile arguments host request settings ready)
    (h : Restarts settings request.service request.choices (passed arguments) ready ending after) :
    Speaks env envFile arguments host ending.code after := by
  have hakin := (ready_for.backstage absolute).akin
  have hready : ready.stdout = "" := hakin.view Host.stdout
  -- Nothing is printed until the restart has come to an end.
  have hruns : ∀ definition query patience,
      (left (Restart.run query patience definition.launchPlan definition.probe?)
        (announced definition ready)).stdout = "" := by
    intro definition query patience
    have hsilent := (run_silent query patience definition.launchPlan definition.probe?
      (announced definition ready)).left
    exact hsilent.trans ((said_stdout ..).trans hready)
  cases h with
  | undefined resolves => exact .of_empty ((said_stdout ..).trans hready) (by decide)
  | @failed definition query patience f failed accepts runs failure =>
    have hempty := hruns definition query patience
    rw [left, runs] at hempty
    exact .of_empty ((said_stdout ..).trans hempty) (by decide)
  | @reported definition query patience report came accepts runs =>
    have hempty := hruns definition query patience
    rw [left, runs] at hempty
    have hfresh : (announced definition ready).calls = #[] :=
      ((said_alike ..).view Host.calls).trans (hakin.view Host.calls)
    have hnext : (announced definition ready).nextPid = host.nextPid :=
      ((said_alike ..).view Host.nextPid).trans (hakin.view Host.nextPid)
    have hcame := (Restart.run_stages query patience definition.launchPlan definition.probe?
      _).of_ok runs
    obtain ⟨k, last, htruth⟩ := truth_of_came accepts hfresh hnext hcame
    have hshown := htruth.reported request.choices report
    refine ⟨fun hcode => ?_, fun hasks _ hplain => ?_, fun hasks _ hjson _ => ?_⟩
    · rcases hcode with hcode | hcode
      · exact absurd (Ending.code_injective hcode) (endingOf_ne_launchFailed report)
      · exact absurd (Ending.code_injective hcode) (endingOf_ne_badRequest report)
    · obtain rfl := Except.ok.inj (hasks.symm.trans ready_for.asks)
      rw [App.reported, hplain]
      exact hempty
    · obtain rfl := Except.ok.inj (hasks.symm.trans ready_for.asks)
      refine ⟨settings, ready, definition, query, patience, report.toJson, k, last, ready_for,
        accepts, ?_, hshown⟩
      rw [App.reported, if_pos hjson]
      dsimp only
      rw [hempty, String.empty_append, Json.parse?_print]

/-- **A report is true**: what the program prints is one document and says what the run did, or it is
nothing where no report was asked for or the restart failed.  This supposes that the working directory
is absolute. -/
theorem report_is_true (absolute : host.cwd.isAbsolute = true)
    (returned : run env envFile arguments (newProcess host) = .ok code after) :
    Speaks env envFile arguments host code after := by
  cases (run_ends env envFile arguments host).of_ok returned with
  | @stopped stop settings loaded asks loads =>
    have hnever : ∀ {request}, asked arguments ≠ .ok request := by
      intro request hasks
      exact absurd (asks.symm.trans hasks) (by simp)
    refine ⟨fun hcode => ?_, fun hasks => (hnever hasks).elim, fun hasks => (hnever hasks).elim⟩
    have hloaded : loaded.stdout = "" :=
      ((Settings.load_confined env envFile _).of_ok loads).alike.view Host.stdout
    cases stop with
    | help | version => simp [Options.Stop.exitCode, Ending.code] at hcode
    | misuse topic misuse => simp [shown, Options.Stop.stdout, hloaded]
  | @obeyed request settings ready _ ending ready_for saw =>
    cases hcommand : request.command with
    | restart =>
      rw [seeTo, hcommand] at saw
      exact speaks_of_restart absolute ready_for ((restart_stages _ _ _ _ ready).of_ok saw)
    | find =>
      rw [seeTo, hcommand] at saw
      have hnever : ∀ {other}, asked arguments = .ok other → other.command ≠ .restart := by
        intro other hasks
        obtain rfl := Except.ok.inj (ready_for.asks.symm.trans hasks)
        simp [hcommand]
      refine ⟨fun hcode => ?_, fun hasks hrestarts => (hnever hasks hrestarts).elim,
        fun hasks hrestarts => (hnever hasks hrestarts).elim⟩
      cases (find_stages _ _ ready).of_ok saw with
      | unsearchable refused =>
        exact (said_stdout ..).trans ((ready_for.backstage absolute).akin.view Host.stdout)
      | listed accepted finds => simp [Ending.code] at hcode

/-- A request for a report, with quotes, a backslash, a line feed and a character beyond the first
plane among the arguments for the service. -/
def frankArguments : List String :=
  ["restart", "svc", "--executable", "/bin/svc", "--workdir", "/srv", "--no-fd-limit", "--json",
    "--", "\"\\", "\n😀"]

/-- A host on which an instance of the service runs. -/
def frankHost : Host where
  processes := [{ pid := 7, commandLine := some ["svc"] }]
  files := { directories := [["srv"]] }

theorem report_is_true_frank :
    (∃ request, asked frankArguments = .ok request ∧ request.command = .restart ∧
      request.choices.json = true) ∧
    frankHost.cwd.isAbsolute = true ∧
    ∃ after document, run {} none frankArguments (newProcess frankHost) = .ok 0 after ∧
      Json.parse? after.stdout = some document ∧
      document.at? ["daemon", "pid"] = some (.int 5000) ∧
      document.at? ["termination", "pid"] = some (.int 7) := by
  have hran : returned? (run {} none frankArguments) (newProcess frankHost)
      (fun code after => (code, after.calls.toList.filterMap Retirement.pid?)) =
        some (0, [7]) := by decide +kernel
  obtain ⟨code, after, hran, hvalues⟩ := exists_of_returned? hran
  obtain ⟨rfl, hpids⟩ := Prod.mk.inj hvalues
  refine ⟨⟨_, rfl, rfl, rfl⟩, rfl, after, ?_⟩
  obtain ⟨settings, ready, definition, query, patience, document, k, last, -, -, hread, htruth⟩ :=
    (report_is_true rfl hran).reported (rfl : asked frankArguments = .ok _) rfl rfl (.inl rfl)
  exact ⟨document, hran, hread, htruth.pid, htruth.alone 7 (by rw [hpids]; exact .head _)⟩

end App

end Relaunch
