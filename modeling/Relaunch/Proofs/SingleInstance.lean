/-
  One instance, however often the service is restarted.

  A restart takes the least instance out of the table and puts a new one in.  So the number of
  instances is what it was, or one if there was none, and a service that had one instance at most has
  just the one that the last restart reports.  Nothing else in the table changes.

  The argument is one step (`restart_ends`): on a calm host, and for a plan whose process can be found
  again, a restart that returns a report leaves the survivors and the new process, and one that fails
  stops somewhere on the way there.  Either way the host stays calm (`Succeeds`), so the step can be
  repeated (`Restarted.succeeds`).
-/
import Relaunch.Proofs.Instances
import Relaunch.Proofs.Launching
import Relaunch.Proofs.Patience

namespace Relaunch

open Relaunch.Host Relaunch.Discovery Relaunch.Retirement

/-! ## Restarts that can be repeated -/

/-- Does a started process exit at once? -/
def SpawnResponse.exits : SpawnResponse → Bool
  | .runs _ exits => exits
  | .fails _ => false

/-- A restart that the next one can follow: its bounds allow a search, and its process stays, is found
by the query, and takes a pid of its own. -/
structure Suits (query : Query) (patience : Patience) (plan : LaunchPlan) (host : Host) : Prop where
  valid : patience.check = .ok patience
  defined : patience.attempts.exact ≠ .undefined
  named : query.accepts (String.intercalate " " plan.argv) = true
  stays : (host.response (Launch.command plan)).exits = false
  /-- Its pid is not in the table when it is started. -/
  fresh : ∀ process ∈ survivors query host, process.pid ≠ host.nextPid
  foreign : host.nextPid ∉ own host

/-- What restarts with the query lead to, whether they return a report or fail. -/
inductive Restarted (query : Query) (start : Host) : Host → Prop
  | start : Restarted query start start
  | next {host : Host} {patience : Patience} {plan : LaunchPlan} {health : Option Probe}
      (earlier : Restarted query start host) (suits : Suits query patience plan host) :
      Restarted query start (left (Restart.run query patience plan health) host)

/-! ## The new instance -/

section Renewed

variable {query : Query} {patience : Patience} {plan : LaunchPlan} {host after : Host}

/-- The process of a suitable plan is an instance of the service. -/
theorem isInstance_started (suits : Suits query patience plan host) :
    isInstance query host (host.started (Launch.command plan)) = true := by
  have hshown : shownCommandLine (host.started (Launch.command plan)).commandLine
      (host.started (Launch.command plan)).name = String.intercalate " " plan.argv := rfl
  rw [isInstance, hshown, suits.named, Bool.and_true, Bool.not_eq_true', List.contains_eq_mem,
    decide_eq_false_iff_not]
  exact suits.foreign

/-- The instances once the new process has joined the survivors. -/
theorem instances_renewed (suits : Suits query patience plan host)
    (givens : after.givens = host.givens)
    (processes : after.processes = survivors query host ++ [host.started (Launch.command plan)]) :
    instances query after = insert host.nextPid (withoutLeast (instances query host)) := by
  have hsurvivors : instances query { host with processes := survivors query host } =
      withoutLeast (instances query host) := instances_survivors rfl rfl
  ext pid
  rw [Finset.mem_insert, ← hsurvivors, mem_instances, mem_instances, processes,
    isInstance_givens givens]
  constructor
  · rintro ⟨process, hmem, hinstance, rfl⟩
    rcases List.mem_append.mp hmem with hmem | hmem
    · exact .inr ⟨process, hmem, hinstance, rfl⟩
    · rw [List.mem_singleton.mp hmem]
      exact .inl rfl
  · rintro (rfl | ⟨process, hmem, hinstance, rfl⟩)
    · exact ⟨host.started (Launch.command plan), by simp, isInstance_started suits, rfl⟩
    · exact ⟨process, List.mem_append_left _ hmem, hinstance, rfl⟩

/-- The new pid is not among the instances that were left. -/
theorem nextPid_not_mem (suits : Suits query patience plan host) :
    host.nextPid ∉ withoutLeast (instances query host) := by
  intro hpid
  obtain ⟨process, hmem, -, heq⟩ := mem_instances.mp (Finset.mem_filter.mp hpid).1
  refine suits.fresh process (mem_survivors.mpr ⟨hmem, fun _ => ?_⟩) heq
  rw [heq]
  exact hpid

/-- A restart keeps the number of instances, unless there was none. -/
theorem card_renewed (suits : Suits query patience plan host) :
    (insert host.nextPid (withoutLeast (instances query host))).card =
      max (instances query host).card 1 := by
  rw [Finset.card_insert_of_notMem (nextPid_not_mem suits), card_withoutLeast]
  omega

/-- A new process that can fail nobody keeps the host calm. -/
theorem calm_renewed (calm : Calm host) (suits : Suits query patience plan host)
    (givens : after.givens = host.givens)
    (processes : after.processes = survivors query host ++ [host.started (Launch.command plan)]) :
    Calm after := by
  have hsub : (survivors query host).Sublist host.processes := List.filter_sublist
  -- Whoever is in the table now was there before, or is the new process.
  have hcases : ∀ process ∈ after.processes,
      process ∈ host.processes ∨ process = host.started (Launch.command plan) := by
    intro process hmem
    rw [processes] at hmem
    rcases List.mem_append.mp hmem with hmem | hmem
    · exact .inl (hsub.subset hmem)
    · exact .inr (List.mem_singleton.mp hmem)
  refine ⟨?_, fun process hmem => ?_, fun process hmem => ?_, fun process hmem => ?_, ?_, ?_⟩
  · rw [processes, List.map_append, List.map_singleton]
    refine List.nodup_append'.mpr ⟨calm.distinct.sublist (hsub.map _), List.nodup_singleton _, ?_⟩
    rw [List.disjoint_singleton]
    intro hpid
    obtain ⟨process, hmem, heq⟩ := List.mem_map.mp hpid
    exact suits.fresh process hmem heq
  · rcases hcases process hmem with hmem | rfl
    · exact calm.readable process hmem
    · rfl
  · rcases hcases process hmem with hmem | rfl
    · exact calm.deliverable process hmem
    · rfl
  · rcases hcases process hmem with hmem | rfl
    · exact calm.awaitable process hmem
    · rfl
  · exact (congrArg Givens.ancestorsFault givens).trans calm.known
  · exact (congrArg Givens.changes givens).trans calm.steady

theorem others_renewed (calm : Calm host) (suits : Suits query patience plan host)
    (givens : after.givens = host.givens)
    (processes : after.processes = survivors query host ++ [host.started (Launch.command plan)]) :
    others query after = others query host := by
  have hsurvivors : others query { host with processes := survivors query host } =
      others query host := calm.others_survivors rfl rfl
  rw [← hsurvivors, others, others, processes, isInstance_givens givens, List.filter_append]
  have hnew : [host.started (Launch.command plan)].filter
      (fun process => !isInstance query host process) = [] := by
    rw [List.filter_cons_of_neg (by rw [isInstance_started suits]; simp), List.filter_nil]
  rw [hnew, List.append_nil]
  rfl

end Renewed

/-! ## One restart -/

/-- Does the table of `after` follow from that of `host` by a restart, or by the part of it that took
place? -/
structure Succeeds (query : Query) (host after : Host) : Prop where
  calm : Calm after
  others : others query after = others query host
  bounded : (instances query after).card ≤ max (instances query host).card 1

section Restart

variable {query : Query} {patience : Patience} {plan : LaunchPlan} {health : Option Probe}
  {host after : Host}

/-- A restart that fails before its retirement comes to an outcome leaves the table as it is. -/
theorem Succeeds.of_same (calm : Calm host) (givens : after.givens = host.givens)
    (processes : after.processes = host.processes) : Succeeds query host after := by
  have hinstances : instances query after = instances query host := by
    ext pid
    rw [mem_instances, mem_instances, processes, isInstance_givens givens]
  refine ⟨calm.of_same givens processes, ?_, hinstances ▸ le_max_left ..⟩
  rw [Relaunch.others, Relaunch.others, processes, isInstance_givens givens]

/-- A restart that fails to launch leaves the survivors. -/
theorem Succeeds.of_survivors (calm : Calm host) (givens : after.givens = host.givens)
    (processes : after.processes = survivors query host) : Succeeds query host after := by
  refine ⟨calm.of_sublist givens (processes ▸ List.filter_sublist),
    calm.others_survivors givens processes, ?_⟩
  rw [instances_survivors givens processes, card_withoutLeast]
  omega

theorem Succeeds.of_renewed (calm : Calm host) (suits : Suits query patience plan host)
    (givens : after.givens = host.givens)
    (processes : after.processes = survivors query host ++ [host.started (Launch.command plan)]) :
    Succeeds query host after := by
  refine ⟨calm_renewed calm suits givens processes, others_renewed calm suits givens processes, ?_⟩
  rw [instances_renewed suits givens processes, card_renewed suits]

/-- What a launch of a suitable plan, and what follows it, makes of the survivors. -/
theorem finishes_renewed {told : Host} {daemon : Daemon} (suits : Suits query patience plan host)
    (told_leaves : Leaves host (survivors query host) told)
    (h : Restart.Finishes plan told (some daemon) after) :
    daemon.pid = host.nextPid ∧ after.givens = host.givens ∧
      after.processes = survivors query host ++ [host.started (Launch.command plan)] := by
  cases h with
  | launched ran did aside =>
    obtain ⟨output, exits, hresponse, hprocesses⟩ := did.started
    have hexits : exits = false := by
      have hsame : told.response (Launch.command plan) = host.response (Launch.command plan) := by
        rw [response, show told.executables = host.executables from
          congrArg Givens.executables told_leaves.givens, response]
      have hstays := suits.stays
      rw [← hsame, hresponse] at hstays
      exact hstays
    have hstarted : told.started (Launch.command plan) = host.started (Launch.command plan) := by
      rw [started, told_leaves.nextPid, started]
    refine ⟨did.pid.trans told_leaves.nextPid,
      aside.givens.trans (did.givens.trans told_leaves.givens), ?_⟩
    rw [aside.processes, hprocesses, hexits, hstarted, told_leaves.processes]
    rfl

/-- **One restart on a calm host.** -/
theorem restart_ends (calm : Calm host) (suits : Suits query patience plan host) :
    Ends (Restart.run query patience plan health) host
      (fun report after => report.daemon.pid = host.nextPid ∧ after.givens = host.givens ∧
        after.processes = survivors query host ++ [host.started (Launch.command plan)])
      (fun _ after => Succeeds query host after) := by
  have hsearches : 0 < patience.searches := Patience.one_le_searches suits.valid suits.defined
  have hrun := Restart.run_eq query patience plan health host
  rcases (run_calm query calm hsearches).cases with
    ⟨outcome, retired, hran, hleaves⟩ | ⟨f, retired, hran, hleaves⟩
  · rw [hran] at hrun
    have htold : Leaves host (survivors query host) (Restart.announced query outcome retired) :=
      hleaves.of_alike (said_alike ..)
    rw [Ends, hrun]
    refine (Restart.finish_ends plan health outcome _).imp (fun report after h => ?_)
      (fun f after h => ?_)
    · exact finishes_renewed suits htold h.2
    · obtain ⟨daemon?, hfinishes⟩ := h
      cases hdaemon : daemon? with
      | some daemon =>
        rw [hdaemon] at hfinishes
        obtain ⟨-, hgivens, hprocesses⟩ := finishes_renewed suits htold hfinishes
        exact .of_renewed calm suits hgivens hprocesses
      | none =>
        rw [hdaemon] at hfinishes
        cases hfinishes with
        | failed ran did =>
          exact .of_survivors calm (did.givens.trans htold.givens)
            (did.processes.trans htold.processes)
  · rw [hran] at hrun
    rw [Ends, hrun]
    exact .of_same calm hleaves.givens hleaves.processes

theorem restart_succeeds (calm : Calm host) (suits : Suits query patience plan host) :
    Succeeds query host (left (Restart.run query patience plan health) host) := by
  refine Ends.left ((restart_ends calm suits).imp (fun report after h => ?_) (fun _ _ h => h))
  exact .of_renewed calm suits h.2.1 h.2.2

end Restart

/-! ## Restarts one after the other -/

theorem Restarted.succeeds {query : Query} {start host : Host} (h : Restarted query start host)
    (calm : Calm start) : Succeeds query start host := by
  induction h with
  | start => exact .of_same calm rfl rfl
  | @next host patience plan health earlier suits ih =>
    have hstep : Succeeds query host (left (Restart.run query patience plan health) host) :=
      restart_succeeds ih.calm suits
    obtain ⟨hcalm, hothers, hbounded⟩ := hstep
    refine ⟨hcalm, hothers.trans ih.others, hbounded.trans ?_⟩
    have := ih.bounded
    omega

/-- **However often a service is restarted**, each restart replaces its least instance by a new one. -/
theorem restarts_replace {query : Query} {patience : Patience} {plan : LaunchPlan}
    {health : Option Probe} {start host after : Host} {report : Report} (calm : Calm start)
    (reached : Restarted query start host) (suits : Suits query patience plan host)
    (returned : Restart.run query patience plan health host = .ok report after) :
    instances query after = insert report.daemon.pid (withoutLeast (instances query host)) ∧
      (instances query after).card = max (instances query host).card 1 ∧
      (instances query host).card ≤ max (instances query start).card 1 ∧
      ((instances query start).card ≤ 1 → instances query after = {report.daemon.pid}) ∧
      others query after = others query start := by
  obtain ⟨hcalm, hothers, hbounded⟩ := reached.succeeds calm
  obtain ⟨hpid, hgivens, hprocesses⟩ := (restart_ends hcalm suits).of_ok returned
  have hinstances := instances_renewed suits hgivens hprocesses
  have hcard := card_renewed suits
  rw [← hinstances] at hcard
  refine ⟨hpid ▸ hinstances, hcard, hbounded, fun hone => ?_,
    (others_renewed hcalm suits hgivens hprocesses).trans hothers⟩
  -- The one instance there is must be the new one.
  have hsingle : (instances query after).card = 1 := by omega
  obtain ⟨pid, hpids⟩ := Finset.card_eq_one.mp hsingle
  have hmem : report.daemon.pid ∈ instances query after := by
    rw [hinstances, hpid]
    exact Finset.mem_insert_self ..
  rw [hpids, Finset.mem_singleton] at hmem
  rw [hpids, hmem]

/-- How a service is started. -/
def wornPlan : LaunchPlan where
  executable := "/bin/svc"
  directory := ⟨.slash, []⟩
  fileLimit := none

/-- Bounds that leave an instance some time to end. -/
def wornPatience : Patience := { attempts := 2, delay := 1, grace := some 5 }

/-- A host with one instance of the service, which takes three seconds to end. -/
def wornHost : Host where
  processes := [{ pid := 8, commandLine := some ["sshd"] },
    { pid := 7, commandLine := some ["svc", "-d"], onTerm := .endsWithin 3 }]
  clock := 0

theorem restarts_replace_twice :
    Ends (Restart.run sampleQuery wornPatience wornPlan none)
      (left (Restart.run sampleQuery wornPatience wornPlan none) wornHost)
      (fun report after => report.daemon.pid = 5001 ∧
        instances sampleQuery after = {report.daemon.pid} ∧
        others sampleQuery after = others sampleQuery wornHost)
      (fun _ _ => False) := by
  have calm : Calm wornHost := by
    constructor <;> simp [wornHost]
  have first : Suits sampleQuery wornPatience wornPlan wornHost :=
    ⟨rfl, by decide, by decide +kernel, rfl, by decide +kernel, by decide⟩
  have second : Suits sampleQuery wornPatience wornPlan
      (left (Restart.run sampleQuery wornPatience wornPlan none) wornHost) :=
    ⟨rfl, by decide, by decide +kernel, by decide +kernel, by decide +kernel, by decide +kernel⟩
  have hends : Ends (Restart.run sampleQuery wornPatience wornPlan none)
      (left (Restart.run sampleQuery wornPatience wornPlan none) wornHost)
      (fun report _ => report.daemon.pid = 5001) (fun _ _ => False) :=
    .of_returned? (fun (report : Report) _ => report.daemon.pid) 5001 (by decide +kernel)
  obtain ⟨report, after, hran, hpid⟩ := hends.exists_ok
  obtain ⟨-, -, -, hsingle, hothers⟩ := restarts_replace calm (.next .start first) second hran
  rw [Ends, hran]
  exact ⟨hpid, hsingle (by decide +kernel), hothers⟩

end Relaunch
