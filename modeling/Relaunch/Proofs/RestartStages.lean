/-
  The stages of a restart.

  A restart retires a stale instance, launches a fresh one, and probes it.  `Came` says that all three
  came through, and `Stopped` at which of them the restart stopped, in terms of the steps themselves;
  `run_stages` says that every restart does one or the other.

  A launch failure should come from the launch.  It does on a host that is `Genuine`: no fault that
  meets a process or an attempt to connect is one.  Then the faults that end a retirement
  (`retirement_genuine`) or a probe (`probe_genuine`) are none either.
-/
import Relaunch.Proofs.Escapes
import Relaunch.Proofs.LaunchStages

namespace Relaunch

open Relaunch.Host Relaunch.Launch

/-! ## The stages -/

namespace Restart

/-- A restart on `host` came through with a report, and left a host. -/
inductive Came (query : Query) (patience : Patience) (plan : LaunchPlan) (health : Option Probe)
    (host : Host) : Report → Host → Prop
  | probed {outcome : Retirement.Outcome} {daemon : Daemon} {healthy : Option Bool}
      {retired launched after : Host}
      (retires : Retirement.run query patience host = .ok outcome retired)
      (launches : Launch.run plan (announced query outcome retired) = .ok daemon launched)
      (probes : probe health launched = .ok healthy after) :
      Came query patience plan health host ⟨outcome, daemon, healthy⟩ after

/-- A restart on `host` stopped with a fault, and left a host. -/
inductive Stopped (query : Query) (patience : Patience) (plan : LaunchPlan) (health : Option Probe)
    (host : Host) : Fault → Host → Prop
  /-- The retirement was broken off. -/
  | retiring {f : Fault} {after : Host}
      (retires : Retirement.run query patience host = .error f after) :
      Stopped query patience plan health host f after
  /-- The launch failed. -/
  | launching {outcome : Retirement.Outcome} {f : Fault} {retired after : Host}
      (retires : Retirement.run query patience host = .ok outcome retired)
      (launches : Launch.run plan (announced query outcome retired) = .error f after) :
      Stopped query patience plan health host f after
  /-- The probe was broken off. -/
  | probing {outcome : Retirement.Outcome} {daemon : Daemon} {f : Fault}
      {retired launched after : Host}
      (retires : Retirement.run query patience host = .ok outcome retired)
      (launches : Launch.run plan (announced query outcome retired) = .ok daemon launched)
      (probes : probe health launched = .error f after) :
      Stopped query patience plan health host f after

/-- A restart stops at one of its stages or comes through. -/
theorem run_stages (query : Query) (patience : Patience) (plan : LaunchPlan)
    (health : Option Probe) (host : Host) :
    Ends (run query patience plan health) host (Came query patience plan health host)
      (Stopped query patience plan health host) := by
  rw [Ends, run_eq]
  cases hretires : Retirement.run query patience host with
  | error f after => exact .retiring hretires
  | ok outcome retired =>
    show Ends (finish plan health outcome) (announced query outcome retired) _ _
    rw [finish, ends_bind, Ends]
    cases hlaunches : Launch.run plan (announced query outcome retired) with
    | error f after => exact .launching hretires hlaunches
    | ok daemon launched =>
      show Ends (probe health >>= _) launched _ _
      rw [ends_bind, Ends]
      cases hprobes : probe health launched with
      | error f after => exact .probing hretires hlaunches hprobes
      | ok healthy after => exact .probed hretires hlaunches hprobes

/-! ## The order of the dealings -/

/-- Does the dealing open a connection? -/
def connects : Call → Bool
  | .connect _ _ _ => true
  | _ => false

/-- Is the dealing one from before the start of an executable: neither a start nor a connection? -/
def isEarly (call : Call) : Bool := !spawns call && !connects call

/-- A retirement scans, sleeps, signals and waits. -/
theorem early_of_retirement {host retired : Host} (h : Retirement.Dealings host retired) :
    ∃ more, retired.calls.toList = host.calls.toList ++ more ∧
      ∀ call ∈ more, isEarly call = true := by
  obtain ⟨searching, farewell, hcalls, hsearching, hfarewell⟩ := h.calls
  refine ⟨searching ++ farewell, by rw [hcalls, List.append_assoc], fun call hcall => ?_⟩
  rcases List.mem_append.mp hcall with hcall | hcall
  · rcases hsearching call hcall with rfl | ⟨seconds, rfl⟩
    · rfl
    · rfl
  · rcases hfarewell with rfl | ⟨pid, -, hpid⟩
    · exact absurd hcall List.not_mem_nil
    · have hpid := hpid call hcall
      cases call <;> simp_all [Retirement.pid?, isEarly, spawns, connects]

theorem isEarly_of_limits {call : Call} (h : FileLimit.concernsLimits call = true) :
    isEarly call = true := by
  cases call <;> simp_all [FileLimit.concernsLimits, isEarly, spawns, connects]

section Order

variable {query : Query} {patience : Patience} {plan : LaunchPlan} {host retired after : Host}
  {outcome : Retirement.Outcome}

/-- A launch after a retirement deals with nothing but the limits before it starts the executable. -/
theorem early_of_launch (retires : Retirement.run query patience host = .ok outcome retired)
    {prelude : List Call} (hprelude : ∀ call ∈ prelude, FileLimit.concernsLimits call = true) :
    ∃ early, (announced query outcome retired).calls.toList ++ prelude =
        host.calls.toList ++ early ∧ ∀ call ∈ early, isEarly call = true := by
  obtain ⟨more, hmore, hall⟩ :=
    early_of_retirement ((Retirement.run_dealings query patience host).of_ok retires)
  have htold : (announced query outcome retired).calls = retired.calls :=
    (said_alike ..).view Host.calls
  refine ⟨more ++ prelude, by rw [htold, hmore, List.append_assoc], fun call hcall => ?_⟩
  rcases List.mem_append.mp hcall with hcall | hcall
  · exact hall call hcall
  · exact isEarly_of_limits (hprelude call hcall)

/-- **A restart that came through started the executable once**, after every scan, signal and wait,
and before every connection. -/
theorem Came.calls {health : Option Probe} {report : Report}
    (h : Came query patience plan health host report after) :
    ∃ early late, after.calls.toList =
        host.calls.toList ++ early ++ [.spawn (command plan)] ++ late ∧
      (∀ call ∈ early, isEarly call = true) ∧ ∀ call ∈ late, call.incidental = true := by
  cases h with
  | probed retires launches probes =>
    obtain ⟨prelude, hprelude, hlimits⟩ := ((Launch.run_stages _ _).of_ok launches).calls
    obtain ⟨early, hearly, hall⟩ := early_of_launch retires hlimits
    obtain ⟨late, hlate, hincidental⟩ := ((probe_aside health _).of_ok probes).calls
    exact ⟨early, late, by rw [hlate, hprelude, hearly], hall, hincidental⟩

/-- A restart whose launch failed opened no connection, and at most tried in vain to start the
executable. -/
theorem failed_calls {f : Fault}
    (retires : Retirement.run query patience host = .ok outcome retired)
    (launches : Launch.run plan (announced query outcome retired) = .error f after) :
    ∃ early tried, after.calls.toList = host.calls.toList ++ early ++ tried ∧
      (∀ call ∈ early, isEarly call = true) ∧
      (tried = [] ∨ tried = [.spawn (command plan)] ∧
        ∃ cause, (announced query outcome retired).response (command plan) = .fails cause) := by
  obtain ⟨step, hstops⟩ := (Launch.run_stages _ _).of_error launches
  obtain ⟨prelude, tried, hcalls, hlimits, htried⟩ := hstops.calls
  obtain ⟨early, hearly, hall⟩ := early_of_launch retires hlimits
  exact ⟨early, tried, by rw [hcalls, hearly], hall, htried⟩

end Order

end Restart

/-! ## Genuine hosts -/

/-- What a list of pairs gives for a key stands in the list. -/
theorem mem_of_lookup {α β : Type} [BEq α] [LawfulBEq α] {pairs : List (α × β)} {key : α} {b : β}
    (h : pairs.lookup key = some b) : (key, b) ∈ pairs := by
  obtain ⟨before, after, rfl, -⟩ := List.lookup_eq_some_iff.mp h
  exact List.mem_append_right _ (List.mem_cons_self ..)

/-- Nothing that meets the process is a launch failure. -/
structure TableEntry.Genuine (process : TableEntry) : Prop where
  signals : ∀ met ∈ process.signalFaults, met.2.isLaunchFailure = false
  wait : ∀ f, process.waitFault = some f → f.isLaunchFailure = false

/-- Nothing that meets a process, one yet to join included, or an attempt to connect is a launch
failure. -/
structure Host.Genuine (host : Host) : Prop where
  processes : ∀ process ∈ host.processes, process.Genuine
  joining : ∀ change ∈ host.changes, ∀ process ∈ change.2.joining, process.Genuine
  connections : ∀ f, some f ∈ host.connections → f.isLaunchFailure = false

namespace Host.Genuine

variable {a b host : Host}

/-- A host stays genuine as long as no other processes join, and no other connections are due. -/
theorem of_parts (h : Genuine a)
    (processes : ∀ process ∈ b.processes, process ∈ a.processes ∨
      (∃ change ∈ a.changes, process ∈ change.2.joining) ∨ process.Genuine)
    (changes : b.changes = a.changes)
    (connections : ∀ met ∈ b.connections, met ∈ a.connections) : Genuine b where
  processes process hmem := by
    rcases processes process hmem with hmem | ⟨change, hchange, hmem⟩ | hgenuine
    · exact h.processes process hmem
    · exact h.joining change hchange process hmem
    · exact hgenuine
  joining := by
    rw [changes]
    exact h.joining
  connections f hmem := h.connections f (connections _ hmem)

/-- A host stays genuine as long as processes only leave. -/
theorem of_leaving (h : Genuine a) (processes : ∀ process ∈ b.processes, process ∈ a.processes)
    (changes : b.changes = a.changes) (connections : b.connections = a.connections) : Genuine b :=
  h.of_parts (fun process hmem => Or.inl (processes process hmem)) changes
    fun _ hmem => connections ▸ hmem

theorem of_alike (h : Genuine a) (alike : Alike b a) : Genuine b :=
  h.of_leaving (fun _ hmem => alike.view Host.processes ▸ hmem) (alike.view Host.changes)
    (alike.view Host.connections)

/-- What a scan lets in was genuine before. -/
theorem afterScan (h : Genuine host) : Genuine host.afterScan := by
  refine h.of_parts (fun process hmem => ?_) rfl fun _ hmem => hmem
  replace hmem : process ∈ host.dueTable := hmem
  unfold dueTable at hmem
  cases hdue : host.dueChange with
  | none =>
    rw [hdue] at hmem
    exact Or.inl hmem
  | some change =>
    rw [hdue] at hmem
    rcases List.mem_append.mp hmem with hstayed | hjoined
    · exact Or.inl (List.mem_filter.mp hstayed).1
    · exact Or.inr (Or.inl ⟨_, mem_of_lookup hdue, hjoined⟩)

/-- The processes that join with a scan are genuine as well. -/
theorem afterSearch (h : Genuine host) : Genuine (Discovery.afterSearch host) := by
  unfold Discovery.afterSearch
  split
  · exact h
  · exact h.afterScan

theorem parted (h : Genuine host) (pid : Int) (parting : Retirement.Parting) :
    Genuine (Retirement.parted host pid parting) := by
  refine h.of_leaving (fun process hmem => ?_) rfl rfl
  replace hmem : process ∈ if parting.leaves then _ else _ := hmem
  split at hmem
  · exact (List.mem_filter.mp hmem).1
  · exact hmem

end Host.Genuine

/-! ## Retirements on genuine hosts -/

namespace Retirement

open Relaunch.Discovery

variable {query : Query} {patience : Patience} {host last after : Host} {searches made : Nat}

theorem Fruitless.genuine {delay : Number} {n : Nat} (h : Fruitless query delay host n after)
    (genuine : host.Genuine) : after.Genuine := by
  induction h with
  | none host => exact genuine
  | @more host rested after n first rest ih =>
    obtain ⟨-, clock, -, halike⟩ := first.spec
    have hslept : ((afterSearch host).slept delay clock).Genuine :=
      genuine.afterSearch.of_leaving (fun _ hmem => hmem) rfl rfl
    exact ih (hslept.of_alike halike)

/-- What escapes from a parting has met the process. -/
theorem Escapes.genuine {process : TableEntry} {grace : Option Number} {f : Fault}
    (h : Escapes process grace f) (genuine : process.Genuine) : f.isLaunchFailure = false := by
  cases h with
  | kill met | ask met | force asked lives late met =>
    exact genuine.signals _ (mem_of_lookup met)
  | wait asked lives met => exact genuine.wait f met

theorem Concludes.genuine {outcome : Outcome}
    (h : Concludes query patience searches made last outcome after) (genuine : last.Genuine) :
    after.Genuine := by
  cases h with
  | exhausted nothing all left => exact genuine.afterSearch.of_alike left
  | retired chosen present caught left => exact (genuine.afterSearch.parted _ _).of_alike left

/-- The fault is one of the clock, or one that met the process which was dealt with. -/
theorem Breaks.genuine {f : Fault} (h : Breaks query patience searches made last f after)
    (genuine : last.Genuine) : f.isLaunchFailure = false := by
  cases h with
  | clock => rfl
  | parting chosen present met uncaught left =>
    have hescapes := escapes_iff.mpr ⟨met, uncaught⟩
    exact hescapes.genuine (genuine.afterSearch.processes _ (first?_mem present))

/-- **No retirement ends with a launch failure** on a genuine host, and the host stays genuine. -/
theorem retirement_genuine (query : Query) (patience : Patience) (genuine : host.Genuine) :
    Ends (run query patience) host (fun _ after => after.Genuine)
      (fun f _ => f.isLaunchFailure = false) := by
  rcases Nat.eq_zero_or_pos patience.searches with hnone | hsome
  · rw [Ends, run_of_no_search query patience host hnone]
    exact genuine
  · obtain ⟨made, last, -, earlier, hends⟩ := run_course query patience host hsome
    have hlast := earlier.genuine genuine
    exact hends.imp (fun _ _ h => h.genuine hlast) (fun _ _ h => h.genuine hlast)

end Retirement

/-! ## Probes on genuine hosts -/

variable {α β : Type}

/-- On genuine hosts the session raises no launch failure, and it leaves them genuine. -/
def Harmless (session : Session α) : Prop := ∀ host : Host, host.Genuine →
  Ends session host (fun _ after => after.Genuine)
    (fun f after => f.isLaunchFailure = false ∧ after.Genuine)

namespace Harmless

theorem pure (a : α) : Harmless (Pure.pure a) := fun _ genuine => genuine

theorem throw {f : Fault} (plain : f.isLaunchFailure = false) :
    Harmless (MonadExcept.throw f : Session α) := fun _ genuine => ⟨plain, genuine⟩

theorem bind {session : Session α} {next : α → Session β} (first : Harmless session)
    (second : ∀ a, Harmless (next a)) : Harmless (session >>= next) := by
  intro host genuine
  rw [ends_bind]
  exact (first host genuine).imp (fun a mid hmid => second a mid hmid) (fun _ _ h => h)

theorem get : Harmless (MonadState.get : Session Host) := fun _ genuine => genuine

theorem say (level : Level) (speaker message : String) :
    Harmless (Host.say level speaker message) := fun _ genuine => genuine.of_alike (said_alike ..)

/-- A step that concerns neither processes nor connections is harmless. -/
theorem note (call : Call) : Harmless (Host.note call) :=
  fun _ genuine => genuine.of_leaving (fun _ hmem => hmem) rfl rfl

/-- A clock that gets stuck raises a fault of its own. -/
theorem advance (seconds : Number) : Harmless (Host.advance seconds) := by
  intro host genuine
  rw [Host.advance, ends_bind, ends_get, ends_bind, sum]
  split
  · exact genuine.of_leaving (fun _ hmem => hmem) rfl rfl
  · exact ⟨rfl, genuine⟩

theorem readClock : Harmless Host.readClock :=
  get.bind fun host => (advance host.tick).bind fun _ => pure _

theorem sleep (seconds : Number) : Harmless (Host.sleep seconds) :=
  (note _).bind fun _ => advance seconds

/-- The fault that meets the attempt was due, and what was due is genuine. -/
theorem connect (target : String) (port : Int) (timeout : Number) :
    Harmless (Host.connect target port timeout) := by
  refine (note _).bind fun _ => get.bind fun host => (advance _).bind fun _ => ?_
  intro host genuine
  have hrest : Genuine { host with connections := host.connections.tail } :=
    genuine.of_parts (fun _ hmem => Or.inl hmem) rfl fun _ hmem => List.mem_of_mem_tail hmem
  rw [ends_bind, ends_get, ends_bind, ends_set, ends_meet]
  refine ⟨fun _ => hrest, fun f hmet => ⟨?_, hrest⟩⟩
  cases hconnections : host.connections with
  | nil =>
    rw [hconnections] at hmet
    obtain rfl : refused = f := by simpa using hmet
    rfl
  | cons met rest =>
    rw [hconnections] at hmet
    obtain rfl : met = some f := by simpa using hmet
    exact genuine.connections f (hconnections ▸ List.mem_cons_self ..)

theorem isOpen (target : String) (port : Int) (timeout : Number) :
    Harmless (Probe.isOpen target port timeout) := by
  intro host genuine
  rw [Probe.isOpen, ends_tryCatch]
  have hopened : Harmless (do Host.connect target port timeout; Host.close; Pure.pure true) :=
    (connect target port timeout).bind fun _ => (note _).bind fun _ => pure true
  refine (hopened host genuine).imp (fun _ _ h => h) (fun f after h => ?_)
  split
  · exact h.2
  · exact h

/-- By induction on the attempts that are left; running out of them is no launch failure either. -/
theorem poll (probe : Probe) (deadline : Number) : ∀ remaining,
    Harmless (probe.poll deadline remaining) := by
  intro remaining
  induction remaining with
  | zero => exact throw rfl
  | succ remaining ih =>
    refine (isOpen _ _ _).bind fun opened => ?_
    cases opened with
    | true => exact (say _ _ _).bind fun _ => pure _
    | false =>
      refine readClock.bind fun clock => ?_
      split
      · exact (say _ _ _).bind fun _ => pure _
      · exact (sleep _).bind fun _ => ih

end Harmless

namespace Restart

/-- **No probe ends with a launch failure** on a genuine host. -/
theorem probe_genuine (health : Option Probe) : Harmless (probe health) := by
  cases health with
  | none => exact .pure _
  | some probe =>
    refine Harmless.bind ?_ fun _ => .pure _
    refine Harmless.readClock.bind fun clock => Harmless.bind ?_ fun deadline =>
      Harmless.get.bind fun host => .poll probe deadline _
    intro host genuine
    rw [sum]
    split
    · exact genuine
    · exact ⟨rfl, genuine⟩

/-- A launch leaves a genuine host genuine: the process that it started meets nothing. -/
theorem launch_genuine {plan : LaunchPlan} {host launched : Host} {daemon : Daemon}
    (launches : Launch.run plan host = .ok daemon launched) (genuine : host.Genuine) :
    launched.Genuine := by
  have hdid := (launch_ends plan host).of_ok launches
  obtain ⟨output, exits, -, hprocesses⟩ := hdid.started
  refine genuine.of_parts (fun process hmem => ?_) (congrArg Givens.changes hdid.givens) ?_
  · rw [hprocesses] at hmem
    rcases List.mem_append.mp hmem with hmem | hmem
    · exact Or.inl hmem
    · refine Or.inr (Or.inr ?_)
      split at hmem
      · exact absurd hmem List.not_mem_nil
      · rw [List.mem_singleton.mp hmem]
        exact ⟨fun _ hmet => absurd hmet List.not_mem_nil, fun _ hmet => absurd hmet (by simp [started])⟩
  · have hsame := ((Launch.run_stages plan host).of_ok launches).connections
    intro met hmem
    exact hsame ▸ hmem

/-- **Only a launch fails to launch**: a launch failure that ends a restart on a genuine host comes from
its launch. -/
theorem Stopped.launch_failed {query : Query} {patience : Patience} {plan : LaunchPlan}
    {health : Option Probe} {host after : Host} {f : Fault}
    (h : Stopped query patience plan health host f after) (genuine : host.Genuine)
    (failed : f.isLaunchFailure = true) :
    ∃ outcome retired, Retirement.run query patience host = .ok outcome retired ∧
      Launch.run plan (announced query outcome retired) = .error f after := by
  cases h with
  | retiring retires =>
    have hplain := (Retirement.retirement_genuine query patience genuine).of_error retires
    exact absurd failed (by simp [hplain])
  | launching retires launches => exact ⟨_, _, retires, launches⟩
  | probing retires launches probes =>
    have hretired := (Retirement.retirement_genuine query patience genuine).of_ok retires
    -- The process that was started joined the table, so the probe runs on a genuine host as well.
    have hlaunched := launch_genuine launches (hretired.of_alike (said_alike ..))
    have hplain := ((probe_genuine health _ hlaunched).of_error probes).1
    exact absurd failed (by simp [hplain])

end Restart

end Relaunch
