/-
  When a failure stops a restart.

  A restart launches whatever came of the retirement, but it cannot launch if the retirement does not
  come to an outcome.  A failed search is a search that found nothing, and a signal that cannot be
  delivered is part of the outcome.  What is left is little, and here it is said exactly:

  * `Escapes`: the faults of a signal or of a wait that nobody catches.  A process that may not be
    touched is expected by a signal, but not by a wait; a table that cannot be used is expected by
    neither;
  * `Undeterred`: no such fault meets the process that would be parted from, and the clock can take
    every pause.  `run_returns_iff` says that this is just what it takes to come to an outcome;
  * `restart_launches_iff`: then, and only then, a restart goes on to its launch, which is the one
    launch it makes, and comes after the last search, signal and wait.
-/
import Relaunch.Proofs.Dealings
import Relaunch.Proofs.Launching

namespace Relaunch

open Relaunch.Host Relaunch.Discovery

namespace Retirement

/-! ## Faults that nobody catches -/

/-- Does the fault of a signal go on to the caller? -/
def escapesSignal (fault : Fault) : Bool :=
  !fault.isGone && !fault.isDenied && !fault.isSystemFault

/-- Does the fault of a wait go on to the caller? -/
def escapesWait (fault : Fault) : Bool :=
  !fault.isGone && !fault.isExpired && !fault.isSystemFault

/-- Parting from the process meets a fault that nobody catches. -/
inductive Escapes (process : TableEntry) : (grace : Option Number) → Fault → Prop
  | kill {f : Fault} (met : process.signalFaults.lookup killSignal = some f)
      (uncaught : escapesSignal f = true) : Escapes process none f
  | ask {grace : Number} {f : Fault} (met : process.signalFaults.lookup termSignal = some f)
      (uncaught : escapesSignal f = true) : Escapes process (some grace) f
  | wait {grace : Number} {f : Fault} (asked : process.signalFaults.lookup termSignal = none)
      (lives : ¬diesOn process termSignal = true) (met : process.waitFault = some f)
      (uncaught : escapesWait f = true) : Escapes process (some grace) f
  | force {grace : Number} {f : Fault} (asked : process.signalFaults.lookup termSignal = none)
      (lives : ¬diesOn process termSignal = true) (late : Overstays process grace)
      (met : process.signalFaults.lookup killSignal = some f)
      (uncaught : escapesSignal f = true) : Escapes process (some grace) f

theorem deliveryFault_escapes {pid : Int} {cause f : Fault} :
    deliveryFault pid cause = f ∧ f.isSystemFault = false ↔
      cause = f ∧ escapesSignal f = true := by
  constructor
  · rintro ⟨rfl, h⟩
    cases cause <;>
      simp_all [deliveryFault, escapesSignal, Fault.isGone, Fault.isDenied, Fault.isSystemFault]
  · rintro ⟨rfl, h⟩
    cases cause <;>
      simp_all [deliveryFault, escapesSignal, Fault.isGone, Fault.isDenied, Fault.isSystemFault]

theorem killing_escapes {process : TableEntry} {f : Fault} :
    (killing process).fault = some f ∧ f.isSystemFault = false ↔
      process.signalFaults.lookup killSignal = some f ∧ escapesSignal f = true := by
  unfold killing
  cases process.signalFaults.lookup killSignal with
  | none => simp
  | some cause => simp only [Option.some.injEq, deliveryFault_escapes]

theorem waiting_escapes {process : TableEntry} (grace : Number) {f : Fault} :
    waiting process grace = .error f ∧ f.isSystemFault = false ↔
      process.waitFault = some f ∧ escapesWait f = true := by
  unfold waiting escapesWait
  cases process.waitFault with
  | none => simp
  | some fault =>
    cases fault <;> cases f <;> simp [Fault.isGone, Fault.isExpired, Fault.isSystemFault]

/-- A fault escapes from a parting just if the parting is stopped by it and it is no system fault. -/
theorem escapes_iff {process : TableEntry} {grace : Option Number} {f : Fault} :
    Escapes process grace f ↔
      (parting process grace).fault = some f ∧ f.isSystemFault = false := by
  constructor
  · intro h
    cases h with
    | kill met uncaught => exact killing_escapes.mpr ⟨met, uncaught⟩
    | ask met uncaught =>
      simp only [parting, met, Option.some.injEq]
      exact deliveryFault_escapes.mpr ⟨rfl, uncaught⟩
    | @wait grace f asked lives met uncaught =>
      obtain ⟨hwait, hsystem⟩ := (waiting_escapes grace).mpr ⟨met, uncaught⟩
      rw [parting_of_waiting grace asked lives, hwait]
      exact ⟨rfl, hsystem⟩
    | force asked lives late met uncaught =>
      rw [parting_of_waiting _ asked lives, waiting_eq_false.mpr late]
      exact killing_escapes.mpr ⟨met, uncaught⟩
  · intro h
    cases grace with
    | none =>
      obtain ⟨met, uncaught⟩ := killing_escapes.mp h
      exact .kill met uncaught
    | some grace =>
      cases hasked : process.signalFaults.lookup termSignal with
      | some cause =>
        simp only [parting, hasked, Option.some.injEq] at h
        obtain ⟨rfl, uncaught⟩ := deliveryFault_escapes.mp h
        exact .ask hasked uncaught
      | none =>
        by_cases hdies : diesOn process termSignal = true
        · simp [parting, hasked, hdies] at h
        · rw [parting_of_waiting grace hasked hdies] at h
          cases hwait : waiting process grace with
          | error fault =>
            rw [hwait] at h
            obtain ⟨hfault, hsystem⟩ := h
            obtain rfl : fault = f := by simpa using hfault
            obtain ⟨met, uncaught⟩ := (waiting_escapes grace).mp ⟨hwait, hsystem⟩
            exact .wait hasked hdies met uncaught
          | ok gone =>
            rw [hwait] at h
            cases gone with
            | true => simp at h
            | false =>
              obtain ⟨met, uncaught⟩ := killing_escapes.mp h
              exact .force hasked hdies (waiting_eq_false.mp hwait) met uncaught

/-! ## Coming to an outcome -/

/-- Nothing stops the retirement: whichever search is the last one, the clock can take the pause that
follows it, and no fault escapes from the parting that it leads to. -/
def Undeterred (query : Query) (patience : Patience) (host : Host) : Prop :=
  ∀ made last, made < patience.searches → Fruitless query patience.delay host made last →
    (found query last = [] → made + 1 < patience.searches →
      last.clock.add? patience.delay ≠ none) ∧
    ∀ target process f, Handle.least? (found query last) = some target →
      (afterSearch last).first? target.pid = some process → ¬Escapes process patience.grace f

section Outcome

variable {query : Query} {patience : Patience} {host last after : Host} {made : Nat}

theorem Breaks.not_undeterred {f : Fault} (hmade : made < patience.searches)
    (earlier : Fruitless query patience.delay host made last)
    (h : Breaks query patience patience.searches made last f after) :
    ¬Undeterred query patience host := by
  intro hall
  obtain ⟨hclock, hescapes⟩ := hall made last hmade earlier
  cases h with
  | clock nothing more stuck left => exact hclock nothing more stuck
  | parting chosen present met uncaught left =>
    exact hescapes _ _ f chosen present (escapes_iff.mpr ⟨met, uncaught⟩)

/-- What concludes a retirement leaves no search that could have stopped it: those before the last one
were in vain, and there are none after it. -/
theorem Concludes.undeterred {outcome : Outcome}
    (earlier : Fruitless query patience.delay host made last)
    (h : Concludes query patience patience.searches made last outcome after) :
    Undeterred query patience host := by
  intro made' last' hmade' earlier'
  rcases Nat.lt_trichotomy made' made with hlt | rfl | hgt
  · -- The searches went on from there, so it found nothing and the clock took the pause.
    obtain ⟨rested, hvain⟩ := earlier'.goesOn earlier hlt
    obtain ⟨hnothing, clock, hadd, -⟩ := hvain.spec
    exact ⟨fun _ _ => by simp [hadd], fun target process f chosen =>
      absurd hnothing (Handle.ne_nil_of_least? chosen)⟩
  · -- It is the last search itself.
    obtain rfl := earlier.unique earlier'
    cases h with
    | exhausted nothing all left =>
      exact ⟨fun _ hmore => by omega, fun target process f chosen =>
        absurd nothing (Handle.ne_nil_of_least? chosen)⟩
    | retired chosen present caught left =>
      refine ⟨fun hnothing => ?_, fun target' process' f chosen' present' hescapes => ?_⟩
      · exact absurd hnothing (Handle.ne_nil_of_least? chosen)
      · rw [chosen, Option.some.injEq] at chosen'
        subst chosen'
        rw [present, Option.some.injEq] at present'
        subst present'
        obtain ⟨hmet, huncaught⟩ := escapes_iff.mp hescapes
        exact absurd (caught f hmet) (by simp [huncaught])
  · -- There is no such search: the last one would have been in vain.
    obtain ⟨rested, hvain⟩ := earlier.goesOn earlier' hgt
    have hnothing := hvain.spec.1
    cases h with
    | exhausted nothing all left => omega
    | retired chosen present caught left =>
      exact absurd hnothing (Handle.ne_nil_of_least? chosen)

end Outcome

/-- A retirement comes to an outcome just if nothing stops it. -/
theorem run_returns_iff (query : Query) (patience : Patience) (host : Host) :
    (∃ outcome after, run query patience host = .ok outcome after) ↔
      Undeterred query patience host := by
  rcases Nat.eq_zero_or_pos patience.searches with hnone | hsome
  · constructor
    · intro _ made last hmade
      omega
    · intro _
      exact ⟨_, host, run_of_no_search query patience host hnone⟩
  · obtain ⟨made, last, hmade, earlier, hends⟩ := run_course query patience host hsome
    rcases hends.cases with ⟨outcome, after, hrun, hconcludes⟩ | ⟨f, after, hrun, hbreaks⟩
    · exact ⟨fun _ => hconcludes.undeterred earlier, fun _ => ⟨outcome, after, hrun⟩⟩
    · constructor
      · rintro ⟨outcome, other, hreturned⟩
        rw [hrun] at hreturned
        exact absurd hreturned (by simp)
      · intro hall
        exact absurd hall (hbreaks.not_undeterred hmade earlier)

end Retirement

/-! ## Restarts -/

namespace Restart

open Relaunch.Retirement Relaunch.Launch

/-- From `before` to `after` one launch took place, and neither a scan, nor a signal, nor a wait. -/
inductive LaunchesOnce (plan : LaunchPlan) (before : Host) : Host → Prop
  | launched {told launched after : Host} {daemon : Daemon} (alike : Alike told before)
      (ran : Launch.run plan told = .ok daemon launched)
      (calls : ∃ prelude rest, after.calls.toList =
          before.calls.toList ++ prelude ++ [.spawn (command plan)] ++ rest ∧
        ∀ call ∈ prelude ++ rest, call.incidental = true) :
      LaunchesOnce plan before after
  | failed {told after : Host} {f : Fault} (alike : Alike told before)
      (ran : Launch.run plan told = .error f after)
      (calls : ∃ prelude tried, after.calls.toList = before.calls.toList ++ prelude ++ tried ∧
        (∀ call ∈ prelude, call.incidental = true) ∧
        (tried = [] ∨ tried = [.spawn (command plan)])) :
      LaunchesOnce plan before after

/-- Does the dealing start an executable? -/
def spawns : Call → Bool
  | .spawn _ => true
  | _ => false

/-- From `before` to `after` nothing was launched. -/
def LaunchesNothing (before after : Host) : Prop :=
  ∃ more, after.calls.toList = before.calls.toList ++ more ∧ ∀ call ∈ more, spawns call = false

/-- A retirement launches nothing. -/
theorem launchesNothing_of_dealings {host after : Host} (h : Dealings host after) :
    LaunchesNothing host after := by
  obtain ⟨searching, farewell, hcalls, hsearching, hfarewell⟩ := h.calls
  refine ⟨searching ++ farewell, by rw [hcalls, List.append_assoc], fun call hcall => ?_⟩
  rcases List.mem_append.mp hcall with hcall | hcall
  · rcases hsearching call hcall with rfl | ⟨seconds, rfl⟩
    · rfl
    · rfl
  · rcases hfarewell with rfl | ⟨pid, -, hpid⟩
    · exact absurd hcall List.not_mem_nil
    · have hpid := hpid call hcall
      cases call <;> simp_all [pid?, spawns]

/-- The rest of a restart is one launch, and then at most work aside. -/
theorem launchesOnce_of_finishes {plan : LaunchPlan} {told retired after : Host}
    {daemon? : Option Daemon} (alike : Alike told retired) (h : Finishes plan told daemon? after) :
    LaunchesOnce plan retired after := by
  have htold : told.calls = retired.calls := alike.view Host.calls
  cases h with
  | launched ran did aside =>
    obtain ⟨prelude, hprelude, hincidental⟩ := did.calls
    obtain ⟨rest, hrest, hall⟩ := aside.calls
    refine .launched alike ran ⟨prelude, rest, by rw [hrest, hprelude, htold], fun call hcall => ?_⟩
    rcases List.mem_append.mp hcall with hcall | hcall
    · exact hincidental call hcall
    · exact hall call hcall
  | failed ran did => exact .failed alike ran (htold ▸ did.calls)

/-- **A restart launches once, unless the retirement is stopped**, and then it launches nothing. -/
theorem restart_launches_iff (query : Query) (patience : Patience) (plan : LaunchPlan)
    (health : Option Probe) (host : Host) :
    (Undeterred query patience host → ∃ outcome retired,
      Retirement.run query patience host = .ok outcome retired ∧ LaunchesNothing host retired ∧
      Ends (run query patience plan health) host
        (fun report after => report.retirement = outcome ∧ LaunchesOnce plan retired after)
        (fun _ after => LaunchesOnce plan retired after)) ∧
    (¬Undeterred query patience host → ∃ f retired,
      Retirement.run query patience host = .error f retired ∧ LaunchesNothing host retired ∧
      run query patience plan health host = .error f retired) := by
  have hrun := run_eq query patience plan health host
  rw [← run_returns_iff]
  rcases (run_dealings query patience host).cases with
    ⟨outcome, retired, hended, hdealings⟩ | ⟨f, retired, hended, hdealings⟩
  · rw [hended] at hrun
    refine ⟨fun _ => ⟨outcome, retired, hended, launchesNothing_of_dealings hdealings, ?_⟩,
      fun hnot => absurd ⟨outcome, retired, hended⟩ hnot⟩
    have htold : Alike (announced query outcome retired) retired := said_alike ..
    rw [Ends, hrun]
    refine (finish_ends plan health outcome _).imp (fun report after h => ?_) (fun f after h => ?_)
    · exact ⟨h.1, launchesOnce_of_finishes htold h.2⟩
    · obtain ⟨daemon?, hfinishes⟩ := h
      exact launchesOnce_of_finishes htold hfinishes
  · rw [hended] at hrun
    refine ⟨fun h => ?_, fun _ => ⟨f, retired, hended, launchesNothing_of_dealings hdealings, hrun⟩⟩
    obtain ⟨outcome, after, hreturned⟩ := h
    rw [hended] at hreturned
    exact absurd hreturned (by simp)

/-- A host with an instance that does not end when asked to, and may not be waited for. -/
def guardedHost : Host where
  processes := [{ pid := 7, commandLine := some ["svc"], onTerm := .ignores,
                  waitFault := some (.denied (some 7) "" "") }]

/-- A process fault meets the wait for an instance that was asked to end.  Nothing is launched. -/
theorem restart_stopped_by_wait :
    Ends (run sampleQuery { attempts := 1, grace := some 5 }
        { executable := "/bin/svc", directory := ⟨.slash, ["srv"]⟩ } none) guardedHost
      (fun _ _ => False)
      (fun f after => f.isProcessFault = true ∧
        after.calls.toList.filterMap pid? = [7, 7] ∧
        ∀ call ∈ after.calls.toList, spawns call = false) := by
  refine (Ends.of_raised? (fun f after => (f.isProcessFault, after.calls.toList.filterMap pid?,
    after.calls.toList.all fun call => !spawns call)) (true, [7, 7], true)
    (by decide +kernel)).imp (fun _ _ h => h) (fun f after h => ?_)
  obtain ⟨hfault, hpids, hnone⟩ : _ ∧ _ ∧ _ := by simpa only [Prod.mk.injEq] using h
  exact ⟨hfault, hpids, by simpa using List.all_eq_true.mp hnone⟩

end Restart

end Relaunch
