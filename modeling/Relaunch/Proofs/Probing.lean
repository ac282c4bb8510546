/-
  How long a probe goes on.

  A probe knocks until it is answered or the clock has reached the deadline.  Its course is a number of
  knocks that are not answered in time (`Unanswered`) and one more that settles it (`Settles`), with the
  steps of the program itself:

  * `poll_course`: there is nothing else to a probe, and the bound on its attempts plays no part as
    long as it is not reached;
  * `unanswered_lingered`: on a clock of integers, what so many knocks come to can be computed;
  * `run_metered`: such a clock bounds the number of attempts, and decides the answer.
-/
import Relaunch.Probe
import Relaunch.Proofs.Order
import Relaunch.Proofs.Steps
import Mathlib.Order.Bounds.Basic
import Mathlib.Tactic.Linarith

namespace Relaunch.Probe

open Relaunch.Host

/-! ## The course of a probe -/

section Course

variable (probe : Probe) (deadline : Number)

/-- A knock that nobody answers, a reading of the clock that is still before the deadline, and a rest. -/
def KnocksInVain (host rested : Host) : Prop :=
  ∃ knocked reading read, isOpen probe.host probe.port connectTimeout host = .ok false knocked ∧
    readClock knocked = .ok reading read ∧ deadline.atMost reading = false ∧
    Host.sleep probe.interval read = .ok () rested

/-- `Unanswered probe deadline host n last`: on `host`, `n` knocks in a row are in vain, and that leads
to `last`. -/
inductive Unanswered (host : Host) : Nat → Host → Prop
  | none : Unanswered host 0 host
  | more {n : Nat} {last rested : Host} (earlier : Unanswered host n last)
      (next : KnocksInVain probe deadline last rested) : Unanswered host (n + 1) rested

/-- How the last knock settles the matter. -/
inductive Settles (last : Host) : Bool → Host → Prop
  /-- It is answered. -/
  | answered {opened : Host}
      (opens : isOpen probe.host probe.port connectTimeout last = .ok true opened) :
      Settles last true
        (said .info speaker ("Service is accepting connections on " ++ probe.address) opened)
  /-- It is not, and the clock has reached the deadline. -/
  | late {knocked read : Host} {reading : Number}
      (knocks : isOpen probe.host probe.port connectTimeout last = .ok false knocked)
      (reads : readClock knocked = .ok reading read) (past : deadline.atMost reading = true) :
      Settles last false
        (said .warning speaker ("Service not accepting connections on " ++ probe.address ++ " after "
          ++ probe.timeout.text ++ "s") read)

variable {probe deadline} {host last rested after : Host} {answer : Bool}

theorem poll_eq_of_vain (h : KnocksInVain probe deadline last rested) (remaining : Nat) :
    probe.poll deadline (remaining + 1) last = probe.poll deadline remaining rested := by
  obtain ⟨knocked, reading, read, hknock, hread, hearly, hrest⟩ := h
  simp only [poll, bind_of_ok hknock, Bool.false_eq_true, if_false, bind_of_ok hread, hearly,
    bind_of_ok hrest]

theorem poll_eq_of_unanswered {n : Nat} (h : Unanswered probe deadline host n last) :
    ∀ remaining, probe.poll deadline (n + remaining) host = probe.poll deadline remaining last := by
  induction h with
  | none => exact fun remaining => by rw [Nat.zero_add]
  | more earlier next ih =>
    intro remaining
    rw [Nat.add_assoc, Nat.add_comm 1, ih, poll_eq_of_vain next]

theorem poll_of_settles (h : Settles probe deadline last answer after) (remaining : Nat) :
    probe.poll deadline (remaining + 1) last = .ok answer after := by
  cases h with
  | answered opens =>
    rw [poll, bind_of_ok opens]
    rfl
  | late knocks reads past =>
    simp only [poll, bind_of_ok knocks, Bool.false_eq_true, if_false, bind_of_ok reads, past]
    rfl

/-- **The course of a probe**: knocks in vain, and one that settles it, whatever the bound on their
number is. -/
theorem poll_course {n limit : Nat} (earlier : Unanswered probe deadline host n last)
    (settled : Settles probe deadline last answer after) (allowed : n < limit) :
    probe.poll deadline limit host = .ok answer after := by
  obtain ⟨remaining, rfl⟩ : ∃ remaining, limit = n + (remaining + 1) := ⟨limit - n - 1, by omega⟩
  rw [poll_eq_of_unanswered earlier, poll_of_settles settled]

end Course

/-! ## One knock -/

/-- The dealing of a knock. -/
def knock (probe : Probe) : Call := .connect probe.host probe.port connectTimeout

/-- The host after a knock that took its clock to `clock`. -/
def knocked (probe : Probe) (host : Host) (clock : Number) : Host :=
  { host with
    calls := host.calls.push probe.knock, clock, connections := host.connections.tail }

section Steps

variable (probe : Probe) {host : Host} {clock : Number}

theorem advance_eq {seconds : Number} (goes : host.clock.add? seconds = some clock) :
    advance seconds host = .ok () { host with clock } := by
  have hsum : sum host.clock seconds host = .ok clock host := by
    rw [sum, goes]
    rfl
  exact bind_of_ok hsum

theorem readClock_eq (goes : host.clock.add? host.tick = some clock) :
    readClock host = .ok host.clock { host with clock } :=
  bind_of_ok (advance_eq goes)

theorem sleep_eq {seconds : Number} (goes : host.clock.add? seconds = some clock) :
    Host.sleep seconds host = .ok () (host.slept seconds clock) := by
  have hgoes : (host.noted (.sleep seconds)).clock.add? seconds = some clock := goes
  exact advance_eq hgoes

theorem connect_eq (goes : host.clock.add? host.connectCost = some clock) :
    connect probe.host probe.port connectTimeout host =
      match host.connections.head?.getD (some refused) with
      | none => .ok () (probe.knocked host clock)
      | some fault => .error fault (probe.knocked host clock) := by
  have hgoes : advance host.connectCost (host.noted probe.knock) =
      .ok () { host.noted probe.knock with clock } := advance_eq goes
  rw [connect]
  show (advance host.connectCost >>= fun _ => _) (host.noted probe.knock) = _
  rw [bind_of_ok hgoes]
  show meet (host.connections.head?.getD (some refused)) (probe.knocked host clock) = _
  cases host.connections.head?.getD (some refused) <;> rfl

theorem isOpen_of_answered (goes : host.clock.add? host.connectCost = some clock)
    (answered : host.connections.head? = some none) :
    isOpen probe.host probe.port connectTimeout host =
      .ok true ((probe.knocked host clock).noted .close) := by
  have hconnect := connect_eq probe goes
  rw [answered] at hconnect
  refine tryCatch_of_ok ?_ _
  rw [bind_of_ok hconnect]
  rfl

theorem isOpen_of_refused (goes : host.clock.add? host.connectCost = some clock)
    (refusals : ∀ f, some f ∈ host.connections → f.isSystemFault = true)
    (unanswered : host.connections.head? ≠ some none) :
    isOpen probe.host probe.port connectTimeout host = .ok false (probe.knocked host clock) := by
  obtain ⟨f, hmet, hsystem⟩ : ∃ f, host.connections.head?.getD (some refused) = some f ∧
      f.isSystemFault = true := by
    cases hhead : host.connections.head? with
    | none => exact ⟨refused, rfl, rfl⟩
    | some met =>
      cases met with
      | none => exact absurd hhead unanswered
      | some f => exact ⟨f, rfl, refusals f (List.mem_of_head? hhead)⟩
  have hconnect := connect_eq probe goes
  rw [hmet] at hconnect
  rw [isOpen, tryCatch_of_error (bind_of_error hconnect), if_pos hsystem]
  rfl

end Steps

/-! ## Clocks of integers -/

/-- What a probe on a clock of integers goes by: the reading that it starts from, what a reading and a
knock take, the time between two knocks, and the time that it has. -/
structure Times where
  start : Int
  tick : Int
  cost : Int
  interval : Int
  timeout : Int

namespace Times

/-- The reading at which the probe gives up. -/
def deadline (times : Times) : Int := times.start + times.timeout

/-- What a knock takes with the reading and the rest that follow it. -/
def round (times : Times) : Int := times.tick + times.interval + times.cost

/-- Are so many attempts all that there is time for? -/
def Enough (times : Times) (attempts : Nat) : Prop :=
  1 ≤ attempts ∧ times.timeout ≤ times.tick + times.cost + ((attempts : Int) - 1) * times.round

/-- A clock that moves at all leaves time for so many attempts and no more. -/
theorem exists_least_enough {times : Times} (moves : 0 < times.round) :
    ∃ most, IsLeast {attempts | times.Enough attempts} most := by
  have hsome : ∃ attempts, times.Enough attempts := by
    refine ⟨(times.timeout - times.tick - times.cost).toNat + 1, Nat.succ_pos _, ?_⟩
    have hround := le_mul_of_one_le_right
      (Int.natCast_nonneg (times.timeout - times.tick - times.cost).toNat) moves
    rw [Nat.cast_succ, add_sub_cancel_right]
    omega
  classical
  exact ⟨Nat.find hsome, Nat.find_spec hsome, fun _ h => Nat.find_min' hsome h⟩

end Times

/-- The clock of the host and the times of the probe are these integers. -/
structure Metered (probe : Probe) (host : Host) (times : Times) : Prop where
  start : host.clock = .int times.start
  tick : host.tick = .int times.tick
  cost : host.connectCost = .int times.cost
  interval : probe.interval = .int times.interval
  timeout : probe.timeout = .int times.timeout

/-- The dealings of so many attempts: a knock each, and a rest between every two. -/
def attempts (probe : Probe) : Nat → List Call
  | 0 => []
  | n + 1 => (List.replicate n [probe.knock, .sleep probe.interval]).flatten ++ [probe.knock]

/-- Is the attempt of that number answered? -/
def Answers (host : Host) (number : Nat) : Prop :=
  1 ≤ number ∧ host.connections[number - 1]? = some none

/-- The host after `n` knocks in vain that took its clock to `clock`. -/
def lingered (probe : Probe) (host : Host) (n : Nat) (clock : Int) : Host :=
  { host with
    clock := .int clock
    connections := host.connections.drop n
    calls := host.calls ++ (List.replicate n [probe.knock, .sleep probe.interval]).flatten }

section Metered

variable {probe : Probe} {host : Host} {times : Times} (metered : Metered probe host times)
  (refusals : ∀ f, some f ∈ host.connections → f.isSystemFault = true)

/-- A knock and a rest more. -/
theorem lingered_succ (n : Nat) (before clock : Int) (reading : Number) :
    (probe.knocked (lingered probe host n before) reading).slept probe.interval (.int clock) =
      lingered probe host (n + 1) clock := by
  have hcalls : ((host.calls ++ (List.replicate n [probe.knock, .sleep probe.interval]).flatten).push
      probe.knock).push (.sleep probe.interval) =
        host.calls ++ (List.replicate (n + 1) [probe.knock, .sleep probe.interval]).flatten := by
    rw [← Array.toList_inj]
    simp [List.replicate_succ']
  simp only [slept, knocked, lingered, List.tail_drop, hcalls]

include metered in
theorem goes_lingered (n : Nat) (clock : Int) :
    (lingered probe host n clock).clock.add? (lingered probe host n clock).connectCost =
      some (.int (clock + times.cost)) := by
  rw [show (lingered probe host n clock).connectCost = .int times.cost from metered.cost]
  rfl

include metered in
theorem readClock_knocked (n : Nat) (clock : Int) :
    readClock (probe.knocked (lingered probe host n clock) (.int (clock + times.cost))) =
      .ok (.int (clock + times.cost)) (probe.knocked (lingered probe host n clock)
        (.int (clock + times.cost + times.tick))) := by
  refine readClock_eq ?_
  rw [show (probe.knocked (lingered probe host n clock) _).tick = .int times.tick from metered.tick]
  rfl

include metered refusals in
theorem isOpen_lingered {n : Nat} (clock : Int) (unanswered : host.connections[n]? ≠ some none) :
    isOpen probe.host probe.port connectTimeout (lingered probe host n clock) =
      .ok false (probe.knocked (lingered probe host n clock) (.int (clock + times.cost))) :=
  isOpen_of_refused probe (goes_lingered metered n clock)
    (fun f hmem => refusals f (List.mem_of_mem_drop hmem)) (by rwa [← List.head?_drop] at unanswered)

include metered refusals in
/-- One more knock in vain. -/
theorem knocksInVain_lingered {n : Nat} {clock : Int}
    (unanswered : host.connections[n]? ≠ some none)
    (early : clock + times.cost < times.deadline) :
    KnocksInVain probe (.int times.deadline) (lingered probe host n clock)
      (lingered probe host (n + 1) (clock + times.round)) := by
  have hearly : (Number.int times.deadline).atMost (.int (clock + times.cost)) = false :=
    eq_false_of_ne_true fun h => absurd (Number.atMost_int.mp h) (by omega)
  refine ⟨_, _, _, isOpen_lingered metered refusals clock unanswered,
    readClock_knocked metered n clock, hearly, ?_⟩
  have hround : clock + times.round = clock + times.cost + times.tick + times.interval := by
    rw [Times.round]
    omega
  rw [hround, ← lingered_succ n clock _ (.int (clock + times.cost + times.tick))]
  exact sleep_eq (by rw [metered.interval]; rfl)

include metered refusals in
/-- Knocks are in vain as long as nobody answers them and there is time. -/
theorem unanswered_lingered (clock : Int) : ∀ n : Nat,
    (∀ i < n, host.connections[i]? ≠ some none ∧
      clock + i * times.round + times.cost < times.deadline) →
    Unanswered probe (.int times.deadline) (lingered probe host 0 clock) n
      (lingered probe host n (clock + n * times.round)) := by
  intro n
  induction n with
  | zero =>
    intro _
    rw [Nat.cast_zero, zero_mul, add_zero]
    exact .none
  | succ n ih =>
    intro hall
    obtain ⟨hunanswered, hearly⟩ := hall n (Nat.lt_succ_self n)
    have hclock : clock + (n + 1 : Nat) * times.round = clock + n * times.round + times.round := by
      rw [Nat.cast_succ, add_mul, one_mul, add_assoc]
    rw [hclock]
    exact .more (ih fun i hlt => hall i (Nat.lt_succ_of_lt hlt))
      (knocksInVain_lingered metered refusals hunanswered hearly)

include metered in
/-- The first reading sets the deadline. -/
theorem run_eq_poll : probe.run host =
    probe.poll (.int times.deadline) host.probeLimit
      (lingered probe host 0 (times.start + times.tick)) := by
  have hread : readClock host =
      .ok host.clock (lingered probe host 0 (times.start + times.tick)) := by
    have hgoes : host.clock.add? host.tick = some (.int (times.start + times.tick)) := by
      rw [metered.start, metered.tick]
      rfl
    rw [readClock_eq hgoes]
    simp [lingered]
  have hsum : sum host.clock probe.timeout (lingered probe host 0 (times.start + times.tick)) =
      .ok (.int times.deadline) (lingered probe host 0 (times.start + times.tick)) := by
    rw [metered.start, metered.timeout]
    rfl
  rw [run, bind_of_ok hread, bind_of_ok hsum]
  rfl

end Metered

/-! ## The outcome of a probe -/

/-- What comes of a probe on `host` that has time for `most` attempts. -/
structure Probed (probe : Probe) (host : Host) (times : Times) (most : Nat) (answer : Bool)
    (after : Host) : Prop where
  /-- It is answered just if one of these attempts is. -/
  answer_iff : answer = true ↔ ∃ number ≤ most, Answers host number
  /-- If it is, then it stops at the first one that is answered, and closes that connection. -/
  answered : answer = true → ∃ first, IsLeast {number | Answers host number} first ∧
    after.calls.toList = host.calls.toList ++ attempts probe first ++ [.close]
  /-- If it is not, then it makes all of them. -/
  unanswered : answer = false → after.calls.toList = host.calls.toList ++ attempts probe most
  /-- Then it ends with a reading of the deadline or of what is past it, by less than a round if
  there was an attempt before. -/
  late : answer = false → ∃ reading before read,
    readClock before = .ok (.int reading) read ∧ Alike after read ∧ times.deadline ≤ reading ∧
      (1 < most → reading < times.deadline + times.round)

section Outcome

variable {probe : Probe} {host : Host} {times : Times} {most limit n : Nat}
  (metered : Metered probe host times)
  (refusals : ∀ f, some f ∈ host.connections → f.isSystemFault = true)
  (least : IsLeast {number | times.Enough number} most)

include least in
theorem early_of_least {i : Nat} (h : i + 1 < most) :
    times.start + times.tick + i * times.round + times.cost < times.deadline := by
  by_contra hlate
  have henough : times.Enough (i + 1) := by
    refine ⟨Nat.succ_pos i, ?_⟩
    rw [Nat.cast_succ, add_sub_cancel_right]
    unfold Times.deadline at hlate
    omega
  have := least.2 henough
  omega

include metered refusals least in
theorem poll_answered (within : n < most)
    (unanswered : ∀ i < n, host.connections[i]? ≠ some none)
    (answered : host.connections[n]? = some none) (allowed : n < limit) :
    ∃ after, probe.poll (.int times.deadline) limit
        (lingered probe host 0 (times.start + times.tick)) = .ok true after ∧
      Probed probe host times most true after := by
  have hearlier := unanswered_lingered metered refusals (times.start + times.tick) n
    fun i hlt => ⟨unanswered i hlt, early_of_least least (by omega)⟩
  have hopens := isOpen_of_answered probe
    (goes_lingered metered n (times.start + times.tick + n * times.round))
    (by rw [← answered]; exact List.head?_drop)
  refine ⟨_, poll_course hearlier (.answered hopens) allowed, ?_⟩
  have hanswers : Answers host (n + 1) := ⟨Nat.succ_pos n, answered⟩
  refine ⟨iff_of_true rfl ⟨n + 1, within, hanswers⟩, fun _ => ⟨n + 1, ⟨hanswers, ?_⟩, ?_⟩, ?_, ?_⟩
  · rintro number ⟨hpos, hnumber⟩
    by_contra hlt
    exact unanswered (number - 1) (by omega) hnumber
  · rw [(said_alike ..).view Host.calls]
    simp [noted, knocked, lingered, attempts]
  · exact fun h => absurd h (by simp)
  · exact fun h => absurd h (by simp)

include metered refusals least in
theorem poll_unanswered (unanswered : ∀ i < most, host.connections[i]? ≠ some none)
    (allowed : most ≤ limit) :
    ∃ after, probe.poll (.int times.deadline) limit
        (lingered probe host 0 (times.start + times.tick)) = .ok false after ∧
      Probed probe host times most false after := by
  obtain ⟨hpos, henough⟩ := least.1
  obtain ⟨n, rfl⟩ : ∃ n, most = n + 1 := ⟨most - 1, by omega⟩
  rw [Nat.cast_succ, add_sub_cancel_right] at henough
  have hearlier := unanswered_lingered metered refusals (times.start + times.tick) n
    fun i hlt => ⟨unanswered i (by omega), early_of_least least (by omega)⟩
  have hread := readClock_knocked metered n (times.start + times.tick + n * times.round)
  have hpast : times.deadline ≤
      times.start + times.tick + n * times.round + times.cost := by
    rw [Times.deadline]
    omega
  refine ⟨_, poll_course hearlier (.late (isOpen_lingered metered refusals _ (unanswered n (by omega)))
    hread (Number.atMost_int.mpr hpast)) allowed, ?_⟩
  refine ⟨iff_of_false Bool.false_ne_true ?_, fun h => absurd h (by simp), fun _ => ?_, fun _ => ?_⟩
  · rintro ⟨number, hle, hpos, hanswered⟩
    exact unanswered (number - 1) (by omega) hanswered
  · rw [(said_alike ..).view Host.calls]
    simp [knocked, lingered, attempts]
  · refine ⟨_, _, _, hread, said_alike .., hpast, fun hmore => ?_⟩
    -- The attempt before was early, and the reading after it came a round before this one.
    have hbefore := early_of_least least (i := n - 1) (by omega)
    rw [Nat.cast_pred (by omega), sub_mul, one_mul] at hbefore
    omega

end Outcome

/-- **A probe on a clock of integers comes to an end**, and the clock alone bounds its attempts. -/
theorem run_metered (probe : Probe) (host : Host) (times : Times)
    (metered : Metered probe host times) (moves : 0 < times.round)
    (refusals : ∀ f, some f ∈ host.connections → f.isSystemFault = true) :
    ∃ most, IsLeast {number | times.Enough number} most ∧ ∀ limit ≥ most, ∃ answer after,
      probe.run { host with probeLimit := limit } = .ok answer after ∧
        Probed probe host times most answer after := by
  obtain ⟨most, hleast⟩ := Times.exists_least_enough moves
  refine ⟨most, hleast, fun limit hlimit => ?_⟩
  have hmetered : Metered probe { host with probeLimit := limit } times := { metered with }
  rw [run_eq_poll hmetered]
  by_cases hanswered : ∃ i, i < most ∧ host.connections[i]? = some none
  · -- The first answer comes no later than this one.
    obtain ⟨i, hlt, hi⟩ := hanswered
    classical
    have hsome : ∃ i, host.connections[i]? = some none := ⟨i, hi⟩
    have hwithin : Nat.find hsome < most := lt_of_le_of_lt (Nat.find_min' hsome hi) hlt
    obtain ⟨after, hran, hprobed⟩ := poll_answered hmetered refusals hleast hwithin
      (fun i hlt => Nat.find_min hsome hlt) (Nat.find_spec hsome) (lt_of_lt_of_le hwithin hlimit)
    exact ⟨true, after, hran, { hprobed with }⟩
  · obtain ⟨after, hran, hprobed⟩ := poll_unanswered hmetered refusals hleast
      (fun i hlt hi => hanswered ⟨i, hlt, hi⟩) hlimit
    exact ⟨false, after, hran, { hprobed with }⟩

/-- A probe that has six seconds and rests two. -/
def hastyProbe : Probe := { port := 80, timeout := 6, interval := 2 }

/-- A host on which a knock and a reading take a second each.  It would answer the third knock, but the
second reading is of the deadline. -/
def sluggishHost : Host where
  connections := [some refused, some refused, none]
  clock := 0
  tick := 1
  connectCost := 1

theorem run_metered_sluggish :
    Ends (run hastyProbe) sluggishHost
      (fun answer after => answer = false ∧ after.calls.toList =
        [hastyProbe.knock, .sleep 2, hastyProbe.knock]) (fun _ _ => False) := by
  have hrefusals : ∀ f, some f ∈ sluggishHost.connections → f.isSystemFault = true := by
    intro f hmem
    have hf : f = refused := by simpa [sluggishHost] using hmem
    rw [hf]
    rfl
  obtain ⟨most, hleast, hends⟩ :=
    run_metered hastyProbe sluggishHost ⟨0, 1, 1, 2, 6⟩ ⟨rfl, rfl, rfl, rfl, rfl⟩ (by decide) hrefusals
  obtain rfl : most = 2 := by
    refine hleast.unique ⟨⟨by decide, by decide⟩, fun number henough => ?_⟩
    obtain ⟨hpos, htime⟩ := henough
    simp only [Times.round] at htime
    omega
  obtain ⟨answer, after, hran, hprobed⟩ := hends 10000000 (by decide)
  have hanswer : answer = false := by
    refine eq_false_of_ne_true fun htrue => ?_
    obtain ⟨number, hle, hpos, hanswers⟩ := hprobed.answer_iff.mp htrue
    have hnumber : number = 1 ∨ number = 2 := by omega
    rcases hnumber with rfl | rfl <;> simp [sluggishHost, refused] at hanswers
  have hran' : run hastyProbe sluggishHost = .ok answer after := hran
  rw [Ends, hran']
  exact ⟨hanswer, hprobed.unanswered hanswer⟩

end Relaunch.Probe
