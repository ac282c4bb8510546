/-
  Whether a probe ever gives up.

  Nothing bounds the attempts of a probe but the clock, so that it gives up at all depends on the
  clock, on the time that the probe has, and on the comparison between them.  Here the surroundings of
  a probe are arbitrary (`Surroundings`): whatever is connected to, read, slept on and said may do as it
  likes, on states of any kind.  In the surroundings of a host that is the probe of the program
  (`run_eq`).

  Where every connection is refused, a probe gives up just if some reading is at the deadline or past
  it (`runIn_reached`, `runIn_unreached`).  A reading comes to that on a clock that gets past every
  number, provided that the deadline is defined, and that it is no infinity out of reach of the clock.

  * `accepted_timeout_ends`: the time that a definition gives to a probe is at least zero and thereby
    defined; unless it is infinite, the probe gives up on every such clock.
  * `undefined_timeout_endless`: to be no less than zero is not enough.
-/
import Relaunch.Proofs.Agreement
import Relaunch.Proofs.Probing

namespace Relaunch

/-! ## Clocks -/

namespace Number

/-- Is the number past the rational number `q`?  What is undefined is past nothing. -/
def Exceeds (number : Number) (q : ℚ) : Prop :=
  ∃ place, number.place? = some place ∧ ((q : WithTop ℚ) : WithBot (WithTop ℚ)) < place

/-- The place of infinity. -/
def infinity : WithBot (WithTop ℚ) := ((⊤ : WithTop ℚ) : WithBot (WithTop ℚ))

theorem value?_of_place? {number : Number} {q : ℚ}
    (h : number.place? = some ((q : WithTop ℚ) : WithBot (WithTop ℚ))) : number.value? = some q := by
  rw [place?] at h
  rw [value?]
  split at h <;> rename_i hexact <;> rw [hexact]
  · simp at h
  · simp at h
  · exact absurd (Option.some.inj h) (by simp)
  · rw [Option.some.injEq, WithBot.coe_inj, WithTop.coe_inj] at h
    exact congrArg some h

theorem place?_of_value? {number : Number} {q : ℚ} (h : number.value? = some q) :
    number.place? = some ((q : WithTop ℚ) : WithBot (WithTop ℚ)) := by
  rw [value?] at h
  rw [place?]
  split at h <;> simp_all

/-- A double past the largest power is infinite. -/
theorem place?_of_exceeds {x : Float} (h : (float x).Exceeds (2 ^ 1024)) :
    (float x).place? = some infinity := by
  obtain ⟨place, hplace, hlt⟩ := h
  cases place with
  | bot => exact absurd hlt (by simp)
  | coe upper =>
    cases upper with
    | top => exact hplace
    | coe q =>
      have hq := lt_of_value? (value?_of_place? hplace)
      rw [WithBot.coe_lt_coe, WithTop.coe_lt_coe] at hlt
      exact absurd hlt (not_lt.mpr hq.le)

/-- The readings of the clock after the first one get past every rational number. -/
def Unbounded (readings : Nat → Number) : Prop := ∀ q : ℚ, ∃ n, (readings (n + 1)).Exceeds q

/-- **A clock that gets past every number comes to the deadline**, if that is defined and infinite
only for a clock of doubles. -/
theorem Unbounded.reaches {readings : Nat → Number} {deadline : Number}
    (unbounded : Unbounded readings) (defined : deadline.place? ≠ none)
    (within : deadline.place? = some infinity → ∀ n, ∃ x, readings n = .float x) :
    ∃ n, deadline.atMost (readings (n + 1)) = true := by
  simp only [atMost_iff]
  obtain ⟨place, hplace⟩ := Option.ne_none_iff_exists'.mp defined
  cases place with
  | bot =>
    obtain ⟨n, reading, hreading, -⟩ := unbounded 0
    exact ⟨n, ⊥, reading, hplace, hreading, bot_le⟩
  | coe upper =>
    cases upper with
    | coe q =>
      obtain ⟨n, reading, hreading, hlt⟩ := unbounded q
      exact ⟨n, _, reading, hplace, hreading, hlt.le⟩
    | top =>
      -- Past the largest double there is only infinity itself.
      obtain ⟨n, hexceeds⟩ := unbounded (2 ^ 1024)
      obtain ⟨x, hx⟩ := within hplace (n + 1)
      rw [hx] at hexceeds
      exact ⟨n, _, _, hplace, hx ▸ place?_of_exceeds hexceeds, le_rfl⟩

/-- A clock that counts gets past every number. -/
theorem unbounded_of_counting {readings : Nat → Number} (start : Int)
    (counts : ∀ n, readings (n + 1) = .int (start + n)) : Unbounded readings := by
  intro q
  obtain ⟨n, hn⟩ := exists_nat_gt (q - start)
  refine ⟨n, _, place?_of_value? ((congrArg value? (counts n)).trans (value?_int _)), ?_⟩
  rw [WithBot.coe_lt_coe, WithTop.coe_lt_coe]
  push_cast
  linarith

end Number

namespace Probe

open Relaunch.Host

/-! ## Surroundings -/

/-- What a probe deals with, on states of any kind. -/
structure Surroundings (σ : Type) where
  connect : String → Int → Number → EStateM Fault σ Unit
  close : EStateM Fault σ Unit
  readClock : EStateM Fault σ Number
  sleep : Number → EStateM Fault σ Unit
  say : Level → String → String → EStateM Fault σ Unit

/-- The surroundings that a host is. -/
def Surroundings.ofHost : Surroundings Host where
  connect := Host.connect
  close := Host.close
  readClock := Host.readClock
  sleep := Host.sleep
  say := Host.say

section Surroundings

variable {σ : Type} (around : Surroundings σ) (probe : Probe)

/-- Does something accept connections? -/
def isOpenIn : EStateM Fault σ Bool :=
  tryCatch
    (do
      around.connect probe.host probe.port connectTimeout
      around.close
      pure true)
    fun fault => if fault.isSystemFault then pure false else throw fault

/-- A sum that fails when an integer is too large to meet a double. -/
def sumIn (a b : Number) : EStateM Fault σ Number :=
  match a.add? b with
  | some n => pure n
  | none => throw .intTooLarge

/-- Try until the deadline, `remaining` times at most. -/
def pollIn (deadline : Number) : (remaining : Nat) → EStateM Fault σ Bool
  | 0 => throw .unfinished
  | remaining + 1 => do
    if ← isOpenIn around probe then
      around.say .info speaker ("Service is accepting connections on " ++ probe.address)
      return true
    if deadline.atMost (← around.readClock) then
      around.say .warning speaker
        ("Service not accepting connections on " ++ probe.address ++ " after "
          ++ probe.timeout.text ++ "s")
      return false
    around.sleep probe.interval
    pollIn deadline remaining

/-- Wait until the service accepts connections or the time is over, for so many attempts at most. -/
def runIn (limit : Nat) : EStateM Fault σ Bool := do
  let deadline ← sumIn (← around.readClock) probe.timeout
  pollIn around probe deadline limit

end Surroundings

theorem poll_eq (probe : Probe) (deadline : Number) (remaining : Nat) :
    probe.poll deadline remaining = probe.pollIn .ofHost deadline remaining := by
  induction remaining with
  | zero => rfl
  | succ remaining ih =>
    rw [poll, pollIn, ih]
    rfl

/-- **The probe of the program** is the one in the surroundings of its host. -/
theorem run_eq (probe : Probe) (host : Host) :
    probe.run host = probe.runIn .ofHost host.probeLimit host := by
  -- Reading the clock leaves the limit as it is, so that it may be looked up before.
  have hread : Ends readClock host (fun _ read => read.probeLimit = host.probeLimit)
      (fun _ _ => True) := by
    simp only [readClock, advance, sum, ends_bind, ends_get, ends_pure]
    cases host.clock.add? host.tick with
    | none => trivial
    | some clock => rfl
  rcases hread.cases with ⟨reading, read, hreads, hlimit⟩ | ⟨f, read, hfails, -⟩
  · rw [run, bind_of_ok hreads, ← hlimit]
    have hreads' : (Surroundings.ofHost).readClock host = .ok reading read := hreads
    rw [runIn, bind_of_ok hreads', sum, sumIn]
    cases reading.add? probe.timeout with
    | none => rfl
    | some deadline => exact congrFun (poll_eq probe deadline read.probeLimit) read
  · rw [run, bind_of_error hfails]
    exact (bind_of_error hfails).symm

/-! ## Refusals -/

section Refusals

variable {σ : Type}

/-- How a probe fares whose connections are all refused, on a clock with these readings. -/
structure Refusals (around : Surroundings σ) (probe : Probe) (start : σ)
    (readings : Nat → Number) where
  /-- The states before each attempt, after it, and after the reading that follows it. -/
  before : Nat → σ
  knocked : Nat → σ
  read : Nat → σ
  starts : around.readClock start = .ok (readings 0) (before 0)
  refuses : ∀ n, ∃ fault, fault.isSystemFault = true ∧
    around.connect probe.host probe.port connectTimeout (before n) = .error fault (knocked n)
  reads : ∀ n, around.readClock (knocked n) = .ok (readings (n + 1)) (read n)
  rests : ∀ n, around.sleep probe.interval (read n) = .ok () (before (n + 1))
  /-- Nothing that is said breaks the probe off. -/
  tells : ∀ level speaker text state, ∃ after, around.say level speaker text state = .ok () after

variable {around : Surroundings σ} {probe : Probe} {start : σ} {readings : Nat → Number}
  {deadline : Number} (refusals : Refusals around probe start readings)

include refusals

theorem Refusals.isOpenIn (n : Nat) :
    isOpenIn around probe (refusals.before n) = .ok false (refusals.knocked n) := by
  obtain ⟨fault, hsystem, hconnect⟩ := refusals.refuses n
  rw [Probe.isOpenIn, tryCatch_of_error (bind_of_error hconnect), if_pos hsystem]
  rfl

/-- An attempt before the deadline leads to the next one. -/
theorem Refusals.pollIn_succ {n : Nat} (early : deadline.atMost (readings (n + 1)) = false)
    (remaining : Nat) :
    pollIn around probe deadline (remaining + 1) (refusals.before n) =
      pollIn around probe deadline remaining (refusals.before (n + 1)) := by
  simp only [pollIn, bind_of_ok (refusals.isOpenIn n), Bool.false_eq_true, if_false,
    bind_of_ok (refusals.reads n), early, bind_of_ok (refusals.rests n)]

/-- So many attempts before the deadline lead to the next one. -/
theorem Refusals.pollIn_add {n : Nat}
    (early : ∀ i < n, deadline.atMost (readings (i + 1)) = false) (remaining : Nat) :
    pollIn around probe deadline (n + remaining) (refusals.before 0) =
      pollIn around probe deadline remaining (refusals.before n) := by
  induction n generalizing remaining with
  | zero => rw [Nat.zero_add]
  | succ n ih =>
    rw [Nat.add_assoc, Nat.add_comm 1, ih (fun i hlt => early i (Nat.lt_succ_of_lt hlt)),
      refusals.pollIn_succ (early n (Nat.lt_succ_self n))]

/-- The deadline is set by the first reading. -/
theorem Refusals.runIn_eq (sets : (readings 0).add? probe.timeout = some deadline) (limit : Nat) :
    runIn around probe limit start = pollIn around probe deadline limit (refusals.before 0) := by
  rw [runIn, bind_of_ok refusals.starts, sumIn, sets]
  rfl

/-- **A clock that comes to the deadline ends the probe**, with as many attempts as that takes. -/
theorem Refusals.runIn_reached (sets : (readings 0).add? probe.timeout = some deadline)
    (reached : ∃ n, deadline.atMost (readings (n + 1)) = true) :
    ∃ n after, ∀ limit > n, runIn around probe limit start = .ok false after := by
  classical
  have hearly : ∀ i < Nat.find reached, deadline.atMost (readings (i + 1)) = false :=
    fun i hlt => eq_false_of_ne_true (Nat.find_min reached hlt)
  obtain ⟨after, htells⟩ := refusals.tells .warning speaker
    ("Service not accepting connections on " ++ probe.address ++ " after "
      ++ probe.timeout.text ++ "s") (refusals.read (Nat.find reached))
  refine ⟨Nat.find reached, after, fun limit hlimit => ?_⟩
  obtain ⟨remaining, rfl⟩ : ∃ remaining, limit = Nat.find reached + (remaining + 1) :=
    ⟨limit - Nat.find reached - 1, by omega⟩
  rw [refusals.runIn_eq sets, refusals.pollIn_add hearly, pollIn,
    bind_of_ok (refusals.isOpenIn _)]
  simp only [Bool.false_eq_true, if_false, bind_of_ok (refusals.reads _),
    Nat.find_spec reached, if_true]
  rw [bind_of_ok htells]
  rfl

/-- On any other clock there is no end to it: it is cut off, however late. -/
theorem Refusals.runIn_unreached (sets : (readings 0).add? probe.timeout = some deadline)
    (unreached : ∀ n, deadline.atMost (readings (n + 1)) = false) (limit : Nat) :
    runIn around probe limit start = .error .unfinished (refusals.before limit) := by
  have hall := refusals.pollIn_add (n := limit) (fun i _ => unreached i) 0
  rw [refusals.runIn_eq sets, ← Nat.add_zero limit, hall]
  rfl

end Refusals

/-! ## The time that a definition gives -/

/-- The clock can come to the deadline, as far as that is up to where it starts from: it reads doubles
from a number on, or else the deadline is finite. -/
inductive Timely (timeout : Number) (readings : Nat → Number) : Prop
  | doubles (all : ∀ n, ∃ x, readings n = .float x) (starts : (readings 0).place? ≠ none) :
      Timely timeout readings
  | finite {deadline : Number} {q : ℚ} (sets : (readings 0).add? timeout = some deadline)
      (finite : deadline.value? = some q) : Timely timeout readings

theorem Timely.deadline {x : Float} {q : ℚ} {readings : Nat → Number}
    (timely : Timely (.float x) readings) (finite : (Number.float x).value? = some q) :
    ∃ deadline, (readings 0).add? (.float x) = some deadline ∧ deadline.place? ≠ none ∧
      (deadline.place? = some Number.infinity → ∀ n, ∃ y, readings n = .float y) := by
  cases timely with
  | doubles all starts =>
    obtain ⟨first, hfirst⟩ := all 0
    rw [hfirst] at starts ⊢
    exact ⟨_, rfl, Number.place?_add_ne_none starts finite, fun _ => all⟩
  | finite sets hfinite =>
    have hplace := Number.place?_of_value? hfinite
    refine ⟨_, sets, by simp [hplace], fun h => ?_⟩
    rw [hplace, Option.some.injEq, Number.infinity, WithBot.coe_inj] at h
    exact absurd h (WithTop.coe_ne_top)

variable {settings : Settings} {name : String} {given : Service.Overrides}
  {definition : Service.Definition} {probe : Probe}

/-- What a definition gives to its probe is a double that is at least zero. -/
theorem timeout_of_resolve
    (resolves : Service.Definition.resolve settings name given = .ok definition)
    (port : definition.probe? = some probe) :
    ∃ x, probe.timeout = .float x ∧ (0 : Number).NoMoreThan (.float x) := by
  obtain ⟨executable, -, hpasses⟩ := Service.Definition.passes_of_resolve resolves
  have hbound := (Service.Field.seconds_eq_good.mp hpasses.healthTimeout).2
  obtain ⟨number, -, rfl⟩ := Option.map_eq_some_iff.mp port
  exact ⟨_, rfl, Number.atMost_iff.mp hbound⟩

/-- **No accepted timeout makes a probe go on for ever**, unless it is infinite: the probe of the
program, in whatever surroundings, gives up. -/
theorem accepted_timeout_ends
    (resolves : Service.Definition.resolve settings name given = .ok definition)
    (port : definition.probe? = some probe) (bounded : probe.timeout.place? ≠ some Number.infinity)
    {σ : Type} {around : Surroundings σ} {start : σ} {readings : Nat → Number}
    (refusals : Refusals around probe start readings) (unbounded : Number.Unbounded readings)
    (timely : Timely probe.timeout readings) :
    (∀ host, probe.run host = probe.runIn .ofHost host.probeLimit host) ∧
      (0 : Number).NoMoreThan probe.timeout ∧
      ∃ n after, ∀ limit > n, runIn around probe limit start = .ok false after := by
  obtain ⟨x, htimeout, hbound⟩ := timeout_of_resolve resolves port
  refine ⟨probe.run_eq, htimeout ▸ hbound, ?_⟩
  rw [htimeout] at bounded timely
  -- What is at least zero and no infinity is finite.
  obtain ⟨zero, place, hzero, hplace, hle⟩ := hbound
  obtain ⟨q, hq⟩ : ∃ q, (Number.float x).value? = some q := by
    rw [Number.place?_of_value? Number.value?_zero, Option.some.injEq] at hzero
    cases place with
    | bot => exact absurd (hzero ▸ hle) (by simp)
    | coe upper =>
      cases upper with
      | top => exact absurd hplace bounded
      | coe q => exact ⟨q, Number.value?_of_place? hplace⟩
  obtain ⟨deadline, hsets, hdefined, hwithin⟩ := timely.deadline hq
  exact refusals.runIn_reached (htimeout ▸ hsets) (unbounded.reaches hdefined hwithin)

/-- Surroundings that refuse every connection, on a clock with these readings; their states are the
numbers of readings so far. -/
def refusing (readings : Nat → Number) : Surroundings Nat where
  connect _ _ _ := throw refused
  close := pure ()
  readClock := fun made => .ok (readings made) (made + 1)
  sleep _ := pure ()
  say _ _ _ := pure ()

def refusing_refusals (probe : Probe) (readings : Nat → Number) :
    Refusals (refusing readings) probe 0 readings where
  before n := n + 1
  knocked n := n + 1
  read n := n + 2
  starts := rfl
  refuses _ := ⟨refused, rfl, rfl⟩
  reads _ := rfl
  rests _ := rfl
  tells _ _ _ state := ⟨state, rfl⟩

/-- A clock that counts on from a number. -/
def counting (start : Int) (n : Nat) : Number := .int (start + n)

theorem unbounded_counting (start : Int) : Number.Unbounded (counting start) :=
  Number.unbounded_of_counting (start + 1) fun n => by
    rw [counting]
    push_cast
    ring_nf

/-- A service with a port to be probed at, and the usual time for that. -/
def probedService : Service.Overrides where
  executable := some (.text "./run")
  healthPort := some (.int 80)

theorem accepted_timeout_ends_counting :
    ∃ definition probe,
      Service.Definition.resolve Service.Definition.steadySettings "svc" probedService =
        .ok definition ∧
      definition.probe? = some probe ∧ probe.timeout.place? ≠ some Number.infinity ∧
      Number.Unbounded (counting 0) ∧ Timely probe.timeout (counting 0) ∧
      (∀ host, probe.run host = probe.runIn .ofHost host.probeLimit host) ∧
      (0 : Number).NoMoreThan probe.timeout ∧
      ∃ n after, ∀ limit > n, runIn (refusing (counting 0)) probe limit 0 = .ok false after := by
  have hread : ((Service.Definition.resolve Service.Definition.steadySettings "svc"
      probedService).toOption.bind (·.probe?)).map (fun probe =>
        (probe.timeout.exact, ((counting 0 0).add? probe.timeout).map Number.exact)) =
      some (.dyadic (5 * 2 ^ 50) (-49), some (.dyadic (5 * 2 ^ 50) (-49))) := by decide +kernel
  obtain ⟨probe, hprobe, hexact⟩ := Option.map_eq_some_iff.mp hread
  obtain ⟨definition, hdefined, hport⟩ := Option.bind_eq_some_iff.mp hprobe
  have hresolves : Service.Definition.resolve Service.Definition.steadySettings "svc"
      probedService = .ok definition := by
    cases hresolves : Service.Definition.resolve Service.Definition.steadySettings "svc"
        probedService with
    | error error =>
      rw [hresolves] at hdefined
      exact absurd hdefined (by simp [Except.toOption])
    | ok found =>
      rw [hresolves] at hdefined
      exact congrArg Except.ok (Option.some.inj hdefined)
  obtain ⟨htimeout, hsets⟩ := Prod.mk.inj hexact
  obtain ⟨deadline, hsets, hdeadline⟩ := Option.map_eq_some_iff.mp hsets
  have hbounded : probe.timeout.place? ≠ some Number.infinity := by
    rw [Number.place?, htimeout, Number.infinity, ne_eq, Option.some.injEq, WithBot.coe_inj]
    exact WithTop.coe_ne_top
  have htimely : Timely probe.timeout (counting 0) :=
    .finite hsets (by rw [Number.value?, hdeadline])
  exact ⟨definition, probe, hresolves, hport, hbounded, unbounded_counting 0, htimely,
    accepted_timeout_ends hresolves hport hbounded (refusing_refusals probe _)
      (unbounded_counting 0) htimely⟩

/-! ## What is not enough -/

/-- The double that is not a number. -/
def undefinedDouble : Float := .ofBits 0x7ff8000000000000

/-- The double nearest to `10 ^ 308`. -/
def hugeDouble : Float := .ofBits 0x7fe1ccf385ebc8a0

/-- A clock that counts, but starts from what is not a number. -/
def astray (n : Nat) : Number := if n = 0 then .float undefinedDouble else .int n

/-- Where every connection is refused, the probe goes on until it is cut off. -/
def Endless (probe : Probe) (readings : Nat → Number) : Prop :=
  ∀ limit, ∃ after, runIn (refusing readings) probe limit 0 = .error .unfinished after

/-- No reading comes to a deadline that is undefined. -/
theorem endless_of_undefined {probe : Probe} {readings : Nat → Number}
    (sets : ((readings 0).add? probe.timeout).map Number.exact = some .undefined) :
    Endless probe readings := by
  obtain ⟨deadline, hsets, hexact⟩ := Option.map_eq_some_iff.mp sets
  refine fun limit => ⟨_, (refusing_refusals probe readings).runIn_unreached hsets (fun n => ?_) limit⟩
  rw [← Bool.not_eq_true, Number.atMost_iff]
  rintro ⟨place, -, hplace, -⟩
  rw [Number.place?, hexact] at hplace
  exact absurd hplace (by simp)

/-- A clock of integers does not come to an infinite deadline. -/
theorem endless_of_infinite {probe : Probe} {start : Int}
    (sets : ((counting start 0).add? probe.timeout).map Number.exact = some (.infinite false)) :
    Endless probe (counting start) := by
  obtain ⟨deadline, hsets, hexact⟩ := Option.map_eq_some_iff.mp sets
  refine fun limit => ⟨_, (refusing_refusals probe _).runIn_unreached hsets (fun n => ?_) limit⟩
  rw [← Bool.not_eq_true, Number.atMost_iff]
  rintro ⟨place, reading, hplace, hreading, hle⟩
  rw [Number.place?, hexact, Option.some.injEq] at hplace
  rw [counting, Number.place?_of_value? (Number.value?_int _), Option.some.injEq] at hreading
  rw [← hplace, ← hreading, WithBot.coe_le_coe, top_le_iff] at hle
  exact absurd hle WithTop.coe_ne_top

/-- **To be no less than zero is not enough.**  What is not a number is not less than zero, and with
such a timeout a probe does not end on a clock that counts; but no definition gives it.  An accepted
timeout, too, does not make a probe end on a clock that starts from what is not a number, or on one of
integers if the deadline is too large to be finite. -/
theorem undefined_timeout_endless :
    (Number.float undefinedDouble).isNegative = false ∧
    (∀ settings name given definition probe,
      Service.Definition.resolve settings name given = .ok definition →
        definition.probe? = some probe → probe.timeout ≠ .float undefinedDouble) ∧
    (Number.Unbounded (counting 0) ∧
      Endless { port := 80, timeout := .float undefinedDouble } (counting 0)) ∧
    (Number.Unbounded astray ∧ Endless { port := 80 } astray) ∧
    (Number.Unbounded (counting (Number.tenTo 308)) ∧
      Endless { port := 80, timeout := .float hugeDouble } (counting (Number.tenTo 308))) := by
  refine ⟨by decide +kernel, ?_, ⟨unbounded_counting 0, endless_of_undefined (by decide +kernel)⟩,
    ⟨?_, endless_of_undefined (by decide +kernel)⟩, unbounded_counting _,
    endless_of_infinite (by decide +kernel)⟩
  · intro settings name given definition probe hresolves hport htimeout
    obtain ⟨x, hx, hbound⟩ := timeout_of_resolve hresolves hport
    rw [← hx, htimeout, ← Number.atMost_iff] at hbound
    exact absurd hbound (by decide +kernel)
  · exact Number.unbounded_of_counting 1 fun n => by
      rw [astray, if_neg (Nat.succ_ne_zero n)]
      push_cast
      ring_nf

end Probe

end Relaunch
