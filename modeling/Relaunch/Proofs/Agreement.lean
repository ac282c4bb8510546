/-
  The checks of a definition and the checks behind it.

  A definition is checked when it is put together.  What a restart takes from it, a query and bounds of
  the search, is checked once more when it is taken, by rules of its own: a query has a pattern, a
  search has at least one attempt, and no time in it is below zero.  Nothing catches a fault of the
  second checks, so the first ones have to be the stricter.

  * `Field.not_less_of_int` and `Field.not_negative_of_seconds`: a number that a field takes passes the
    check behind the field, whichever kind it is of;
  * `resolve_agrees`: whatever is defined passes all checks that follow, and is carried on as it is;
    and what the checks that follow would refuse is not defined.
-/
import Relaunch.Proofs.Definitions
import Relaunch.Proofs.Doubles

namespace Relaunch.Service

open Relaunch.Number

/-- A number as a value that has not been checked. -/
def Given.ofNumber : Number → Given
  | .int n => .int n
  | .float x => .float x

/-! ## Numbers that pass a field -/

namespace Field

/-- An integer that is read off a double is the value of the double. -/
theorem value?_of_intOfFloat {x : Float} {n : Int} (h : intOfFloat x = .ok n) :
    (Number.float x).value? = some (n : ℚ) := by
  unfold intOfFloat at h
  cases hexact : Exact.ofFloat x with
  | undefined =>
    rw [hexact] at h
    exact absurd h (by simp)
  | infinite negative =>
    rw [hexact] at h
    exact absurd h (by simp)
  | dyadic m e =>
    rw [hexact] at h
    dsimp only at h
    split at h
    · exact absurd h (by simp)
    · rename_i hwhole
      split at h
      · rw [Except.ok.injEq] at h
        rw [value?, exact, hexact, ← h, cast_scaled (not_not.mp hwhole)]
      · exact absurd h (by simp)

theorem value?_of_toInt {number : Number} {n : Int} (h : toInt (.ofNumber number) = .ok n) :
    number.value? = some (n : ℚ) := by
  cases number with
  | int m =>
    obtain rfl : m = n := Except.ok.inj h
    exact value?_int m
  | float x => exact value?_of_intOfFloat h

/-- What an integer field takes as one or more is not less than one. -/
theorem not_less_of_int {field : String} {high : Option Nat} {number : Number} {n : Int}
    (h : int field 1 high (.ofNumber number) = .good n) : number.less 1 = false := by
  obtain ⟨hread, hlow, -⟩ := int_eq_good.mp h
  rw [← Bool.not_eq_true, less_iff (value?_of_toInt hread) value?_one, not_lt]
  exact_mod_cast hlow

/-- What a field of seconds takes is not negative. -/
theorem not_negative_of_seconds {field : String} {number : Number} {x : Float}
    (h : seconds field (.ofNumber number) = .good x) : number.isNegative = false := by
  obtain ⟨hread, hbound⟩ := seconds_eq_good.mp h
  have hpassed := less_of_atMost hbound
  cases number with
  | float y =>
    obtain rfl : y = x := Except.ok.inj hread
    exact hpassed
  | int n =>
    -- An integer is rounded before it is compared, but not across zero.
    rw [← Bool.not_eq_true, isNegative, less_iff (value?_int n) value?_zero]
    intro hneg
    have hnearest : floatOfInt? n = some x := by
      rw [Given.ofNumber, toFloat] at hread
      cases hfloat : floatOfInt? n with
      | none =>
        rw [hfloat] at hread
        exact absurd hread (by simp)
      | some y =>
        rw [hfloat, Except.ok.injEq] at hread
        rw [hread]
    obtain ⟨q, hvalue, hq⟩ := value?_of_floatOfInt? hnearest (by exact_mod_cast hneg)
    exact absurd ((less_iff hvalue value?_zero).mpr hq) (by rw [hpassed]; exact Bool.false_ne_true)

end Field

namespace Definition

variable {settings : Settings} {name : String} {given : Overrides} {definition : Definition}

/-! ## What is carried on -/

/-- What a restart takes from a definition is there, and is what the definition says. -/
structure Carried (settings : Settings) (given : Overrides) (definition : Definition) : Prop where
  query : ∃ query, definition.query? = some query ∧ query.pattern = definition.pattern
  patience : definition.patience = .ok {
    attempts := .int definition.maxAttempts
    delay := .float definition.attemptDelay
    grace := definition.grace.map .float }
  argv : definition.launchPlan.argv = definition.executable :: definition.arguments
  directory : definition.launchPlan.directory = definition.workingDirectory
  /-- The log is read from the working directory, unless it is absolute. -/
  log : definition.launchPlan.resolvedLog =
    if (Path.ofText definition.log).isAbsolute then Path.ofText definition.log
    else ⟨definition.workingDirectory.root,
      definition.workingDirectory.parts ++ (Path.ofText definition.log).parts⟩
  unlimited : definition.launchPlan.fileLimit = none ↔ definition.fileLimit = 0
  limited : ∀ limit, definition.launchPlan.fileLimit = some limit → limit = definition.fileLimit
  /-- The text that the mode comes from names it. -/
  mode : given.logMode.getD (.text settings.serviceLogMode) =
    .text definition.launchPlan.mode.name
  appends : definition.launchPlan.mode = .append ↔
    given.logMode.getD (.text settings.serviceLogMode) = .text "append"
  unprobed : definition.probe? = none ↔ definition.healthPort = none
  probed : ∀ probe, definition.probe? = some probe → definition.healthPort = some probe.port ∧
    probe.host = definition.healthHost ∧ probe.timeout = .float definition.healthTimeout

/-- The bounds of a definition pass the check as they are. -/
theorem patience_eq_of_resolve (h : resolve settings name given = .ok definition) :
    definition.patience = .ok {
      attempts := .int definition.maxAttempts
      delay := .float definition.attemptDelay
      grace := definition.grace.map .float } := by
  obtain ⟨patience, hpatience, -⟩ := patience_of_resolve h
  obtain ⟨rfl, -⟩ := Patience.check_eq_ok.mp hpatience
  exact hpatience

theorem carried_of_resolve (h : resolve settings name given = .ok definition) :
    Carried settings given definition := by
  obtain ⟨executable, -, hpasses⟩ := passes_of_resolve h
  have hpattern := (Field.nonEmptyText_eq_good.mp hpasses.pattern).2
  have hmode := Field.logMode_eq_good.mp hpasses.logMode
  refine {
    query := ⟨⟨definition.pattern, hpattern⟩, dif_pos hpattern, rfl⟩
    patience := patience_eq_of_resolve h
    argv := rfl
    directory := rfl
    log := rfl
    unlimited := ?_
    limited := fun limit hlimit => ?_
    mode := hmode
    appends := ?_
    unprobed := Option.map_eq_none_iff
    probed := fun probe hprobe => ?_ }
  · show (if definition.fileLimit = 0 then none else some definition.fileLimit) = none ↔ _
    split <;> simp_all
  · have hlimit : (if definition.fileLimit = 0 then none else some definition.fileLimit) =
      some limit := hlimit
    split at hlimit <;> simp_all
  · have hmode : given.logMode.getD (.text settings.serviceLogMode) =
      .text definition.launchPlan.mode.name := hmode
    rw [hmode, Given.text.injEq]
    cases definition.launchPlan.mode <;> decide
  · obtain ⟨port, hport, rfl⟩ := Option.map_eq_some_iff.mp hprobe
    exact ⟨hport, rfl, rfl⟩

/-! ## What is refused -/

/-- A pattern and bounds are what is to be checked for a service: they are given, preset or set. -/
structure Offered (settings : Settings) (name : String) (given : Overrides) (pattern : String)
    (patience : Patience) : Prop where
  pattern : (given.withPreset name).pattern = some (.text pattern)
  attempts : given.maxAttempts.getD (.int settings.maxAttempts) = .ofNumber patience.attempts
  delay : given.attemptDelay.getD (.float settings.attemptDelay) = .ofNumber patience.delay
  grace : given.grace = patience.grace.map .ofNumber

/-- The checks behind a definition refuse a name, a pattern or bounds. -/
inductive Refused (name pattern : String) (patience : Patience) : Prop
  | name (unsearchable : Query.ofPattern? name = none)
  | pattern (unsearchable : Query.ofPattern? pattern = none)
  | bounds {refusal : Patience.Refusal} (refuses : patience.check = .error refusal)

theorem ofPattern?_eq_none {pattern : String} : Query.ofPattern? pattern = none ↔ pattern = "" := by
  unfold Query.ofPattern?
  split <;> simp_all

/-- Bounds that the fields take pass the check of bounds. -/
theorem patience_of_passes {executable : Given} {pattern : String} {patience : Patience}
    (h : Passes settings name executable (given.withPreset name) definition)
    (offered : Offered settings name given pattern patience) : patience.check = .ok patience := by
  have hattempts : Field.int "max_attempts" 1 none (.ofNumber patience.attempts) =
      .good definition.maxAttempts := offered.attempts ▸ h.maxAttempts
  have hdelay : Field.seconds "attempt_delay" (.ofNumber patience.delay) =
      .good definition.attemptDelay := offered.delay ▸ h.attemptDelay
  have hgrace : Field.optional (Field.seconds "graceful_timeout")
      (patience.grace.map Given.ofNumber) = .good definition.grace := offered.grace ▸ h.grace
  refine Patience.check_eq_ok.mpr ⟨rfl, Field.not_less_of_int hattempts,
    Field.not_negative_of_seconds hdelay, fun grace hsome => ?_⟩
  rw [hsome] at hgrace
  rcases Field.optional_eq_good.mp hgrace with ⟨hnone, -⟩ | ⟨value, x, hvalue, -, hgood⟩
  · exact absurd hnone (by simp)
  · obtain rfl : Given.ofNumber grace = value := Option.some.inj hvalue
    exact Field.not_negative_of_seconds hgood

/-- What the fields take is not refused later. -/
theorem not_refused_of_passes {executable : Given} {pattern : String} {patience : Patience}
    (h : Passes settings name executable (given.withPreset name) definition)
    (offered : Offered settings name given pattern patience) : ¬Refused name pattern patience := by
  rintro (hrefused | hrefused | hrefused)
  · obtain ⟨htext, hne⟩ := Field.nonEmptyText_eq_good.mp h.name
    rw [Given.text.injEq] at htext
    exact hne (htext ▸ ofPattern?_eq_none.mp hrefused)
  · have hpattern := h.pattern
    rw [offered.pattern, Option.getD_some] at hpattern
    obtain ⟨htext, hne⟩ := Field.nonEmptyText_eq_good.mp hpattern
    rw [Given.text.injEq] at htext
    exact hne (htext ▸ ofPattern?_eq_none.mp hrefused)
  · exact absurd ((patience_of_passes h offered).symm.trans hrefused) (by simp)

/-- **What a definition is checked for is enough for all that follows.** Whatever is defined is carried
on as it is, and nothing that is checked once more is refused then: what would be refused is not
defined in the first place. -/
theorem resolve_agrees (settings : Settings) (name : String) (given : Overrides) :
    (∀ definition, resolve settings name given = .ok definition →
      Carried settings given definition) ∧
    ∀ pattern patience, Offered settings name given pattern patience →
      Refused name pattern patience → ∃ error, resolve settings name given = .error error := by
  refine ⟨fun definition => carried_of_resolve, fun pattern patience hoffered hrefused => ?_⟩
  cases hresolves : resolve settings name given with
  | error error => exact ⟨error, rfl⟩
  | ok definition =>
    obtain ⟨executable, -, hpasses⟩ := passes_of_resolve hresolves
    exact absurd hrefused (not_refused_of_passes hpasses hoffered)

/-- Settings that ask for a search every other second. -/
def steadySettings : Settings where
  dataDirectory := ⟨.slash, ["var"]⟩
  workingDirectory := ⟨.slash, ["srv"]⟩
  logMaxBytes := 0
  logBackups := 0
  serviceLog := "run.log"
  serviceLogMode := "append"
  maxAttempts := 5
  attemptDelay := 2.0
  fileLimit := 0
  healthHost := "localhost"
  healthTimeout := 10.0

/-- A service with its executable, and as many attempts as are given. -/
def attempting (attempts : Int) : Overrides where
  executable := some (.text "./run")
  arguments := some (.list [.text "--", .text ""])
  maxAttempts := some (.int attempts)

theorem resolve_agrees_attempts :
    (∃ definition, resolve steadySettings "svc" (attempting 1) = .ok definition ∧
      definition.launchPlan.argv = definition.executable :: definition.arguments ∧
      definition.launchPlan.mode = .append) ∧
    ∃ error, resolve steadySettings "svc" (attempting 0) = .error error := by
  obtain ⟨hcarried, -⟩ := resolve_agrees steadySettings "svc" (attempting 1)
  obtain ⟨-, hrefused⟩ := resolve_agrees steadySettings "svc" (attempting 0)
  constructor
  · have hdefined : (resolve steadySettings "svc" (attempting 1)).toBool = true := by
      decide +kernel
    cases hresolves : resolve steadySettings "svc" (attempting 1) with
    | error error =>
      rw [hresolves] at hdefined
      exact absurd hdefined Bool.false_ne_true
    | ok definition =>
      have h := hcarried definition hresolves
      exact ⟨definition, rfl, h.argv, h.appends.mpr rfl⟩
  · exact hrefused "svc" { attempts := .int 0, delay := .float 2.0 } ⟨rfl, rfl, rfl, rfl⟩
      (.bounds rfl)

end Definition

end Relaunch.Service
