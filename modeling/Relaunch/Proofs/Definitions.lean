/-
  What a service definition promises.

  A definition is checked field by field, and it is good just if every field is (`check_eq_good`); each
  kind of field has a law of its own that says what it takes (`int_eq_good`, `seconds_eq_good`, ...).
  What is given for the pattern comes through as it is, so a definition is searched for by the same
  text as a listing of the service (`query?_of_resolve`); and the bounds of a definition make sense as
  bounds of a search (`patience_of_resolve`).
-/
import Relaunch.Proofs.Patience
import Relaunch.Service.Definition

namespace Relaunch

namespace Service

/-! ## Checks -/

namespace Checked

variable {α β : Type}

/-- A field is checked after another: both are fine, or there are complaints. -/
theorem seq_eq_good {f : Checked (α → β)} {a : Checked α} {b : β} :
    f <*> a = good b ↔ ∃ g x, f = good g ∧ a = good x ∧ g x = b := by
  show f.apply a = good b ↔ _
  cases f <;> cases a <;> simp [apply]

theorem map_eq_good {f : α → β} {a : Checked α} {b : β} :
    f <$> a = good b ↔ ∃ x, a = good x ∧ f x = b := by
  show (good f).apply a = good b ↔ _
  cases a <;> simp [apply]

theorem apply_bad_ne_good (violations : List Violation) (a : Checked α) (b : β) :
    apply (.bad violations) a ≠ good b := by
  cases a <;> simp [apply]

end Checked

namespace Field

/-- Only a text will do, and not the empty one. -/
theorem nonEmptyText_eq_good {field : String} {value : Given} {text : String} :
    nonEmptyText field value = .good text ↔ value = .text text ∧ text ≠ "" := by
  cases value with
  | text t =>
    by_cases hempty : t = ""
    · subst hempty
      have hbad : nonEmptyText field (.text "") = .violates field .nonEmpty (.text "") := rfl
      rw [hbad, Given.text.injEq]
      refine ⟨fun h => absurd h (by simp [Checked.violates]), ?_⟩
      rintro ⟨rfl, hne⟩
      exact absurd rfl hne
    · have hgood : nonEmptyText field (.text t) = .good t := by
        unfold nonEmptyText
        split
        · rename_i heq
          exact absurd (Given.text.inj heq) hempty
        · rfl
      rw [hgood, Checked.good.injEq, Given.text.injEq]
      exact ⟨fun h => ⟨h, h ▸ hempty⟩, fun h => h.1⟩
  | _ => simp [nonEmptyText, Field.text, Checked.violates]

theorem text_eq_good {field : String} {value : Given} {t : String} :
    text field value = .good t ↔ value = .text t := by
  cases value <;> simp [text, Checked.violates]

/-- A path may be given as such or as a text. -/
theorem path_eq_good {field : String} {value : Given} {p : Path} :
    path field value = .good p ↔ value = .path p ∨ ∃ t, value = .text t ∧ Path.ofText t = p := by
  cases value <;> simp [path, Checked.violates]

/-- A mode has one name. -/
theorem ofName?_eq_some {name : String} {mode : OpenMode} :
    OpenMode.ofName? name = some mode ↔ name = mode.name := by
  constructor
  · intro h
    have hname := List.find?_some h
    exact (beq_iff_eq.mp hname).symm
  · rintro rfl
    cases mode <;> rfl

theorem logMode_eq_good {field : String} {value : Given} {mode : OpenMode} :
    logMode field value = .good mode ↔ value = .text mode.name := by
  cases value with
  | text t =>
    rw [Given.text.injEq, ← ofName?_eq_some]
    unfold logMode
    dsimp only
    cases OpenMode.ofName? t <;> simp [Checked.violates]
  | _ => simp [logMode, Checked.violates]

/-- An integer field takes what denotes an integer within its bounds. -/
theorem int_eq_good {field : String} {low : Nat} {high : Option Nat} {value : Given} {n : Int} :
    int field low high value = .good n ↔
      toInt value = .ok n ∧ (low : Int) ≤ n ∧ ∀ bound ∈ high, n ≤ (bound : Int) := by
  unfold int
  cases toInt value with
  | error rule => simp [Checked.violates]
  | ok m =>
    rw [Except.ok.injEq]
    cases high with
    | none =>
      dsimp only
      split
      · rename_i hlow
        refine ⟨fun h => absurd h (by simp [Checked.violates]), ?_⟩
        rintro ⟨rfl, hle, -⟩
        omega
      · rename_i hlow
        rw [Checked.good.injEq]
        exact ⟨fun h => ⟨h, by omega, nofun⟩, fun h => h.1⟩
    | some high =>
      dsimp only
      split
      · rename_i hhigh
        refine ⟨fun h => absurd h (by simp [Checked.violates]), ?_⟩
        rintro ⟨rfl, -, hle⟩
        have := hle high rfl
        omega
      · rename_i hhigh
        split
        · refine ⟨fun h => absurd h (by simp [Checked.violates]), ?_⟩
          rintro ⟨rfl, hle, -⟩
          omega
        · rw [Checked.good.injEq]
          refine ⟨fun h => ⟨h, by omega, fun bound hbound => ?_⟩, fun h => h.1⟩
          obtain rfl : high = bound := by simpa using hbound
          omega

/-- A field of seconds takes what denotes a double that is not below zero. -/
theorem seconds_eq_good {field : String} {value : Given} {x : Float} :
    seconds field value = .good x ↔
      toFloat value = .ok x ∧ Number.atMost 0 (.float x) = true := by
  unfold seconds
  cases toFloat value with
  | error rule => simp [Checked.violates]
  | ok y =>
    rw [Except.ok.injEq]
    dsimp only
    split
    · rename_i hbound
      rw [Checked.good.injEq]
      exact ⟨fun h => ⟨h, h ▸ hbound⟩, fun h => h.1⟩
    · rename_i hbound
      refine ⟨fun h => absurd h (by simp [Checked.violates]), ?_⟩
      rintro ⟨rfl, hle⟩
      exact absurd hle hbound

/-- By induction on the items; the count goes into the complaints and nothing else. -/
theorem textItems_eq_good {field : String} : ∀ {items : List Given} {n : Nat} {texts : List String},
    textItems field n items = .good texts ↔ items = texts.map .text := by
  intro items
  induction items with
  | nil =>
    intro n texts
    rw [textItems, Checked.good.injEq]
    cases texts <;> simp
  | cons value rest ih =>
    intro n texts
    cases value with
    | text t =>
      rw [textItems, Checked.map_eq_good]
      cases texts with
      | nil => simp
      | cons first others => simp [ih, and_comm]
    | _ =>
      refine ⟨fun h => absurd h (Checked.apply_bad_ne_good _ _ _), fun h => ?_⟩
      cases texts <;> simp at h

/-- A field of texts takes a list in which every item is a text. -/
theorem texts_eq_good {field : String} {value : Given} {items : List String} :
    texts field value = .good items ↔ value = .list (items.map .text) := by
  cases value with
  | list given => rw [texts, textItems_eq_good, Given.list.injEq]
  | _ => simp [texts, Checked.violates]

/-- A field that may be left out takes nothing, or what it takes otherwise. -/
theorem optional_eq_good {α : Type} {check : Given → Checked α} {value : Option Given}
    {taken : Option α} :
    optional check value = .good taken ↔
      (value = none ∧ taken = none) ∨
        ∃ given x, value = some given ∧ taken = some x ∧ check given = .good x := by
  cases value with
  | none => simp [optional, eq_comm]
  | some given => simp [optional, Checked.map_eq_good, and_comm, eq_comm]

end Field

/-! ## Definitions -/

namespace Definition

variable {settings : Settings} {name : String} {executable : Given} {given : Overrides}
  {definition : Definition}

/-- Every field passes its check and ends up in the definition. -/
structure Passes (settings : Settings) (service : String) (program : Given) (given : Overrides)
    (definition : Definition) : Prop where
  name : Field.nonEmptyText "name" (.text service) = .good definition.name
  pattern : Field.nonEmptyText "pattern" (given.pattern.getD (.text service)) =
    .good definition.pattern
  executable : Field.nonEmptyText "executable" program = .good definition.executable
  arguments : Field.texts "arguments" (given.arguments.getD (.list [])) =
    .good definition.arguments
  workingDirectory :
    Field.path "working_dir" (given.workingDirectory.getD (.path settings.workingDirectory)) =
      .good definition.workingDirectory
  log : Field.text "log_file" (given.log.getD (.text settings.serviceLog)) = .good definition.log
  logMode : Field.logMode "log_mode" (given.logMode.getD (.text settings.serviceLogMode)) =
    .good definition.logMode
  fileLimit : Field.int "fd_limit" 0 none (given.fileLimit.getD (.int settings.fileLimit)) =
    .good definition.fileLimit
  maxAttempts :
    Field.int "max_attempts" 1 none (given.maxAttempts.getD (.int settings.maxAttempts)) =
      .good definition.maxAttempts
  attemptDelay :
    Field.seconds "attempt_delay" (given.attemptDelay.getD (.float settings.attemptDelay)) =
      .good definition.attemptDelay
  grace : Field.optional (Field.seconds "graceful_timeout") given.grace = .good definition.grace
  healthPort : Field.optional (Field.int "health_port" 1 (some 65535)) given.healthPort =
    .good definition.healthPort
  healthHost : Field.text "health_host" (given.healthHost.getD (.text settings.healthHost)) =
    .good definition.healthHost
  healthTimeout :
    Field.seconds "health_timeout" (given.healthTimeout.getD (.float settings.healthTimeout)) =
      .good definition.healthTimeout

/-- **A definition is good just if every field is.** -/
theorem check_eq_good :
    check settings name executable given = .good definition ↔
      Passes settings name executable given definition := by
  simp only [check, Checked.seq_eq_good, Checked.map_eq_good]
  constructor
  · intro h
    -- The last check first: each leaves the one before it.
    obtain ⟨_, _, h, htimeout, rfl⟩ := h
    obtain ⟨_, _, h, hhost, rfl⟩ := h
    obtain ⟨_, _, h, hport, rfl⟩ := h
    obtain ⟨_, _, h, hgrace, rfl⟩ := h
    obtain ⟨_, _, h, hdelay, rfl⟩ := h
    obtain ⟨_, _, h, hattempts, rfl⟩ := h
    obtain ⟨_, _, h, hlimit, rfl⟩ := h
    obtain ⟨_, _, h, hmode, rfl⟩ := h
    obtain ⟨_, _, h, hlog, rfl⟩ := h
    obtain ⟨_, _, h, hdirectory, rfl⟩ := h
    obtain ⟨_, _, h, harguments, rfl⟩ := h
    obtain ⟨_, _, h, hexecutable, rfl⟩ := h
    obtain ⟨_, _, h, hpattern, rfl⟩ := h
    obtain ⟨_, hname, rfl⟩ := h
    exact ⟨hname, hpattern, hexecutable, harguments, hdirectory, hlog, hmode, hlimit, hattempts,
      hdelay, hgrace, hport, hhost, htimeout⟩
  · intro h
    exact ⟨_, _, ⟨_, _, ⟨_, _, ⟨_, _, ⟨_, _, ⟨_, _, ⟨_, _, ⟨_, _, ⟨_, _, ⟨_, _, ⟨_, _, ⟨_, _, ⟨_, _,
      ⟨_, h.name, rfl⟩, h.pattern, rfl⟩, h.executable, rfl⟩, h.arguments, rfl⟩, h.workingDirectory,
      rfl⟩, h.log, rfl⟩, h.logMode, rfl⟩, h.fileLimit, rfl⟩, h.maxAttempts, rfl⟩, h.attemptDelay,
      rfl⟩, h.grace, rfl⟩, h.healthPort, rfl⟩, h.healthHost, rfl⟩, h.healthTimeout, rfl⟩

/-- A service that is defined has an executable, and has passed the checks with it. -/
theorem passes_of_resolve (h : resolve settings name given = .ok definition) :
    ∃ executable, (given.withPreset name).executable = some executable ∧
      Passes settings name executable (given.withPreset name) definition := by
  unfold resolve at h
  dsimp only at h
  split at h
  · exact absurd h (by simp)
  · rename_i executable hexecutable
    split at h
    · rename_i good hchecked
      rw [Except.ok.injEq] at h
      subst h
      exact ⟨executable, hexecutable, check_eq_good.mp hchecked⟩
    · exact absurd h (by simp)

/-! ## What a restart takes from a definition -/

/-- The pattern of a definition is the one given, else that of the preset, else the name. -/
theorem pattern_of_resolve {pattern : Option String}
    (h : resolve settings name { given with pattern := pattern.map .text } = .ok definition) :
    definition.pattern = patternOf name pattern ∧ definition.pattern ≠ "" := by
  obtain ⟨executable, -, hpasses⟩ := passes_of_resolve h
  have hpattern := hpasses.pattern
  rw [Field.nonEmptyText_eq_good] at hpattern
  refine ⟨?_, hpattern.2⟩
  obtain ⟨hgiven, -⟩ := hpattern
  cases pattern with
  | some pattern =>
    obtain rfl : pattern = definition.pattern := by simpa [Overrides.withPreset] using hgiven
    rfl
  | none =>
    rw [patternOf, Option.getD_none]
    simpa [Overrides.withPreset, eq_comm] using hgiven

/-- A definition is searched for as the service is listed. -/
theorem query?_of_resolve {pattern : Option String}
    (h : resolve settings name { given with pattern := pattern.map .text } = .ok definition) :
    definition.query? = Service.query? name pattern ∧ definition.query?.isSome = true := by
  obtain ⟨hpattern, hne⟩ := pattern_of_resolve h
  refine ⟨by rw [query?, Service.query?, hpattern], ?_⟩
  rw [query?, Query.ofPattern?, dif_pos hne]
  rfl

/-- The bounds of a definition make sense, and allow a search. -/
theorem patience_of_resolve (h : resolve settings name given = .ok definition) :
    ∃ patience, definition.patience = .ok patience ∧ 0 < patience.searches := by
  obtain ⟨executable, -, hpasses⟩ := passes_of_resolve h
  have hattempts : (1 : Int) ≤ definition.maxAttempts := (Field.int_eq_good.mp hpasses.maxAttempts).2.1
  have hdelay := (Field.seconds_eq_good.mp hpasses.attemptDelay).2
  have hgrace : ∀ grace, definition.grace.map Number.float = some grace →
      grace.isNegative = false := by
    intro grace hsome
    obtain ⟨x, hx, rfl⟩ := Option.map_eq_some_iff.mp hsome
    have hoptional := hpasses.grace
    rw [hx] at hoptional
    cases hgiven : given.grace with
    | none =>
      have : (given.withPreset name).grace = none := hgiven
      rw [this] at hoptional
      exact absurd hoptional (by simp [Field.optional])
    | some value =>
      have : (given.withPreset name).grace = some value := hgiven
      rw [this, Field.optional, Checked.map_eq_good] at hoptional
      obtain ⟨y, hy, heq⟩ := hoptional
      rw [Option.some.injEq] at heq
      exact Number.less_of_atMost (heq ▸ (Field.seconds_eq_good.mp hy).2)
  -- What the bounds are refused for is just what the checks of the fields have ruled out.
  have hless : (Number.int definition.maxAttempts).less 1 = false := by
    rw [← Bool.not_eq_true, Number.less_iff (Number.value?_int _) Number.value?_one, not_lt]
    exact_mod_cast hattempts
  have hchecked : definition.patience = .ok _ :=
    Patience.check_eq_ok.mpr ⟨rfl, hless, Number.less_of_atMost hdelay, hgrace⟩
  refine ⟨_, hchecked, ?_⟩
  rw [Patience.searches_of_int _ definition.maxAttempts rfl]
  omega

end Definition

end Service

end Relaunch
