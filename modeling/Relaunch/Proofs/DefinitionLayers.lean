/-
  Where the fields of a definition come from.

  What is given for a service comes as values of any kind.  Here every value is of the kind that its
  field takes (`Wishes`), and then nothing is left to be converted: the fields are those of a `Draft`,
  chosen wish by wish, and all that the checks do is to accept the draft or not.

  * `passes_iff`: the fields pass their checks just if the draft is `Acceptable`;
  * `resolve_layers`: a wish counts before a preset, a preset before the settings, and the settings are
    layered themselves.
-/
import Relaunch.Proofs.Definitions
import Relaunch.Proofs.SettingsLayers

namespace Relaunch

namespace Service

/-! ## Fields before they are checked -/

/-- What is wished for a service; every wish is of the kind that its field takes. -/
structure Wishes where
  pattern : Option String := none
  executable : Option String := none
  arguments : Option (List String) := none
  workingDirectory : Option Path := none
  log : Option String := none
  logMode : Option String := none
  fileLimit : Option Int := none
  maxAttempts : Option Int := none
  attemptDelay : Option Float := none
  grace : Option Float := none
  healthPort : Option Int := none
  healthHost : Option String := none
  healthTimeout : Option Float := none
  deriving Repr, Inhabited

/-- Wishes as values that are given. -/
def Wishes.overrides (wishes : Wishes) : Overrides where
  pattern := wishes.pattern.map .text
  executable := wishes.executable.map .text
  arguments := wishes.arguments.map fun items => .list (items.map .text)
  workingDirectory := wishes.workingDirectory.map .path
  log := wishes.log.map .text
  logMode := wishes.logMode.map .text
  fileLimit := wishes.fileLimit.map .int
  maxAttempts := wishes.maxAttempts.map .int
  attemptDelay := wishes.attemptDelay.map .float
  grace := wishes.grace.map .float
  healthPort := wishes.healthPort.map .int
  healthHost := wishes.healthHost.map .text
  healthTimeout := wishes.healthTimeout.map .float

/-- The fields of a service before they are checked. -/
structure Draft where
  name : String
  pattern : String
  executable : String
  arguments : List String
  workingDirectory : Path
  log : String
  logMode : String
  fileLimit : Int
  maxAttempts : Int
  attemptDelay : Float
  grace : Option Float
  healthPort : Option Int
  healthHost : String
  healthTimeout : Float
  deriving Repr, Inhabited

/-- The executable that is wished for, else the one that is preset. -/
def Wishes.executable? (wishes : Wishes) (name : String) : Option String :=
  wishes.executable.or ((Preset.named? name).map Preset.executable)

/-- The fields as they are wished for, else preset, else set. -/
def Wishes.draft (wishes : Wishes) (settings : Settings) (name executable : String) : Draft where
  name := name
  pattern := wishes.pattern.getD (((Preset.named? name).map Preset.pattern).getD name)
  executable := executable
  arguments := wishes.arguments.getD []
  workingDirectory := wishes.workingDirectory.getD settings.workingDirectory
  log := wishes.log.getD settings.serviceLog
  logMode := wishes.logMode.getD settings.serviceLogMode
  fileLimit := wishes.fileLimit.getD settings.fileLimit
  maxAttempts := wishes.maxAttempts.getD settings.maxAttempts
  attemptDelay := wishes.attemptDelay.getD settings.attemptDelay
  grace := wishes.grace
  healthPort := wishes.healthPort
  healthHost := wishes.healthHost.getD settings.healthHost
  healthTimeout := wishes.healthTimeout.getD settings.healthTimeout

/-- The fields can be accepted. -/
structure Draft.Acceptable (draft : Draft) : Prop where
  name : draft.name ≠ ""
  pattern : draft.pattern ≠ ""
  executable : draft.executable ≠ ""
  logMode : draft.logMode = "truncate" ∨ draft.logMode = "append"
  fileLimit : 0 ≤ draft.fileLimit
  maxAttempts : 1 ≤ draft.maxAttempts
  attemptDelay : (0 : Number).NoMoreThan (.float draft.attemptDelay)
  grace : ∀ seconds ∈ draft.grace, (0 : Number).NoMoreThan (.float seconds)
  healthPort : ∀ port ∈ draft.healthPort, 1 ≤ port ∧ port ≤ 65535
  healthTimeout : (0 : Number).NoMoreThan (.float draft.healthTimeout)

/-- The fields that a definition has. -/
def Definition.draft (definition : Definition) : Draft where
  name := definition.name
  pattern := definition.pattern
  executable := definition.executable
  arguments := definition.arguments
  workingDirectory := definition.workingDirectory
  log := definition.log
  logMode := definition.logMode.name
  fileLimit := definition.fileLimit
  maxAttempts := definition.maxAttempts
  attemptDelay := definition.attemptDelay
  grace := definition.grace
  healthPort := definition.healthPort
  healthHost := definition.healthHost
  healthTimeout := definition.healthTimeout

/-! ## Values of the right kind -/

namespace Field

variable {field : String}

theorem nonEmptyText_text {t t' : String} :
    nonEmptyText field (.text t) = .good t' ↔ t' = t ∧ t' ≠ "" := by
  rw [nonEmptyText_eq_good, Given.text.injEq, eq_comm (a := t)]

/-- What is wished for is taken, and else the fallback; the check of a text accepts either. -/
theorem text_getD {wish : Option String} {t t' : String} :
    text field ((wish.map .text).getD (.text t)) = .good t' ↔ t' = wish.getD t := by
  rw [Option.getD_map, text_eq_good, Given.text.injEq, eq_comm]

theorem texts_getD {wish : Option (List String)} {items : List String} :
    texts field ((wish.map fun items => .list (items.map .text)).getD (.list [])) = .good items ↔
      items = wish.getD [] := by
  have hinjective : Function.Injective Given.text := fun _ _ => Given.text.inj
  rw [texts_eq_good]
  cases wish with
  | none => simp [eq_comm]
  | some wished => simp [hinjective.list_map.eq_iff, eq_comm]

theorem path_getD {wish : Option Path} {p p' : Path} :
    path field ((wish.map .path).getD (.path p)) = .good p' ↔ p' = wish.getD p := by
  rw [Option.getD_map, path_eq_good]
  simp [eq_comm]

/-- A mode goes by its name, whichever layer it is from. -/
theorem logMode_getD {wish : Option String} {t : String} {mode : OpenMode} :
    logMode field ((wish.map .text).getD (.text t)) = .good mode ↔ mode.name = wish.getD t := by
  rw [Option.getD_map, logMode_eq_good, Given.text.injEq, eq_comm]

theorem int_int {low : Nat} {high : Option Nat} {n n' : Int} :
    int field low high (.int n) = .good n' ↔
      n' = n ∧ (low : Int) ≤ n' ∧ ∀ bound ∈ high, n' ≤ (bound : Int) := by
  rw [int_eq_good, toInt, Except.ok.injEq, eq_comm (a := n)]

theorem seconds_float {x x' : Float} :
    seconds field (.float x) = .good x' ↔ x' = x ∧ (0 : Number).NoMoreThan (.float x') := by
  rw [seconds_eq_good, toFloat, Except.ok.injEq, eq_comm (a := x), Number.atMost_iff]

/-- The bounds are those of the field, whichever layer the number is from. -/
theorem int_getD {low : Nat} {high : Option Nat} {wish : Option Int} {n n' : Int} :
    int field low high ((wish.map .int).getD (.int n)) = .good n' ↔
      n' = wish.getD n ∧ (low : Int) ≤ n' ∧ ∀ bound ∈ high, n' ≤ (bound : Int) := by
  rw [Option.getD_map, int_int]

theorem seconds_getD {wish : Option Float} {x x' : Float} :
    seconds field ((wish.map .float).getD (.float x)) = .good x' ↔
      x' = wish.getD x ∧ (0 : Number).NoMoreThan (.float x') := by
  rw [Option.getD_map, seconds_float]

/-- A wish that may be left out is taken as it is. -/
theorem optional_map {α : Type} {check : Given → Checked α} {given : α → Given}
    {passes : α → Prop} (checks : ∀ a b, check (given a) = .good b ↔ b = a ∧ passes b)
    {wish taken : Option α} :
    optional check (wish.map given) = .good taken ↔ taken = wish ∧ ∀ a ∈ taken, passes a := by
  cases wish with
  | none =>
    rw [Option.map_none, optional, Checked.good.injEq, eq_comm]
    refine ⟨fun h => ⟨h, fun a ha => ?_⟩, fun h => h.1⟩
    rw [h] at ha
    exact absurd ha (Option.not_mem_none a)
  | some a =>
    rw [Option.map_some, optional, Checked.map_eq_good]
    simp only [checks]
    constructor
    · rintro ⟨b, ⟨rfl, hpasses⟩, rfl⟩
      refine ⟨rfl, fun c hc => ?_⟩
      obtain rfl : b = c := Option.some.inj hc
      exact hpasses
    · rintro ⟨rfl, hpasses⟩
      exact ⟨a, ⟨rfl, hpasses a rfl⟩, rfl⟩

end Field

/-! ## Fields that are checked -/

namespace Definition

variable {settings : Settings} {name executable : String} {wishes : Wishes}
  {definition : Definition}

theorem name_of_mode (mode : OpenMode) : mode.name = "truncate" ∨ mode.name = "append" := by
  cases mode with
  | truncate => exact .inl rfl
  | append => exact .inr rfl

/-- **The fields pass their checks just if they can be accepted**, and then they are the fields of the
definition. -/
theorem passes_iff :
    Passes settings name (.text executable) (wishes.overrides.withPreset name) definition ↔
      definition.draft = wishes.draft settings name executable ∧ definition.draft.Acceptable := by
  have hpattern : (wishes.overrides.withPreset name).pattern.getD (.text name) =
      .text (wishes.draft settings name executable).pattern := by
    show ((wishes.pattern.map Given.text).or _).getD _ = _
    rw [Wishes.draft]
    cases wishes.pattern <;> rfl
  have hgrace : Field.optional (Field.seconds "graceful_timeout") (wishes.grace.map .float) =
      .good definition.grace ↔ definition.grace = wishes.grace ∧
        ∀ seconds ∈ definition.grace, (0 : Number).NoMoreThan (.float seconds) :=
    Field.optional_map fun _ _ => Field.seconds_float
  have hport : Field.optional (Field.int "health_port" 1 (some 65535)) (wishes.healthPort.map .int) =
      .good definition.healthPort ↔ definition.healthPort = wishes.healthPort ∧
        ∀ port ∈ definition.healthPort, 1 ≤ port ∧ port ≤ 65535 :=
    Field.optional_map fun _ _ => Field.int_int.trans (by simp)
  constructor
  · intro h
    obtain ⟨hname, hname'⟩ := Field.nonEmptyText_text.mp h.name
    obtain ⟨hpattern, hpattern'⟩ := Field.nonEmptyText_text.mp (hpattern ▸ h.pattern)
    obtain ⟨hexecutable, hexecutable'⟩ := Field.nonEmptyText_text.mp h.executable
    obtain ⟨hlimit, hlimit', -⟩ := Field.int_getD.mp h.fileLimit
    obtain ⟨hattempts, hattempts', -⟩ := Field.int_getD.mp h.maxAttempts
    obtain ⟨hdelay, hdelay'⟩ := Field.seconds_getD.mp h.attemptDelay
    obtain ⟨hgrace, hgrace'⟩ := hgrace.mp h.grace
    obtain ⟨hport, hport'⟩ := hport.mp h.healthPort
    obtain ⟨htimeout, htimeout'⟩ := Field.seconds_getD.mp h.healthTimeout
    refine ⟨?_, {
      name := hname'
      pattern := hpattern'
      executable := hexecutable'
      logMode := name_of_mode definition.logMode
      fileLimit := hlimit'
      maxAttempts := hattempts'
      attemptDelay := hdelay'
      grace := hgrace'
      healthPort := hport'
      healthTimeout := htimeout' }⟩
    rw [draft, Wishes.draft, Draft.mk.injEq]
    exact ⟨hname, hpattern, hexecutable, Field.texts_getD.mp h.arguments,
      Field.path_getD.mp h.workingDirectory, Field.text_getD.mp h.log,
      Field.logMode_getD.mp h.logMode, hlimit, hattempts, hdelay, hgrace, hport,
      Field.text_getD.mp h.healthHost, htimeout⟩
  · rintro ⟨hdraft, h⟩
    rw [draft, Wishes.draft, Draft.mk.injEq] at hdraft
    obtain ⟨hname, hpattern', hexecutable, harguments, hdirectory, hlog, hmode, hlimit, hattempts,
      hdelay, hgrace', hport', hhost, htimeout⟩ := hdraft
    exact {
      name := Field.nonEmptyText_text.mpr ⟨hname, h.name⟩
      pattern := by
        rw [hpattern]
        exact Field.nonEmptyText_text.mpr ⟨hpattern', h.pattern⟩
      executable := Field.nonEmptyText_text.mpr ⟨hexecutable, h.executable⟩
      arguments := Field.texts_getD.mpr harguments
      workingDirectory := Field.path_getD.mpr hdirectory
      log := Field.text_getD.mpr hlog
      logMode := Field.logMode_getD.mpr hmode
      fileLimit := Field.int_getD.mpr ⟨hlimit, h.fileLimit, nofun⟩
      maxAttempts := Field.int_getD.mpr ⟨hattempts, h.maxAttempts, nofun⟩
      attemptDelay := Field.seconds_getD.mpr ⟨hdelay, h.attemptDelay⟩
      grace := hgrace.mpr ⟨hgrace', h.grace⟩
      healthPort := hport.mpr ⟨hport', h.healthPort⟩
      healthHost := Field.text_getD.mpr hhost
      healthTimeout := Field.seconds_getD.mpr ⟨htimeout, h.healthTimeout⟩ }

/-- Fields that can be accepted are those of a definition. -/
theorem exists_draft {draft : Draft} (h : draft.Acceptable) :
    ∃ definition : Definition, definition.draft = draft := by
  obtain ⟨mode, hmode⟩ : ∃ mode : OpenMode, mode.name = draft.logMode := by
    rcases h.logMode with hmode | hmode
    · exact ⟨.truncate, hmode.symm⟩
    · exact ⟨.append, hmode.symm⟩
  refine ⟨{ draft with logMode := mode }, ?_⟩
  rw [Definition.draft, hmode]

/-- The executable is the one wished for, and else the one of the preset. -/
theorem executable_withPreset (wishes : Wishes) (name : String) :
    (wishes.overrides.withPreset name).executable = (wishes.executable? name).map .text := by
  show (wishes.executable.map Given.text).or _ = _
  rw [Wishes.executable?]
  cases wishes.executable with
  | some executable => rfl
  | none =>
    rw [Option.map_none, Option.none_or, Option.none_or, Option.map_map]
    rfl

/-- Without an executable nothing is checked. -/
theorem resolve_of_none (h : wishes.executable? name = none) :
    resolve settings name wishes.overrides = .error (.unknown name) := by
  rw [resolve, executable_withPreset, h]
  rfl

/-- With an executable, a service is defined just if its draft passes the checks, and as the draft
has it. -/
theorem resolve_of_some (h : wishes.executable? name = some executable) :
    resolve settings name wishes.overrides = .ok definition ↔
      definition.draft = wishes.draft settings name executable ∧ definition.draft.Acceptable := by
  rw [← passes_iff, ← check_eq_good, resolve, executable_withPreset, h]
  dsimp only [Option.map_some]
  cases check settings name (.text executable) (wishes.overrides.withPreset name) <;> simp

theorem resolve_ne_unknown (h : wishes.executable? name = some executable) :
    resolve settings name wishes.overrides ≠ .error (.unknown name) := by
  rw [resolve, executable_withPreset, h]
  dsimp only [Option.map_some]
  cases check settings name (.text executable) (wishes.overrides.withPreset name) <;> simp

/-- How a service is defined from wishes and settings. -/
structure Resolves (settings : Settings) (name : String) (wishes : Wishes) : Prop where
  unknown : resolve settings name wishes.overrides = .error (.unknown name) ↔
    wishes.executable? name = none
  defined : (∃ definition, resolve settings name wishes.overrides = .ok definition) ↔
    ∃ executable, wishes.executable? name = some executable ∧
      (wishes.draft settings name executable).Acceptable
  fields : ∀ definition, resolve settings name wishes.overrides = .ok definition →
    ∃ executable, wishes.executable? name = some executable ∧
      definition.draft = wishes.draft settings name executable

/-- **Every service is defined by its draft or not at all.** -/
theorem resolves (settings : Settings) (name : String) (wishes : Wishes) :
    Resolves settings name wishes := by
  cases hexecutable : wishes.executable? name with
  | none =>
    have hunknown : resolve settings name wishes.overrides = .error (.unknown name) :=
      resolve_of_none hexecutable
    have hundefined : ∀ definition, resolve settings name wishes.overrides ≠ .ok definition :=
      fun definition h => by simp [hunknown] at h
    refine ⟨⟨fun _ => hexecutable, fun _ => hunknown⟩, ⟨?_, ?_⟩, ?_⟩
    · rintro ⟨definition, hresolves⟩
      exact absurd hresolves (hundefined definition)
    · rintro ⟨executable, hsome, -⟩
      exact absurd (hexecutable.symm.trans hsome) (by simp)
    · exact fun definition hresolves => absurd hresolves (hundefined definition)
  | some executable =>
    refine ⟨⟨fun h => absurd h (resolve_ne_unknown hexecutable), fun h => ?_⟩, ⟨?_, ?_⟩, ?_⟩
    · exact absurd (hexecutable.symm.trans h) (by simp)
    · rintro ⟨definition, hresolves⟩
      obtain ⟨hdraft, hacceptable⟩ := (resolve_of_some hexecutable).mp hresolves
      exact ⟨executable, hexecutable, hdraft ▸ hacceptable⟩
    · rintro ⟨chosen, hsome, hacceptable⟩
      obtain rfl : executable = chosen := Option.some.inj (hexecutable.symm.trans hsome)
      obtain ⟨definition, hdraft⟩ := exists_draft hacceptable
      exact ⟨definition, (resolve_of_some hexecutable).mpr ⟨hdraft, hdraft ▸ hacceptable⟩⟩
    · intro definition hresolves
      exact ⟨executable, hexecutable, ((resolve_of_some hexecutable).mp hresolves).1⟩

/-- **Where the fields of a definition come from.** Whatever is wished for counts, else what is preset,
else the settings; and the settings say what the environment says, else the environment file, else
their defaults. A service without an executable is unknown, and any other is defined just if its
fields can be accepted. -/
theorem resolve_layers {env : Environment} {envFile : Option String} {host after : Host}
    {settings : Settings} (loads : Settings.load env envFile host = .ok settings after)
    (name : String) (wishes : Wishes) :
    Settings.Says (Settings.textOf env envFile) host.cwd settings ∧
      Resolves settings name wishes :=
  ⟨(Settings.load_says env envFile host).of_ok loads, resolves settings name wishes⟩

/-- An environment in which the log has the empty name. -/
def quietEnvironment : Environment where
  bindings := [("RESTARTER_LOG_FILE", ""), ("RESTARTER_MAX_ATTEMPTS", "7")]

theorem resolve_layers_quiet :
    ∃ settings after, Settings.load quietEnvironment
        (some "RESTARTER_LOG_FILE=a\nRESTARTER_FD_LIMIT=0\nRESTARTER_FD_LIMIT=9") {} =
          .ok settings after ∧
      settings.serviceLog = "" ∧ settings.fileLimit = 9 ∧
      ∃ definition, resolve settings "proxy" { fileLimit := some 0 : Wishes }.overrides =
          .ok definition ∧
        definition.pattern = "ppaass-proxy" ∧ definition.log = "" ∧ definition.fileLimit = 0 := by
  let wishes : Wishes := { fileLimit := some 0 }
  have hread : Ends (Settings.load quietEnvironment
      (some "RESTARTER_LOG_FILE=a\nRESTARTER_FD_LIMIT=0\nRESTARTER_FD_LIMIT=9")) {}
      (fun settings _ => (settings.serviceLog, settings.fileLimit,
        (resolve settings "proxy" wishes.overrides).toBool) = ("", 9, true)) (fun _ _ => False) :=
    .of_returned? _ _ (by decide +kernel)
  obtain ⟨settings, after, hloads, hvalues⟩ := hread.exists_ok
  simp only [Prod.mk.injEq] at hvalues
  obtain ⟨hlog, hlimit, hdefined⟩ := hvalues
  obtain ⟨-, h⟩ := resolve_layers hloads "proxy" wishes
  refine ⟨settings, after, hloads, hlog, hlimit, ?_⟩
  cases hresolves : resolve settings "proxy" wishes.overrides with
  | error error =>
    rw [hresolves] at hdefined
    exact absurd hdefined Bool.false_ne_true
  | ok definition =>
    obtain ⟨executable, -, hdraft⟩ := h.fields definition hresolves
    have hpattern := congrArg Draft.pattern hdraft
    have hfile := congrArg Draft.log hdraft
    have hopen := congrArg Draft.fileLimit hdraft
    exact ⟨definition, rfl, hpattern, hfile.trans hlog, hopen⟩

end Definition

end Service

end Relaunch
