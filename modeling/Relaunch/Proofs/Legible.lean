/-
  Null characters.

  The variables of a process hold no null character (`Environment.Plain`), for the system ends them at
  the first one, and no environment file brings one in (`plain_of_extended`).  So the data directory
  that the settings name holds none (`legible_of_loaded`), nor does the path of the log in it
  (`legible_logFile`).  What keeps such a path from being made or opened is always a system fault
  (`FileFault.system`).
-/
import Relaunch.Proofs.SettingsLayers
import Relaunch.Proofs.Shelter

namespace Relaunch

open Relaunch.Host

/-! ## Paths -/

namespace Host

variable {path base tail : Path}

theorem holdsNull_eq_false : holdsNull path = false ↔ ∀ part ∈ path.parts, '\x00' ∉ part.toList := by
  simp [holdsNull]

/-- Every part of a path is a piece of its text. -/
theorem legible_ofText {text : String} (plain : '\x00' ∉ text.toList) :
    holdsNull (Path.ofText text) = false := by
  rw [holdsNull_eq_false]
  intro part hmem hnull
  obtain ⟨piece, hpiece, rfl⟩ := List.mem_map.mp hmem
  rw [String.toList_ofList] at hnull
  exact plain (Path.mem_of_mem_splitSlashes (List.mem_filter.mp hpiece).1 hnull).1

theorem legible_join (h : holdsNull base = false) (h' : holdsNull tail = false) :
    holdsNull (base / tail) = false := by
  by_cases habsolute : tail.isAbsolute = true
  · rw [Path.join_of_absolute habsolute]
    exact h'
  · rw [Path.join_of_relative habsolute]
    rw [holdsNull_eq_false] at h h' ⊢
    intro part hmem
    exact (List.mem_append.mp hmem).elim (h part) (h' part)

/-- Taking double dots away adds no part. -/
theorem legible_withoutDoubleDots (h : holdsNull path = false) :
    holdsNull path.withoutDoubleDots = false := by
  rw [holdsNull_eq_false] at h ⊢
  intro part hmem
  exact h part ((Path.mem_of_mem_cancelDoubleDots _ _ hmem).resolve_left List.not_mem_nil).1

/-- Without a null character there is nothing to go wrong but what the system reports. -/
theorem FileFault.system {fault : Fault} (h : FileFault path fault)
    (legible : holdsNull path = false) : fault.isSystemFault = true := by
  refine h.resolve_right fun hnull => ?_
  rw [legible] at hnull
  exact Bool.false_ne_true hnull.2

end Host

/-! ## Environments -/

/-- No variable has a value with a null character. -/
def Environment.Plain (env : Environment) : Prop :=
  ∀ name value, env.get? name = some value → '\x00' ∉ value.toList

namespace EnvFile

variable {env extended : Environment}

/-- What can be set is plain. -/
theorem plain_of_setVariable {name value : String} (plain : env.Plain) (unset : env.has name = false)
    (h : setVariable env name value = .ok extended) : extended.Plain := by
  have hvalue : '\x00' ∉ value.toList := by
    intro hnull
    simp [setVariable, hnull] at h
  intro other content hcontent
  rw [eq_put_of_setVariable h, Environment.get?_put unset] at hcontent
  split at hcontent
  · exact Option.some.inj hcontent ▸ hvalue
  · exact plain other content hcontent

/-- What an environment file adds is plain, since nothing else can be set. -/
theorem plain_of_setMissing : ∀ {resolved : Resolved} {env : Environment}, env.Plain →
    setMissing env resolved = .ok extended → extended.Plain := by
  intro resolved
  induction resolved with
  | nil =>
    intro env plain h
    exact Except.ok.inj h ▸ plain
  | cons first rest ih =>
    obtain ⟨name, value⟩ := first
    intro env plain h
    cases value with
    | none => exact ih plain h
    | some value =>
      rw [setMissing] at h
      cases hhas : env.has name with
      | true =>
        rw [hhas, if_pos rfl] at h
        exact ih plain h
      | false =>
        rw [hhas, if_neg Bool.false_ne_true] at h
        obtain ⟨more, hset, hrest⟩ := Settings.bind_eq_ok.mp h
        exact ih (plain_of_setVariable plain hhas hset) hrest

end EnvFile

/-! ## Settings -/

namespace Settings

variable {env : Environment} {settings : Settings} {cwd : Path}

/-- An environment file keeps an environment plain. -/
theorem plain_of_extended {envFile : Option String} {extended : Environment} (plain : env.Plain)
    (h : Settings.extended env envFile = .ok extended) : extended.Plain := by
  unfold Settings.extended at h
  split at h
  · exact Except.ok.inj h ▸ plain
  · cases envFile with
    | none => exact Except.ok.inj h ▸ plain
    | some text => exact EnvFile.plain_of_setMissing plain (mapError_eq_ok.mp h)

theorem plain_getD (plain : env.Plain) {name fallback : String}
    (h : '\x00' ∉ fallback.toList) : '\x00' ∉ (env.getD name fallback).toList := by
  unfold Environment.getD
  cases hget : env.get? name with
  | none => exact h
  | some value => exact plain name value hget

/-- The home directory is read from a variable, less the slashes at its end. -/
theorem legible_home (plain : env.Plain) {home : Path} (h : Settings.home env = .ok home) :
    holdsNull home = false ∧ home.Normal := by
  unfold Settings.home at h
  dsimp only at h
  split at h
  · exact absurd h (by simp)
  · obtain rfl := Except.ok.inj h
    refine ⟨legible_ofText ?_, Path.normal_ofText _⟩
    split
    · decide
    · intro hnull
      rw [String.toList_ofList, List.mem_reverse] at hnull
      have hmem := List.mem_reverse.mp ((List.dropWhile_sublist _).mem hnull)
      exact plain_getD plain (by decide) hmem

/-- The data directory is named by a variable, or stands in the home directory. -/
theorem legible_of_read (plain : env.Plain) (h : read env cwd = .ok settings) :
    holdsNull settings.dataDirectory = false := by
  simp only [read, bind_eq_ok] at h
  obtain ⟨home, hhome, _, -, _, -, _, -, _, -, _, -, _, -, hsettings⟩ := h
  obtain rfl := Except.ok.inj hsettings
  obtain ⟨hlegible, hnormal⟩ := legible_home plain hhome
  show holdsNull (Path.ofText (((env.get? "RESTARTER_HOME")).getD _)) = false
  cases hget : env.get? "RESTARTER_HOME" with
  | none =>
    rw [Option.getD_none, Path.ofText_text (hnormal.join (Path.normal_ofText _))]
    exact legible_join hlegible (by decide)
  | some value => exact legible_ofText (plain _ value hget)

/-- **The data directory of a process holds no null character.** -/
theorem legible_of_loaded {envFile : Option String} (plain : env.Plain)
    (h : loaded env envFile cwd = .ok settings) : holdsNull settings.dataDirectory = false := by
  obtain ⟨extended, hextended, hread⟩ := bind_eq_ok.mp h
  exact legible_of_read (plain_of_extended plain hextended) (mapError_eq_ok.mp hread)

end Settings

/-- The log is named after the data directory and, if that is relative, the working directory. -/
theorem JournalSetup.legible_logFile {settings : Settings} {cwd : Path}
    (legible : holdsNull settings.dataDirectory = false) (here : holdsNull cwd = false) :
    holdsNull (logFile settings cwd).path = false :=
  legible_withoutDoubleDots (legible_join here (legible_join legible (by decide)))

end Relaunch
