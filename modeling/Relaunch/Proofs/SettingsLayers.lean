/-
  Where the settings come from.

  A setting is a variable with a default.  The environment says what the variable is; what it does not
  say, an environment file may add; and what neither says is the default.

  * `get?_of_setMissing`: loading an environment file changes no variable that is set, and gives every
    other one the value that its name has in the file, which is unique (`resolve_distinct`);
  * `load_says`: the settings that are loaded say what their texts say (`Says`), each from the first
    of the three that has one (`textOf`).
-/
import Relaunch.Proofs.Backstage
import Mathlib.Data.List.Nodup

namespace Relaunch

/-! ## Environment files -/

namespace Environment

theorem has_eq_false {env : Environment} {name : String} :
    env.has name = false ↔ env.get? name = none := by
  rw [has, Option.isSome_eq_false_iff, Option.isNone_iff_eq_none]

/-- A variable that was not set has the value that it is given. -/
theorem get?_put {env : Environment} {name : String} (unset : env.has name = false)
    (value other : String) :
    (env.put name value).get? other = if other = name then some value else env.get? other := by
  have hnone : env.bindings.lookup name = none := has_eq_false.mp unset
  rw [put, if_neg (by rw [unset]; exact Bool.false_ne_true), get?, get?, List.lookup_append]
  split
  · rename_i heq
    rw [heq, hnone, List.lookup_cons_self, Option.none_or]
  · rename_i hne
    have hbeq : (other == name) = false := beq_false_of_ne hne
    rw [List.lookup_cons, hbeq, List.lookup_nil, Option.or_none]

end Environment

namespace EnvFile

/-- Every name stands once among the names with their values. -/
def Resolved.Distinct (resolved : Resolved) : Prop := (resolved.map Prod.fst).Nodup

/-- A name that is set again keeps its one entry. -/
theorem Resolved.put_distinct {resolved : Resolved} (h : resolved.Distinct) (name : String)
    (value : Option String) : (resolved.put name value).Distinct := by
  unfold Resolved.put
  split
  · have hnames : (resolved.map fun r => if r.1 = name then (name, value) else r).map Prod.fst =
        resolved.map Prod.fst := by
      rw [List.map_map]
      refine List.map_congr_left fun r _ => ?_
      by_cases heq : r.1 = name
      · simp [heq]
      · simp [heq]
    rwa [Distinct, hnames]
  · rename_i hunbound
    rw [Distinct, List.map_append, List.map_singleton]
    refine List.nodup_append.mpr ⟨h, List.nodup_singleton _, fun a ha b hb => ?_⟩
    rintro rfl
    obtain rfl : a = name := List.mem_singleton.mp hb
    obtain ⟨⟨b, old⟩, hmem, rfl⟩ := List.mem_map.mp ha
    refine hunbound ?_
    rw [List.lookup_isSome_iff]
    exact ⟨_, hmem, beq_self_eq_true _⟩

/-- By induction on the lines of the file. -/
theorem resolve_distinct (env : Environment) (bindings : List (String × Option String)) :
    (resolve env bindings).Distinct := by
  unfold resolve
  have hfold : ∀ (bindings : List (String × Option String)) (resolved : Resolved),
      resolved.Distinct → (bindings.foldl (fun resolved binding =>
        let value := binding.2.map fun value =>
          String.ofList (expand (referent? env resolved) 0 value.toList)
        resolved.put binding.1 value) resolved).Distinct := by
    intro bindings
    induction bindings with
    | nil => exact fun _ h => h
    | cons binding rest ih => exact fun resolved h => ih _ (resolved.put_distinct h _ _)
  exact hfold bindings [] List.nodup_nil

/-- The value that a name has, if it has one. -/
def Resolved.value? (resolved : Resolved) (name : String) : Option String :=
  (resolved.lookup name).join

theorem Resolved.value?_cons (name : String) (value : Option String) (rest : Resolved)
    (other : String) :
    Resolved.value? ((name, value) :: rest) other =
      if other = name then value else rest.value? other := by
  rw [Resolved.value?, List.lookup_cons]
  by_cases heq : other = name
  · rw [heq, beq_self_eq_true, if_pos rfl]
    rfl
  · rw [beq_false_of_ne heq, if_neg heq]
    rfl

theorem Resolved.value?_of_not_mem {resolved : Resolved} {name : String}
    (h : name ∉ resolved.map Prod.fst) : resolved.value? name = none := by
  have hnone : resolved.lookup name = none := by
    refine List.lookup_eq_none_iff.mpr fun binding hmem => bne_iff_ne.mpr fun heq => h ?_
    exact heq ▸ List.mem_map_of_mem hmem
  rw [value?, hnone]
  rfl

/-- A variable is set if that is possible. -/
theorem eq_put_of_setVariable {env extended : Environment} {name value : String}
    (h : setVariable env name value = .ok extended) : extended = env.put name value := by
  unfold setVariable at h
  split at h
  · exact absurd h (by simp)
  · split at h
    · exact absurd h (by simp)
    · exact (Except.ok.inj h).symm

/-- A variable is as the environment has it, else as the file gives it. -/
theorem get?_of_setMissing : ∀ {resolved : Resolved} {env extended : Environment},
    resolved.Distinct → setMissing env resolved = .ok extended →
      ∀ name, extended.get? name = (env.get? name).or (resolved.value? name) := by
  intro resolved
  induction resolved with
  | nil =>
    intro env extended _ hset name
    obtain rfl : env = extended := Except.ok.inj hset
    exact (Option.or_none).symm
  | cons first rest ih =>
    obtain ⟨bound, value⟩ := first
    intro env extended hdistinct hset name
    obtain ⟨hnew, hrest⟩ := List.nodup_cons.mp hdistinct
    have hfresh := Resolved.value?_of_not_mem hnew
    rw [Resolved.value?_cons]
    cases value with
    | none =>
      rw [ih hrest hset name]
      split
      · rename_i heq
        rw [heq, hfresh]
      · rfl
    | some value =>
      rw [setMissing] at hset
      cases hhas : env.has bound with
      | true =>
        rw [hhas, if_pos rfl] at hset
        rw [ih hrest hset name]
        split
        · rename_i heq
          obtain ⟨old, hold⟩ := Option.isSome_iff_exists.mp hhas
          rw [heq, hold, Option.some_or, Option.some_or]
        · rfl
      | false =>
        rw [hhas, if_neg Bool.false_ne_true] at hset
        cases hput : setVariable env bound value with
        | error error =>
          rw [hput] at hset
          exact absurd hset (by simp [bind, Except.bind])
        | ok more =>
          rw [hput] at hset
          have hget := Environment.get?_put hhas value name
          rw [← eq_put_of_setVariable hput] at hget
          rw [ih hrest hset name, hget]
          split
          · rename_i heq
            rw [heq, Environment.has_eq_false.mp hhas, Option.some_or, Option.none_or]
          · rfl

end EnvFile

/-! ## Settings -/

namespace Settings

/-- What an environment file gives for a variable: nothing, if there is none or they are turned off. -/
def fileValue? (env : Environment) (envFile : Option String) (name : String) : Option String :=
  if EnvFile.isDisabled env then none
  else envFile.bind fun text =>
    (EnvFile.resolve env (EnvFile.bindings (EnvFile.statements text))).value? name

/-- The text of a setting: what the environment says, even if it is the empty text, else what the
environment file says, else the default. -/
def textOf (env : Environment) (envFile : Option String) (name fallback : String) : String :=
  ((env.get? name).or (fileValue? env envFile name)).getD fallback

/-- The settings that go into definitions are what their texts say, in a process that runs in `cwd`. -/
structure Says (text : (name fallback : String) → String) (cwd : Path) (settings : Settings) :
    Prop where
  workingDirectory :
    settings.workingDirectory = Path.ofText (text "RESTARTER_WORKDIR" cwd.text)
  serviceLog : settings.serviceLog = text "RESTARTER_LOG_FILE" "run.log"
  serviceLogMode : settings.serviceLogMode = text "RESTARTER_LOG_MODE" "truncate"
  maxAttempts : Number.readInt (text "RESTARTER_MAX_ATTEMPTS" "5") = .ok settings.maxAttempts
  attemptDelay :
    Number.readFloat (text "RESTARTER_ATTEMPT_DELAY" "2") = .ok settings.attemptDelay
  fileLimit : Number.readInt (text "RESTARTER_FD_LIMIT" "65536") = .ok settings.fileLimit
  healthHost : settings.healthHost = text "RESTARTER_HEALTH_HOST" "127.0.0.1"
  healthTimeout :
    Number.readFloat (text "RESTARTER_HEALTH_TIMEOUT" "10") = .ok settings.healthTimeout

theorem mapError_eq_ok {ε ε' α : Type} {f : ε → ε'} {result : Except ε α} {a : α} :
    result.mapError f = .ok a ↔ result = .ok a := by
  cases result <;> simp [Except.mapError]

theorem bind_eq_ok {ε α β : Type} {result : Except ε α} {next : α → Except ε β} {b : β} :
    (result >>= next) = .ok b ↔ ∃ a, result = .ok a ∧ next a = .ok b := by
  cases result <;> simp [bind, Except.bind]

theorem throw_ne_ok {ε α : Type} {error : ε} {a : α} : (throw error : Except ε α) ≠ .ok a := nofun

/-- Settings that were read say what the variables say, with a fallback for each. -/
theorem says_of_read {env : Environment} {cwd : Path} {settings : Settings}
    (h : read env cwd = .ok settings) : Says env.getD cwd settings := by
  simp only [read, bind_eq_ok] at h
  obtain ⟨_, -, _, -, _, -, attempts, hattempts, delay, hdelay, limit, hlimit, timeout, htimeout,
    hsettings⟩ := h
  obtain rfl := Except.ok.inj hsettings
  exact {
    workingDirectory := rfl
    serviceLog := rfl
    serviceLogMode := rfl
    maxAttempts := mapError_eq_ok.mp hattempts
    attemptDelay := mapError_eq_ok.mp hdelay
    fileLimit := mapError_eq_ok.mp hlimit
    healthHost := rfl
    healthTimeout := mapError_eq_ok.mp htimeout }

/-- An environment file adds what the environment does not say. -/
theorem extend_getD (env : Environment) (envFile : Option String) (host : Host) :
    Ends (extend env envFile) host (fun extended _ => extended.getD = textOf env envFile)
      (fun _ _ => True) := by
  have hnone : (∀ name, fileValue? env envFile name = none) →
      env.getD = textOf env envFile := by
    intro h
    funext name fallback
    rw [textOf, h, Option.or_none]
    rfl
  unfold extend
  cases hdisabled : EnvFile.isDisabled env with
  | true =>
    rw [if_pos rfl, ends_bind, Host.ends_say, ends_pure]
    exact hnone fun name => by rw [fileValue?, hdisabled, if_pos rfl]
  | false =>
    rw [if_neg Bool.false_ne_true]
    cases envFile with
    | none =>
      exact hnone fun name => by rw [fileValue?, hdisabled, if_neg Bool.false_ne_true]; rfl
    | some text =>
      dsimp only
      rw [ends_bind]
      refine (announceSenseless_confined _ host).imp (fun _ after _ => ?_) (fun _ _ _ => trivial)
      split
      · rename_i extended hload
        rw [ends_pure]
        funext name fallback
        have hget := EnvFile.get?_of_setMissing (EnvFile.resolve_distinct _ _) hload name
        rw [Environment.getD, hget, textOf, fileValue?, hdisabled, if_neg Bool.false_ne_true]
        rfl
      · trivial

/-- Settings that can be loaded say what the environment and the environment file say. -/
theorem load_says (env : Environment) (envFile : Option String) (host : Host) :
    Ends (load env envFile) host
      (fun settings _ => Says (textOf env envFile) host.cwd settings) (fun _ _ => True) := by
  rw [load, ends_bind, Ends]
  cases hextend : extend env envFile host with
  | error f mid => trivial
  | ok extended mid =>
    have hcwd : mid.cwd = host.cwd :=
      ((extend_confined env envFile host).of_ok hextend).alike.view Host.cwd
    show Ends (get >>= _) mid _ _
    rw [ends_bind, ends_get, ← (extend_getD env envFile host).of_ok hextend, ← hcwd]
    split
    · rename_i hread
      exact says_of_read hread
    · trivial

end Settings

end Relaunch
