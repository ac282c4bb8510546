/-
  Before the request, in a data directory that exists.

  Loading the settings is a matter of talk, and what comes of it is settled beforehand (`loaded`,
  `load_ends`).  Setting the journal up makes no directory then, and opens no file but the log: it stays
  within the data directory (`run_sheltered`), whatever becomes of the log.  So hosts that are peers but
  for the inside of the data directory are still peers when a request is seen to (`run_mirrors`).
-/
import Relaunch.Proofs.Peers

namespace Relaunch

open Relaunch.FileTree Relaunch.Host

variable {area : Place} {host : Host}

/-! ## Loading the settings -/

namespace Settings

/-- The settings without the bounds on the supervisor's own log. -/
def unlogged (settings : Settings) : Settings := { settings with logMaxBytes := 0, logBackups := 0 }

/-- The environment after an environment file, or the fault that the file amounts to. -/
def extended (env : Environment) (envFile : Option String) : Except Fault Environment :=
  if EnvFile.isDisabled env then .ok env
  else match envFile with
    | none => .ok env
    | some text => (EnvFile.load env (EnvFile.statements text)).mapError fun error =>
        (ReadError.badVariable error).fault

/-- The settings of a process that runs in the directory `cwd`, or the fault that they amount to. -/
def loaded (env : Environment) (envFile : Option String) (cwd : Path) : Except Fault Settings := do
  (read (← extended env envFile) cwd).mapError ReadError.fault

/-- Talk before the journal is set up stays out of all files. -/
theorem sheltered_of_confined {after : Host} (fresh : host.journal.handlers = [])
    (h : Confined Nowhere Nowhere host after) : Sheltered area host after := by
  have huntaken : ∀ place, ¬host.journal.Takes place := by
    rintro place ⟨log, hmem, -⟩
    rw [fresh] at hmem
    exact List.not_mem_nil hmem
  refine ⟨.of_alike h.alike, fun place _ => h.sameAt fun howns => ?_, fun place htakes => ?_⟩
  · obtain ⟨log, hmem, -⟩ := howns
    rw [fresh] at hmem
    exact List.not_mem_nil hmem
  · exact absurd (h.journal ▸ htakes) (huntaken place)

theorem announceSenseless_returns : ∀ (lines : List Nat) (host : Host),
    Ends (announceSenseless lines) host (fun _ _ => True) fun _ _ => False := by
  intro lines
  induction lines with
  | nil => exact fun _ => trivial
  | cons line rest ih => exact fun host => ih _

theorem extend_ends (env : Environment) (envFile : Option String) (host : Host) :
    Ends (extend env envFile) host (fun env' _ => extended env envFile = .ok env')
      (fun f _ => extended env envFile = .error f) := by
  unfold extend extended
  cases EnvFile.isDisabled env with
  | true => exact rfl
  | false =>
    cases envFile with
    | none => exact rfl
    | some text =>
      simp only [Bool.false_eq_true, if_false, ends_bind]
      refine (announceSenseless_returns _ host).imp (fun _ after _ => ?_) fun _ _ => False.elim
      cases EnvFile.load env (EnvFile.statements text) with
      | ok env' => exact rfl
      | error error => exact rfl

/-- What comes of loading the settings is settled beforehand. -/
theorem load_ends (env : Environment) (envFile : Option String) (host : Host) :
    Ends (load env envFile) host (fun settings _ => loaded env envFile host.cwd = .ok settings)
      (fun f _ => loaded env envFile host.cwd = .error f) := by
  have hextends := extend_ends env envFile host
  rw [load, ends_bind, Ends]
  cases hextend : extend env envFile host with
  | error f mid =>
    show loaded env envFile host.cwd = .error f
    rw [loaded, hextends.of_error hextend]
    rfl
  | ok env' mid =>
    have hcwd : mid.cwd = host.cwd :=
      ((extend_confined env envFile host).of_ok hextend).alike.view Host.cwd
    have hloaded : loaded env envFile host.cwd =
        (read env' host.cwd).mapError ReadError.fault := by
      simp only [loaded, hextends.of_ok hextend, bind, Except.bind]
    dsimp only
    rw [hloaded, ends_bind, ends_get, hcwd]
    cases read env' host.cwd with
    | ok settings => exact rfl
    | error error => exact rfl

end Settings

/-! ## Directories that exist -/

namespace Host

variable {path : Path}

/-- A directory that exists cannot be made, which is a fault that is put up with. -/
theorem makeDirectory_of_directory (there : isDirectory path host = .ok true host) :
    Ends (makeDirectory path) host (fun _ _ => False)
      (fun f after => after = host ∧ isNotFound f = false ∧ f.isSystemFault = true) := by
  obtain ⟨-, hfound⟩ := (isDirectory_ends path host).of_ok there
  obtain ⟨hnull, hdirectory⟩ := hfound rfl
  obtain ⟨place, hresolves⟩ :
      ∃ place, host.files.resolve host.cwdPlace path = .ok (.directory place) := by
    unfold FileTree.isDirectory at hdirectory
    split at hdirectory
    · rename_i place hresolves
      exact ⟨place, hresolves⟩
    · simp at hdirectory
    · simp at hdirectory
  rw [makeDirectory, ends_bind, locate, ends_bind, ends_get, if_neg (ne_true_of_eq_false hnull)]
  by_cases hdenied : host.deniedPaths.contains path.text = true
  · simp only [hdenied, if_true, ends_bind, ends_throw]
    exact ⟨trivial, rfl, rfl⟩
  · simp only [hdenied, hresolves]
    exact ⟨rfl, rfl, rfl⟩

/-- Nothing is made where there is a directory already. -/
theorem makeDirectories_of_directory (there : isDirectory path host = .ok true host) :
    Ends (makeDirectories path) host (fun _ after => after = host) fun _ _ => False := by
  -- At every depth the fault is put up with by asking whether the directory is there.
  have hput : ∀ depth handler, upTo path depth = path →
      (∀ f, isNotFound f = false → handler f = acceptDirectory (upTo path depth) f) →
      Ends (tryCatch (makeDirectory (upTo path depth)) handler) host (fun _ after => after = host)
        fun _ _ => False := by
    intro depth handler hall hhandler
    rw [hall] at hhandler ⊢
    rw [ends_tryCatch]
    refine (makeDirectory_of_directory there).imp (fun _ _ => False.elim) fun f after h => ?_
    obtain ⟨rfl, hfound, hsystem⟩ := h
    rw [hhandler f hfound, acceptDirectory, hsystem]
    show Ends (isDirectory path >>= _) after _ _
    rw [ends_bind, Ends, there]
    exact rfl
  have hall : upTo path path.parts.length = path := by rw [upTo, List.take_length]
  rw [makeDirectories]
  cases hdepth : path.parts.length with
  | zero => exact hput 0 _ (hdepth ▸ hall) fun _ hfound => if_neg (ne_true_of_eq_false hfound)
  | succ depth =>
    exact hput (depth + 1) _ (hdepth ▸ hall) fun _ hfound => if_neg (ne_true_of_eq_false hfound)

/-- A path that holds a null character cannot be opened, and no other path fails for that reason. -/
theorem openFile_null (path : Path) (mode : OpenMode) (host : Host) :
    Ends (openFile path mode) host (fun _ _ => holdsNull path = false)
      (fun f _ => f.isSystemFault = true ∧ holdsNull path = false ∨
        f = .nullInPath ∧ holdsNull path = true) := by
  cases hnull : holdsNull path with
  | true =>
    rw [openFile, ends_bind, locate, ends_bind, ends_get, if_pos hnull, ends_bind, ends_throw]
    exact .inr ⟨rfl, rfl⟩
  | false =>
    refine (openFile_ends path mode host).imp (fun _ _ _ => rfl) fun f after h => ?_
    rcases h.2 with hsystem | ⟨-, hholds⟩
    · exact .inl ⟨hsystem, rfl⟩
    · rw [hnull] at hholds
      exact absurd hholds Bool.false_ne_true

end Host

/-! ## Setting the journal up -/

namespace JournalSetup

variable {settings : Settings}

/-- The older logs stand in the data directory, like the log. -/
theorem takes_within (settings : Settings) (cwd : Path) {place : Place}
    (h : (logFile settings cwd).Takes place) : Within (dataPlace settings cwd) place := by
  obtain ⟨n, -, hinside⟩ := h
  obtain ⟨name, hname⟩ : ∃ name,
      (logFile settings cwd).backup n = dataPlace settings cwd ++ [name] := by
    cases n with
    | zero => exact ⟨"restarter.log", logFile_place settings cwd⟩
    | succ n =>
      rw [LogFile.backup, logFile_place, List.dropLast_concat]
      exact ⟨_, rfl⟩
  rw [hname] at hinside
  obtain ⟨rest, rfl⟩ := hinside
  rw [List.append_assoc]
  exact within_append (by simp)

/-- In a data directory that exists the log is opened, or nothing is done at all. -/
theorem openLog_of_directory (absolute : host.cwd.isAbsolute = true)
    (there : isDirectory settings.dataDirectory host = .ok true host) :
    Ends (openLog settings) host
      (fun log after => log = logFile settings host.cwd ∧
        after = host.opened (logFile settings host.cwd).place .append ∧
        holdsNull (logFile settings host.cwd).path = false)
      (fun f after => after = host ∧
        (f.isSystemFault = true ∧ holdsNull (logFile settings host.cwd).path = false ∨
          f = .nullInPath ∧ holdsNull (logFile settings host.cwd).path = true)) := by
  rw [openLog, ends_bind]
  refine (makeDirectories_of_directory there).imp (fun _ made hmade => ?_) fun _ _ => False.elim
  subst hmade
  rw [ends_bind, ends_get, ends_bind]
  have hnull := openFile_null (logFile settings made.cwd).path .append made
  refine ((openFile_ends (logFile settings made.cwd).path .append made).and hnull).imp
    (fun place after h => ?_) fun f after h => ⟨h.1.1, h.2⟩
  obtain ⟨⟨hplace, hafter⟩, hplain⟩ := h
  rw [placeOf_logFile settings absolute] at hplace
  exact ⟨rfl, hplace ▸ hafter, hplain⟩

/-- **Setting the journal up stays within a data directory that exists.**  It breaks off only if the
path of the log holds a null character. -/
theorem run_sheltered (verbose : Bool) (fresh : host.journal.handlers = [])
    (absolute : host.cwd.isAbsolute = true)
    (there : isDirectory settings.dataDirectory host = .ok true host) :
    Ends (run settings verbose) host
      (fun _ after => Sheltered (dataPlace settings host.cwd) host after ∧
        holdsNull (logFile settings host.cwd).path = false)
      (fun f after => after = host ∧ f = .nullInPath ∧
        holdsNull (logFile settings host.cwd).path = true) := by
  rw [run, ends_bind, ends_get, fresh, List.isEmpty_nil, if_pos rfl, ends_bind, logHandlers,
    ends_tryCatch, ends_bind]
  refine (openLog_of_directory absolute there).imp (fun log after h => ?_) fun f after h => ?_
  · obtain ⟨rfl, rfl, hplain⟩ := h
    rw [ends_pure, ends_modify]
    refine ⟨⟨rfl, fun place houtside => ?_, fun place htaken => ?_⟩, hplain⟩
    · refine append_sameAt "" fun heq => houtside ?_
      rw [heq]
      exact takes_within settings host.cwd (LogFile.place_takes _)
    · obtain ⟨log, hmem, htakes⟩ := htaken
      obtain rfl : log = logFile settings host.cwd := by simpa using hmem
      exact takes_within settings host.cwd htakes
  · obtain ⟨rfl, ⟨hsystem, hplain⟩ | ⟨rfl, hnull⟩⟩ := h
    · -- The log cannot be opened, so there is no more than the console.
      rw [if_pos hsystem, ends_bind, complain, ends_modify, ends_pure, ends_modify]
      refine ⟨⟨rfl, fun place _ => .refl _ place, fun place htaken => ?_⟩, hplain⟩
      obtain ⟨log, hmem, -⟩ := htaken
      exact absurd hmem (by simp)
    · exact ⟨rfl, rfl, hnull⟩

variable {area cwd : Place} {ready ready' : Host} {settings' : Settings}

/-- Peers set their journals up alike: both go on, or both break off, whatever becomes of the logs. -/
theorem run_mirrors (verbose verbose' : Bool) (peers : Peers area cwd ready ready')
    (fresh : ready.journal.handlers = []) (fresh' : ready'.journal.handlers = [])
    (absolute : ready.cwd.isAbsolute = true) (place : dataPlace settings ready.cwd = area)
    (same : settings'.dataDirectory = settings.dataDirectory)
    (there : isDirectory settings.dataDirectory ready = .ok true ready)
    (there' : isDirectory settings.dataDirectory ready' = .ok true ready') :
    Mirrors (run settings verbose) ready (run settings' verbose') ready'
      (fun _ after _ after' => Peers area cwd after after') (Peers area cwd) := by
  have hplace : dataPlace settings' ready'.cwd = area := by
    rw [dataPlace, same, peers.here', ← place, dataPlace]
  have hlog : (logFile settings' ready'.cwd).path = (logFile settings ready.cwd).path := by
    rw [logFile, logFile, Settings.supervisorLog, Settings.supervisorLog, same, peers.here']
  refine .of_ends (run_sheltered verbose fresh absolute there)
    (run_sheltered verbose' fresh' (peers.here' ▸ absolute) (same ▸ there')) ?_ ?_
  · rintro - after ⟨hsheltered, hplain⟩
    refine ⟨fun _ after' h => ?_, fun f after' h => ?_⟩
    · exact peers.sheltered (place ▸ hsheltered) (hplace ▸ h.1)
    · rw [hlog, hplain] at h
      exact Bool.false_ne_true h.2.2
  · rintro f after ⟨rfl, rfl, hnull⟩
    refine ⟨fun f' after' h => ?_, fun _ after' h => ?_⟩
    · obtain ⟨rfl, rfl, -⟩ := h
      exact ⟨rfl, peers⟩
    · rw [hlog, hnull] at h
      exact Bool.false_ne_true h.2.symm

end JournalSetup

end Relaunch
