/-
  What happens before a request is seen to.

  The settings are loaded and the journal is set up.  That is work backstage: the host that a request
  is seen to on differs from the one that the program started on at most in its journal, in what was
  said, and in files of the supervisor's data directory (`Backstage`).

  * `Akin` hosts differ at most in the journal and in what was said;
  * the supervisor's log stands in its data directory, whatever double dots the paths hold
    (`logFile_directory`), and opening it goes there (`placeOf_logFile`).
-/
import Relaunch.App
import Relaunch.Proofs.FileWork

namespace Relaunch

open Relaunch.FileTree Relaunch.Host

/-! ## Hosts that differ in the journal -/

namespace Host

/-- A host without its journal and without what was said about the work. -/
def muted (host : Host) : Host := { host.silenced with journal := {} }

/-- Hosts that differ at most in the journal and in what was said about the work. -/
def Akin (a b : Host) : Prop := a.muted = b.muted

namespace Akin

variable {a b c : Host}

theorem refl (host : Host) : Akin host host := rfl

theorem trans (h : Akin a b) (h' : Akin b c) : Akin a c := Eq.trans h h'

/-- Talk alone keeps hosts akin. -/
theorem of_alike (h : Alike a b) : Akin a b := by
  rw [Akin, muted, muted, show a.silenced = b.silenced from h]

/-- What reads neither the journal nor anything said is the same for hosts that are akin. -/
theorem view {α : Type} (h : Akin a b) (read : Host → α)
    (deaf : ∀ host, read host.muted = read host := by intro _; rfl) : read a = read b := by
  rw [← deaf a, ← deaf b, show a.muted = b.muted from h]

end Akin

end Host

/-! ## Paths without double dots -/

namespace Path

/-- A name at the end is cancelled by nothing. -/
theorem cancelDoubleDots_append_name {name : String} (plain : name ≠ "..") :
    ∀ parts kept : List String,
      cancelDoubleDots kept (parts ++ [name]) = cancelDoubleDots kept parts ++ [name] := by
  intro parts
  induction parts with
  | nil =>
    intro kept
    simp [cancelDoubleDots, plain]
  | cons part rest ih =>
    intro kept
    rw [List.cons_append, cancelDoubleDots, cancelDoubleDots]
    split
    · exact ih kept.tail
    · exact ih (part :: kept)

/-- What is left was there before, and is no double dot. -/
theorem mem_of_mem_cancelDoubleDots {name : String} : ∀ parts kept : List String,
    name ∈ cancelDoubleDots kept parts → name ∈ kept ∨ name ∈ parts ∧ name ≠ ".." := by
  intro parts
  induction parts with
  | nil =>
    intro kept h
    rw [cancelDoubleDots, List.mem_reverse] at h
    exact .inl h
  | cons part rest ih =>
    intro kept h
    rw [cancelDoubleDots] at h
    split at h
    · exact (ih kept.tail h).imp List.mem_of_mem_tail (.imp_left (List.mem_cons_of_mem _))
    · rename_i hpart
      rcases ih (part :: kept) h with hkept | hrest
      · rcases List.mem_cons.mp hkept with rfl | hkept
        · exact .inr ⟨List.mem_cons_self .., hpart⟩
        · exact .inl hkept
      · exact .inr (hrest.imp_left (List.mem_cons_of_mem _))

theorem not_mem_withoutDoubleDots (path : Path) : ".." ∉ path.withoutDoubleDots.parts := fun hmem =>
  (mem_of_mem_cancelDoubleDots path.parts [] hmem).elim List.not_mem_nil fun h => h.2 rfl

/-- A name below a directory comes last, from wherever the directory is read. -/
theorem parts_join_name (base directory : Path) (name : String) :
    (base / (directory / (⟨.here, [name]⟩ : Path))).parts = (base / directory).parts ++ [name] := by
  show (if directory.isAbsolute = true then _ else _ : Path).parts =
    (if directory.isAbsolute = true then _ else _ : Path).parts ++ [name]
  split
  · rfl
  · exact (List.append_assoc ..).symm

theorem isAbsolute_join {base : Path} (absolute : base.isAbsolute = true) (tail : Path) :
    (base / tail).isAbsolute = true := (isAbsolute_join_iff base tail).mpr (.inl absolute)

end Path

/-- Names without double dots lead down. -/
theorem FileTree.foldl_stepTo : ∀ (names : List String) (start : Place), ".." ∉ names →
    names.foldl stepTo start = start ++ names := by
  intro names
  induction names with
  | nil =>
    intro start _
    exact (List.append_nil start).symm
  | cons name rest ih =>
    intro start hplain
    have hname : name ≠ ".." := fun heq => hplain (heq ▸ List.mem_cons_self ..)
    have hrest : ".." ∉ rest := fun hmem => hplain (List.mem_cons_of_mem _ hmem)
    rw [List.foldl_cons, stepTo, if_neg hname, ih _ hrest, List.append_assoc]
    rfl

/-- An absolute path without double dots leads down its names from the top. -/
theorem FileTree.placeOf_of_absolute {path : Path} (absolute : path.isAbsolute = true)
    (plain : ".." ∉ path.parts) (cwd : Place) : placeOf cwd path = path.parts := by
  rw [placeOf, startOf, if_pos absolute, foldl_stepTo _ _ plain]
  rfl

/-! ## Loading the settings -/

namespace Settings

theorem announceSenseless_confined : ∀ lines,
    Keeps (Confined Nowhere Nowhere) (announceSenseless lines) := by
  intro lines
  induction lines with
  | nil => exact .pure _
  | cons line rest ih => exact (say_confined _ _ _).bind fun _ => ih

/-- Reading the environment file talks of the lines that make no sense, and does nothing else. -/
theorem extend_confined (env : Environment) (envFile : Option String) :
    Keeps (Confined Nowhere Nowhere) (extend env envFile) := by
  unfold extend
  split
  · exact (say_confined _ _ _).bind fun _ => .pure _
  · cases envFile with
    | none => exact .pure _
    | some text =>
      refine (announceSenseless_confined _).bind fun _ => ?_
      split
      · exact .pure _
      · exact .throw _

/-- Loading the settings is a matter of talk. -/
theorem load_confined (env : Environment) (envFile : Option String) :
    Keeps (Confined Nowhere Nowhere) (load env envFile) := by
  refine (extend_confined env envFile).bind fun extended => Keeps.get.bind fun host => ?_
  split
  · exact .pure _
  · exact .throw _

end Settings

/-! ## Setting the journal up -/

namespace JournalSetup

/-- The place of the supervisor's data directory. -/
def dataPlace (settings : Settings) (cwd : Path) : Place :=
  (cwd / settings.dataDirectory).withoutDoubleDots.parts

/-- The log stands in the data directory, under a name of its own. -/
theorem logFile_place (settings : Settings) (cwd : Path) :
    (logFile settings cwd).place = dataPlace settings cwd ++ ["restarter.log"] := by
  have hname : Path.ofText "restarter.log" = ⟨.here, ["restarter.log"]⟩ := by decide
  have hparts : (cwd / settings.supervisorLog).parts =
      (cwd / settings.dataDirectory).parts ++ ["restarter.log"] := by
    rw [Settings.supervisorLog, hname]
    exact Path.parts_join_name cwd settings.dataDirectory "restarter.log"
  rw [LogFile.place, logFile, Path.withoutDoubleDots, hparts]
  exact Path.cancelDoubleDots_append_name (by decide) _ _

/-- The supervisor's log stands in the data directory. -/
theorem logFile_directory (settings : Settings) (cwd : Path) :
    (logFile settings cwd).directory = dataPlace settings cwd := by
  rw [LogFile.directory, logFile_place, List.dropLast_concat]

/-- The path of the supervisor's log leads to the place of the log. -/
theorem placeOf_logFile (settings : Settings) {cwd : Path} (absolute : cwd.isAbsolute = true)
    (start : Place) :
    placeOf start (logFile settings cwd).path = (logFile settings cwd).place := by
  have habsolute : (logFile settings cwd).path.isAbsolute = true :=
    Path.isAbsolute_join absolute settings.supervisorLog
  exact placeOf_of_absolute habsolute (Path.not_mem_withoutDoubleDots _) start

variable {settings : Settings} {host : Host}

/-- Whether it comes through or not, no more is touched than the way to the data directory and the
log. -/
theorem openLog_ends (settings : Settings) (host : Host) :
    Ends (openLog settings) host
      (fun log after => log = logFile settings host.cwd ∧ Confined
        (LeadsThrough settings.dataDirectory) (Denotes (logFile settings host.cwd).path) host after)
      (fun _ after => Confined
        (LeadsThrough settings.dataDirectory) (Denotes (logFile settings host.cwd).path)
          host after) := by
  have hmade : ∀ {made : Host}, Confined (LeadsThrough settings.dataDirectory) Nowhere host made →
      Confined (LeadsThrough settings.dataDirectory) (Denotes (logFile settings host.cwd).path)
        host made :=
    fun h => h.mono (fun _ => id) (fun _ => False.elim)
  rw [openLog, ends_bind]
  refine (makeDirectories_ends settings.dataDirectory host).imp (fun _ made h => ?_)
    (fun f after h => hmade h.2)
  have hcwd : made.cwd = host.cwd := h.alike.view Host.cwd
  rw [ends_bind, ends_get, hcwd, ends_bind]
  refine (openFile_ends _ .append made).imp (fun place after h' => ?_) (fun f after h' => ?_)
  · obtain ⟨rfl, rfl⟩ := h'
    have hopened := opened_confined made (logFile settings host.cwd).path .append
    exact ⟨rfl, (hmade h).trans (hopened.mono (fun _ => False.elim) (fun _ => id))⟩
  · obtain ⟨rfl, -⟩ := h'
    exact hmade h

/-- The journal gets the supervisor's log, or no file at all. -/
theorem logHandlers_ends (settings : Settings) (host : Host) :
    Ends (logHandlers settings) host
      (fun handlers after => (∀ log, .file log ∈ handlers → log = logFile settings host.cwd) ∧
        Confined (LeadsThrough settings.dataDirectory) (Denotes (logFile settings host.cwd).path)
          host after)
      (fun _ after => Confined
        (LeadsThrough settings.dataDirectory) (Denotes (logFile settings host.cwd).path)
          host after) := by
  rw [logHandlers, ends_tryCatch, ends_bind]
  refine (openLog_ends settings host).imp (fun log after h => ?_) (fun f after h => ?_)
  · rw [ends_pure]
    refine ⟨fun other hmem => ?_, h.2⟩
    rw [List.mem_singleton, Handler.file.injEq] at hmem
    exact hmem.trans h.1
  · split
    · rw [ends_bind, complain, ends_modify, ends_pure]
      refine ⟨fun log hmem => absurd hmem List.not_mem_nil, h.trans ⟨.of_files rfl rfl rfl, rfl⟩⟩
    · exact h

/-- Setting the journal up changes no more than the journal, the files and what was said. -/
theorem run_akin (settings : Settings) (verbose : Bool) (host : Host) :
    Ends (run settings verbose) host (fun _ after => Akin after host)
      (fun _ after => Akin after host) := by
  rw [run, ends_bind, ends_get]
  split
  · rw [ends_bind]
    refine (logHandlers_ends settings host).imp (fun handlers after h => ?_)
      (fun f after h => .of_alike h.alike)
    have hakin : Akin after host := .of_alike h.2.alike
    rw [ends_modify]
    exact hakin
  · rw [ends_modify]
    exact Akin.refl host

/-- Before a request was seen to: the hosts differ at most in the journal, in what was said, and in
what is in the data directory. -/
structure Backstage (settings : Settings) (before after : Host) : Prop where
  akin : Akin after before
  /-- The journal owns no more than the data directory. -/
  owned : ∀ place, after.journal.Owns place → Inside (dataPlace settings before.cwd) place
  contents : ∀ place, ¬Inside (dataPlace settings before.cwd) place →
    after.files.content? place = before.files.content? place

/-- Setting the journal up is work backstage. -/
theorem run_ends (settings : Settings) (verbose : Bool) (host : Host)
    (fresh : host.journal.handlers = []) (absolute : host.cwd.isAbsolute = true) :
    Ends (run settings verbose) host (fun _ after => Backstage settings host after)
      (fun _ after => Backstage settings host after) := by
  -- A fresh journal owns nothing, so all that changes is what opening the log changes.
  have hunowned : ∀ place, ¬host.journal.Owns place := by
    rintro place ⟨log, hmem, -⟩
    rw [fresh] at hmem
    exact List.not_mem_nil hmem
  have hcontents : ∀ {after : Host}, Confined (LeadsThrough settings.dataDirectory)
      (Denotes (logFile settings host.cwd).path) host after →
      ∀ place, ¬Inside (dataPlace settings host.cwd) place →
        after.files.content? place = host.files.content? place := by
    intro after h place houtside
    refine h.contents place (hunowned place) fun hdenotes => houtside ?_
    rw [hdenotes, placeOf_logFile settings absolute, ← logFile_directory]
    exact LogFile.place_inside _
  rw [run, ends_bind, ends_get, fresh, List.isEmpty_nil, if_pos rfl, ends_bind]
  refine (logHandlers_ends settings host).imp (fun handlers after h => ?_) (fun f after h => ?_)
  · obtain ⟨hhandlers, hconfined⟩ := h
    have hakin := Akin.of_alike hconfined.alike
    rw [ends_modify]
    refine ⟨hakin, fun place howns => ?_, fun place houtside => ?_⟩
    · obtain ⟨log, hmem, hinside⟩ := howns
      rcases List.mem_cons.mp hmem with heq | hmem
      · exact absurd heq (by simp)
      · rw [hhandlers log hmem, logFile_directory] at hinside
        exact hinside
    · exact hcontents hconfined place houtside
  · refine ⟨.of_alike h.alike, fun place howns => ?_, hcontents h⟩
    exact absurd (h.journal ▸ howns) (hunowned place)

namespace Backstage

variable {before ready after : Host}

/-- What is done next leaves the files alone that are not in the data directory, as long as it touches
nothing but what the journal owns. -/
theorem contents_of_touched (h : Backstage settings before ready)
    (touched : Touched Nowhere Nowhere ready after) {place : Place}
    (outside : ¬Inside (dataPlace settings before.cwd) place) :
    after.files.content? place = before.files.content? place := by
  have hunowned : ¬ready.journal.Owns place := fun howns => outside (h.owned place howns)
  exact (touched.contents place hunowned id).trans (h.contents place outside)

/-- Saying something is work backstage as well. -/
theorem said (h : Backstage settings before ready) (level : Level) (speaker message : String) :
    Backstage settings before (said level speaker message ready) := by
  have htouched : Touched Nowhere Nowhere ready _ := said_touched level speaker message ready
  refine ⟨(Akin.of_alike (said_alike ..)).trans h.akin, fun place howns => ?_,
    fun place houtside => h.contents_of_touched htouched houtside⟩
  exact h.owned place (htouched.journal ▸ howns)

end Backstage

end JournalSetup

end Relaunch
