/-
  Work on files.

  `Touched made written before after` says what became of the files: apart from what the journal owns,
  directories were made only at places that are `made`, and files changed only at places that are
  `written`.  Work that leaves everything else about the host alone is `Confined`.  Both relations are
  reflexive and transitive, so they carry over from the steps to whatever is built of them.

  * making a directory with those above it makes none but the places that the path leads through
    (`makeDirectories_ends`), and changes no file;
  * opening a file changes none but the file at the place of the path (`openFile_ends`);
  * what can go wrong on the way is a system fault, or a path that holds a null character
    (`FileFault`).
-/
import Relaunch.Host.Files
import Relaunch.Proofs.Territory

namespace Relaunch

open Relaunch.FileTree

namespace Host

/-! ## What became of the files -/

/-- Between the two hosts, and apart from what the journal owns, directories were made only at places
that are `made`, files were changed only at places that are `written`, and no directory has gone.
Both depend on the working directory. -/
structure Touched (made written : (cwd place : Place) → Prop) (before after : Host) : Prop where
  journal : after.journal = before.journal
  cwdPlace : after.cwdPlace = before.cwdPlace
  contents : ∀ place, ¬before.journal.Owns place → ¬written before.cwdPlace place →
    after.files.content? place = before.files.content? place
  directories : ∀ place, ¬before.journal.Owns place → after.files.isDirectoryAt place = true →
    before.files.isDirectoryAt place = true ∨ made before.cwdPlace place
  kept : ∀ place, ¬before.journal.Owns place → before.files.isDirectoryAt place = true →
    after.files.isDirectoryAt place = true

/-- No place at all. -/
def Nowhere (_cwd _place : Place) : Prop := False

namespace Touched

variable {made written made' written' : (cwd place : Place) → Prop} {a b c : Host}

/-- Where the trees agree, nothing was touched. -/
theorem of_sameAt (journal : b.journal = a.journal) (cwdPlace : b.cwdPlace = a.cwdPlace)
    (same : ∀ place, ¬a.journal.Owns place → SameAt a.files b.files place) :
    Touched made written a b where
  journal := journal
  cwdPlace := cwdPlace
  contents place unowned _ := (same place unowned).1
  directories place unowned there := Or.inl ((same place unowned).2 ▸ there)
  kept place unowned there := (same place unowned).2 ▸ there

/-- Work that leaves the files alone touches nothing. -/
theorem of_files (journal : b.journal = a.journal) (cwdPlace : b.cwdPlace = a.cwdPlace)
    (files : b.files = a.files) : Touched made written a b :=
  of_sameAt journal cwdPlace fun place _ => files ▸ .refl b.files place

theorem refl (host : Host) : Touched made written host host := .of_files rfl rfl rfl

/-- What was made or written on the way was so before or after the middle. -/
theorem trans (h : Touched made written a b) (h' : Touched made written b c) :
    Touched made written a c := by
  refine ⟨h'.journal.trans h.journal, h'.cwdPlace.trans h.cwdPlace,
    fun place unowned unwritten => ?_, fun place unowned there => ?_, fun place unowned there => ?_⟩
  · have hsecond := h'.contents place (h.journal ▸ unowned) (h.cwdPlace ▸ unwritten)
    exact hsecond.trans (h.contents place unowned unwritten)
  · rcases h'.directories place (h.journal ▸ unowned) there with hmid | hmade
    · exact h.directories place unowned hmid
    · exact Or.inr (h.cwdPlace ▸ hmade)
  · exact h'.kept place (h.journal ▸ unowned) (h.kept place unowned there)

instance : Std.Refl (Touched made written) := ⟨refl⟩

instance : Trans (Touched made written) (Touched made written) (Touched made written) := ⟨trans⟩

/-- What may be touched may be more. -/
theorem mono (h : Touched made written a b)
    (more : ∀ place, made a.cwdPlace place → made' a.cwdPlace place)
    (more' : ∀ place, written a.cwdPlace place → written' a.cwdPlace place) :
    Touched made' written' a b where
  journal := h.journal
  cwdPlace := h.cwdPlace
  contents place unowned unwritten := h.contents place unowned fun hw => unwritten (more' place hw)
  directories place unowned there := (h.directories place unowned there).imp_right (more place)
  kept := h.kept

/-- Where nothing was made and nothing written, the trees agree. -/
theorem sameAt (h : Touched Nowhere Nowhere a b) {place : Place}
    (unowned : ¬a.journal.Owns place) : SameAt a.files b.files place := by
  refine ⟨h.contents place unowned id, ?_⟩
  rw [Bool.eq_iff_iff]
  constructor
  · intro hthere
    exact (h.directories place unowned hthere).resolve_right id
  · exact h.kept place unowned

/-- Writing to a file touches that file and no directory. -/
theorem of_write {place : (cwd : Place) → Place} (content : String) (journal : b.journal = a.journal)
    (cwdPlace : b.cwdPlace = a.cwdPlace)
    (files : b.files = a.files.write (place a.cwdPlace) content) :
    Touched Nowhere (fun cwd other => other = place cwd) a b where
  journal := journal
  cwdPlace := cwdPlace
  contents other _ unwritten := by
    rw [files, content?_write]
    exact if_neg unwritten
  directories other _ there := by
    rw [files, isDirectoryAt_write] at there
    exact Or.inl there
  kept other _ there := by
    rw [files, isDirectoryAt_write]
    exact there

/-- What is touched nowhere is touched at most at the given places. -/
theorem of_nowhere (h : Touched Nowhere Nowhere a b) : Touched made written a b :=
  h.mono (fun _ => False.elim) (fun _ => False.elim)

end Touched

/-- What is said is written to the places of the journal, and those are set apart. -/
theorem said_touched {made written : (cwd place : Place) → Prop} (level : Level)
    (speaker message : String) (host : Host) :
    Touched made written host (said level speaker message host) :=
  have halike := said_alike level speaker message host
  .of_sameAt (halike.view Host.journal) (halike.view Host.cwdPlace) fun _ unowned =>
    said_sameAt level speaker message host unowned

theorem say_touched {made written : (cwd place : Place) → Prop} (level : Level)
    (speaker message : String) : Keeps (Touched made written) (say level speaker message) :=
  fun host => said_touched level speaker message host

theorem meet_touched {made written : (cwd place : Place) → Prop} (fault : Option Fault) :
    Keeps (Touched made written) (meet fault) := by
  intro host
  rw [ends_meet]
  exact ⟨fun _ => .refl host, fun _ _ => .refl host⟩

/-! ## Confined work -/

/-- Between the two hosts there was only work on files. -/
structure Confined (made written : (cwd place : Place) → Prop) (before after : Host) : Prop
    extends Touched made written before after where
  alike : Alike after before

namespace Confined

variable {made written made' written' : (cwd place : Place) → Prop} {a b c : Host}

theorem refl (host : Host) : Confined made written host host := ⟨.refl host, .refl host⟩

theorem trans (h : Confined made written a b) (h' : Confined made written b c) :
    Confined made written a c :=
  ⟨h.toTouched.trans h'.toTouched, h'.alike.trans h.alike⟩

instance : Std.Refl (Confined made written) := ⟨refl⟩

instance : Trans (Confined made written) (Confined made written) (Confined made written) := ⟨trans⟩

theorem mono (h : Confined made written a b)
    (more : ∀ place, made a.cwdPlace place → made' a.cwdPlace place)
    (more' : ∀ place, written a.cwdPlace place → written' a.cwdPlace place) :
    Confined made' written' a b :=
  ⟨h.toTouched.mono more more', h.alike⟩

end Confined

/-- Saying something is confined to what the journal owns. -/
theorem said_confined {made written : (cwd place : Place) → Prop} (level : Level)
    (speaker message : String) (host : Host) :
    Confined made written host (said level speaker message host) :=
  ⟨said_touched level speaker message host, said_alike ..⟩

theorem say_confined {made written : (cwd place : Place) → Prop} (level : Level)
    (speaker message : String) : Keeps (Confined made written) (say level speaker message) :=
  fun host => said_confined level speaker message host

/-! ## Looking -/

/-- What can go wrong with a path: the system refuses, or the path holds a null character. -/
def FileFault (path : Path) (fault : Fault) : Prop :=
  fault.isSystemFault = true ∨ fault = .nullInPath ∧ holdsNull path = true

/-- Whatever is in the way of a path, it is the system that says so. -/
theorem obstacleFault_system (path : Path) (obstacle : Obstacle) :
    (obstacleFault path obstacle).isSystemFault = true := by
  cases obstacle <;> rfl

/-- Looking for a directory changes nothing, and fails only for a path that is too long. -/
theorem isDirectory_ends (path : Path) (host : Host) :
    Ends (isDirectory path) host
      (fun found after => after = host ∧ (found = true → holdsNull path = false ∧
        host.files.isDirectory host.cwdPlace path = .ok true))
      (fun f after => after = host ∧ f.isSystemFault = true ∧ ∃ obstacle,
        host.files.isDirectory host.cwdPlace path = .error obstacle) := by
  rw [isDirectory, ends_bind, ends_get]
  by_cases hnull : holdsNull path = true
  · rw [if_pos hnull, ends_pure]
    exact ⟨rfl, fun h => absurd h Bool.false_ne_true⟩
  · rw [if_neg hnull]
    cases hlook : host.files.isDirectory host.cwdPlace path with
    | ok answer =>
      refine ⟨rfl, fun h => ⟨eq_false_of_ne_true hnull, ?_⟩⟩
      rw [h]
    | error obstacle => exact ⟨rfl, obstacleFault_system path obstacle, obstacle, rfl⟩

/-- What a path denotes stands at the place of the path. -/
theorem locate_ends (path : Path) (host : Host) :
    Ends (locate path) host
      (fun target after => after = host ∧ target.place = placeOf host.cwdPlace path)
      (fun f after => after = host ∧ FileFault path f) := by
  rw [locate, ends_bind, ends_get]
  by_cases hnull : holdsNull path = true
  · rw [if_pos hnull, ends_bind, ends_throw]
    exact ⟨rfl, Or.inr ⟨rfl, hnull⟩⟩
  · rw [if_neg hnull]
    by_cases hdenied : host.deniedPaths.contains path.text = true
    · simp only [hdenied, if_true, ends_bind, ends_throw]
      exact ⟨trivial, Or.inl rfl⟩
    · simp only [hdenied]
      cases hresolve : host.files.resolve host.cwdPlace path with
      | ok target => exact ⟨rfl, (resolve_place hresolve).1⟩
      | error obstacle => exact ⟨rfl, Or.inl (obstacleFault_system path obstacle)⟩

/-! ## Making directories -/

/-- Does the path lead to the place? -/
def Denotes (path : Path) (cwd place : Place) : Prop := place = placeOf cwd path

/-- The path made of the first parts of a path. -/
def upTo (path : Path) (n : Nat) : Path := { path with parts := path.parts.take n }

/-- Does the path lead through the place, or to it? -/
def LeadsThrough (path : Path) (cwd place : Place) : Prop := ∃ n, Denotes (upTo path n) cwd place

/-- A fault in making a directory above is one in making the path. -/
theorem FileFault.of_upTo {path : Path} {n : Nat} {fault : Fault}
    (h : FileFault (upTo path n) fault) : FileFault path fault := by
  refine h.imp_right fun hnull => ⟨hnull.1, ?_⟩
  obtain ⟨part, hmem, hpart⟩ := List.any_eq_true.mp hnull.2
  exact List.any_eq_true.mpr ⟨part, List.mem_of_mem_take hmem, hpart⟩

/-- A new directory stands where its path leads. -/
theorem makeDirectory_ends (path : Path) (host : Host) :
    Ends (makeDirectory path) host
      (fun _ after => Confined (Denotes path) Nowhere host after)
      (fun f after => after = host ∧ FileFault path f) := by
  rw [makeDirectory, ends_bind]
  refine (locate_ends path host).imp (fun target after h => ?_) (fun _ _ h => h)
  obtain ⟨rfl, hplace⟩ := h
  cases target with
  | directory place => exact ⟨rfl, Or.inl rfl⟩
  | entry place =>
    simp only [ends_bind, ends_get]
    by_cases hfile : after.files.isFileAt place = true
    · simp only [hfile, if_true, ends_bind, ends_throw]
      exact ⟨trivial, Or.inl rfl⟩
    · simp only [hfile]
      refine ⟨⟨rfl, rfl, fun other _ _ => content?_addDirectory .., fun other _ hthere => ?_,
        fun other _ hthere => ?_⟩, rfl⟩
      · rw [isDirectoryAt_addDirectory] at hthere
        exact hthere.imp_right fun heq => heq.trans hplace
      · exact (isDirectoryAt_addDirectory ..).mpr (Or.inl hthere)

/-- A fault of making a directory is raised again, or accepted; nothing is changed. -/
theorem acceptDirectory_ends (path : Path) {target : Path} {fault : Fault} (host : Host)
    (h : FileFault target fault) :
    Ends (acceptDirectory path fault) host (fun _ after => after = host)
      (fun f after => after = host ∧ FileFault target f) := by
  rw [acceptDirectory]
  by_cases hsystem : fault.isSystemFault = true
  · simp only [hsystem, Bool.not_true, Bool.false_eq_true, if_false, ends_bind]
    refine (isDirectory_ends path host).imp (fun found after h' => ?_) (fun f after h' => ?_)
    · obtain ⟨rfl, -⟩ := h'
      cases found with
      | true => exact rfl
      | false => exact ⟨rfl, h⟩
    · exact ⟨h'.1, Or.inl h'.2.1⟩
  · simp only [hsystem, Bool.not_false, if_true, ends_bind, ends_throw]
    exact ⟨trivial, h⟩

/-- **A directory is made with those above it that are missing**, and nothing else: whether that goes
through or not, every new directory is one that the path leads through. -/
theorem makeDirectoriesTo_ends (path : Path) : ∀ (depth : Nat) (host : Host),
    Ends (makeDirectoriesTo path depth) host
      (fun _ after => Confined (LeadsThrough path) Nowhere host after)
      (fun f after => FileFault path f ∧ Confined (LeadsThrough path) Nowhere host after) := by
  -- One directory is one of those that the path leads through.
  have hone : ∀ (n : Nat) (host after : Host), Confined (Denotes (upTo path n)) Nowhere host after →
      Confined (LeadsThrough path) Nowhere host after := by
    intro n host after h
    exact h.mono (fun place hplace => ⟨n, hplace⟩) (fun _ => id)
  have hagain : ∀ (n : Nat) (host : Host),
      Ends (tryCatch (makeDirectory (upTo path n)) fun fault =>
          if isNotFound fault then throw fault else acceptDirectory (upTo path n) fault) host
        (fun _ after => Confined (LeadsThrough path) Nowhere host after)
        (fun f after => FileFault path f ∧ Confined (LeadsThrough path) Nowhere host after) := by
    intro n host
    rw [ends_tryCatch]
    refine (makeDirectory_ends (upTo path n) host).imp (fun _ after h => hone n host after h)
      (fun f after h => ?_)
    obtain ⟨rfl, hfault⟩ := h
    split
    · exact ⟨hfault.of_upTo, .refl after⟩
    · refine (acceptDirectory_ends _ after hfault.of_upTo).imp (fun _ other h => ?_)
        (fun f other h => ?_)
      · rw [h]
        exact .refl after
      · rw [h.1]
        exact ⟨h.2, .refl after⟩
  intro depth
  induction depth with
  | zero =>
    intro host
    exact hagain 0 host
  | succ depth ih =>
    intro host
    rw [makeDirectoriesTo, ends_tryCatch]
    refine (makeDirectory_ends (upTo path (depth + 1)) host).imp
      (fun _ after h => hone (depth + 1) host after h) (fun f after h => ?_)
    obtain ⟨rfl, hfault⟩ := h
    split
    · -- Those above it are missing: they are made first, and then there is another attempt.
      rw [ends_bind]
      refine (ih after).imp (fun _ made hmade => ?_) (fun _ _ h => h)
      refine (hagain (depth + 1) made).imp (fun _ other h => hmade.trans h) (fun f other h => ?_)
      exact ⟨h.1, hmade.trans h.2⟩
    · refine (acceptDirectory_ends _ after hfault.of_upTo).imp (fun _ other h => ?_)
        (fun f other h => ?_)
      · rw [h]
        exact .refl after
      · rw [h.1]
        exact ⟨h.2, .refl after⟩

/-- **Making directories** touches the places that the path leads through, and fails with a fault of
the files. -/
theorem makeDirectories_ends (path : Path) (host : Host) :
    Ends (makeDirectories path) host
      (fun _ after => Confined (LeadsThrough path) Nowhere host after)
      (fun f after => FileFault path f ∧ Confined (LeadsThrough path) Nowhere host after) :=
  makeDirectoriesTo_ends path _ host

/-! ## Opening files -/

/-- The host with a file opened: emptied, or made where there is none. -/
def opened (host : Host) (place : Place) : (mode : OpenMode) → Host
  | .truncate => { host with files := host.files.write place "" }
  | .append => { host with files := host.files.append place "" }

/-- The content that a file starts with once it has been opened. -/
def startingContent (tree : FileTree) (place : Place) : (mode : OpenMode) → String
  | .truncate => ""
  | .append => (tree.content? place).getD ""

theorem startingContent_congr {a b : FileTree} {place : Place}
    (same : b.content? place = a.content? place) (mode : OpenMode) :
    startingContent b place mode = startingContent a place mode := by
  cases mode with
  | truncate => rfl
  | append => rw [startingContent, startingContent, same]

/-- A file that was opened is there, with the content that its mode has it start with. -/
theorem content?_opened (host : Host) (place : Place) (mode : OpenMode) :
    (host.opened place mode).files.content? place =
      some (startingContent host.files place mode) := by
  cases mode with
  | truncate => simp [opened, startingContent, content?_write]
  | append => simp [opened, startingContent, content?_append]

theorem opened_confined (host : Host) (path : Path) (mode : OpenMode) :
    Confined Nowhere (Denotes path) host (host.opened (placeOf host.cwdPlace path) mode) := by
  cases mode with
  | truncate => exact ⟨.of_write _ rfl rfl rfl, rfl⟩
  | append => exact ⟨.of_write _ rfl rfl rfl, rfl⟩

/-- Opening a file touches the file at the place of the path, or fails and touches nothing. -/
theorem openFile_ends (path : Path) (mode : OpenMode) (host : Host) :
    Ends (openFile path mode) host
      (fun place after => place = placeOf host.cwdPlace path ∧ after = host.opened place mode)
      (fun f after => after = host ∧ FileFault path f) := by
  rw [openFile, ends_bind]
  refine (locate_ends path host).imp (fun target after h => ?_) (fun _ _ h => h)
  obtain ⟨rfl, hplace⟩ := h
  cases target with
  | directory place => exact ⟨rfl, Or.inl rfl⟩
  | entry place =>
    simp only [ends_bind, ends_modify, ends_pure]
    refine ⟨hplace, ?_⟩
    cases mode <;> rfl

end Host

end Relaunch
