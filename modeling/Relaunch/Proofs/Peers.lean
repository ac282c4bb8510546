/-
  Hosts that differ inside a directory.

  Two hosts are `Peers` but for an area, the inside of a directory, if nothing else tells them apart
  than what stands there, which paths may be opened or made there, how the journal is kept, and what
  was said.  Work that is `Sheltered` stays within that, and leaves peers behind even if it is not the
  same on both hosts (`Peers.sheltered`).  Talk is such work, since both journals write inside the area
  alone; every other step is taken by both, and goes the same way (`step`, `view`).

  A path that leads through no place of the area is `Clear` of it.  Peers resolve such a path in the
  same way, make the same directories for it (`makeDirectories_peers`) and open the same file
  (`openFile_peers`).  It is not enough that the path leads to a place outside: a double dot may lead
  out of the area again, but only as long as the directory before it is there.
-/
import Relaunch.Proofs.Attuned
import Relaunch.Proofs.Backstage
import Relaunch.Proofs.PathTexts

namespace Relaunch

open Relaunch.FileTree

namespace FileTree

/-! ## Trees that differ inside a directory -/

/-- Does the place lie in the directory, other than being the directory itself? -/
def Within (directory place : Place) : Prop := Inside directory place ∧ place ≠ directory

instance (directory place : Place) : Decidable (Inside directory place) :=
  inferInstanceAs (Decidable (directory <+: place))

instance (directory place : Place) : Decidable (Within directory place) :=
  inferInstanceAs (Decidable (Inside directory place ∧ place ≠ directory))

/-- Every name below a directory leads into it. -/
theorem within_append {directory names : Place} (below : names ≠ []) :
    Within directory (directory ++ names) :=
  ⟨List.prefix_append .., fun heq => below (List.append_right_eq_self.mp heq)⟩

/-- What lies below something in a directory lies in the directory. -/
theorem Within.of_prefix {directory place below : Place} (h : Within directory place)
    (more : place <+: below) : Within directory below := by
  refine ⟨h.1.trans more, fun heq => h.2 ?_⟩
  exact (more.eq_of_length_le (heq ▸ h.1.length_le)).trans heq

namespace SameAt

variable {a b : FileTree} {place other : Place}

theorem symm (h : SameAt a b place) : SameAt b a place := ⟨h.1.symm, h.2.symm⟩

/-- Whether there is a file at a place is settled by the content. -/
theorem isFileAt (h : SameAt a b place) : b.isFileAt place = a.isFileAt place := by
  rw [FileTree.isFileAt, FileTree.isFileAt, h.1]

/-- Trees that agree at a place still do after the same is written, to it or elsewhere. -/
theorem write (h : SameAt a b place) (content : String) :
    SameAt (a.write other content) (b.write other content) place := by
  refine ⟨?_, ?_⟩
  · rw [content?_write, content?_write, h.1]
  · rw [isDirectoryAt_write, isDirectoryAt_write, h.2]

/-- Appending reads before it writes, so the trees have to agree at the place that is appended
to. -/
theorem append (h : SameAt a b place) (h' : SameAt a b other) (text : String) :
    SameAt (a.append other text) (b.append other text) place := by
  rw [FileTree.append, FileTree.append, h'.1]
  exact h.write _

theorem addDirectory (h : SameAt a b place) :
    SameAt (a.addDirectory other) (b.addDirectory other) place := by
  refine ⟨?_, ?_⟩
  · rw [content?_addDirectory, content?_addDirectory, h.1]
  · rw [Bool.eq_iff_iff, isDirectoryAt_addDirectory, isDirectoryAt_addDirectory, h.2]

end SameAt

/-! ## Walks through the same places -/

/-- A walk looks at no other places than those it comes to, whether or not it gets on from there. -/
theorem walk_congr {a b : FileTree} : ∀ (names : List String) (place : Place),
    (∀ n, SameAt a b ((names.take (n + 1)).foldl stepTo place)) →
      b.walk place names = a.walk place names := by
  intro names
  induction names with
  | nil => exact fun _ _ => rfl
  | cons name rest ih =>
    intro place same
    have hnext : SameAt a b (stepTo place name) := same 0
    have hrest := ih (stepTo place name) fun n => same (n + 1)
    show (if _ then _ else if b.isDirectoryAt (stepTo place name) = true then
        b.walk (stepTo place name) rest else if b.isFileAt (stepTo place name) = true then _ else _) =
      (if _ then _ else if a.isDirectoryAt (stepTo place name) = true then
        a.walk (stepTo place name) rest else if a.isFileAt (stepTo place name) = true then _ else _)
    rw [hnext.2, hnext.isFileAt, hrest]

open Relaunch.Host in
/-- What a path denotes is settled by the places that it leads through. -/
theorem resolve_congr {a b : FileTree} {cwd : Place} {path : Path}
    (same : ∀ place, LeadsThrough path cwd place → SameAt a b place) :
    b.resolve cwd path = a.resolve cwd path := by
  -- The path is walked up to its last name, and that name is looked up from there.
  have hwalk : b.walk (startOf cwd path) path.parts.dropLast =
      a.walk (startOf cwd path) path.parts.dropLast := by
    refine walk_congr _ _ fun n => same _ ⟨min (n + 1) (path.parts.length - 1), ?_⟩
    rw [List.dropLast_eq_take, List.take_take]
    rfl
  have hend : SameAt a b (placeOf cwd path) := by
    refine same _ ⟨path.parts.length, ?_⟩
    rw [Denotes, upTo, List.take_length]
  unfold resolve
  rw [hwalk]
  cases hparent : a.walk (startOf cwd path) path.parts.dropLast with
  | error obstacle => rfl
  | ok parent =>
    have hplace : ∀ name, path.parts.getLast? = some name → name ≠ ".." →
        b.isDirectoryAt (parent ++ [name]) = a.isDirectoryAt (parent ++ [name]) := by
      intro name hlast hname
      have hat := placeOf_of_getLast? cwd hlast
      rw [← walk_eq a _ _ _ hparent, stepTo, if_neg hname] at hat
      exact hat ▸ hend.2
    cases hlast : path.parts.getLast? with
    | none => rfl
    | some name =>
      by_cases hname : name = ".."
      · subst hname
        rfl
      · simp only [bind, Except.bind, hplace name hlast hname]

end FileTree

/-- What a path starts with is as normal as the path. -/
theorem Path.Normal.upTo {path : Path} (h : path.Normal) (n : Nat) : (Host.upTo path n).Normal :=
  h.of_subset fun _ => List.mem_of_mem_take

namespace Host

/-! ## Hosts that are peers -/

/-- The host in the surroundings of another one: with its files and what may be done to them, its
journal, and what was said. -/
def amid (host other : Host) : Host :=
  { host with
    cwd := other.cwd, files := other.files, deniedPaths := other.deniedPaths
    journal := other.journal, records := other.records, stderr := other.stderr }

/-- Two hosts with the same working directory that differ at most in what is within the area, in the
journal, and in what was said.  The journals take no place but those within the area. -/
structure Peers (area cwd : Place) (a b : Host) : Prop where
  frame : b = a.amid b
  here : a.cwdPlace = cwd
  here' : b.cwd = a.cwd
  trees : ∀ place, ¬Within area place → SameAt a.files b.files place
  denied : ∀ text, ¬Within area (placeOf cwd (Path.ofText text)) →
    b.deniedPaths.contains text = a.deniedPaths.contains text
  taken : ∀ place, a.journal.Takes place → Within area place
  taken' : ∀ place, b.journal.Takes place → Within area place

/-- The path leads through no place within the area. -/
def Clear (area cwd : Place) (path : Path) : Prop :=
  ∀ place, LeadsThrough path cwd place → ¬Within area place

namespace Peers

variable {area cwd : Place} {a b : Host}

/-- What does not read the surroundings is the same for peers. -/
theorem view {α : Type} (h : Peers area cwd a b) (read : Host → α)
    (deaf : ∀ host other, read (host.amid other) = read host) : read b = read a := by
  rw [h.frame]
  exact deaf a b

/-- Both stand in the one working directory. -/
theorem here_b (h : Peers area cwd a b) : b.cwdPlace = cwd := by
  rw [cwdPlace, h.here', ← h.here, cwdPlace]

/-- A change that has nothing to do with the surroundings keeps peers. -/
theorem step (h : Peers area cwd a b) (change : Host → Host)
    (deaf : ∀ host other, change (host.amid other) = (change host).amid other) :
    Peers area cwd (change a) (change b) := by
  -- A host amid its own surroundings is the host itself.
  have ha : (change a).amid a = change a := (deaf a a).symm
  have hb : (change a).amid b = change b := (deaf a b).symm.trans (congrArg change h.frame.symm)
  have hpeers : Peers area cwd ((change a).amid a) ((change a).amid b) :=
    ⟨rfl, h.here, h.here', h.trees, h.denied, h.taken, h.taken'⟩
  rwa [ha, hb] at hpeers

/-- A change of the trees that leaves the same outside of the area keeps peers. -/
theorem withFiles (h : Peers area cwd a b) {files files' : FileTree}
    (same : ∀ place, ¬Within area place → SameAt files files' place) :
    Peers area cwd { a with files } { b with files := files' } where
  frame := congrArg (fun host : Host => { host with files := files' }) h.frame
  here := h.here
  here' := h.here'
  trees := same
  denied := h.denied
  taken := h.taken
  taken' := h.taken'

/-- Adding to a file outside of the area keeps peers. -/
theorem append (h : Peers area cwd a b) {place : Place} (outside : ¬Within area place)
    (text : String) : Peers area cwd { a with files := a.files.append place text }
      { b with files := b.files.append place text } :=
  h.withFiles fun other hother => (h.trees other hother).append (h.trees place outside) text

end Peers

/-! ## Work that stays within the area -/

/-- What was done to the host concerned the journal, what was said, and what is within the area.  The
journal takes no other place. -/
structure Sheltered (area : Place) (before after : Host) : Prop where
  akin : Akin after before
  trees : ∀ place, ¬Within area place → SameAt before.files after.files place
  taken : ∀ place, after.journal.Takes place → Within area place

namespace Sheltered

variable {area : Place} {a : Host}

/-- Talk stays within the area, if the journal does. -/
theorem said (taken : ∀ place, a.journal.Takes place → Within area place) (level : Level)
    (speaker message : String) : Sheltered area a (said level speaker message a) := by
  have halike : Alike (Host.said level speaker message a) a := said_alike ..
  refine ⟨.of_alike halike, fun place houtside => ?_, ?_⟩
  · exact said_sameAt_of_not_takes level speaker message a fun htakes =>
      houtside (taken place htakes)
  · rw [halike.view Host.journal]
    exact taken

end Sheltered

/-- Work within the area, even if it is not the same on both, leaves peers behind. -/
theorem Peers.sheltered {area cwd : Place} {a b a' b' : Host} (h : Peers area cwd a b)
    (ha : Sheltered area a a') (hb : Sheltered area b b') : Peers area cwd a' b' where
  frame := calc
    b' = b'.amid b' := rfl
    _ = b.amid b' := hb.akin.view fun host => host.amid b'
    _ = (a.amid b).amid b' := by rw [← h.frame]
    _ = a.amid b' := rfl
    _ = a'.amid b' := (ha.akin.view fun host => host.amid b').symm
  here := (ha.akin.view Host.cwdPlace).trans h.here
  here' := by
    rw [hb.akin.view Host.cwd, ha.akin.view Host.cwd]
    exact h.here'
  trees place outside :=
    ((ha.trees place outside).symm.trans (h.trees place outside)).trans (hb.trees place outside)
  denied := by
    rw [hb.akin.view Host.deniedPaths, ha.akin.view Host.deniedPaths]
    exact h.denied
  taken := ha.taken
  taken' := hb.taken

/-! ## Steps that peers take together -/

section Steps

variable {area cwd : Place}

/-- A change that has nothing to do with the surroundings is made to both. -/
theorem change_peers {change : Host → Host}
    (deaf : ∀ host other, change (host.amid other) = (change host).amid other) :
    Respects (Peers area cwd) (modify change) :=
  Respects.modify fun _ _ h => h.step change deaf

/-- Peers may say the same with journals that differ: neither writes outside of the area. -/
theorem say_peers (level : Level) (speaker message : String) :
    Respects (Peers area cwd) (say level speaker message) :=
  Respects.modify fun _ _ h => h.sheltered (.said h.taken level speaker message)
    (.said h.taken' level speaker message)

theorem note_peers (call : Call) : Respects (Peers area cwd) (note call) :=
  change_peers fun _ _ => rfl

/-- The clock and the network are no part of the surroundings. -/
theorem peers_attuned : Attuned (Peers area cwd) where
  clock _ _ h := h.view Host.clock fun _ _ => rfl
  tick _ _ h := h.view Host.tick fun _ _ => rfl
  connectCost _ _ h := h.view Host.connectCost fun _ _ => rfl
  connections _ _ h := h.view Host.connections fun _ _ => rfl
  probeLimit _ _ h := h.view Host.probeLimit fun _ _ => rfl
  passing clock _ _ h := h.step (fun host => { host with clock }) fun _ _ => rfl
  taking _ _ h := h.step (fun host => { host with connections := host.connections.tail })
    fun _ _ => rfl
  say := say_peers
  note call _ := note_peers call

/-! ### The table -/

/-- The scan comes with the change that is due, which is the same on both, and may fail on both. -/
theorem scan_peers : Respects (Peers area cwd) scan := by
  refine (note_peers .scan).bind fun _ => Respects.bind
    (change_peers fun _ _ => rfl) fun _ a b h => Mirrors.get ?_
  have hdue : b.changes.lookup b.scans = a.changes.lookup a.scans :=
    h.view (fun host => host.changes.lookup host.scans) fun _ _ => rfl
  have htable : b.processes = a.processes := h.view Host.processes fun _ _ => rfl
  rw [hdue, htable]
  cases a.changes.lookup a.scans with
  | none => exact .pure ⟨rfl, h⟩
  | some change =>
    have hchanged := h.step (fun host =>
      { host with processes := applyChange change host.processes }) fun _ _ => rfl
    rw [htable] at hchanged
    exact ((Respects.meet change.fault).bind fun _ => .pure _) _ _ hchanged

theorem entry_peers (pid : Int) : Respects (Peers area cwd) (entry pid) := by
  refine Respects.get (fun a b h => ?_) fun host => ?_
  · rw [h.view Host.processes fun _ _ => rfl]
  · split
    · exact .pure _
    · exact .throw _

theorem readAncestors_peers : Respects (Peers area cwd) readAncestors := by
  refine Respects.get (fun a b h => ?_) fun host => (Respects.meet _).bind fun _ => .pure _
  rw [h.view Host.ancestors fun _ _ => rfl, h.view Host.ancestorsFault fun _ _ => rfl]

/-- The process that is signalled is the same on both, so it dies of the signal on both or on
neither. -/
theorem signal_peers (pid number : Int) : Respects (Peers area cwd) (signal pid number) := by
  refine (entry_peers pid).bind fun process => (note_peers _).bind fun _ =>
    (Respects.meet _).bind fun _ => ?_
  split
  · exact change_peers fun _ _ => rfl
  · exact .pure _

/-- A process that ends in time leaves both tables. -/
theorem wait_peers (pid : Int) (timeout : Number) :
    Respects (Peers area cwd) (wait pid timeout) := by
  refine (entry_peers pid).bind fun process => (note_peers _).bind fun _ =>
    (Respects.meet _).bind fun _ => ?_
  split
  · exact change_peers fun _ _ => rfl
  · exact .throw _

/-! ### The limits -/

theorem readLimits_peers : Respects (Peers area cwd) readLimits := by
  refine (note_peers _).bind fun _ => Respects.get (fun a b h => ?_) fun host =>
    (Respects.meet _).bind fun _ => .pure _
  rw [h.view Host.limits fun _ _ => rfl, h.view Host.limitsReadFault fun _ _ => rfl]

/-- The fault that meets the attempt is taken out of both queues. -/
theorem setLimits_peers (limits : FileLimits) : Respects (Peers area cwd) (setLimits limits) := by
  refine (note_peers _).bind fun _ => Respects.get_set (fun a b h => ?_) (fun a b h => ?_) fun host =>
    (Respects.meet _).bind fun _ => change_peers fun _ _ => rfl
  · exact h.step (fun host => { host with limitsSetFaults := host.limitsSetFaults.tail })
      fun _ _ => rfl
  · rw [h.view Host.limitsSetFaults fun _ _ => rfl]

/-! ### Starting -/

/-- What an executable writes goes to a file outside of the area. -/
theorem spawn_peers (command : SpawnCommand) {log : Place} (outside : ¬Within area log) :
    Respects (Peers area cwd) (spawn command log) := by
  refine (note_peers _).bind fun _ a b h => Mirrors.get ?_
  have hresponse := h.view (fun host =>
    (host.executables.lookup (command.argv.headD "")).getD (.runs "" false)) fun _ _ => rfl
  dsimp only
  rw [hresponse]
  cases (a.executables.lookup (command.argv.headD "")).getD (.runs "" false) with
  | fails fault => exact .throw h
  | runs output exits =>
    have hstarted := (h.append outside output).step (fun host =>
      { host with
        nextPid := host.nextPid + 1
        processes := host.processes ++ if exits then [] else
          [{ pid := host.nextPid, name := lastPiece (command.argv.headD "")
             commandLine := command.argv }] }) fun _ _ => rfl
    exact ⟨b.nextPid, _, rfl, h.view Host.nextPid fun _ _ => rfl, hstarted⟩

end Steps

/-! ## Paths that are clear of the area -/

namespace Clear

variable {area cwd : Place} {path : Path}

/-- A path that is clear of the area leads to a place outside of it. -/
theorem outside (h : Clear area cwd path) : ¬Within area (placeOf cwd path) := by
  refine h _ ⟨path.parts.length, ?_⟩
  rw [Denotes, Host.upTo, List.take_length]

/-- What the path starts with leads through no more places than the path. -/
theorem upTo (h : Clear area cwd path) (n : Nat) : Clear area cwd (upTo path n) := by
  rintro place ⟨m, hplace⟩
  refine h place ⟨min m n, ?_⟩
  rw [hplace, Denotes, Host.upTo, Host.upTo, Host.upTo, List.take_take]

theorem parent (h : Clear area cwd path) : Clear area cwd path.parent := by
  have hparent : path.parent = Host.upTo path (path.parts.length - 1) := by
    rw [Path.parent, Host.upTo, List.dropLast_eq_take]
  exact hparent ▸ h.upTo _

/-- As long as there are no double dots, a path is clear of what it does not lead to. -/
theorem of_plain (plain : ".." ∉ path.parts) (outside : ¬Within area (placeOf cwd path)) :
    Clear area cwd path := by
  rintro place ⟨n, rfl⟩ hwithin
  have hplain : ".." ∉ path.parts.take n := fun hmem => plain (List.mem_of_mem_take hmem)
  rw [placeOf, Host.upTo, foldl_stepTo _ _ hplain] at hwithin
  rw [placeOf, foldl_stepTo _ _ plain] at outside
  exact outside (hwithin.of_prefix
    ((List.prefix_append_right_inj _).mpr (List.take_prefix n path.parts)))

end Clear

section Files

variable {area cwd : Place} {path : Path}

/-- Peers resolve a clear path in the same way. -/
theorem Peers.resolve {a b : Host} (h : Peers area cwd a b) (clear : Clear area cwd path) :
    b.files.resolve b.cwdPlace path = a.files.resolve a.cwdPlace path := by
  rw [h.here, h.here_b]
  exact resolve_congr fun place hplace => h.trees place (clear place hplace)

theorem isDirectory_peers (clear : Clear area cwd path) :
    Respects (Peers area cwd) (isDirectory path) := by
  refine Respects.get (fun a b h => ?_) fun host => ?_
  · rw [FileTree.isDirectory, FileTree.isDirectory, h.resolve clear]
  · split
    · exact .pure _
    · split
      · exact .pure _
      · exact .throw _

/-- Being denied is a matter of the text of the path, and peers agree on the texts of clear
paths. -/
theorem locate_peers (normal : path.Normal) (clear : Clear area cwd path) :
    Respects (Peers area cwd) (locate path) := by
  refine Respects.get (fun a b h => ?_) fun host => ?_
  · have hdenied := h.denied path.text (by rw [Path.ofText_text normal]; exact clear.outside)
    rw [hdenied, h.resolve clear]
  · by_cases hnull : holdsNull path = true
    · rw [if_pos hnull]
      exact .throw_bind _ _
    · rw [if_neg hnull]
      by_cases hdenied : host.deniedPaths.contains path.text = true
      · rw [if_pos hdenied]
        exact .throw_bind _ _
      · rw [if_neg hdenied]
        cases host.files.resolve host.cwdPlace path with
        | ok target => exact .pure _
        | error obstacle => exact .throw _

/-- What is located stands outside of the area. -/
theorem locate_outside (clear : Clear area cwd path) {a b : Host} (h : Peers area cwd a b) :
    Ends (locate path) a (fun target _ => ¬Within area target.place) fun _ _ => True := by
  refine (locate_ends path a).imp (fun target after hplace => ?_) fun _ _ _ => trivial
  rw [hplace.2, h.here]
  exact clear.outside

/-- A directory is made for both, or neither gets one since a file is in its way. -/
theorem makeDirectory_peers (normal : path.Normal) (clear : Clear area cwd path) :
    Respects (Peers area cwd) (makeDirectory path) := by
  refine (locate_peers normal clear).bind_known (fun a b => locate_outside clear)
    fun target houtside => ?_
  cases target with
  | directory place => exact .throw _
  | entry place =>
    intro a b h
    refine Mirrors.get ?_
    rw [(h.trees place houtside).isFileAt]
    cases a.files.isFileAt place with
    | true => exact ⟨b, rfl, h⟩
    | false =>
      have hmade : Peers area cwd { a with files := a.files.addDirectory place }
          { b with files := b.files.addDirectory place } :=
        h.withFiles fun other hother => (h.trees other hother).addDirectory
      exact .set ⟨rfl, hmade⟩

/-- A directory that could not be made is fine if it is there, on both or on neither. -/
theorem acceptDirectory_peers (clear : Clear area cwd path) (fault : Fault) :
    Respects (Peers area cwd) (acceptDirectory path fault) := by
  unfold acceptDirectory
  split
  · exact .throw_bind _ _
  · refine (isDirectory_peers clear).bind fun found => ?_
    cases found with
    | true => exact .pure _
    | false => exact .throw _

/-- Peers make the same directories for a path that is clear of the area. -/
theorem makeDirectoriesTo_peers (normal : path.Normal) (clear : Clear area cwd path) : ∀ depth,
    Respects (Peers area cwd) (makeDirectoriesTo path depth) := by
  have hmake : ∀ n, Respects (Peers area cwd) (makeDirectory (Host.upTo path n)) :=
    fun n => makeDirectory_peers (normal.upTo n) (clear.upTo n)
  have haccept : ∀ n fault, Respects (Peers area cwd) (acceptDirectory (Host.upTo path n) fault) :=
    fun n fault => acceptDirectory_peers (clear.upTo n) fault
  have hagain : ∀ n, Respects (Peers area cwd) (tryCatch (makeDirectory (Host.upTo path n))
      fun fault => if isNotFound fault then throw fault
        else acceptDirectory (Host.upTo path n) fault) := by
    refine fun n => (hmake n).tryCatch fun fault => ?_
    split
    · exact .throw _
    · exact haccept n fault
  -- By induction on the depth: what is missing above is made first, and then it is tried again.
  intro depth
  induction depth with
  | zero => exact hagain 0
  | succ depth ih =>
    refine (hmake (depth + 1)).tryCatch fun fault => ?_
    split
    · exact ih.bind fun _ => hagain (depth + 1)
    · exact haccept (depth + 1) fault

theorem makeDirectories_peers (normal : path.Normal) (clear : Clear area cwd path) :
    Respects (Peers area cwd) (makeDirectories path) :=
  makeDirectoriesTo_peers normal clear _

/-- Peers open the same file at a path that is clear of the area. -/
theorem openFile_peers (mode : OpenMode) (normal : path.Normal) (clear : Clear area cwd path) :
    Respects (Peers area cwd) (openFile path mode) := by
  refine (locate_peers normal clear).bind_known (fun a b => locate_outside clear)
    fun target houtside => ?_
  cases target with
  | directory place => exact .throw _
  | entry place =>
    refine (Respects.modify fun a b h => ?_).bind fun _ => .pure place
    cases mode with
    | truncate => exact h.withFiles fun other hother => (h.trees other hother).write ""
    | append => exact h.append houtside ""

end Files

end Host

end Relaunch
