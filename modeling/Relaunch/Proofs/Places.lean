/-
  What stands at a place of a tree.

  A tree is looked at place by place: is there a directory (`isDirectoryAt`), and what does the file
  there hold (`content?`)?  Everything that changes a tree is described by what these two say
  afterwards.

  * writing changes the content at one place and makes no directory (`content?_write`);
  * adding a directory changes the answer at one place and no content (`isDirectoryAt_addDirectory`);
  * moving something changes nothing but what is below its old and its new place (`move_sameAt`);
  * a path that denotes anything denotes the place that its names lead to, read one after the other
    (`placeOf`), whatever the tree holds (`resolve_place`).
-/
import Relaunch.FileTree

namespace Relaunch.FileTree

/-! ## Writing -/

/-- The content is replaced where the file is listed, and every other file keeps its own. -/
theorem lookup_replaceContent (place other : Place) (content : String) :
    ∀ files : List (Place × String), (files.lookup place).isSome →
      (replaceContent place content files).lookup other =
        if other = place then some content else files.lookup other := by
  intro files
  induction files with
  | nil => intro h; simp at h
  | cons file rest ih =>
    obtain ⟨name, old⟩ := file
    intro h
    by_cases hname : name = place
    · subst hname
      by_cases hother : other = name
      · simp [replaceContent, hother]
      · have hne : (other == name) = false := by simpa using hother
        simp only [replaceContent, if_true, List.lookup_cons, hne, if_neg hother]
    · have hrest : (rest.lookup place).isSome := by
        have hne : (place == name) = false := by simpa using Ne.symm hname
        rw [List.lookup_cons, hne] at h
        exact h
      by_cases hother : other = name
      · subst hother
        simp [replaceContent, hname]
      · have hne : (other == name) = false := by simpa using hother
        simp only [replaceContent, hname, if_false, List.lookup_cons, hne]
        exact ih hrest

/-- A file holds what was written to it last. -/
theorem content?_write (tree : FileTree) (place other : Place) (content : String) :
    (tree.write place content).content? other =
      if other = place then some content else tree.content? other := by
  unfold write
  split
  · rename_i hfile
    exact lookup_replaceContent place other content tree.files hfile
  · rename_i hfile
    have hnone : tree.files.lookup place = none := by
      rw [← Option.not_isSome_iff_eq_none]
      exact hfile
    show (tree.files ++ [(place, content)]).lookup other = _
    rw [List.lookup_append]
    by_cases hother : other = place
    · subst hother
      simp [hnone]
    · have hne : (other == place) = false := by simpa using hother
      simp [content?, List.lookup_cons, hne, hother]

/-- Appending to no file makes one. -/
theorem content?_append (tree : FileTree) (place other : Place) (text : String) :
    (tree.append place text).content? other =
      if other = place then some ((tree.content? place).getD "" ++ text) else tree.content? other :=
  content?_write tree place other _

@[simp] theorem isDirectoryAt_write (tree : FileTree) (place other : Place) (content : String) :
    (tree.write place content).isDirectoryAt other = tree.isDirectoryAt other := by
  unfold write
  split <;> rfl

@[simp] theorem isDirectoryAt_append (tree : FileTree) (place other : Place) (text : String) :
    (tree.append place text).isDirectoryAt other = tree.isDirectoryAt other :=
  isDirectoryAt_write tree place other _

/-! ## Adding directories -/

@[simp] theorem content?_addDirectory (tree : FileTree) (place other : Place) :
    (tree.addDirectory place).content? other = tree.content? other := by
  unfold addDirectory
  split <;> rfl

theorem isDirectoryAt_addDirectory (tree : FileTree) (place other : Place) :
    (tree.addDirectory place).isDirectoryAt other = true ↔
      tree.isDirectoryAt other = true ∨ other = place := by
  unfold addDirectory
  split
  · rename_i hthere
    constructor
    · exact Or.inl
    · rintro (h | rfl)
      · exact h
      · exact hthere
  · simp [isDirectoryAt, or_assoc]

/-! ## Trees that agree at a place -/

/-- At the place the two trees hold the same. -/
def SameAt (a b : FileTree) (place : Place) : Prop :=
  b.content? place = a.content? place ∧ b.isDirectoryAt place = a.isDirectoryAt place

theorem SameAt.refl (tree : FileTree) (place : Place) : SameAt tree tree place := ⟨rfl, rfl⟩

theorem SameAt.trans {a b c : FileTree} {place : Place} (h : SameAt a b place)
    (h' : SameAt b c place) : SameAt a c place :=
  ⟨h'.1.trans h.1, h'.2.trans h.2⟩

/-- Does the place lie in the directory, or is it the directory itself? -/
def Inside (directory place : Place) : Prop := directory <+: place

/-- What is appended to one file leaves the others alone. -/
theorem append_sameAt {tree : FileTree} {place other : Place} (text : String)
    (apart : other ≠ place) : SameAt tree (tree.append place text) other :=
  ⟨by rw [content?_append, if_neg apart], isDirectoryAt_append ..⟩

/-! ## Moving -/

section Moving

variable {source target place : Place}

/-- What moves comes from below the source and goes below the target. -/
theorem movedPlace_eq_iff (apart : ¬Inside source place) (apart' : ¬Inside target place)
    (other : Place) : movedPlace source target other = place ↔ other = place := by
  unfold movedPlace
  split
  · rename_i hprefix
    obtain ⟨rest, rfl⟩ := List.isPrefixOf_iff_prefix.mp hprefix
    constructor
    · intro h
      exact absurd (h ▸ List.prefix_append target _) apart'
    · intro h
      exact absurd (h ▸ List.prefix_append source rest) apart
  · exact Iff.rfl

/-- Neither what moves away nor what it lands on stood at the place. -/
theorem lookup_moved (apart : ¬Inside source place) (apart' : ¬Inside target place) :
    ∀ files : List (Place × String),
      (files.map fun (other, content) => (movedPlace source target other, content)).lookup place =
        files.lookup place := by
  intro files
  induction files with
  | nil => rfl
  | cons file rest ih =>
    obtain ⟨other, content⟩ := file
    have hiff := movedPlace_eq_iff apart apart' other
    have hbeq : (place == movedPlace source target other) = (place == other) := by
      rw [Bool.eq_iff_iff, beq_iff_eq, beq_iff_eq, eq_comm, hiff, eq_comm]
    simp only [List.map_cons, List.lookup_cons, hbeq, ih]

/-- A move is noticed below its source and below its target alone. -/
theorem move_sameAt (tree : FileTree) (apart : ¬Inside source place)
    (apart' : ¬Inside target place) : SameAt tree (tree.move source target) place := by
  refine ⟨lookup_moved apart apart' tree.files, ?_⟩
  unfold isDirectoryAt
  congr 1
  rw [Bool.eq_iff_iff, List.contains_iff_mem, List.contains_iff_mem]
  show place ∈ tree.directories.map (movedPlace source target) ↔ _
  rw [List.mem_map]
  constructor
  · rintro ⟨other, hmem, hother⟩
    rw [movedPlace_eq_iff apart apart'] at hother
    exact hother ▸ hmem
  · intro hmem
    exact ⟨place, hmem, (movedPlace_eq_iff apart apart' place).mpr rfl⟩

theorem removeFile_sameAt (tree : FileTree) {other : Place} (apart : place ≠ other) :
    SameAt tree (tree.removeFile other) place := by
  refine ⟨?_, rfl⟩
  show (tree.files.filter fun file => file.1 != other).lookup place = tree.files.lookup place
  induction tree.files with
  | nil => rfl
  | cons file rest ih =>
    obtain ⟨name, content⟩ := file
    by_cases hname : name = other
    · subst hname
      have hne : (place == name) = false := by simpa using apart
      rw [List.filter_cons_of_neg (by simp), List.lookup_cons, hne, ih]
    · rw [List.filter_cons_of_pos (by simpa using hname), List.lookup_cons, List.lookup_cons, ih]

/-- A move changes the tree where it starts and where it ends, directories with all that they
hold. -/
theorem moveOver?_sameAt {tree moved : FileTree} (apart : ¬Inside source place)
    (apart' : ¬Inside target place) (h : tree.moveOver? source target = some moved) :
    SameAt tree moved place := by
  unfold moveOver? at h
  split at h
  · obtain rfl : tree = moved := by simpa using h
    exact .refl tree place
  · split at h
    · simp at h
    · obtain rfl : (tree.removeFile target).move source target = moved := by simpa using h
      have hne : place ≠ target := fun heq => apart' (heq ▸ List.prefix_refl target)
      exact (removeFile_sameAt tree hne).trans (move_sameAt _ apart apart')

end Moving

/-! ## The places of paths -/

/-- Where a name leads from a place. -/
def stepTo (place : Place) (name : String) : Place :=
  if name = ".." then place.dropLast else place ++ [name]

/-- The place that the names of a path lead to, read one after the other. -/
def placeOf (cwd : Place) (path : Path) : Place := path.parts.foldl stepTo (startOf cwd path)

/-- A walk that succeeds ends where the names lead. -/
theorem walk_eq (tree : FileTree) : ∀ (names : List String) (place reached : Place),
    tree.walk place names = .ok reached → reached = names.foldl stepTo place := by
  intro names
  induction names with
  | nil =>
    intro place reached h
    simpa [walk, eq_comm] using h
  | cons name names ih =>
    intro place reached h
    have hstep : tree.walk place (name :: names) =
        if nameLimit < name.utf8ByteSize then .error .tooLong
        else if tree.isDirectoryAt (stepTo place name) then tree.walk (stepTo place name) names
        else if tree.isFileAt (stepTo place name) then .error .blocked
        else .error .absent := rfl
    rw [hstep] at h
    by_cases hlong : nameLimit < name.utf8ByteSize
    · simp [hlong] at h
    · rw [if_neg hlong] at h
      by_cases hdirectory : tree.isDirectoryAt (stepTo place name) = true
      · rw [if_pos hdirectory] at h
        exact ih _ _ h
      · rw [if_neg hdirectory] at h
        split at h <;> simp at h

/-- The last name of a path goes on from where the names before it lead. -/
theorem placeOf_of_getLast? (cwd : Place) {path : Path} {name : String}
    (hlast : path.parts.getLast? = some name) :
    placeOf cwd path = stepTo (path.parts.dropLast.foldl stepTo (startOf cwd path)) name := by
  obtain ⟨rest, hrest⟩ := List.getLast?_eq_some_iff.mp hlast
  rw [placeOf, hrest, List.foldl_append, List.dropLast_concat]
  rfl

/-- The place of a target. -/
def Target.place : Target → Place
  | .directory place | .entry place => place

/-- Whatever a path denotes stands at the place of the path; an entry is no directory. -/
theorem resolve_place {tree : FileTree} {cwd : Place} {path : Path} {target : Target}
    (h : tree.resolve cwd path = .ok target) :
    target.place = placeOf cwd path ∧
      ∀ place, target = .entry place → tree.isDirectoryAt place = false := by
  unfold resolve at h
  by_cases hlong : pathLimit < path.text.utf8ByteSize
  · simp [hlong, bind, Except.bind, throw, throwThe, MonadExceptOf.throw] at h
  · rw [if_neg hlong] at h
    cases hwalk : tree.walk (startOf cwd path) path.parts.dropLast with
    | error obstacle =>
      rw [hwalk] at h
      exact absurd h (by simp [bind, Except.bind])
    | ok parent =>
      have hparent := walk_eq tree _ _ _ hwalk
      rw [hwalk] at h
      simp only [bind, Except.bind, pure, Except.pure] at h
      split at h
      · rename_i hlast
        have hnil : path.parts = [] := by simpa using hlast
        rw [Except.ok.injEq] at h
        subst h
        rw [hnil] at hparent
        simp [Target.place, placeOf, hnil, hparent]
      · rename_i hlast
        have hplace := placeOf_of_getLast? cwd hlast
        rw [← hparent, stepTo, if_pos rfl] at hplace
        rw [Except.ok.injEq] at h
        subst h
        exact ⟨hplace.symm, by simp⟩
      · rename_i name hup hlast
        have hplace := placeOf_of_getLast? cwd hlast
        have hname : name ≠ ".." := fun heq => hup (heq ▸ rfl)
        rw [← hparent, stepTo, if_neg hname] at hplace
        by_cases hlongName : nameLimit < name.utf8ByteSize
        · simp [hlongName, throw, throwThe, MonadExceptOf.throw] at h
        · rw [if_neg hlongName] at h
          by_cases hdirectory : tree.isDirectoryAt (parent ++ [name]) = true
          · rw [if_pos hdirectory, Except.ok.injEq] at h
            subst h
            exact ⟨hplace.symm, by simp⟩
          · rw [if_neg hdirectory, Except.ok.injEq] at h
            subst h
            refine ⟨hplace.symm, fun place heq => ?_⟩
            rw [Target.entry.injEq] at heq
            rw [← heq]
            exact eq_false_of_ne_true hdirectory

end Relaunch.FileTree
