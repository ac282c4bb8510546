/-
  The texts of paths.

  Whatever is read is normal: its parts hold no slash, and none of them is empty or a single dot
  (`normal_ofText`).  A normal path is what its text denotes (`ofText_text`), so different normal
  paths have different texts, and normal paths stay normal when they are joined or cut short.
-/
import Relaunch.Path

namespace Relaunch.Path

/-! ## Splitting at slashes -/

theorem splitSlashes_ne_nil (text : List Char) : splitSlashes text ≠ [] := by
  cases text with
  | nil => simp [splitSlashes]
  | cons c rest =>
    rw [splitSlashes]
    split
    · simp
    · split <;> simp

theorem splitSlashes_slash (rest : List Char) :
    splitSlashes ('/' :: rest) = [] :: splitSlashes rest := by
  rw [splitSlashes]
  cases hrest : splitSlashes rest with
  | nil => exact absurd hrest (splitSlashes_ne_nil rest)
  | cons piece pieces => exact if_pos rfl

/-- What comes before the first slash is the first piece. -/
theorem splitSlashes_append {piece : List Char} (plain : '/' ∉ piece) (rest : List Char) :
    splitSlashes (piece ++ '/' :: rest) = piece :: splitSlashes rest := by
  induction piece with
  | nil => exact splitSlashes_slash rest
  | cons c piece ih =>
    rw [List.mem_cons, not_or] at plain
    rw [List.cons_append, splitSlashes, ih plain.2]
    exact if_neg (Ne.symm plain.1)

/-- A text without slashes is a single piece. -/
theorem splitSlashes_of_plain {piece : List Char} (plain : '/' ∉ piece) :
    splitSlashes piece = [piece] := by
  induction piece with
  | nil => rfl
  | cons c piece ih =>
    rw [List.mem_cons, not_or] at plain
    rw [splitSlashes, ih plain.2]
    exact if_neg (Ne.symm plain.1)

/-- The pieces of a text hold its characters, but for the slashes. -/
theorem mem_of_mem_splitSlashes {text piece : List Char} (h : piece ∈ splitSlashes text) {d : Char}
    (hd : d ∈ piece) : d ∈ text ∧ d ≠ '/' := by
  induction text generalizing piece with
  | nil =>
    rw [splitSlashes, List.mem_singleton] at h
    exact absurd (h ▸ hd) List.not_mem_nil
  | cons c rest ih =>
    have hrest : ∀ piece ∈ splitSlashes rest, d ∈ piece → d ∈ c :: rest ∧ d ≠ '/' :=
      fun piece hmem hd => (ih hmem hd).imp_left (List.mem_cons_of_mem c)
    cases hsplit : splitSlashes rest with
    | nil => exact absurd hsplit (splitSlashes_ne_nil rest)
    | cons first pieces =>
      rw [hsplit, List.forall_mem_cons] at hrest
      rw [splitSlashes, hsplit] at h
      dsimp only at h
      by_cases hc : c = '/'
      · rw [if_pos hc, List.mem_cons, List.mem_cons] at h
        rcases h with rfl | rfl | h
        · exact absurd hd List.not_mem_nil
        · exact hrest.1 hd
        · exact hrest.2 piece h hd
      · rw [if_neg hc, List.mem_cons] at h
        rcases h with rfl | h
        · rcases List.mem_cons.mp hd with rfl | hd
          · exact ⟨List.mem_cons_self .., hc⟩
          · exact hrest.1 hd
        · exact hrest.2 piece h hd

theorem not_mem_of_mem_splitSlashes {text piece : List Char} (h : piece ∈ splitSlashes text) :
    '/' ∉ piece := fun hslash => (mem_of_mem_splitSlashes h hslash).2 rfl

/-- Pieces with slashes between them split into the pieces. -/
theorem splitSlashes_intercalate : ∀ {pieces : List (List Char)}, pieces ≠ [] →
    (∀ piece ∈ pieces, '/' ∉ piece) → splitSlashes (List.intercalate ['/'] pieces) = pieces := by
  intro pieces
  induction pieces with
  | nil => exact fun h => absurd rfl h
  | cons piece rest ih =>
    intro _ plain
    have hpiece := plain piece (List.mem_cons_self ..)
    cases rest with
    | nil =>
      rw [List.intercalate_singleton]
      exact splitSlashes_of_plain hpiece
    | cons next rest =>
      rw [List.intercalate_cons_cons, List.append_assoc, List.singleton_append,
        splitSlashes_append hpiece, ih (by simp) fun other hmem =>
          plain other (List.mem_cons_of_mem _ hmem)]

/-! ## Normal paths -/

/-- Can a name be a part of a path? -/
def IsName (name : String) : Prop := isPart name.toList = true ∧ '/' ∉ name.toList

/-- Every part of the path can be one. -/
def Normal (path : Path) : Prop := ∀ part ∈ path.parts, IsName part

/-- Reading a text drops what is no part, and no piece has a slash in it. -/
theorem normal_ofText (text : String) : (ofText text).Normal := by
  intro part hmem
  obtain ⟨piece, hpiece, rfl⟩ := List.mem_map.mp hmem
  obtain ⟨hsplit, hpart⟩ := List.mem_filter.mp hpiece
  rw [IsName, String.toList_ofList]
  exact ⟨hpart, not_mem_of_mem_splitSlashes hsplit⟩

namespace Normal

variable {path base tail : Path}

theorem of_subset (h : path.Normal) {root : Root} {parts : List String}
    (fewer : ∀ part ∈ parts, part ∈ path.parts) : (⟨root, parts⟩ : Path).Normal :=
  fun part hmem => h part (fewer part hmem)

theorem parent (h : path.Normal) : path.parent.Normal :=
  h.of_subset fun _ hmem => (List.dropLast_subset _ hmem)

/-- Joining takes parts from both paths and makes up none. -/
theorem join (h : base.Normal) (h' : tail.Normal) : (base / tail).Normal := by
  by_cases habsolute : tail.isAbsolute = true
  · rw [join_of_absolute habsolute]
    exact h'
  · rw [join_of_relative habsolute]
    intro part hmem
    exact (List.mem_append.mp hmem).elim (h part) (h' part)

end Normal

/-! ## The text of a normal path -/

/-- The characters of the text of a path that has a root or parts. -/
theorem toList_text {path : Path} (some_text : ¬(path.root = .here ∧ path.parts = [])) :
    path.text.toList = path.root.text.toList ++
      List.intercalate ['/'] (path.parts.map String.toList) := by
  rw [text, if_neg some_text, String.toList_append, String.toList_intercalate]
  rfl

section Reading

variable {pieces : List (List Char)}

/-- Pieces with slashes between them do not begin with a slash. -/
theorem head?_intercalate (parts : ∀ piece ∈ pieces, isPart piece = true ∧ '/' ∉ piece) :
    (List.intercalate ['/'] pieces).head? ≠ some '/' := by
  cases pieces with
  | nil => simp [List.intercalate]
  | cons piece rest =>
    obtain ⟨hpart, hplain⟩ := parts piece (List.mem_cons_self ..)
    obtain ⟨c, more, rfl⟩ : ∃ c more, piece = c :: more := by
      cases piece with
      | nil => simp [isPart] at hpart
      | cons c more => exact ⟨c, more, rfl⟩
    have hc : c ≠ '/' := fun heq => hplain (heq ▸ List.mem_cons_self ..)
    cases rest with
    | nil => simpa [List.intercalate_singleton] using hc
    | cons next rest => simpa [List.intercalate_cons_cons] using hc

/-- The slashes of a root are told from what follows, as long as that has no slash in front. -/
theorem rootOf_append {body : List Char} (unrooted : body.head? ≠ some '/') (root : Root) :
    rootOf (root.text.toList ++ body) = root := by
  cases body with
  | nil => cases root <;> rfl
  | cons c rest =>
    have hc : c ≠ '/' := fun heq => unrooted (heq ▸ rfl)
    cases root with
    | here =>
      show rootOf (c :: rest) = .here
      simp [rootOf, hc]
    | slash =>
      show rootOf ('/' :: c :: rest) = .slash
      simp [rootOf, hc]
    | doubleSlash =>
      show rootOf ('/' :: '/' :: c :: rest) = .doubleSlash
      simp [rootOf, hc]

/-- A root in front adds no parts. -/
theorem filter_splitSlashes_append (root : Root) (body : List Char) :
    (splitSlashes (root.text.toList ++ body)).filter isPart = (splitSlashes body).filter isPart := by
  cases root with
  | here => rfl
  | slash =>
    show (splitSlashes ('/' :: body)).filter isPart = _
    rw [splitSlashes_slash]
    rfl
  | doubleSlash =>
    show (splitSlashes ('/' :: '/' :: body)).filter isPart = _
    rw [splitSlashes_slash, splitSlashes_slash]
    rfl

/-- Parts that are written with slashes between them are read back. -/
theorem filter_splitSlashes_intercalate
    (parts : ∀ piece ∈ pieces, isPart piece = true ∧ '/' ∉ piece) :
    (splitSlashes (List.intercalate ['/'] pieces)).filter isPart = pieces := by
  by_cases hnil : pieces = []
  · rw [hnil]
    rfl
  · rw [splitSlashes_intercalate hnil fun piece hmem => (parts piece hmem).2,
      List.filter_eq_self.mpr fun piece hmem => (parts piece hmem).1]

end Reading

/-- **A normal path is what its text denotes.** -/
theorem ofText_text {path : Path} (h : path.Normal) : ofText path.text = path := by
  by_cases hempty : path.root = .here ∧ path.parts = []
  · obtain ⟨root, parts⟩ := path
    obtain ⟨rfl, rfl⟩ := hempty
    decide
  · have hparts : ∀ piece ∈ path.parts.map String.toList, isPart piece = true ∧ '/' ∉ piece := by
      intro piece hmem
      obtain ⟨part, hpart, rfl⟩ := List.mem_map.mp hmem
      exact h part hpart
    rw [ofText, toList_text hempty, rootOf_append (head?_intercalate hparts),
      filter_splitSlashes_append, filter_splitSlashes_intercalate hparts, List.map_map]
    have hsame : path.parts.map (String.ofList ∘ String.toList) = path.parts := by
      simp [Function.comp_def]
    rw [hsame]

example : ofText (⟨.doubleSlash, ["a", "..", "b"]⟩ : Path).text = ⟨.doubleSlash, ["a", "..", "b"]⟩ := by
  decide

end Relaunch.Path
