/-
  Where the log of a launch is.

  A plan has its working directory and its log from texts.  What a text denotes is settled by its
  slashes (`ofText_eq`): how many it starts with gives the root, and what stands between them gives
  the parts.  A log of which the text starts with a slash stands alone; any other is read in the
  working directory, so that its parts follow those of the directory (`join_ofText`).

  `resolvedLog_located` says where that leads for any two texts, and that nothing changes when the path
  is written down and read again, or resolved once more.
-/
import Relaunch.LaunchPlan
import Relaunch.Proofs.PathTexts

namespace Relaunch

/-! ## What the slashes of a text say -/

namespace Path

/-- How many slashes a text starts with. -/
def leadingSlashes (text : String) : Nat := (text.toList.takeWhile (· == '/')).length

/-- The root that so many slashes in front amount to: three or more are the same as one. -/
def rootAfter : (slashes : Nat) → Root
  | 0 => .here
  | 2 => .doubleSlash
  | _ => .slash

/-- The names between the slashes of a text; neither nothing nor a single dot is a name. -/
def namesIn (text : String) : List String :=
  ((text.toList.splitOn '/').map String.ofList).filter fun name => name != "" && name != "."

theorem rootAfter_eq_here {slashes : Nat} : rootAfter slashes = .here ↔ slashes = 0 := by
  match slashes with
  | 0 | 1 | 2 | _ + 3 => simp [rootAfter]

/-- No more than three characters matter to the root. -/
theorem rootOf_eq (text : List Char) :
    rootOf text = rootAfter (text.takeWhile (· == '/')).length := by
  match text with
  | [] => rfl
  | a :: rest =>
    by_cases ha : a = '/'
    · subst ha
      match rest with
      | [] => rfl
      | b :: rest =>
        by_cases hb : b = '/'
        · subst hb
          match rest with
          | [] => rfl
          | c :: rest =>
            by_cases hc : c = '/'
            · subst hc
              simp [rootOf, rootAfter]
            · simp [rootOf, rootAfter, hc]
        · simp [rootOf, rootAfter, hb]
    · simp [rootOf, rootAfter, ha]

theorem splitSlashes_eq (text : List Char) : splitSlashes text = text.splitOn '/' := by
  induction text with
  | nil => rfl
  | cons c rest ih =>
    rw [List.splitOn] at ih ⊢
    rw [splitSlashes, List.splitOnP_cons_eq_if_modifyHead, ← ih]
    cases hrest : splitSlashes rest with
    | nil => exact absurd hrest (splitSlashes_ne_nil rest)
    | cons piece pieces => by_cases hc : c = '/' <;> simp [hc]

/-- **What a text denotes is settled by its slashes.** -/
theorem ofText_eq (text : String) :
    ofText text = ⟨rootAfter (leadingSlashes text), namesIn text⟩ := by
  have hname : isPart = (fun name => name != "" && name != ".") ∘ String.ofList := by
    funext piece
    have hnil : String.ofList piece = "" ↔ piece = [] := by simp
    have hdot : String.ofList piece = "." ↔ piece = ['.'] := by
      rw [← String.toList_inj, String.toList_ofList]
      rfl
    rw [isPart, Bool.eq_iff_iff]
    simp [hnil, hdot]
  rw [ofText, rootOf_eq, splitSlashes_eq, leadingSlashes, namesIn, List.filter_map, hname]

theorem isAbsolute_ofText (text : String) :
    (ofText text).isAbsolute = true ↔ leadingSlashes text ≠ 0 := by
  rw [ofText_eq, isAbsolute, bne_iff_ne, ne_eq, rootAfter_eq_here]

/-- A log of which the text starts with a slash stands alone; the parts of any other follow those of
the directory. -/
theorem join_ofText (directory log : String) :
    ofText directory / ofText log = if leadingSlashes log = 0
      then ⟨(ofText directory).root, (ofText directory).parts ++ (ofText log).parts⟩
      else ofText log := by
  split
  · rename_i hlog
    exact join_of_relative (fun h => (isAbsolute_ofText log).mp h hlog) _
  · rename_i hlog
    exact join_of_absolute ((isAbsolute_ofText log).mpr hlog) _

end Path

/-! ## The log of a plan -/

namespace LaunchPlan

open Relaunch.Path

/-- The plan with its working directory and its log read from texts. -/
def located (plan : LaunchPlan) (directory log : String) : LaunchPlan :=
  { plan with directory := .ofText directory, log := .ofText log }

/-- **Where the log of a plan is**, for any texts.  It is the path of the log if that starts with a
slash, and otherwise the path of the working directory with the parts of the log after its own, where
the slashes of a text settle what it denotes.  So it is absolute if either of the two starts with a
slash, and it is what its own text denotes; resolved once more in an absolute working directory, it
stays as it is. -/
theorem resolvedLog_located (plan : LaunchPlan) (directory log : String) :
    let resolved := (plan.located directory log).resolvedLog
    (∀ text, ofText text = ⟨rootAfter (leadingSlashes text), namesIn text⟩) ∧
      resolved = (if leadingSlashes log = 0
        then ⟨(ofText directory).root, (ofText directory).parts ++ (ofText log).parts⟩
        else ofText log) ∧
      (resolved.isAbsolute = true ↔ leadingSlashes directory ≠ 0 ∨ leadingSlashes log ≠ 0) ∧
      ofText resolved.text = resolved ∧
      (leadingSlashes directory ≠ 0 →
        { plan.located directory log with log := resolved }.resolvedLog = resolved) := by
  intro resolved
  have hresolved : resolved = ofText directory / ofText log := rfl
  have habsolute : resolved.isAbsolute = true ↔
      leadingSlashes directory ≠ 0 ∨ leadingSlashes log ≠ 0 := by
    rw [hresolved, isAbsolute_join_iff, isAbsolute_ofText, isAbsolute_ofText]
  have hnormal : resolved.Normal := (normal_ofText directory).join (normal_ofText log)
  refine ⟨ofText_eq, join_ofText directory log, habsolute, ofText_text hnormal, fun hdirectory => ?_⟩
  exact join_of_absolute (habsolute.mpr (.inl hdirectory)) _

example : (LaunchPlan.located default "//srv/./x/" "a/../b").resolvedLog =
    ⟨.doubleSlash, ["srv", "x", "a", "..", "b"]⟩ := by decide
example : (LaunchPlan.located default "." "").resolvedLog.text = "." := by decide
example : (LaunchPlan.located default "/srv" "///x").resolvedLog.text = "/x" := by decide

end LaunchPlan

end Relaunch
