/-
  Integers as they are shown.

  A shown integer consists of decimal digits, with a minus sign in front if it is negative, and it is
  never empty.  A reader that looks for other characters, or that stops at the first of them, does
  not go wrong on it.
-/
import Std.Data.String.ToInt

namespace Relaunch

/-- There is nothing but a sign and digits in a numeral. -/
theorem toList_toString (n : Int) {c : Char} (h : c ∈ (toString n).toList) :
    c = '-' ∨ c.isDigit = true := by
  have hdigit : ∀ m : Nat, c ∈ (Nat.repr m).toList → c.isDigit = true := by
    intro m hm
    exact Nat.isDigit_of_mem_toDigits (b := 10) (by decide) (by decide) (by simpa [Nat.repr] using hm)
  rw [show toString n = n.repr from rfl, Int.repr_eq_if] at h
  split at h
  · exact .inr (hdigit _ h)
  · rw [String.toList_append, List.mem_append] at h
    exact h.imp (by simp) (hdigit _)

/-- So a character that is neither, such as a tab or a line feed, is in no numeral. -/
theorem not_mem_toString {c : Char} (n : Int) (sign : c ≠ '-') (digit : c.isDigit = false) :
    c ∉ (toString n).toList := by
  intro h
  rcases toList_toString n h with rfl | hdigit
  · exact sign rfl
  · exact absurd hdigit (by simp [digit])

theorem toString_ne_nil (n : Int) : (toString n).toList ≠ [] := by
  rw [show toString n = n.repr from rfl, Int.repr_eq_if]
  split
  · exact fun h => Nat.repr_ne_empty (String.toList_eq_nil_iff.mp h)
  · simp

end Relaunch
