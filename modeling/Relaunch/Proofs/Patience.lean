/-
  What bounds that make sense promise.

  Bounds are numbers of either kind, and their check compares them by exact value.  Here that value is
  a rational number (`Number.value?`), so that times can be added up without rounding.

  * `one_le_searches`: bounds that pass the check allow at least one search, whatever kind of number
    bounds the attempts;
  * `exactLongestSleep?` is the longest time that a search sleeps, added up exactly, and among
    integers the program computes just that.
-/
import Relaunch.Patience
import Relaunch.Proofs.Order
import Mathlib.Tactic.Linarith

namespace Relaunch

namespace Number

/-- The ceiling of a positive value is positive. -/
theorem dyadicCeiling_pos {m : Int} (e : Int) (h : 0 < m) : 0 < dyadicCeiling m e := by
  have hscaled : 0 < m * twoTo e.toNat := Int.mul_pos h (by exact_mod_cast twoTo_pos _)
  have hunit : (0 : Int) < twoTo (-e).toNat := by exact_mod_cast twoTo_pos _
  have hneg : -(m * twoTo e.toNat) / twoTo (-e).toNat < 0 :=
    Int.ediv_neg_of_neg_of_pos (by omega) hunit
  rw [dyadicCeiling]
  omega

end Number

namespace Patience

open Relaunch.Number

/-! ## Bounds that pass the check -/

/-- The check passes bounds as they are, and just if none of them is out of its range. -/
theorem check_eq_ok {patience checked : Patience} :
    patience.check = .ok checked ↔ checked = patience ∧ patience.attempts.less 1 = false ∧
      patience.delay.isNegative = false ∧
      ∀ grace, patience.grace = some grace → grace.isNegative = false := by
  unfold check
  cases hattempts : patience.attempts.less 1 with
  | true => simp [bind, Except.bind, throw, throwThe, MonadExceptOf.throw]
  | false =>
    cases hdelay : patience.delay.isNegative with
    | true => simp [bind, Except.bind, throw, throwThe, MonadExceptOf.throw]
    | false =>
      cases hgrace : patience.grace with
      | none =>
        simp only [bind, Except.bind, pure, Except.pure, Except.ok.injEq, Bool.false_eq_true,
          if_false, reduceCtorEq, false_implies, implies_true, and_true]
        exact eq_comm
      | some grace =>
        cases hnegative : grace.isNegative with
        | true => simp [bind, Except.bind, throw, throwThe, MonadExceptOf.throw, hnegative]
        | false =>
          simp only [bind, Except.bind, pure, Except.pure, Except.ok.injEq, Bool.false_eq_true,
            if_false, Option.some.injEq, forall_eq', hnegative, and_true]
          exact eq_comm

section Valid

variable {patience : Patience} (valid : patience.check = .ok patience)

include valid

theorem one_le_of_int {n : Int} (h : patience.attempts = .int n) : 1 ≤ n := by
  have hless := (check_eq_ok.mp valid).2.1
  rw [h, ← Bool.not_eq_true, less_iff (value?_int n) value?_one] at hless
  have hle : (1 : ℚ) ≤ n := le_of_not_gt hless
  exact_mod_cast hle

theorem delay_nonneg {d : ℚ} (h : patience.delay.value? = some d) : 0 ≤ d := by
  have hnegative := (check_eq_ok.mp valid).2.2.1
  rw [isNegative, ← Bool.not_eq_true, less_iff h value?_zero] at hnegative
  exact le_of_not_gt hnegative

/-- **Bounds that pass the check allow a search**, unless the number of attempts is undefined. -/
theorem one_le_searches (defined : patience.attempts.exact ≠ .undefined) :
    1 ≤ patience.searches := by
  have hless := (check_eq_ok.mp valid).2.1
  unfold searches
  cases hexact : patience.attempts.exact with
  | undefined => exact absurd hexact defined
  | infinite negative =>
    cases negative with
    | false => exact Nat.succ_le_of_lt (by decide)
    | true =>
      rw [less, hexact] at hless
      exact absurd hless (by decide)
  | dyadic m e =>
    have hvalue : patience.attempts.value? = some (m * 2 ^ e : ℚ) := by rw [value?, hexact]
    rw [← Bool.not_eq_true, less_iff hvalue value?_one, not_lt] at hless
    have hunit : (0 : ℚ) < 2 ^ e := by positivity
    have hm : (0 : ℚ) < m := by
      by_contra hm
      have hle : (m : ℚ) * 2 ^ e ≤ 0 := mul_nonpos_of_nonpos_of_nonneg (le_of_not_gt hm) hunit.le
      linarith
    have hceiling := dyadicCeiling_pos e (Int.cast_pos.mp hm)
    show 1 ≤ (dyadicCeiling m e).toNat
    omega

end Valid

/-! ## The longest sleep -/

/-- The longest time that a search sleeps, added up exactly: one delay less than attempts. -/
def exactLongestSleep? (patience : Patience) : Option ℚ := do
  let attempts ← patience.attempts.value?
  let delay ← patience.delay.value?
  return (attempts - 1) * delay

/-- Among integers the program computes the longest sleep exactly. -/
theorem longestSleep?_of_int {patience : Patience} {n d : Int} (hn : patience.attempts = .int n)
    (hd : patience.delay = .int d) :
    ∃ longest, patience.longestSleep? = some longest ∧
      longest.value? = patience.exactLongestSleep? := by
  refine ⟨.int ((n - 1) * d), ?_, ?_⟩
  · rw [longestSleep?, hn, hd]
    rfl
  · rw [exactLongestSleep?, hn, hd]
    simp

end Patience

end Relaunch
