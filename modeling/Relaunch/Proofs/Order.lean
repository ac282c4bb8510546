/-
  The order of numbers.

  The program compares numbers by exact value, whichever kind they are of.  That value is a rational
  number (`value?`), unless it is one of the two infinities, and then it still has its place in the
  order (`place?`); only what is undefined has none.

  * `less_iff`: the strict comparison is the one between rational numbers;
  * `atMost_iff`: the other comparison is the one between places (`NoMoreThan`), and among integers the
    one between integers (`atMost_int`).
-/
import Relaunch.Number.Basic
import Mathlib.Algebra.Order.Field.Power
import Mathlib.Algebra.Order.Ring.Rat
import Mathlib.Order.WithBot
import Mathlib.Tactic.Positivity

namespace Relaunch.Number

/-! ## The value of a number -/

/-- The rational number that a number stands for, unless it is infinite or undefined. -/
def value? (number : Number) : Option ℚ :=
  match number.exact with
  | .dyadic significand exponent => some (significand * 2 ^ exponent)
  | _ => none

/-- An integer stands for itself. -/
@[simp] theorem value?_int (n : Int) : (int n).value? = some (n : ℚ) := by
  simp [value?, exact, Exact.ofInt]

theorem value?_zero : (0 : Number).value? = some 0 :=
  (value?_int 0).trans (by rw [Int.cast_zero])

theorem value?_one : (1 : Number).value? = some 1 :=
  (value?_int 1).trans (by rw [Int.cast_one])

theorem twoTo_pos (n : Nat) : 0 < twoTo n := Nat.two_pow_pos n

@[simp] theorem cast_twoTo (n : Nat) : (twoTo n : ℚ) = 2 ^ n := by
  rw [twoTo, Nat.pow_eq, Nat.cast_pow, Nat.cast_ofNat]

/-- Taken to the smaller exponent, two values are compared as they are. -/
theorem compareDyadic_eq_lt {m e m' e' : Int} :
    compareDyadic m e m' e' = .lt ↔ (m : ℚ) * 2 ^ e < (m' : ℚ) * 2 ^ e' := by
  have hscale : ∀ low k : Int, ∀ n : Int, low ≤ k →
      ((n * twoTo (k - low).toNat : Int) : ℚ) * 2 ^ low = (n : ℚ) * 2 ^ k := by
    intro low k n hle
    have hk : k = ((k - low).toNat : Int) + low := by omega
    rw [Int.cast_mul, Int.cast_natCast, cast_twoTo, mul_assoc]
    conv_rhs => rw [hk, zpow_add₀ two_ne_zero, zpow_natCast]
  -- Both sides are the scaled integers times the unit of the smaller exponent.
  have hpos : (0 : ℚ) < 2 ^ min e e' := by positivity
  rw [compareDyadic, compare_lt_iff_lt, ← hscale (min e e') e m (min_le_left ..),
    ← hscale (min e e') e' m' (min_le_right ..), mul_lt_mul_iff_left₀ hpos, Int.cast_lt]

/-- A number is less than another just if its value is. -/
theorem less_iff {a b : Number} {x y : ℚ} (ha : a.value? = some x) (hb : b.value? = some y) :
    a.less b = true ↔ x < y := by
  unfold value? at ha hb
  cases hea : a.exact <;> rw [hea] at ha <;> simp only [Option.some.injEq, reduceCtorEq] at ha
  cases heb : b.exact <;> rw [heb] at hb <;> simp only [Option.some.injEq, reduceCtorEq] at hb
  rw [less, hea, heb, ← ha, ← hb, ← compareDyadic_eq_lt]
  simp [Exact.compare?]

/-! ## Comparisons the other way round -/

/-- Both ways round, the significands are taken to the same exponent. -/
theorem compareDyadic_swap (m e m' e' : Int) :
    compareDyadic m' e' m e = (compareDyadic m e m' e').swap := by
  simp only [compareDyadic, min_comm e' e]
  exact Std.OrientedCmp.eq_swap

/-- Two values compare the other way round as they do one way. -/
theorem compare?_swap (a b : Exact) : b.compare? a = (a.compare? b).map Ordering.swap := by
  cases a with
  | undefined => cases b <;> rfl
  | infinite negative =>
    cases b with
    | undefined => rfl
    | infinite negative' => cases negative <;> cases negative' <;> rfl
    | dyadic m e => cases negative <;> rfl
  | dyadic m e =>
    cases b with
    | undefined => rfl
    | infinite negative => cases negative <;> rfl
    | dyadic m' e' => exact congrArg some (compareDyadic_swap m e m' e')

/-- What is at least a bound is not below it. -/
theorem less_of_atMost {a b : Number} (h : a.atMost b = true) : b.less a = false := by
  rw [less, compare?_swap]
  unfold atMost at h
  split at h
  · rename_i hless
    rw [hless]
    rfl
  · rename_i hequal
    rw [hequal]
    rfl
  · exact absurd h Bool.false_ne_true

/-! ## The places of numbers -/

/-- The place of a number among the rational numbers and the two infinities, unless it is undefined. -/
def place? (number : Number) : Option (WithBot (WithTop ℚ)) :=
  match number.exact with
  | .undefined => none
  | .infinite true => some ⊥
  | .infinite false => some ((⊤ : WithTop ℚ) : WithBot (WithTop ℚ))
  | .dyadic significand exponent => some ((significand * 2 ^ exponent : ℚ) : WithTop ℚ)

/-- Is the place of `a` at most that of `b`?  What is undefined has no place. -/
def NoMoreThan (a b : Number) : Prop :=
  ∃ x y, a.place? = some x ∧ b.place? = some y ∧ x ≤ y

/-- The comparison that lets equals pass is the one between places. -/
theorem atMost_iff {a b : Number} : a.atMost b = true ↔ a.NoMoreThan b := by
  unfold atMost NoMoreThan place?
  cases a.exact with
  | undefined => simp [Exact.compare?]
  | infinite negative =>
    cases b.exact with
    | undefined => simp [Exact.compare?]
    | infinite negative' => cases negative <;> cases negative' <;> simp [Exact.compare?]
    | dyadic m' e' =>
      dsimp only
      generalize (m' : ℚ) * 2 ^ e' = y
      cases negative <;> simp [Exact.compare?]
  | dyadic m e =>
    have hle : ∀ m' e', compareDyadic m e m' e' ≠ .gt ↔ (m : ℚ) * 2 ^ e ≤ m' * 2 ^ e' := by
      intro m' e'
      rw [← not_lt, ← compareDyadic_eq_lt, compareDyadic_swap m e m' e', Ordering.swap_eq_lt, Ne]
    dsimp only
    generalize (m : ℚ) * 2 ^ e = x at hle ⊢
    cases b.exact with
    | undefined => simp [Exact.compare?]
    | infinite negative => cases negative <;> simp [Exact.compare?]
    | dyadic m' e' =>
      specialize hle m' e'
      dsimp only
      generalize (m' : ℚ) * 2 ^ e' = y at hle ⊢
      cases horder : compareDyadic m e m' e' <;> rw [horder] at hle <;>
        simpa [Exact.compare?, horder] using hle

theorem atMost_int {a b : Int} : (int a).atMost (int b) = true ↔ a ≤ b := by
  have hplace : ∀ n : Int, (int n).place? = some ((n : ℚ) : WithTop ℚ) := by
    intro n
    simp [place?, exact, Exact.ofInt]
  rw [atMost_iff, NoMoreThan]
  simp [hplace]

end Relaunch.Number
