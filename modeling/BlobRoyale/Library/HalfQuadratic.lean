import Mathlib.Algebra.QuadraticDiscriminant
import Mathlib.Analysis.Calculus.Deriv.Add
import Mathlib.Analysis.Calculus.Deriv.Mul
import Mathlib.Analysis.InnerProductSpace.PiL2
import Mathlib.Tactic.FieldSimp
import Mathlib.Tactic.LinearCombination

/-!
# Half-quadratics

The real roots of `a * t * t + 2 * b * t + c`, written the way a cancellation-free solver finds them: past a known
root, or as `q / a` and `c / q`.
-/

namespace HalfQuadratic

def eval (a b c t : ℝ) : ℝ := a * (t * t) + (b + b) * t + c

variable {a b c t : ℝ}

theorem eval_eq_zero_iff_discrim : eval a b c t = 0 ↔ a * (t * t) + 2 * b * t + c = 0 := by
  rw [eval, two_mul]

theorem discrim_eq : discrim a (2 * b) c = 4 * (b * b - a * c) := by
  rw [discrim]
  ring

theorem not_constant (moves : a ≠ 0) : ∃ time, eval a b c time ≠ eval a b c 0 := by
  by_contra constant
  push Not at constant
  have right := constant 1
  have left := constant (-1)
  unfold eval at right left
  exact moves (by linarith)

theorem hasDerivAt_eval (a b c t : ℝ) : HasDerivAt (eval a b c) (a * (1 * t + t * 1) + (b + b) * 1) t := by
  have square : HasDerivAt (fun time : ℝ => a * (time * time)) (a * (1 * t + t * 1)) t :=
    HasDerivAt.const_mul a (HasDerivAt.mul (hasDerivAt_id t) (hasDerivAt_id t))
  have linear : HasDerivAt (fun time : ℝ => (b + b) * time) ((b + b) * 1) t :=
    HasDerivAt.const_mul (b + b) (hasDerivAt_id t)
  exact HasDerivAt.add_const c (HasDerivAt.add square linear)

theorem root_at_start (moves : a ≠ 0) (vanishes : c = 0) : eval a b c t = 0 ↔ t = 0 ∨ t = -(b + b) / a := by
  have factored : eval a b c t = t * (a * t + (b + b)) := by
    rw [eval, vanishes]
    ring
  rw [factored, mul_eq_zero, eq_div_iff moves, ← eq_neg_iff_add_eq_zero, mul_comm a t]

theorem root_at_end (moves : a ≠ 0) (vanishes : a + (b + b) + c = 0) : eval a b c t = 0 ↔ t = 1 ∨ t = c / a := by
  have factored : eval a b c t = (t - 1) * (a * t - c) := by
    rw [eval]
    linear_combination t * vanishes
  rw [factored, mul_eq_zero, sub_eq_zero, sub_eq_zero, eq_div_iff moves, mul_comm a t]

theorem no_root (negative : b * b - a * c < 0) : eval a b c t ≠ 0 := by
  intro root
  have square := discrim_eq_sq_of_quadratic_eq_zero (eval_eq_zero_iff_discrim.mp root)
  rw [discrim_eq] at square
  nlinarith [sq_nonneg (2 * a * t + 2 * b)]

theorem double_root (moves : a ≠ 0) (vanishes : b * b - a * c = 0) : eval a b c t = 0 ↔ t = -b / a := by
  rw [eval_eq_zero_iff_discrim, quadratic_eq_zero_iff_of_discrim_eq_zero moves (by rw [discrim_eq, vanishes, mul_zero]),
    ← mul_neg, mul_div_mul_left _ _ two_ne_zero]

theorem two_roots (moves : a ≠ 0) {root : ℝ} (square : b * b - a * c = root * root) :
    eval a b c t = 0 ↔ t = (-b + root) / a ∨ t = (-b - root) / a := by
  have doubled : discrim a (2 * b) c = 2 * root * (2 * root) := by
    rw [discrim_eq, square]
    ring
  rw [eval_eq_zero_iff_discrim, quadratic_eq_zero_iff moves doubled, ← mul_neg, ← mul_add, ← mul_sub,
    mul_div_mul_left _ _ two_ne_zero, mul_div_mul_left _ _ two_ne_zero]

/-- The sum of like signs that starts a cancellation-free solution. -/
noncomputable def pivot (b root : ℝ) : ℝ := if 0 ≤ b then -b - root else -b + root

theorem pivot_ne_zero {root : ℝ} (positive : 0 < root) : pivot b root ≠ 0 := by
  unfold pivot
  split
  · next nonneg => exact ne_of_lt (by linarith)
  · next negative => exact ne_of_gt (by linarith)

theorem pivot_roots (moves : a ≠ 0) {root : ℝ} (positive : 0 < root) (square : b * b - a * c = root * root) :
    eval a b c t = 0 ↔ t = pivot b root / a ∨ t = c / pivot b root := by
  have other : c / pivot b root = (if 0 ≤ b then -b + root else -b - root) / a := by
    rw [div_eq_div_iff (pivot_ne_zero positive) moves]
    unfold pivot
    split
    · linear_combination -square
    · linear_combination -square
  rw [two_roots moves square, other]
  unfold pivot
  split
  · exact or_comm
  · exact Iff.rfl

theorem pivot_roots_ne (moves : a ≠ 0) {root : ℝ} (positive : 0 < root) (square : b * b - a * c = root * root) :
    pivot b root / a ≠ c / pivot b root := by
  intro same
  rw [div_eq_div_iff moves (pivot_ne_zero positive)] at same
  have product : pivot b root * pivot b root = b * b - root * root := by linarith [mul_comm a c]
  unfold pivot at product
  split at product
  · next nonneg => nlinarith
  · next negative => nlinarith

end HalfQuadratic
