import Mathlib.Algebra.Order.Field.Basic

/-!
# Levels that refill

A level that rises at a rate up to a capacity. Refilling over two stretches is refilling over both at
once, so a level is known from any earlier one.
-/

namespace RefillLevel

variable {K : Type} [Field K] [LinearOrder K] {capacity rate level first second elapsed : K}

def refilled (capacity rate level elapsed : K) : K := min capacity (level + elapsed * rate)

theorem refilled_zero (within : level ≤ capacity) : refilled capacity rate level 0 = level := by
  rw [refilled, zero_mul, add_zero, min_eq_right within]

theorem refilled_full (long : capacity ≤ level + elapsed * rate) : refilled capacity rate level elapsed = capacity :=
  min_eq_left long

theorem refilled_le : refilled capacity rate level elapsed ≤ capacity := min_le_left ..

theorem refilled_le_add : refilled capacity rate level elapsed ≤ level + elapsed * rate := min_le_right ..

variable [IsStrictOrderedRing K]

theorem refilled_refilled (rising : 0 ≤ rate) (forward : 0 ≤ second) :
    refilled capacity rate (refilled capacity rate level first) second =
      refilled capacity rate level (first + second) := by
  have kept : capacity ≤ capacity + second * rate := le_add_of_nonneg_right (mul_nonneg forward rising)
  calc min capacity (min capacity (level + first * rate) + second * rate)
      = min capacity (min (capacity + second * rate) (level + first * rate + second * rate)) := by
        rw [min_add_add_right]
    _ = min (min capacity (capacity + second * rate)) (level + first * rate + second * rate) :=
        (min_assoc ..).symm
    _ = min capacity (level + (first + second) * rate) := by
        rw [min_eq_left kept, add_mul, add_assoc]

theorem refilled_nonneg (positive : 0 ≤ capacity) (held : 0 ≤ level) (rising : 0 ≤ rate) (forward : 0 ≤ elapsed) :
    0 ≤ refilled capacity rate level elapsed :=
  le_min positive (add_nonneg held (mul_nonneg forward rising))

end RefillLevel
