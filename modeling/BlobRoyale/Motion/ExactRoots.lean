import Mathlib.Data.Int.Log
import BlobRoyale.Motion.ExactMotion
import BlobRoyale.Motion.SweptBoundary
import BlobRoyale.Library.LeastKept
import BlobRoyale.Library.HalfQuadratic

/-!
# Expansions in exact arithmetic

Where nothing is rounded every error term vanishes: an expansion is its value, and scaling by the power of two of a
magnitude keeps every sign.
-/

namespace BlobRoyale.Simulation

/-- Exact binary operations. -/
noncomputable instance : BinaryScalar ℝ where
  exponent value := if value = 0 then 0 else Int.log 2 |value| + 1
  scalbn value exponent := value * (1 + 1) ^ exponent
  fma first second third := first * second + third

theorem fma_real (first second third : ℝ) : BinaryScalar.fma first second third = first * second + third := rfl

namespace Expansion

noncomputable def exact (value : ℝ) : Expansion ℝ := ⟨if value = 0 then [] else [value]⟩

variable (value first second sign : ℝ)

theorem empty_eq : (empty : Expansion ℝ) = exact 0 := by
  rw [exact, if_pos rfl]
  rfl

theorem absorb_eq (carry term : ℝ) (kept : List ℝ) : absorb (carry, kept) term = (carry + term, kept) := by
  have vanishes : (carry - (carry + term - (carry + term - carry))) + (term - (carry + term - carry)) = 0 := by ring
  unfold absorb
  dsimp only
  rw [if_pos vanishes]

theorem add_eq : (exact value).add first = .ok (exact (value + first)) := by
  have sum : (exact value).terms.foldl absorb (first, []) = (value + first, []) := by
    unfold exact
    dsimp only
    split
    · next zero => rw [zero, zero_add, List.foldl_nil]
    · rw [List.foldl_cons, absorb_eq, List.foldl_nil, add_comm]
  unfold add
  dsimp only
  rw [sum, exact]
  dsimp only
  split
  · rfl
  · rw [if_neg (by decide)]
    rfl

theorem addProduct_eq : (exact value).addProduct first second = .ok (exact (value + first * second)) := by
  have vanishes : BinaryScalar.fma first second (-(first * second)) = 0 := by
    rw [fma_real]
    ring
  unfold addProduct
  dsimp only
  rw [vanishes, add_eq, add_zero]
  exact add_eq value (first * second)

theorem addExpansion_eq : (exact value).addExpansion (exact first) sign = .ok (exact (value + sign * first)) := by
  unfold addExpansion
  by_cases zero : first = 0
  · rw [zero, mul_zero, add_zero]
    unfold exact
    rw [if_pos rfl]
    rfl
  · have terms : (exact first).terms = [first] := by
      rw [exact, if_neg zero]
    rw [terms, List.foldlM_cons, add_eq]
    rfl

theorem addProducts_eq :
    (exact value).addProducts (exact first) (exact second) sign = .ok (exact (value + sign * first * second)) := by
  unfold addProducts
  by_cases zero : first = 0
  · rw [zero, mul_zero, zero_mul, add_zero]
    have terms : (exact 0).terms = [] := by rw [exact, if_pos rfl]
    rw [terms]
    rfl
  · have terms : (exact first).terms = [first] := by rw [exact, if_neg zero]
    rw [terms, List.foldlM_cons]
    by_cases none : second = 0
    · have others : (exact second).terms = [] := by rw [exact, if_pos none]
      rw [others, none, mul_zero, add_zero]
      rfl
    · have others : (exact second).terms = [second] := by rw [exact, if_neg none]
      rw [others, List.foldlM_cons, addProduct_eq]
      rfl

theorem zero_eq : (exact value).zero = decide (value = 0) := by
  unfold zero exact
  by_cases same : value = 0
  · rw [if_pos same, decide_eq_true same]
    rfl
  · rw [if_neg same, decide_eq_false same]
    rfl

theorem negative_eq : (exact value).negative = decide (value < 0) := by
  unfold negative exact
  by_cases same : value = 0
  · rw [if_pos same, decide_eq_false (by rw [same]; exact lt_irrefl _)]
    rfl
  · rw [if_neg same]
    rfl

theorem rounded_eq : (exact value).rounded = value := by
  unfold rounded exact
  by_cases same : value = 0
  · rw [if_pos same, same]
    rfl
  · rw [if_neg same]
    exact zero_add value

variable {factor : ℝ}

theorem zero_scaled (positive : 0 < factor) : (exact (factor * value)).zero = decide (value = 0) := by
  rw [zero_eq]
  exact decide_eq_decide.mpr (by rw [mul_eq_zero, or_iff_right positive.ne'])

theorem negative_scaled (positive : 0 < factor) : (exact (factor * value)).negative = decide (value < 0) := by
  rw [negative_eq]
  refine decide_eq_decide.mpr ⟨fun less => ?_, fun less => mul_neg_of_pos_of_neg positive less⟩
  rw [← mul_zero factor] at less
  exact lt_of_mul_lt_mul_left less positive.le

end Expansion

noncomputable def normalization (scale : ℝ) : ℝ := (1 + 1) ^ (-BinaryScalar.exponent scale)

theorem normalization_pos (scale : ℝ) : 0 < normalization scale := zpow_pos (by norm_num) _

theorem scalbn_normalization (value scale : ℝ) :
    BinaryScalar.scalbn value (-BinaryScalar.exponent scale) = value * normalization scale := rfl

end BlobRoyale.Simulation

/-!
# Swept roots in exact arithmetic

The accumulator keeps the extremes of the times added to it, and a normalized circle polynomial is solved exactly.
-/

namespace BlobRoyale.Simulation

open Passes Extremes

section Accumulator

variable {S : Type} [Scalar S] {added : MotionTime S → Prop} {roots : List (MotionTime S)}

theorem SweptRoots.insert_keeps (keeps : Keeps added roots) (time : MotionTime S) :
    Keeps (fun value => added value ∨ value = time) (SweptRoots.insert roots time) := by
  cases keeps with
  | none nothing => exact .one time (.inr rfl) fun value member => member.resolve_left (nothing value)
  | one only here all =>
    rw [SweptRoots.insert]
    split
    · next sooner =>
      refine .two time only sooner (.inr rfl) (.inl here) fun value member => ?_
      obtain kept | rfl := member
      · rw [all value kept]
        exact ⟨sooner.le, le_refl _⟩
      · exact ⟨le_refl _, sooner.le⟩
    · next notSooner =>
      split
      · next later =>
        refine .two only time later (.inl here) (.inr rfl) fun value member => ?_
        obtain kept | rfl := member
        · rw [all value kept]
          exact ⟨le_refl _, later.le⟩
        · exact ⟨later.le, le_refl _⟩
      · next notLater =>
        have same : time = only := le_antisymm (not_lt.mp notLater) (not_lt.mp notSooner)
        exact .one only (.inl here) fun value member => member.elim (all value) (·.trans same)
  | two first last ordered low high all =>
    rw [SweptRoots.insert]
    split
    · next sooner =>
      refine .two time last (lt_trans sooner ordered) (.inr rfl) (.inl high) fun value member => ?_
      obtain kept | rfl := member
      · exact ⟨le_trans sooner.le (all value kept).1, (all value kept).2⟩
      · exact ⟨le_refl _, le_trans sooner.le ordered.le⟩
    · next notSooner =>
      split
      · next later =>
        refine .two first time (lt_trans ordered later) (.inl low) (.inr rfl) fun value member => ?_
        obtain kept | rfl := member
        · exact ⟨(all value kept).1, le_trans (all value kept).2 later.le⟩
        · exact ⟨not_lt.mp notSooner, le_refl _⟩
      · next notLater =>
        refine .two first last ordered (.inl low) (.inl high) fun value member => ?_
        obtain kept | rfl := member
        · exact all value kept
        · exact ⟨not_lt.mp notSooner, not_lt.mp notLater⟩

end Accumulator

variable {added : MotionTime ℝ → Prop} {roots : List (MotionTime ℝ)}

theorem addRoot_keeps (keeps : Keeps added roots) (value : ℝ) : ∃ next, addRoot roots value = .ok next ∧
    Keeps (fun time => added time ∨ time.value = value) next := by
  unfold addRoot
  rw [dif_pos (isFinite_real value)]
  by_cases within : 0 ≤ value ∧ value ≤ 1
  · rw [dif_pos within]
    refine ⟨_, rfl, (SweptRoots.insert_keeps keeps _).congr fun time => ?_⟩
    exact or_congr_right ⟨fun same => by rw [same], fun same => MotionTime.value_injective same⟩
  · rw [dif_neg within]
    refine ⟨roots, rfl, keeps.congr fun time => ?_⟩
    refine (or_iff_left ?_).symm
    rintro rfl
    exact within time.within

theorem addRoots_keeps (keeps : Keeps added roots) (values : List ℝ) : ∃ next, values.foldlM addRoot roots = .ok next ∧
    Keeps (fun time => added time ∨ time.value ∈ values) next := by
  induction values generalizing added roots with
  | nil => exact ⟨roots, rfl, keeps.congr fun time => (or_iff_left List.not_mem_nil).symm⟩
  | cons value rest ih =>
    obtain ⟨middle, adds, kept⟩ := addRoot_keeps keeps value
    obtain ⟨final, folds, complete⟩ := ih kept
    refine ⟨final, ?_, complete.congr fun time => ?_⟩
    · rw [List.foldlM_cons, adds]
      exact folds
    · rw [List.mem_cons, or_assoc]

theorem accumulateRoots_keeps (values : List ℝ) : ∃ kept, accumulateRoots values = .ok kept ∧
    Keeps (fun time => time.value ∈ values) kept := by
  obtain ⟨kept, folds, keeps⟩ := addRoots_keeps (.none fun _ => not_false) values
  exact ⟨kept, folds, keeps.congr fun time => iff_of_eq (false_or _)⟩

/-- How many real roots a polynomial of degree at most two has, unless it is constant. -/
def CircleLineTopology.Counts (topology : CircleLineTopology) (polynomial : ℝ → ℝ) : Prop :=
  match topology with
  | .stationary => ∀ time, polynomial time = polynomial 0
  | .miss => (∃ time, polynomial time ≠ polynomial 0) ∧ ∀ time, polynomial time ≠ 0
  | .tangent => ∃ root, ∀ time, polynomial time = 0 ↔ time = root
  | .secant => ∃ first second, first ≠ second ∧ ∀ time, polynomial time = 0 ↔ time = first ∨ time = second

namespace CirclePolynomial

open Expansion HalfQuadratic

theorem create_eq (mx my dx dy radius : ℝ) : create mx my dx dy radius =
    .ok ⟨mx, my, dx, dy, exact (dx * dx + dy * dy), exact (mx * dx + my * dy),
      exact (mx * mx + my * my - radius * radius), exact (radius * radius)⟩ := by
  unfold create
  simp only [empty_eq, addProduct_eq, addExpansion_eq, zero_add, bind, Except.bind, pure, Except.pure]
  rw [neg_one_mul, ← sub_eq_add_neg]

variable {polynomial : CirclePolynomial ℝ} {a b c square : ℝ}

/-- What a normalized polynomial stands for. -/
structure StandsFor (polynomial : CirclePolynomial ℝ) (a b c square : ℝ) : Prop where
  a_eq : polynomial.a = exact a
  b_eq : polynomial.b = exact b
  c_eq : polynomial.c = exact c
  square_eq : polynomial.radiusSquared = exact square
  discriminant : a * square - (polynomial.mx * polynomial.dy - polynomial.my * polynomial.dx) *
    (polynomial.mx * polynomial.dy - polynomial.my * polynomial.dx) = b * b - a * c

/-- The exact roots of a polynomial that is not constant, and how many there are. -/
def Solves (a b c : ℝ) (answer : List (MotionTime ℝ) × CircleLineTopology) : Prop :=
  Keeps (fun time => eval a b c time.value = 0) answer.1 ∧ answer.2.Counts (eval a b c)

theorem solves_pair {first second : ℝ} (solutions : ∀ time, eval a b c time = 0 ↔ time = first ∨ time = second)
    (apart : first ≠ second) : ∃ kept, accumulateRoots [first, second] = .ok kept ∧ Solves a b c (kept, .secant) := by
  obtain ⟨kept, folds, keeps⟩ := accumulateRoots_keeps [first, second]
  refine ⟨kept, folds, keeps.congr fun time => ?_, first, second, apart, solutions⟩
  rw [List.mem_pair, solutions]

theorem endRoots_solves (stands : StandsFor polynomial a b c square) (moves : 0 < a)
    (ends : a + (b + b) + c = 0) : ∃ answer, polynomial.endRoots = .ok answer ∧ Solves a b c answer := by
  have solutions : ∀ time, eval a b c time = 0 ↔ time = 1 ∨ time = c / a := fun time => root_at_end moves.ne' ends
  unfold endRoots
  rw [stands.a_eq, stands.c_eq]
  simp only [addExpansion_eq, rounded_eq, zero_eq, negative_eq, bind, Except.bind, decide_eq_true_eq]
  rw [neg_one_mul, ← sub_eq_add_neg, if_neg (fun collapse => absurd ((one_le_div moves).mp collapse.1) (by linarith))]
  obtain less | same | more := lt_trichotomy c a
  · rw [if_neg (by simp [less]), if_neg (sub_ne_zero.mpr less.ne)]
    obtain ⟨kept, folds, solves⟩ := solves_pair solutions fun same => by
      rw [eq_div_iff moves.ne', one_mul] at same
      exact less.ne' same
    exact ⟨(kept, .secant), by rw [folds]; rfl, solves⟩
  · rw [if_neg (by simp [same]), if_pos (sub_eq_zero.mpr same)]
    obtain ⟨kept, folds, keeps⟩ := accumulateRoots_keeps [1, c / a]
    have single : ∀ time, eval a b c time = 0 ↔ time = 1 := by
      intro time
      rw [solutions, same, div_self moves.ne', or_self]
    refine ⟨(kept, .tangent), by rw [folds]; rfl, keeps.congr fun time => ?_, 1, single⟩
    rw [List.mem_pair, solutions]
  · rw [if_pos (by simp [not_lt.mpr more.le, sub_ne_zero.mpr more.ne'])]
    obtain ⟨kept, folds, keeps⟩ := accumulateRoots_keeps [1]
    refine ⟨(kept, .secant), by rw [folds]; rfl, keeps.congr fun time => ?_, 1, c / a, ?_, solutions⟩
    · rw [List.mem_singleton, solutions]
      refine (or_iff_left fun same => ?_).symm
      have late := time.within.2
      rw [same, div_le_one moves] at late
      exact absurd late (not_le.mpr more)
    · intro same
      rw [eq_div_iff moves.ne', one_mul] at same
      exact more.ne same

theorem crossingRoots_solves (stands : StandsFor polynomial a b c square) (moves : 0 < a) :
    ∃ answer, polynomial.crossingRoots = .ok answer ∧ Solves a b c answer := by
  have discriminant := stands.discriminant
  unfold crossingRoots
  rw [stands.a_eq, stands.b_eq, stands.c_eq, stands.square_eq]
  simp only [empty_eq, addProduct_eq, addProducts_eq, rounded_eq, zero_eq, negative_eq, bind, Except.bind, zero_add,
    one_mul, decide_eq_true_eq, neg_mul, ← sub_eq_add_neg]
  rw [discriminant]
  obtain negative | vanishes | positive := lt_trichotomy (b * b - a * c) 0
  · rw [if_pos negative]
    exact ⟨([], .miss), rfl, .none fun time => no_root negative, not_constant moves.ne', fun time => no_root negative⟩
  · rw [if_neg (by rw [vanishes]; exact lt_irrefl _), if_pos vanishes]
    obtain ⟨kept, folds, keeps⟩ := accumulateRoots_keeps [-b / a]
    refine ⟨(kept, .tangent), by rw [folds]; rfl, keeps.congr fun time => ?_, -b / a,
      fun time => double_root moves.ne' vanishes⟩
    rw [List.mem_singleton, double_root moves.ne' vanishes]
  · rw [if_neg (not_lt.mpr positive.le), if_neg positive.ne']
    have root : 0 < Scalar.sqrt (b * b - a * c) := Real.sqrt_pos.mpr positive
    have squared : b * b - a * c = Scalar.sqrt (b * b - a * c) * Scalar.sqrt (b * b - a * c) :=
      (Real.mul_self_sqrt positive.le).symm
    have apart := pivot_roots_ne moves.ne' root squared
    obtain ⟨kept, folds, solves⟩ := solves_pair (fun time => pivot_roots moves.ne' root squared) apart
    have pivot_eq : (if 0 ≤ b then -b - Scalar.sqrt (b * b - a * c) else -b + Scalar.sqrt (b * b - a * c)) =
        pivot b (Scalar.sqrt (b * b - a * c)) := rfl
    rw [pivot_eq, if_neg (fun collapse => apart collapse.1)]
    exact ⟨(kept, .secant), by rw [folds]; rfl, solves⟩

theorem roots_solves (stands : StandsFor polynomial a b c square) (moves : 0 < a) :
    ∃ answer, polynomial.roots = .ok answer ∧ Solves a b c answer := by
  unfold roots
  rw [stands.a_eq, stands.b_eq, stands.c_eq]
  simp only [empty_eq, addExpansion_eq, rounded_eq, zero_eq, bind, Except.bind, zero_add, one_mul, decide_eq_true_eq]
  rw [if_neg moves.ne']
  by_cases starts : c = 0
  · rw [if_pos starts]
    have solutions : ∀ time, eval a b c time = 0 ↔ time = 0 ∨ time = -(b + b) / a :=
      fun time => root_at_start moves.ne' starts
    obtain ⟨kept, folds, keeps⟩ := accumulateRoots_keeps [0, -(b + b) / a]
    have roots : Keeps (fun time => eval a b c time.value = 0) kept := keeps.congr fun time => by
      rw [List.mem_pair, solutions]
    rw [folds]
    by_cases still : b = 0
    · refine ⟨(kept, .tangent), by rw [if_pos still]; rfl, roots, 0, fun time => ?_⟩
      rw [solutions, still, add_zero, neg_zero, zero_div, or_self]
    · refine ⟨(kept, .secant), by rw [if_neg still]; rfl, roots, 0, -(b + b) / a, ?_, solutions⟩
      intro same
      rw [eq_div_iff moves.ne', zero_mul] at same
      exact still (by linarith)
  · rw [if_neg starts]
    by_cases ends : a + (b + b) + c = 0
    · have sum : a + (1 + 1) * b + c = 0 := by linarith
      rw [if_pos sum]
      exact endRoots_solves stands moves ends
    · have sum : a + (1 + 1) * b + c ≠ 0 := fun zero => ends (by linarith)
      rw [if_neg sum]
      exact crossingRoots_solves stands moves

theorem roots_stationary (stands : StandsFor polynomial a b c square) (still : a = 0) :
    ∃ kept, polynomial.roots = .ok (kept, .stationary) ∧
      Keeps (fun time => c = 0 ∧ (time.value = 0 ∨ time.value = 1)) kept := by
  unfold roots
  rw [stands.a_eq, stands.c_eq]
  simp only [zero_eq, bind, Except.bind, decide_eq_true_eq]
  rw [if_pos still]
  by_cases on : c = 0
  · rw [if_pos on]
    obtain ⟨kept, folds, keeps⟩ := accumulateRoots_keeps [0, 1]
    refine ⟨kept, by rw [folds]; rfl, keeps.congr fun time => ?_⟩
    rw [List.mem_pair, and_iff_right on]
  · rw [if_neg on]
    obtain ⟨kept, folds, keeps⟩ := accumulateRoots_keeps []
    refine ⟨kept, by rw [folds]; rfl, keeps.congr fun time => ?_⟩
    exact ⟨fun impossible => absurd impossible List.not_mem_nil, fun boundary => absurd boundary.1 on⟩

end CirclePolynomial

end BlobRoyale.Simulation
