import Mathlib.Analysis.Convex.Function
import Mathlib.Analysis.Convex.Segment
import Mathlib.Analysis.InnerProductSpace.Projection.Minimal
import Mathlib.Topology.MetricSpace.HausdorffDistance
import Mathlib.Analysis.Real.Sqrt
import Mathlib.Tactic.Linarith

/-!
# Distance to a segment

Where the point of a segment nearest to a given one is, by the projection on the segment's direction, and how the
distance to a convex set changes along a line: it takes one value at two times, or on one whole interval.
-/

namespace SegmentDistance

open Metric

section Nearest

variable {V : Type*} [NormedAddCommGroup V] [InnerProductSpace ℝ V] {p a b nearest : V} {K : Set V}

theorem infDist_eq_dist (convex : Convex ℝ K) (member : nearest ∈ K)
    (obtuse : ∀ other ∈ K, inner ℝ (p - nearest) (other - nearest) ≤ 0) : infDist p K = dist p nearest := by
  have least := (norm_eq_iInf_iff_real_inner_le_zero convex member).mpr obtuse
  rw [infDist_eq_iInf, dist_eq_norm, least]
  exact iInf_congr fun other => dist_eq_norm _ _

theorem infDist_before (before : inner ℝ (p - a) (b - a) ≤ 0) : infDist p (segment ℝ a b) = dist p a := by
  refine infDist_eq_dist (convex_segment a b) (left_mem_segment ℝ a b) ?_
  intro other member
  rw [segment_eq_image'] at member
  obtain ⟨share, within, rfl⟩ := member
  rw [add_sub_cancel_left, real_inner_smul_right]
  exact mul_nonpos_of_nonneg_of_nonpos within.1 before

theorem infDist_beyond (beyond : inner ℝ (b - a) (b - a) ≤ inner ℝ (p - a) (b - a)) :
    infDist p (segment ℝ a b) = dist p b := by
  rw [segment_symm]
  refine infDist_before ?_
  have first : p - b = p - a - (b - a) := by abel
  rw [first, ← neg_sub b a, inner_neg_right, inner_sub_left]
  linarith

theorem residual_orthogonal {offset direction : V} (moves : inner ℝ direction direction ≠ 0) :
    inner ℝ (offset - (inner ℝ offset direction / inner ℝ direction direction) • direction) direction = 0 := by
  rw [inner_sub_left, real_inner_smul_left, div_mul_cancel₀ _ moves, sub_self]

theorem residual_norm_sq {offset direction : V} (moves : inner ℝ direction direction ≠ 0) :
    ‖offset - (inner ℝ offset direction / inner ℝ direction direction) • direction‖ ^ 2 * inner ℝ direction direction =
      inner ℝ offset offset * inner ℝ direction direction - inner ℝ offset direction ^ 2 := by
  rw [← real_inner_self_eq_norm_sq, inner_sub_right, real_inner_smul_right, residual_orthogonal moves, mul_zero,
    sub_zero, inner_sub_left, real_inner_smul_left, real_inner_comm offset direction]
  field_simp

theorem infDist_beside (after : 0 ≤ inner ℝ (p - a) (b - a))
    (before : inner ℝ (p - a) (b - a) ≤ inner ℝ (b - a) (b - a)) :
    infDist p (segment ℝ a b) ^ 2 * inner ℝ (b - a) (b - a) =
      inner ℝ (p - a) (p - a) * inner ℝ (b - a) (b - a) - inner ℝ (p - a) (b - a) ^ 2 := by
  obtain same | apart := eq_or_ne (inner ℝ (b - a) (b - a)) 0
  · rw [same] at before ⊢
    rw [le_antisymm before after]
    ring
  · have positive : 0 < inner ℝ (b - a) (b - a) := lt_of_le_of_ne real_inner_self_nonneg (Ne.symm apart)
    have foot : infDist p (segment ℝ a b) =
        dist p (a + (inner ℝ (p - a) (b - a) / inner ℝ (b - a) (b - a)) • (b - a)) := by
      refine infDist_eq_dist (convex_segment a b) ?_ ?_
      · rw [segment_eq_image']
        exact ⟨_, ⟨div_nonneg after positive.le, (div_le_one positive).mpr before⟩, rfl⟩
      · intro other member
        rw [segment_eq_image'] at member
        obtain ⟨share, -, rfl⟩ := member
        rw [← sub_sub, add_sub_add_left_eq_sub, ← sub_smul, real_inner_smul_right, residual_orthogonal apart, mul_zero]
    rw [foot, dist_eq_norm, ← sub_sub, residual_norm_sq apart]

/-- A point is at a distance from a segment by where its projection on the segment's direction is. -/
theorem infDist_eq_iff {distance : ℝ} (nonneg : 0 ≤ distance) (proper : 0 < inner ℝ (b - a) (b - a)) :
    infDist p (segment ℝ a b) = distance ↔
      (inner ℝ (p - a) (b - a) ≤ 0 ∧ dist p a = distance) ∨
      (inner ℝ (b - a) (b - a) ≤ inner ℝ (p - a) (b - a) ∧ dist p b = distance) ∨
      (0 ≤ inner ℝ (p - a) (b - a) ∧ inner ℝ (p - a) (b - a) ≤ inner ℝ (b - a) (b - a) ∧
        inner ℝ (p - a) (p - a) * inner ℝ (b - a) (b - a) - inner ℝ (p - a) (b - a) ^ 2 =
          distance ^ 2 * inner ℝ (b - a) (b - a)) := by
  constructor
  · intro away
    obtain before | after := le_total (inner ℝ (p - a) (b - a)) 0
    · exact .inl ⟨before, (infDist_before before).symm.trans away⟩
    · obtain beside | beyond := le_total (inner ℝ (p - a) (b - a)) (inner ℝ (b - a) (b - a))
      · exact .inr (.inr ⟨after, beside, by rw [← infDist_beside after beside, away]⟩)
      · exact .inr (.inl ⟨beyond, (infDist_beyond beyond).symm.trans away⟩)
  · rintro (⟨before, away⟩ | ⟨beyond, away⟩ | ⟨after, beside, away⟩)
    · exact (infDist_before before).trans away
    · exact (infDist_beyond beyond).trans away
    · rw [← infDist_beside after beside] at away
      exact (sq_eq_sq₀ infDist_nonneg nonneg).mp (mul_right_cancel₀ proper.ne' away)

end Nearest

section Convex

variable {V : Type*} [SeminormedAddCommGroup V] [NormedSpace ℝ V] {K : Set V}

theorem convexOn_infDist (convex : Convex ℝ K) (inhabited : K.Nonempty) :
    ConvexOn ℝ Set.univ fun point : V => infDist point K := by
  refine ⟨convex_univ, ?_⟩
  intro first _ second _ share rest nonneg nonneg' total
  refine le_of_forall_pos_le_add fun slack positive => ?_
  obtain ⟨left, leftMember, leftNear⟩ := (infDist_lt_iff inhabited).mp (lt_add_of_pos_right (infDist first K) positive)
  obtain ⟨right, rightMember, rightNear⟩ :=
    (infDist_lt_iff inhabited).mp (lt_add_of_pos_right (infDist second K) positive)
  have near : dist (share • first + rest • second) (share • left + rest • right) ≤
      share * dist first left + rest * dist second right := by
    refine (dist_add_add_le _ _ _ _).trans (le_of_eq ?_)
    rw [dist_smul₀, dist_smul₀, Real.norm_of_nonneg nonneg, Real.norm_of_nonneg nonneg']
  refine ((infDist_le_dist_of_mem (convex leftMember rightMember nonneg nonneg' total)).trans near).trans ?_
  calc share * dist first left + rest * dist second right
      ≤ share * (infDist first K + slack) + rest * (infDist second K + slack) :=
        add_le_add (mul_le_mul_of_nonneg_left leftNear.le nonneg) (mul_le_mul_of_nonneg_left rightNear.le nonneg')
    _ = share * infDist first K + rest * infDist second K + (share + rest) * slack := by ring
    _ = share • infDist first K + rest • infDist second K + slack := by rw [total, one_mul, smul_eq_mul, smul_eq_mul]

/-- Along a line, a convex function that takes a value three times takes it throughout. -/
theorem constant_between {f : ℝ → ℝ} (convex : ConvexOn ℝ Set.univ f) {value lower middle upper time : ℝ}
    (atLower : f lower = value) (atMiddle : f middle = value) (atUpper : f upper = value) (early : lower < middle)
    (late : middle < upper) (after : lower ≤ time) (before : time ≤ upper) : f time = value := by
  have most : f time ≤ value := by
    have inside : time ∈ segment ℝ lower upper := by
      rw [segment_eq_Icc (after.trans before)]
      exact ⟨after, before⟩
    have bounded := convex.le_on_segment (Set.mem_univ lower) (Set.mem_univ upper) inside
    rwa [atLower, atUpper, max_self] at bounded
  refine le_antisymm most ?_
  rw [← atMiddle]
  obtain sooner | later := le_total time middle
  · exact convex.le_left_of_right_le'' (Set.mem_univ _) (Set.mem_univ upper) sooner late (by rw [atUpper, atMiddle])
  · exact convex.le_right_of_left_le'' (Set.mem_univ lower) (Set.mem_univ _) early later (by rw [atLower, atMiddle])

/-- The times a moving point is at one distance from a convex set: three of them leave no gap between them. -/
theorem infDist_constant_between (convex : Convex ℝ K) (inhabited : K.Nonempty) {start displacement : V}
    {distance lower middle upper time : ℝ} (atLower : infDist (start + lower • displacement) K = distance)
    (atMiddle : infDist (start + middle • displacement) K = distance)
    (atUpper : infDist (start + upper • displacement) K = distance) (early : lower < middle) (late : middle < upper)
    (after : lower ≤ time) (before : time ≤ upper) : infDist (start + time • displacement) K = distance := by
  have along : ConvexOn ℝ Set.univ fun time : ℝ => infDist (start + time • displacement) K := by
    have moved := (convexOn_infDist convex inhabited).comp_affineMap (AffineMap.lineMap start (start + displacement))
    rw [Set.preimage_univ] at moved
    refine moved.congr fun time _ => ?_
    rw [Function.comp_apply, AffineMap.lineMap_apply, vsub_eq_sub, vadd_eq_add, add_sub_cancel_left, add_comm]
  exact constant_between along atLower atMiddle atUpper early late after before

end Convex

end SegmentDistance

/-!
# Radial projection onto a disc

Scaling a point outside a centered disc back onto its rim: the scale, where the point lands, and that it comes
no farther from any point of the disc.
-/

namespace DiscProjection

variable {x y bound : ℝ}

/-- The scale that takes a point to the rim of the disc of squared radius `bound`. -/
noncomputable def scale (bound x y : ℝ) : ℝ := Real.sqrt bound / Real.sqrt (x * x + y * y)

theorem norm_pos (nonneg : 0 ≤ bound) (outside : bound < x * x + y * y) : 0 < Real.sqrt (x * x + y * y) :=
  Real.sqrt_pos.mpr (lt_of_le_of_lt nonneg outside)

theorem scale_nonneg (bound x y : ℝ) : 0 ≤ scale bound x y := div_nonneg (Real.sqrt_nonneg _) (Real.sqrt_nonneg _)

theorem scale_lt_one (nonneg : 0 ≤ bound) (outside : bound < x * x + y * y) : scale bound x y < 1 :=
  (div_lt_one (norm_pos nonneg outside)).mpr (Real.sqrt_lt_sqrt nonneg outside)

theorem on_rim (nonneg : 0 ≤ bound) (outside : bound < x * x + y * y) :
    x * scale bound x y * (x * scale bound x y) + y * scale bound x y * (y * scale bound x y) = bound := by
  have positive := norm_pos nonneg outside
  have whole : Real.sqrt (x * x + y * y) * Real.sqrt (x * x + y * y) = x * x + y * y :=
    Real.mul_self_sqrt (le_of_lt (lt_of_le_of_lt nonneg outside))
  have square : scale bound x y * scale bound x y * (x * x + y * y) = bound := by
    rw [scale, div_mul_div_comm, whole, Real.mul_self_sqrt nonneg]
    exact div_mul_cancel₀ bound (ne_of_gt (lt_of_le_of_lt nonneg outside))
  calc x * scale bound x y * (x * scale bound x y) + y * scale bound x y * (y * scale bound x y)
      = scale bound x y * scale bound x y * (x * x + y * y) := by ring
    _ = bound := square

theorem no_farther {u v : ℝ} (inside : u * u + v * v ≤ bound) (outside : bound < x * x + y * y) :
    (x * scale bound x y - u) * (x * scale bound x y - u) + (y * scale bound x y - v) * (y * scale bound x y - v) ≤
      (x - u) * (x - u) + (y - v) * (y - v) := by
  have nonneg : 0 ≤ bound := le_trans (add_nonneg (mul_self_nonneg u) (mul_self_nonneg v)) inside
  have below := scale_lt_one nonneg outside
  have rim := on_rim nonneg outside
  obtain ⟨part, known⟩ : ∃ part, part = scale bound x y := ⟨_, rfl⟩
  rw [← known] at below rim ⊢
  have partNonneg : 0 ≤ part := known ▸ scale_nonneg bound x y
  -- Cauchy-Schwarz against a point of the disc, in the projected point's own scale.
  have along : x * u + y * v ≤ part * (x * x + y * y) := by
    have size : 0 ≤ x * x + y * y := add_nonneg (mul_self_nonneg x) (mul_self_nonneg y)
    refine le_of_abs_le (abs_le_of_sq_le_sq ?_ (mul_nonneg partNonneg size))
    calc (x * u + y * v) ^ 2 ≤ (x * x + y * y) * (u * u + v * v) := by nlinarith [sq_nonneg (x * v - y * u)]
      _ ≤ (x * x + y * y) * bound := mul_le_mul_of_nonneg_left inside size
      _ = (part * (x * x + y * y)) ^ 2 := by rw [← rim]; ring
  nlinarith [along, below, partNonneg]

end DiscProjection
