import BlobRoyale.Motion.ExactSweptSides
import Mathlib.Topology.Order.IntermediateValue

/-!
# The swept capsule in exact arithmetic

The roots of the capsule query are the times its moving point is at the boundary's distance from the segment: the
times at its sides where the projection is on the segment, and those at its two caps where it is not.
-/

namespace BlobRoyale.Simulation

open Passes Extremes Metric

section Geometry

variable {start displacement a b : Vector2 ℝ} {radius time : ℝ}

/-- Where a moving point's projection on a segment is, times the segment's length. -/
def alongSegment (start displacement a b : Vector2 ℝ) (time : ℝ) : ℝ :=
  (start.x + displacement.x * time - a.x) * (b.x - a.x) + (start.y + displacement.y * time - a.y) * (b.y - a.y)

def segmentSquare (a b : Vector2 ℝ) : ℝ := (b.x - a.x) * (b.x - a.x) + (b.y - a.y) * (b.y - a.y)

/-- The signed distance of a moving point from a segment's line, times the segment's length. -/
def acrossSegment (start displacement a b : Vector2 ℝ) (time : ℝ) : ℝ :=
  crossAt (start.x - a.x) (start.y - a.y) displacement.x displacement.y (b.x - a.x) (b.y - a.y) time

theorem inner_alongSegment : inner ℝ (sweptPoint start displacement time - a.plane) (b.plane - a.plane) =
    alongSegment start displacement a b time := by
  simp only [sweptPoint, Vector2.plane, PiLp.inner_apply, Fin.sum_univ_two, PiLp.sub_apply, PiLp.add_apply,
    PiLp.smul_apply, smul_eq_mul, Matrix.cons_val_zero, Matrix.cons_val_one, alongSegment]
  simp
  ring

theorem inner_segment : inner ℝ (b.plane - a.plane) (b.plane - a.plane) = segmentSquare a b := by
  simp only [Vector2.plane, PiLp.inner_apply, Fin.sum_univ_two, PiLp.sub_apply, Matrix.cons_val_zero,
    Matrix.cons_val_one, segmentSquare]
  simp
  ring

theorem inner_offset : inner ℝ (sweptPoint start displacement time - a.plane)
    (sweptPoint start displacement time - a.plane) * segmentSquare a b - alongSegment start displacement a b time ^ 2 =
      acrossSegment start displacement a b time ^ 2 := by
  simp only [sweptPoint, Vector2.plane, PiLp.inner_apply, Fin.sum_univ_two, PiLp.sub_apply, PiLp.add_apply,
    PiLp.smul_apply, smul_eq_mul, Matrix.cons_val_zero, Matrix.cons_val_one, alongSegment, acrossSegment, crossAt,
    segmentSquare]
  simp
  ring

theorem infDist_capsule (nonneg : 0 ≤ radius) (proper : 0 < segmentSquare a b) :
    infDist (sweptPoint start displacement time) (segment ℝ a.plane b.plane) = radius ↔
      (alongSegment start displacement a b time ≤ 0 ∧ dist (sweptPoint start displacement time) a.plane = radius) ∨
      (segmentSquare a b ≤ alongSegment start displacement a b time ∧
        dist (sweptPoint start displacement time) b.plane = radius) ∨
      (0 ≤ alongSegment start displacement a b time ∧ alongSegment start displacement a b time ≤ segmentSquare a b ∧
        acrossSegment start displacement a b time ^ 2 = radius ^ 2 * segmentSquare a b) := by
  have iff := @SegmentDistance.infDist_eq_iff _ _ _ (sweptPoint start displacement time) a.plane b.plane radius nonneg
  rw [inner_segment] at iff
  rw [iff proper, inner_alongSegment, inner_offset]

theorem seam_start (nonneg : 0 ≤ radius) (proper : 0 < segmentSquare a b)
    (seam : alongSegment start displacement a b time = 0)
    (side : acrossSegment start displacement a b time ^ 2 = radius ^ 2 * segmentSquare a b) :
    dist (sweptPoint start displacement time) a.plane = radius := by
  have away := (infDist_capsule nonneg proper).mpr (.inr (.inr ⟨seam.ge, seam.le.trans proper.le, side⟩))
  rw [← away, SegmentDistance.infDist_before (inner_alongSegment.trans seam).le]

theorem seam_end (nonneg : 0 ≤ radius) (proper : 0 < segmentSquare a b)
    (seam : alongSegment start displacement a b time = segmentSquare a b)
    (side : acrossSegment start displacement a b time ^ 2 = radius ^ 2 * segmentSquare a b) :
    dist (sweptPoint start displacement time) b.plane = radius := by
  have away := (infDist_capsule nonneg proper).mpr (.inr (.inr ⟨proper.le.trans seam.ge, seam.le, side⟩))
  rw [← away, SegmentDistance.infDist_beyond (by rw [inner_alongSegment, inner_segment]; exact seam.ge)]

theorem continuous_alongSegment : Continuous (alongSegment start displacement a b) := by
  unfold alongSegment
  fun_prop

theorem acrossSegment_eq (time : ℝ) : acrossSegment start displacement a b time =
    (start.x - a.x) * (b.y - a.y) - (start.y - a.y) * (b.x - a.x) +
      (displacement.x * (b.y - a.y) - displacement.y * (b.x - a.x)) * time := crossAt_eq time

theorem moves_off {first last : ℝ} (apart : first < last)
    (moves : displacement.x * displacement.x + displacement.y * displacement.y ≠ 0)
    (atFirst : boundaryPolynomial start displacement a radius first = 0)
    (atLast : boundaryPolynomial start displacement a radius last = 0) :
    boundaryPolynomial start displacement a radius ((first + last) / 2) ≠ 0 := by
  intro atMiddle
  have gap : (displacement.x * displacement.x + displacement.y * displacement.y) * ((last - first) * (last - first)) =
      0 := by
    unfold boundaryPolynomial at atFirst atLast atMiddle
    linear_combination 2 * atFirst + 2 * atLast - 4 * atMiddle
  have wide : (last - first) * (last - first) ≠ 0 := (mul_pos (sub_pos.mpr apart) (sub_pos.mpr apart)).ne'
  exact mul_ne_zero moves wide gap

theorem circle_exact (nonneg : 0 ≤ radius)
    (moves : displacement.x * displacement.x + displacement.y * displacement.y ≠ 0) {roots : List (MotionTime ℝ)}
    (describes : Describes roots fun time => dist (sweptPoint start displacement time.value) a.plane = radius)
    {time : MotionTime ℝ} (on : dist (sweptPoint start displacement time.value) a.plane = radius) : time ∈ roots := by
  obtain exact | ⟨first, last, rfl, interval⟩ := describes.exact
  · exact (exact time).mp on
  · have ordered : first < last := List.pairwise_pair.mp describes.ascending
    obtain ⟨middle, is⟩ := @MotionTime.exists_real ((first.value + last.value) / 2)
      (by have := first.within; have := last.within; constructor <;> linarith)
    have on_circle : ∀ time : MotionTime ℝ, first ≤ time → time ≤ last →
        boundaryPolynomial start displacement a radius time.value = 0 := fun time after before =>
      (dist_eq_radius_iff nonneg).mp ((interval time).mpr ⟨after, before⟩)
    have early : first.value < last.value := ordered
    have after : first.value ≤ middle.value := by linarith
    have before : middle.value ≤ last.value := by linarith
    refine absurd (on_circle middle after before) ?_
    rw [is]
    exact moves_off early moves (on_circle first (le_refl _) ordered.le)
      (on_circle last ordered.le (le_refl _))

end Geometry

section Cover

variable {start displacement a b : Vector2 ℝ} {radius : ℝ} {startRoots endRoots : List (MotionTime ℝ)}

/-- What the capsule query adds: side times beside the segment, and the caps' roots before and beyond it. -/
def CapsuleAdded (start displacement a b : Vector2 ℝ) (radius : ℝ) (startRoots endRoots : List (MotionTime ℝ))
    (time : MotionTime ℝ) : Prop :=
  (SideTime (start.x - a.x) (start.y - a.y) displacement.x displacement.y radius (b.x - a.x) (b.y - a.y) time.value ∧
    0 ≤ alongSegment start displacement a b time.value ∧
    alongSegment start displacement a b time.value ≤ segmentSquare a b) ∨
  (time ∈ startRoots ∧ alongSegment start displacement a b time.value ≤ 0) ∨
  (time ∈ endRoots ∧ segmentSquare a b ≤ alongSegment start displacement a b time.value)

theorem CapsuleAdded.sound (nonneg : 0 ≤ radius) (proper : 0 < segmentSquare a b)
    (starts : Describes startRoots fun time => dist (sweptPoint start displacement time.value) a.plane = radius)
    (ends : Describes endRoots fun time => dist (sweptPoint start displacement time.value) b.plane = radius)
    {time : MotionTime ℝ} (added : CapsuleAdded start displacement a b radius startRoots endRoots time) :
    infDist (sweptPoint start displacement time.value) (segment ℝ a.plane b.plane) = radius := by
  refine (infDist_capsule nonneg proper).mpr ?_
  obtain ⟨side, after, before⟩ | ⟨root, before⟩ | ⟨root, beyond⟩ := added
  · exact .inr (.inr ⟨after, before, (pow_two _).trans (side.1.trans (by rw [pow_two, segmentSquare]))⟩)
  · exact .inl ⟨before, starts.subset root⟩
  · exact .inr (.inl ⟨beyond, ends.subset root⟩)

/-- Between a time beside the segment and any other there is one on a seam, or the other is beside it too. -/
theorem seam_between (nonneg : 0 ≤ radius) (proper : 0 < segmentSquare a b)
    (moves : displacement.x * displacement.x + displacement.y * displacement.y ≠ 0)
    (starts : Describes startRoots fun time => dist (sweptPoint start displacement time.value) a.plane = radius)
    (ends : Describes endRoots fun time => dist (sweptPoint start displacement time.value) b.plane = radius)
    (side : ∀ time, acrossSegment start displacement a b time ^ 2 = radius ^ 2 * segmentSquare a b)
    {time bound : MotionTime ℝ} (boundary : bound.value = 0 ∨ bound.value = 1)
    (after : 0 ≤ alongSegment start displacement a b time.value)
    (before : alongSegment start displacement a b time.value ≤ segmentSquare a b) :
    ∃ root, CapsuleAdded start displacement a b radius startRoots endRoots root ∧
      root.value ∈ Set.uIcc bound.value time.value := by
  have reached : ∀ {level : ℝ}, level ∈ Set.uIcc (alongSegment start displacement a b bound.value)
      (alongSegment start displacement a b time.value) → ∃ root : MotionTime ℝ,
        alongSegment start displacement a b root.value = level ∧ root.value ∈ Set.uIcc bound.value time.value := by
    intro level between
    obtain ⟨value, within, meets⟩ := intermediate_value_uIcc (continuous_alongSegment.continuousOn) between
    obtain ⟨low, high⟩ := Set.uIcc_subset_Icc (Set.mem_Icc.mpr bound.within) (Set.mem_Icc.mpr time.within) within
    obtain ⟨root, is⟩ := MotionTime.exists_real ⟨low, high⟩
    exact ⟨root, by rw [is, meets], by rw [is]; exact within⟩
  obtain early | inside := lt_or_ge (alongSegment start displacement a b bound.value) 0
  · obtain ⟨root, seam, within⟩ := @reached 0 (Set.mem_uIcc.mpr (.inl ⟨early.le, after⟩))
    have on := seam_start nonneg proper seam (side _)
    exact ⟨root, .inr (.inl ⟨circle_exact nonneg moves starts on, seam.le⟩), within⟩
  · obtain late | inside' := lt_or_ge (segmentSquare a b) (alongSegment start displacement a b bound.value)
    · obtain ⟨root, seam, within⟩ := @reached (segmentSquare a b)
        (Set.mem_uIcc.mpr (.inr ⟨before, late.le⟩))
      have on := seam_end nonneg proper seam (side _)
      exact ⟨root, .inr (.inr ⟨circle_exact nonneg moves ends on, seam.ge⟩), within⟩
    · refine ⟨bound, .inl ⟨⟨?_, fun _ => boundary⟩, inside, inside'⟩, Set.left_mem_uIcc⟩
      have here := side bound.value
      rw [pow_two, pow_two, segmentSquare] at here
      exact here

theorem CapsuleAdded.bounded (nonneg : 0 ≤ radius) (proper : 0 < segmentSquare a b)
    (starts : Describes startRoots fun time => dist (sweptPoint start displacement time.value) a.plane = radius)
    (ends : Describes endRoots fun time => dist (sweptPoint start displacement time.value) b.plane = radius)
    {time : MotionTime ℝ}
    (away : infDist (sweptPoint start displacement time.value) (segment ℝ a.plane b.plane) = radius) :
    ∃ low high, CapsuleAdded start displacement a b radius startRoots endRoots low ∧
      CapsuleAdded start displacement a b radius startRoots endRoots high ∧ low ≤ time ∧ time ≤ high := by
  by_cases moves : displacement.x * displacement.x + displacement.y * displacement.y = 0
  · obtain ⟨moveX, moveY⟩ := mul_self_add_mul_self_eq_zero.mp moves
    have still : ∀ value, sweptPoint start displacement value = sweptPoint start displacement time.value := by
      have rest : displacement.plane = 0 := by
        unfold Vector2.plane
        rw [moveX, moveY]
        ext index
        fin_cases index <;> rfl
      intro value
      unfold sweptPoint
      rw [rest, smul_zero, smul_zero]
    have placed : ∀ value, alongSegment start displacement a b value =
        alongSegment start displacement a b time.value := by
      intro value
      rw [← inner_alongSegment, ← inner_alongSegment, still]
    have constant : ∀ bound : MotionTime ℝ, bound.value = 0 ∨ bound.value = 1 →
        CapsuleAdded start displacement a b radius startRoots endRoots bound := by
      intro bound boundary
      have extreme : ∀ {center : Vector2 ℝ} {roots : List (MotionTime ℝ)},
          dist (sweptPoint start displacement time.value) center.plane = radius →
          Describes roots (fun time => dist (sweptPoint start displacement time.value) center.plane = radius) →
          bound ∈ roots := by
        intro center roots on describes
        rw [← still bound.value] at on
        obtain zero | one := boundary
        · exact describes.least_mem on fun other _ => zero.le.trans other.within.1
        · exact describes.greatest_mem on fun other _ => other.within.2.trans one.ge
      obtain ⟨before, on⟩ | ⟨beyond, on⟩ | ⟨after, beside, side⟩ := (infDist_capsule nonneg proper).mp away
      · exact .inr (.inl ⟨extreme on starts, (placed _).trans_le before⟩)
      · exact .inr (.inr ⟨extreme on ends, beyond.trans_eq (placed _).symm⟩)
      · refine .inl ⟨⟨?_, fun _ => boundary⟩, after.trans_eq (placed _).symm, (placed _).trans_le beside⟩
        have same : acrossSegment start displacement a b bound.value =
            acrossSegment start displacement a b time.value := by
          rw [acrossSegment_eq, acrossSegment_eq, moveX, moveY]
          ring
        rw [← same, pow_two, pow_two, segmentSquare] at side
        exact side
    exact ⟨.start, .finish, constant _ (.inl rfl), constant _ (.inr rfl), time.within.1, time.within.2⟩
  · obtain ⟨before, on⟩ | ⟨beyond, on⟩ | ⟨after, beside, side⟩ := (infDist_capsule nonneg proper).mp away
    · have added : CapsuleAdded start displacement a b radius startRoots endRoots time :=
        .inr (.inl ⟨circle_exact nonneg moves starts on, before⟩)
      exact ⟨time, time, added, added, le_refl _, le_refl _⟩
    · have added : CapsuleAdded start displacement a b radius startRoots endRoots time :=
        .inr (.inr ⟨circle_exact nonneg moves ends on, beyond⟩)
      exact ⟨time, time, added, added, le_refl _, le_refl _⟩
    · by_cases parallel : displacement.x * (b.y - a.y) - displacement.y * (b.x - a.x) = 0
      · have sides : ∀ value, acrossSegment start displacement a b value ^ 2 = radius ^ 2 * segmentSquare a b := by
          intro value
          rw [← side, acrossSegment_eq, acrossSegment_eq time.value, parallel, zero_mul, zero_mul]
        have seams : ∀ bound : MotionTime ℝ, bound.value = 0 ∨ bound.value = 1 →
            ∃ root, CapsuleAdded start displacement a b radius startRoots endRoots root ∧
              root.value ∈ Set.uIcc bound.value time.value := fun bound boundary =>
          seam_between nonneg proper moves starts ends sides boundary after beside
        obtain ⟨low, atLow, within⟩ := seams .start (.inl rfl)
        obtain ⟨high, atHigh, within'⟩ := seams .finish (.inr rfl)
        have first : (MotionTime.start : MotionTime ℝ).value ≤ time.value := time.within.1
        have last : time.value ≤ (MotionTime.finish : MotionTime ℝ).value := time.within.2
        rw [Set.uIcc_of_le first] at within
        rw [Set.uIcc_of_ge last] at within'
        exact ⟨low, high, atLow, atHigh, within.2, within'.1⟩
      · have added : CapsuleAdded start displacement a b radius startRoots endRoots time := by
          refine .inl ⟨⟨?_, fun still => absurd still parallel⟩, after, beside⟩
          rw [pow_two, pow_two, segmentSquare] at side
          exact side
        exact ⟨time, time, added, added, le_refl _, le_refl _⟩

end Cover

section Query

variable {start displacement segmentStart segmentEnd : Vector2 ℝ} {radius : ℝ} {roots : List (MotionTime ℝ)}

theorem SegmentProjection.addRoots_keeps (projection : SegmentProjection ℝ) (condition : ℝ → Bool)
    {added : MotionTime ℝ → Prop} (keeps : Keeps added roots) (times : List (MotionTime ℝ)) :
    ∃ next, projection.addRoots condition roots times = .ok next ∧
      Keeps (fun time => added time ∨ (time ∈ times ∧ condition (projection.placeAt time) = true)) next := by
  induction times generalizing added roots with
  | nil =>
    refine ⟨roots, rfl, keeps.congr fun time => (or_iff_left ?_).symm⟩
    exact fun impossible => List.not_mem_nil impossible.1
  | cons time rest ih =>
    unfold SegmentProjection.addRoots
    rw [List.foldlM_cons]
    by_cases meets : condition (projection.placeAt time) = true
    · obtain ⟨middle, adds, kept⟩ := addRoot_keeps keeps time.value
      obtain ⟨next, folds, complete⟩ := ih kept
      rw [if_pos meets, adds]
      refine ⟨next, folds, complete.congr fun other => ?_⟩
      have same : other.value = time.value ↔ other = time := ⟨MotionTime.value_injective.eq_iff.mp, congrArg _⟩
      rw [List.mem_cons, or_assoc, or_and_right, same]
      have here : other = time ↔ other = time ∧ condition (projection.placeAt other) = true :=
        ⟨fun equal => ⟨equal, equal ▸ meets⟩, And.left⟩
      rw [← here]
    · obtain ⟨next, folds, complete⟩ := ih keeps
      rw [if_neg meets]
      refine ⟨next, folds, complete.congr fun other => ?_⟩
      rw [List.mem_cons, or_and_right]
      have never : ¬ (other = time ∧ condition (projection.placeAt other) = true) := by
        rintro ⟨rfl, holds⟩
        exact meets holds
      rw [or_iff_right never]

/-- The inputs the capsule query answers. -/
structure CapsuleDomain (start displacement segmentStart segmentEnd : Vector2 ℝ) (radius : ℝ) : Prop where
  atStart : CircleDomain start displacement segmentStart radius
  atEnd : CircleDomain start displacement segmentEnd radius
  precise : ∀ length ∈ [segmentEnd.x - segmentStart.x, segmentEnd.y - segmentStart.y],
    Normalizes (max (Scalar.abs (segmentEnd.x - segmentStart.x)) (Scalar.abs (segmentEnd.y - segmentStart.y))) length

theorem circleRoots_describe (domain : CircleDomain start displacement segmentStart radius) : ∃ roots,
    sweptCircleBoundaryRoots start displacement segmentStart radius = .ok roots ∧
      Describes roots fun time => dist (sweptPoint start displacement time.value) segmentStart.plane = radius := by
  obtain ⟨result, answers, exactly⟩ := sweptCircle_answers domain
  exact ⟨result.roots, by unfold sweptCircleBoundaryRoots; rw [answers]; rfl, exactly.roots⟩

theorem sideTime_scaled {mx my dx dy sx sy factor time : ℝ} (positive : 0 < factor) :
    SideTime mx my dx dy radius (sx * factor) (sy * factor) time ↔ SideTime mx my dx dy radius sx sy time := by
  have crosses : crossAt mx my dx dy (sx * factor) (sy * factor) time = crossAt mx my dx dy sx sy time * factor := by
    unfold crossAt
    ring
  have square : factor * factor ≠ 0 := mul_ne_zero positive.ne' positive.ne'
  have parallel : dx * (sy * factor) - dy * (sx * factor) = 0 ↔ dx * sy - dy * sx = 0 := by
    rw [← mul_assoc, ← mul_assoc, ← sub_mul, mul_eq_zero, or_iff_left positive.ne']
  unfold SideTime
  rw [crosses, parallel]
  refine and_congr ⟨fun scaled => mul_left_cancel₀ square ?_, fun same => ?_⟩ Iff.rfl
  · linear_combination scaled
  · linear_combination factor * factor * same

/-- At most two times are on the sides, by the tick's ends where the point moves along them. -/
theorem sideTime_few {mx my dx dy sx sy : ℝ} (low middle high : MotionTime ℝ)
    (atLow : SideTime mx my dx dy radius sx sy low.value) (atMiddle : SideTime mx my dx dy radius sx sy middle.value)
    (atHigh : SideTime mx my dx dy radius sx sy high.value) (early : low < middle) (late : middle < high) : False := by
  have first : low.value < middle.value := early
  have last : middle.value < high.value := late
  by_cases parallel : dx * sy - dy * sx = 0
  · have least := low.within.1
    have greatest := high.within.2
    obtain zero | one := atMiddle.2 parallel <;> linarith
  · have lower := atLow.1
    have between := atMiddle.1
    have upper := atHigh.1
    rw [crossAt_eq] at lower between upper
    have square : (dx * sy - dy * sx) * (dx * sy - dy * sx) *
        ((middle.value - low.value) * (high.value - middle.value) * (high.value - low.value)) = 0 := by
      linear_combination (high.value - middle.value) * (lower - between) -
        (middle.value - low.value) * (between - upper)
    have wide : 0 < (middle.value - low.value) * (high.value - middle.value) * (high.value - low.value) :=
      mul_pos (mul_pos (sub_pos.mpr first) (sub_pos.mpr last)) (sub_pos.mpr (first.trans last))
    exact mul_ne_zero (mul_ne_zero parallel parallel) wide.ne' square

theorem segmentSquare_pos {a b : Vector2 ℝ} (apart : max (Scalar.abs (b.x - a.x)) (Scalar.abs (b.y - a.y)) ≠ 0) :
    0 < segmentSquare a b := by
  refine lt_of_le_of_ne (add_nonneg (mul_self_nonneg _) (mul_self_nonneg _)) fun none => apart ?_
  obtain ⟨x, y⟩ := mul_self_add_mul_self_eq_zero.mp none.symm
  rw [x, y]
  show max |(0 : ℝ)| |(0 : ℝ)| = 0
  rw [abs_zero, max_self]

theorem plane_eq_of_scale {a b : Vector2 ℝ} (same : max (Scalar.abs (b.x - a.x)) (Scalar.abs (b.y - a.y)) = 0) :
    b.plane = a.plane := by
  obtain ⟨x, y⟩ := max_le_iff.mp same.le
  exact plane_eq_iff.mpr ⟨abs_nonpos_iff.mp x, abs_nonpos_iff.mp y⟩

theorem requireRadius_of_domain {center : Vector2 ℝ} (domain : CircleDomain start displacement center radius) :
    requireRadius radius maximumBoundaryRadius "swept_geometry.boundary_radius" = .ok () := by
  unfold requireRadius requireFinite
  rw [if_pos (isFinite_real radius)]
  exact if_neg (not_or.mpr ⟨not_lt.mpr domain.nonneg, not_lt.mpr domain.within⟩)

theorem sweptCapsule_answers (domain : CapsuleDomain start displacement segmentStart segmentEnd radius) : ∃ roots,
    sweptCapsuleBoundaryRoots start displacement segmentStart segmentEnd radius = .ok roots ∧
      Describes roots fun time =>
        infDist (sweptPoint start displacement time.value) (segment ℝ segmentStart.plane segmentEnd.plane) = radius := by
  obtain ⟨startRoots, startAnswers, starts⟩ := circleRoots_describe domain.atStart
  obtain ⟨endRoots, endAnswers, ends⟩ := circleRoots_describe domain.atEnd
  unfold sweptCapsuleBoundaryRoots
  rw [requireRadius_of_domain domain.atStart, startAnswers, endAnswers]
  dsimp only [bind, Except.bind]
  by_cases same : max (Scalar.abs (segmentEnd.x - segmentStart.x)) (Scalar.abs (segmentEnd.y - segmentStart.y)) = 0
  · rw [if_pos same]
    refine ⟨startRoots, rfl, ?_⟩
    simp only [plane_eq_of_scale same, segment_same, infDist_singleton]
    exact starts
  · have proper := segmentSquare_pos same
    have precise := domain.precise
    simp only [List.forall_mem_cons, List.not_mem_nil, IsEmpty.forall_iff, implies_true, and_true] at precise
    rw [if_neg same, requirePrecision_eq_ok.mpr precise.1, requirePrecision_eq_ok.mpr precise.2]
    obtain ⟨factor, is⟩ : ∃ factor, factor = normalization
      (max (Scalar.abs (segmentEnd.x - segmentStart.x)) (Scalar.abs (segmentEnd.y - segmentStart.y))) := ⟨_, rfl⟩
    have positive : 0 < factor := is ▸ normalization_pos _
    simp only [scalbn_normalization, ← is]
    have directed : 0 < (segmentEnd.x - segmentStart.x) * factor * ((segmentEnd.x - segmentStart.x) * factor) +
        (segmentEnd.y - segmentStart.y) * factor * ((segmentEnd.y - segmentStart.y) * factor) := by
      have scaled := mul_pos (mul_pos positive positive) proper
      unfold segmentSquare at scaled
      linarith
    obtain ⟨sideRoots, sideAnswers, sides⟩ := capsuleSideRoots_answers domain.atStart.nonneg directed
      domain.atStart.precise
    rw [sideAnswers]
    dsimp only
    obtain ⟨projection, at_⟩ : ∃ projection : SegmentProjection ℝ, projection =
      ⟨(start.x - segmentStart.x) * ((segmentEnd.x - segmentStart.x) * factor) +
        (start.y - segmentStart.y) * ((segmentEnd.y - segmentStart.y) * factor),
        displacement.x * ((segmentEnd.x - segmentStart.x) * factor) +
          displacement.y * ((segmentEnd.y - segmentStart.y) * factor),
        (segmentEnd.x - segmentStart.x) * ((segmentEnd.x - segmentStart.x) * factor) +
          (segmentEnd.y - segmentStart.y) * ((segmentEnd.y - segmentStart.y) * factor)⟩ := ⟨_, rfl⟩
    have place : ∀ time : MotionTime ℝ, projection.placeAt time =
        factor * alongSegment start displacement segmentStart segmentEnd time.value := by
      intro time
      rw [at_]
      unfold SegmentProjection.placeAt alongSegment
      dsimp only
      ring
    have ends_at : projection.finish = (segmentEnd.x - segmentStart.x) * ((segmentEnd.x - segmentStart.x) * factor) +
        (segmentEnd.y - segmentStart.y) * ((segmentEnd.y - segmentStart.y) * factor) := by
      rw [at_]
    have finish : projection.finish = factor * segmentSquare segmentStart segmentEnd := by
      rw [ends_at]
      unfold segmentSquare
      ring
    rw [← at_, ← ends_at]
    obtain ⟨besides, beside, first⟩ := projection.addRoots_keeps
      (fun place => decide (0 ≤ place ∧ place ≤ projection.finish)) (.none fun _ => not_false) sideRoots
    rw [beside]
    dsimp only
    obtain ⟨befores, before, second⟩ := projection.addRoots_keeps (fun place => decide (place ≤ 0)) first startRoots
    rw [before]
    dsimp only
    obtain ⟨roots, beyond, third⟩ := projection.addRoots_keeps (fun place => decide (projection.finish ≤ place)) second
      endRoots
    refine ⟨roots, beyond, ?_⟩
    have added : Keeps (CapsuleAdded start displacement segmentStart segmentEnd radius startRoots endRoots) roots := by
      refine third.congr fun time => ?_
      have exact_ := sides.mem_iff sideTime_few time
      have nonpositive : ∀ value, factor * value ≤ 0 ↔ value ≤ 0 := fun value => by
        rw [← not_lt, ← not_lt, mul_pos_iff_of_pos_left positive]
      simp only [decide_eq_true_eq, place, finish, mul_nonneg_iff_of_pos_left positive,
        mul_le_mul_iff_right₀ positive, nonpositive]
      rw [exact_, sideTime_scaled positive, false_or, or_assoc]
      rfl
    refine describes_of_keeps (convex_segment _ _) ⟨_, left_mem_segment ℝ _ _⟩ added ?_ ?_
    · intro time member
      exact member.sound domain.atStart.nonneg proper starts ends
    · intro time away
      exact CapsuleAdded.bounded domain.atStart.nonneg proper starts ends away

theorem capsuleDomain_of_answers
    (answers : sweptCapsuleBoundaryRoots start displacement segmentStart segmentEnd radius = .ok roots) :
    CapsuleDomain start displacement segmentStart segmentEnd radius := by
  have circle : ∀ {center : Vector2 ℝ} {roots : List (MotionTime ℝ)},
      sweptCircleBoundaryRoots start displacement center radius = .ok roots →
        CircleDomain start displacement center radius := by
    intro center roots answers
    obtain ⟨result, query, -⟩ := bind_eq_ok.mp answers
    exact circleDomain_of_answers query
  obtain ⟨⟨⟩, -, rest⟩ := bind_eq_ok.mp answers
  dsimp only at rest
  split at rest
  · next same =>
    have atStart := circle rest
    have equal := plane_eq_iff.mp (plane_eq_of_scale same)
    have x : segmentEnd.x = segmentStart.x := sub_eq_zero.mp equal.1
    have y : segmentEnd.y = segmentStart.y := sub_eq_zero.mp equal.2
    refine ⟨atStart, ⟨atStart.nonneg, atStart.within, ?_⟩, ?_⟩
    · rw [x, y]
      exact atStart.precise
    · rw [equal.1, equal.2]
      intro length member moves
      simp only [List.mem_cons, List.not_mem_nil, or_false, or_self] at member
      exact absurd member moves
  · obtain ⟨⟨⟩, x, rest⟩ := bind_eq_ok.mp rest
    obtain ⟨⟨⟩, y, rest⟩ := bind_eq_ok.mp rest
    obtain ⟨sides, -, rest⟩ := bind_eq_ok.mp rest
    obtain ⟨besides, -, rest⟩ := bind_eq_ok.mp rest
    obtain ⟨startRoots, starts, rest⟩ := bind_eq_ok.mp rest
    obtain ⟨befores, -, rest⟩ := bind_eq_ok.mp rest
    obtain ⟨endRoots, ends, -⟩ := bind_eq_ok.mp rest
    refine ⟨circle starts, circle ends, ?_⟩
    simp only [List.forall_mem_cons, List.not_mem_nil, IsEmpty.forall_iff, implies_true, and_true]
    exact ⟨requirePrecision_eq_ok.mp x, requirePrecision_eq_ok.mp y⟩

/-- The swept queries are exact: they answer exactly on their domain, with the times at the boundary's distance, or the
two ends of the interval these are, and the circle's classification is its polynomial's. -/
theorem swept_boundary_exact (start displacement segmentStart segmentEnd : Vector2 ℝ) (radius : ℝ) :
    (∀ center result, sweptCircleBoundaryQuery start displacement center radius = .ok result →
      result.Exact start displacement center radius) ∧
    (∀ center roots, sweptCircleBoundaryRoots start displacement center radius = .ok roots →
      Describes roots fun time => dist (sweptPoint start displacement time.value) center.plane = radius) ∧
    (∀ roots, sweptCapsuleBoundaryRoots start displacement segmentStart segmentEnd radius = .ok roots →
      Describes roots fun time => infDist (sweptPoint start displacement time.value)
        (segment ℝ segmentStart.plane segmentEnd.plane) = radius) ∧
    (∀ center, CircleDomain start displacement center radius ↔
      ∃ result, sweptCircleBoundaryQuery start displacement center radius = .ok result) ∧
    (CapsuleDomain start displacement segmentStart segmentEnd radius ↔
      ∃ roots, sweptCapsuleBoundaryRoots start displacement segmentStart segmentEnd radius = .ok roots) := by
  have circle : ∀ center result, sweptCircleBoundaryQuery start displacement center radius = .ok result →
      result.Exact start displacement center radius := by
    intro center result answers
    obtain ⟨other, again, exactly⟩ := sweptCircle_answers (circleDomain_of_answers answers)
    rw [answers] at again
    cases again
    exact exactly
  refine ⟨circle, ?_, ?_, ?_, ?_⟩
  · intro center roots answers
    obtain ⟨result, query, is⟩ := bind_eq_ok.mp answers
    cases is
    exact (circle center result query).roots
  · intro roots answers
    obtain ⟨other, again, describes⟩ := sweptCapsule_answers (capsuleDomain_of_answers answers)
    rw [answers] at again
    cases again
    exact describes
  · intro center
    refine ⟨fun domain => ?_, fun ⟨result, answers⟩ => circleDomain_of_answers answers⟩
    obtain ⟨result, answers, -⟩ := sweptCircle_answers domain
    exact ⟨result, answers⟩
  · refine ⟨fun domain => ?_, fun ⟨roots, answers⟩ => capsuleDomain_of_answers answers⟩
    obtain ⟨roots, answers, -⟩ := sweptCapsule_answers domain
    exact ⟨roots, answers⟩

end Query

end BlobRoyale.Simulation
