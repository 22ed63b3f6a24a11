import BlobRoyale.Library.SegmentDistance
import BlobRoyale.Motion.ExactRoots
import Mathlib.Analysis.Calculus.Deriv.Polynomial
import Mathlib.Analysis.InnerProductSpace.PiL2

/-!
# The swept circle in exact arithmetic

The roots of the circle query are the times its moving point is at the boundary's distance from the center, and its
classification is the polynomial's.
-/

namespace BlobRoyale.Simulation

open Passes Extremes HalfQuadratic

noncomputable def Vector2.plane (vector : Vector2 ℝ) : EuclideanSpace ℝ (Fin 2) := WithLp.toLp _ ![vector.x, vector.y]

noncomputable def sweptPoint (start displacement : Vector2 ℝ) (time : ℝ) : EuclideanSpace ℝ (Fin 2) :=
  start.plane + time • displacement.plane

/-- The square of a moving point's distance from a center, less the square of a radius. -/
def boundaryPolynomial (start displacement center : Vector2 ℝ) (radius time : ℝ) : ℝ :=
  (start.x + displacement.x * time - center.x) * (start.x + displacement.x * time - center.x) +
    (start.y + displacement.y * time - center.y) * (start.y + displacement.y * time - center.y) - radius * radius

section Geometry

variable {start displacement center : Vector2 ℝ} {radius time : ℝ}

theorem boundaryPolynomial_eq_eval : boundaryPolynomial start displacement center radius time =
    eval (displacement.x * displacement.x + displacement.y * displacement.y)
      ((start.x - center.x) * displacement.x + (start.y - center.y) * displacement.y)
      ((start.x - center.x) * (start.x - center.x) + (start.y - center.y) * (start.y - center.y) - radius * radius)
      time := by
  unfold boundaryPolynomial eval
  ring

theorem dist_plane_sq : dist (sweptPoint start displacement time) center.plane ^ 2 =
    (start.x + displacement.x * time - center.x) * (start.x + displacement.x * time - center.x) +
      (start.y + displacement.y * time - center.y) * (start.y + displacement.y * time - center.y) := by
  rw [EuclideanSpace.dist_eq, Real.sq_sqrt (Finset.sum_nonneg fun _ _ => sq_nonneg _), Fin.sum_univ_two,
    Real.dist_eq, Real.dist_eq, sq_abs, sq_abs]
  simp only [sweptPoint, Vector2.plane, PiLp.add_apply, PiLp.smul_apply, smul_eq_mul, Matrix.cons_val_zero,
    Matrix.cons_val_one]
  ring

theorem dist_eq_radius_iff (nonneg : 0 ≤ radius) : dist (sweptPoint start displacement time) center.plane = radius ↔
    boundaryPolynomial start displacement center radius time = 0 := by
  rw [← sq_eq_sq₀ dist_nonneg nonneg, dist_plane_sq, boundaryPolynomial, sub_eq_zero, pow_two]

theorem deriv_boundaryPolynomial : deriv (boundaryPolynomial start displacement center radius) 0 =
    (start.x - center.x) * displacement.x + (start.y - center.y) * displacement.y +
      ((start.x - center.x) * displacement.x + (start.y - center.y) * displacement.y) := by
  have same : boundaryPolynomial start displacement center radius = eval
      (displacement.x * displacement.x + displacement.y * displacement.y)
      ((start.x - center.x) * displacement.x + (start.y - center.y) * displacement.y)
      ((start.x - center.x) * (start.x - center.x) + (start.y - center.y) * (start.y - center.y) - radius * radius) :=
    funext fun time => boundaryPolynomial_eq_eval
  rw [same, (hasDerivAt_eval _ _ _ 0).deriv]
  ring

/-- The times the accumulator bounds are all the times at one distance from a convex set. -/
theorem describes_of_keeps {K : Set (EuclideanSpace ℝ (Fin 2))} (convex : Convex ℝ K) (inhabited : K.Nonempty)
    {added : MotionTime ℝ → Prop} {roots : List (MotionTime ℝ)} (keeps : Keeps added roots)
    (sound : ∀ time, added time → Metric.infDist (sweptPoint start displacement time.value) K = radius)
    (bounded : ∀ time : MotionTime ℝ, Metric.infDist (sweptPoint start displacement time.value) K = radius →
      ∃ low high, added low ∧ added high ∧ low ≤ time ∧ time ≤ high) :
    Describes roots fun time => Metric.infDist (sweptPoint start displacement time.value) K = radius := by
  refine keeps.describes sound bounded ?_
  intro low middle high atLow atMiddle atHigh early late time after before
  exact SegmentDistance.infDist_constant_between convex inhabited atLow atMiddle atHigh early late after before

end Geometry

section Query

/-- What the circle query answers of a moving point. -/
structure CircleSweepResult.Exact (result : CircleSweepResult ℝ) (start displacement center : Vector2 ℝ)
    (radius : ℝ) : Prop where
  roots : Describes result.roots fun time => dist (sweptPoint start displacement time.value) center.plane = radius
  relation : match result.initialRelation with
    | .inside => boundaryPolynomial start displacement center radius 0 < 0
    | .onBoundary => boundaryPolynomial start displacement center radius 0 = 0
    | .outside => 0 < boundaryPolynomial start displacement center radius 0
  radialMotion : match result.initialRadialMotion with
    | .approaching => deriv (boundaryPolynomial start displacement center radius) 0 < 0
    | .orthogonal => deriv (boundaryPolynomial start displacement center radius) 0 = 0
    | .receding => 0 < deriv (boundaryPolynomial start displacement center radius) 0
  topology : result.topology.Counts (boundaryPolynomial start displacement center radius)
  coincident : result.initialCentersCoincident = true ↔ start.plane = center.plane

variable {start displacement center : Vector2 ℝ} {radius maximum : ℝ} {result : CircleSweepResult ℝ}

theorem requireRadius_eq_ok {context : String} (accepts : requireRadius radius maximum context = .ok ()) :
    0 ≤ radius ∧ radius ≤ maximum := by
  obtain ⟨_, -, rest⟩ := bind_eq_ok.mp accepts
  split at rest
  · cases rest
  · next within =>
    rw [not_or, not_lt, not_lt] at within
    exact within

/-- The largest of the lengths a query is normalized by. -/
noncomputable abbrev largestLength (first second third fourth radius : ℝ) : ℝ :=
  max (max (max (max (Scalar.abs first) (Scalar.abs second)) (Scalar.abs third)) (Scalar.abs fourth)) radius

theorem largestLength_eq_zero {first second third fourth : ℝ} (nonneg : 0 ≤ radius)
    (none : largestLength first second third fourth radius = 0) :
    first = 0 ∧ second = 0 ∧ third = 0 ∧ fourth = 0 ∧ radius = 0 := by
  have vanishes : ∀ value : ℝ, Scalar.abs value ≤ 0 → value = 0 := fun value small => abs_nonpos_iff.mp small
  have most := le_of_eq none
  simp only [largestLength, max_le_iff] at most
  obtain ⟨⟨⟨⟨one, two⟩, three⟩, four⟩, five⟩ := most
  exact ⟨vanishes _ one, vanishes _ two, vanishes _ three, vanishes _ four, le_antisymm five nonneg⟩

theorem plane_eq_iff {first second : Vector2 ℝ} : first.plane = second.plane ↔
    first.x - second.x = 0 ∧ first.y - second.y = 0 := by
  rw [sub_eq_zero, sub_eq_zero]
  constructor
  · intro same
    exact ⟨congrArg (fun point : EuclideanSpace ℝ (Fin 2) => point 0) same,
      congrArg (fun point : EuclideanSpace ℝ (Fin 2) => point 1) same⟩
  · rintro ⟨x, y⟩
    unfold Vector2.plane
    rw [x, y]

theorem CircleLineTopology.Counts.of_scaled {topology : CircleLineTopology} {scaled polynomial : ℝ → ℝ} {factor : ℝ}
    (counts : topology.Counts scaled) (same : ∀ time, scaled time = factor * polynomial time) (apart : factor ≠ 0) :
    topology.Counts polynomial := by
  have vanishes : ∀ time, scaled time = 0 ↔ polynomial time = 0 := fun time => by
    rw [same, mul_eq_zero, or_iff_right apart]
  have agrees : ∀ time, scaled time = scaled 0 ↔ polynomial time = polynomial 0 := fun time => by
    rw [same, same, mul_right_inj' apart]
  cases topology with
  | stationary => exact fun time => (agrees time).mp (counts time)
  | miss =>
    obtain ⟨⟨time, moves⟩, misses⟩ := counts
    exact ⟨⟨time, (agrees time).not.mp moves⟩, fun time => (vanishes time).not.mp (misses time)⟩
  | tangent =>
    obtain ⟨root, only⟩ := counts
    exact ⟨root, fun time => (vanishes time).symm.trans (only time)⟩
  | secant =>
    obtain ⟨first, second, apart, both⟩ := counts
    exact ⟨first, second, apart, fun time => (vanishes time).symm.trans (both time)⟩

theorem describes_circle (nonneg : 0 ≤ radius) {kept : List (MotionTime ℝ)} {added : MotionTime ℝ → Prop}
    (keeps : Keeps added kept)
    (sound : ∀ time, added time → boundaryPolynomial start displacement center radius time.value = 0)
    (bounded : ∀ time : MotionTime ℝ, boundaryPolynomial start displacement center radius time.value = 0 →
      ∃ low high, added low ∧ added high ∧ low ≤ time ∧ time ≤ high) :
    Describes kept fun time => dist (sweptPoint start displacement time.value) center.plane = radius := by
  have described := @describes_of_keeps start displacement radius {center.plane} (convex_singleton _)
    (Set.singleton_nonempty _) added kept keeps
  simp only [Metric.infDist_singleton, dist_eq_radius_iff nonneg] at described ⊢
  exact described sound bounded

/-- A length that is zero, or large enough beside the largest for its products to be exact. -/
def Normalizes (scale length : ℝ) : Prop := length ≠ 0 → precisionFloor ≤ |length * normalization scale|

theorem requirePrecision_eq_ok {scale length : ℝ} {context : String} : requirePrecisionComponent
    (BinaryScalar.scalbn length (-BinaryScalar.exponent scale)) (length ≠ 0) context = .ok () ↔ Normalizes scale length := by
  unfold requirePrecisionComponent Normalizes
  rw [scalbn_normalization]
  have magnitude : Scalar.abs (length * normalization scale) = |length * normalization scale| := rfl
  rw [magnitude]
  split
  · next small =>
    rw [Bool.and_eq_true, decide_eq_true_eq, decide_eq_true_eq] at small
    exact iff_of_false (fun refused => by cases refused) fun precise => absurd (precise small.1) (not_le.mpr small.2)
  · next precise =>
    rw [Bool.and_eq_true, decide_eq_true_eq, decide_eq_true_eq, not_and, not_lt] at precise
    exact iff_of_true rfl precise

/-- The inputs the circle query answers. -/
structure CircleDomain (start displacement center : Vector2 ℝ) (radius : ℝ) : Prop where
  nonneg : 0 ≤ radius
  within : radius ≤ maximumBoundaryRadius
  precise : ∀ length ∈ [start.x - center.x, start.y - center.y, displacement.x, displacement.y, radius],
    Normalizes (largestLength (start.x - center.x) (start.y - center.y) displacement.x displacement.y radius) length

theorem circleDomain_of_answers (answers : sweptCircleBoundaryQuery start displacement center radius = .ok result) :
    CircleDomain start displacement center radius := by
  obtain ⟨⟨⟩, accepts, rest⟩ := bind_eq_ok.mp answers
  obtain ⟨nonneg, within⟩ := requireRadius_eq_ok accepts
  refine ⟨nonneg, within, ?_⟩
  dsimp only at rest
  split at rest
  · next none =>
    obtain ⟨one, two, three, four, five⟩ := largestLength_eq_zero nonneg none
    intro length member moves
    rw [one, two, three, four, five] at member
    simp only [List.mem_cons, List.not_mem_nil, or_false, or_self] at member
    exact absurd member moves
  · obtain ⟨⟨⟩, one, rest⟩ := bind_eq_ok.mp rest
    obtain ⟨⟨⟩, two, rest⟩ := bind_eq_ok.mp rest
    obtain ⟨⟨⟩, three, rest⟩ := bind_eq_ok.mp rest
    obtain ⟨⟨⟩, four, rest⟩ := bind_eq_ok.mp rest
    obtain ⟨⟨⟩, five, -⟩ := bind_eq_ok.mp rest
    simp only [List.forall_mem_cons, List.not_mem_nil, IsEmpty.forall_iff, implies_true, and_true]
    exact ⟨requirePrecision_eq_ok.mp one, requirePrecision_eq_ok.mp two, requirePrecision_eq_ok.mp three,
      requirePrecision_eq_ok.mp four, requirePrecision_eq_ok.mp five⟩

theorem normalized_standsFor (offsetX offsetY moveX moveY radius factor : ℝ) : ∃ polynomial,
    CirclePolynomial.create (offsetX * factor) (offsetY * factor) (moveX * factor) (moveY * factor) (radius * factor) =
      .ok polynomial ∧
    polynomial.StandsFor (factor * factor * (moveX * moveX + moveY * moveY))
      (factor * factor * (offsetX * moveX + offsetY * moveY))
      (factor * factor * (offsetX * offsetX + offsetY * offsetY - radius * radius))
      (factor * factor * (radius * radius)) := by
  refine ⟨_, CirclePolynomial.create_eq _ _ _ _ _, ?_, ?_, ?_, ?_, ?_⟩
  · exact congrArg Expansion.exact (by ring)
  · exact congrArg Expansion.exact (by ring)
  · exact congrArg Expansion.exact (by ring)
  · exact congrArg Expansion.exact (by ring)
  · dsimp only
    ring

theorem CirclePolynomial.StandsFor.relation {polynomial : CirclePolynomial ℝ} {a b c square factor value : ℝ}
    (stands : polynomial.StandsFor a b c square) (scaled : c = factor * value) (positive : 0 < factor) :
    match polynomial.initialRelation with
    | .inside => value < 0
    | .onBoundary => value = 0
    | .outside => 0 < value := by
  unfold CirclePolynomial.initialRelation
  rw [stands.c_eq, scaled, Expansion.zero_scaled _ positive, Expansion.negative_scaled _ positive]
  obtain negative | zero | above := lt_trichotomy value 0
  · rw [decide_eq_false negative.ne, decide_eq_true negative]
    exact negative
  · rw [decide_eq_true zero]
    exact zero
  · rw [decide_eq_false above.ne', decide_eq_false (not_lt.mpr above.le)]
    exact above

theorem CirclePolynomial.StandsFor.radialMotion {polynomial : CirclePolynomial ℝ} {a b c square factor value : ℝ}
    (stands : polynomial.StandsFor a b c square) (scaled : b = factor * value) (positive : 0 < factor) :
    match polynomial.initialRadialMotion with
    | .approaching => value + value < 0
    | .orthogonal => value + value = 0
    | .receding => 0 < value + value := by
  unfold CirclePolynomial.initialRadialMotion
  rw [stands.b_eq, scaled, Expansion.zero_scaled _ positive, Expansion.negative_scaled _ positive]
  obtain negative | zero | above := lt_trichotomy value 0
  · rw [decide_eq_false negative.ne, decide_eq_true negative]
    exact add_neg negative negative
  · rw [decide_eq_true zero]
    exact (congrArg₂ (· + ·) zero zero).trans (add_zero 0)
  · rw [decide_eq_false above.ne', decide_eq_false (not_lt.mpr above.le)]
    exact add_pos above above

theorem exact_of_nothing (offsetX : start.x - center.x = 0) (offsetY : start.y - center.y = 0)
    (moveX : displacement.x = 0) (moveY : displacement.y = 0) (none : radius = 0) {kept : List (MotionTime ℝ)}
    (keeps : Keeps (fun time => time.value ∈ [0, 1]) kept) {coincident : Bool}
    (same : coincident = true ↔ start.plane = center.plane) :
    (⟨kept, .onBoundary, .stationary, .orthogonal, coincident⟩ : CircleSweepResult ℝ).Exact start displacement center
      radius := by
  have vanishes : boundaryPolynomial start displacement center radius = fun _ => 0 := by
    funext time
    rw [boundaryPolynomial_eq_eval, offsetX, offsetY, moveX, moveY, none]
    unfold eval
    ring
  refine ⟨?_, ?_, ?_, ?_, same⟩
  · refine describes_circle none.ge keeps (fun _ _ => by rw [vanishes]) fun time _ => ?_
    exact ⟨.start, .finish, List.mem_cons_self, List.mem_cons_of_mem _ List.mem_cons_self, time.within.1, time.within.2⟩
  · dsimp only
    rw [vanishes]
  · dsimp only
    rw [vanishes, deriv_const]
  · intro time
    rw [vanishes]

theorem exact_of_standsFor (nonneg : 0 ≤ radius) {polynomial : CirclePolynomial ℝ} {factor : ℝ} (positive : 0 < factor)
    {square : ℝ} (stands : polynomial.StandsFor
      (factor * (displacement.x * displacement.x + displacement.y * displacement.y))
      (factor * ((start.x - center.x) * displacement.x + (start.y - center.y) * displacement.y))
      (factor * ((start.x - center.x) * (start.x - center.x) + (start.y - center.y) * (start.y - center.y) -
        radius * radius)) square) :
    ∃ answer, polynomial.roots = .ok answer ∧ ∀ coincident, (coincident = true ↔ start.plane = center.plane) →
      (⟨answer.1, polynomial.initialRelation, answer.2, polynomial.initialRadialMotion, coincident⟩ :
        CircleSweepResult ℝ).Exact start displacement center radius := by
  have scaled : ∀ time, eval (factor * (displacement.x * displacement.x + displacement.y * displacement.y))
      (factor * ((start.x - center.x) * displacement.x + (start.y - center.y) * displacement.y))
      (factor * ((start.x - center.x) * (start.x - center.x) + (start.y - center.y) * (start.y - center.y) -
        radius * radius)) time = factor * boundaryPolynomial start displacement center radius time := by
    intro time
    rw [boundaryPolynomial_eq_eval]
    unfold eval
    ring
  have atZero : boundaryPolynomial start displacement center radius 0 =
      (start.x - center.x) * (start.x - center.x) + (start.y - center.y) * (start.y - center.y) - radius * radius := by
    rw [boundaryPolynomial_eq_eval]
    unfold eval
    ring
  have relation := stands.relation rfl positive
  rw [← atZero] at relation
  have radial := stands.radialMotion rfl positive
  rw [← deriv_boundaryPolynomial] at radial
  by_cases still : displacement.x * displacement.x + displacement.y * displacement.y = 0
  · obtain ⟨kept, folds, keeps⟩ := CirclePolynomial.roots_stationary stands (by rw [still, mul_zero])
    have constant : ∀ time, boundaryPolynomial start displacement center radius time =
        boundaryPolynomial start displacement center radius 0 := by
      obtain ⟨moveX, moveY⟩ := (mul_self_add_mul_self_eq_zero).mp still
      intro time
      unfold boundaryPolynomial
      rw [moveX, moveY, zero_mul, zero_mul]
    refine ⟨(kept, .stationary), folds, fun coincident same => ⟨?_, relation, radial, constant, same⟩⟩
    rw [← atZero, mul_eq_zero, or_iff_right positive.ne'] at keeps
    refine describes_circle nonneg keeps (fun time boundary => (constant _).trans boundary.1) fun time root => ?_
    have boundary := (constant time.value).symm.trans root
    exact ⟨.start, .finish, ⟨boundary, .inl rfl⟩, ⟨boundary, .inr rfl⟩, time.within.1, time.within.2⟩
  · have moves : 0 < factor * (displacement.x * displacement.x + displacement.y * displacement.y) :=
      mul_pos positive (lt_of_le_of_ne (add_nonneg (mul_self_nonneg _) (mul_self_nonneg _)) (Ne.symm still))
    obtain ⟨answer, folds, keeps, counts⟩ := CirclePolynomial.roots_solves stands moves
    refine ⟨answer, folds, fun coincident same =>
      ⟨?_, relation, radial, counts.of_scaled scaled positive.ne', same⟩⟩
    have vanishes : ∀ time, factor * boundaryPolynomial start displacement center radius time = 0 ↔
        boundaryPolynomial start displacement center radius time = 0 :=
      fun time => by rw [mul_eq_zero, or_iff_right positive.ne']
    simp only [scaled, vanishes] at keeps
    exact describes_circle nonneg keeps (fun _ root => root)
      fun time root => ⟨time, time, root, root, le_refl _, le_refl _⟩

theorem sweptCircle_answers (domain : CircleDomain start displacement center radius) : ∃ result,
    sweptCircleBoundaryQuery start displacement center radius = .ok result ∧
      result.Exact start displacement center radius := by
  have accepts : requireRadius radius maximumBoundaryRadius "swept_geometry.boundary_radius" = .ok () := by
    unfold requireRadius requireFinite
    rw [if_pos (isFinite_real radius)]
    exact if_neg (not_or.mpr ⟨not_lt.mpr domain.nonneg, not_lt.mpr domain.within⟩)
  have precise := domain.precise
  simp only [List.forall_mem_cons, List.not_mem_nil, IsEmpty.forall_iff, implies_true, and_true] at precise
  obtain ⟨one, two, three, four, five⟩ := precise
  unfold sweptCircleBoundaryQuery
  rw [accepts]
  dsimp only [bind, Except.bind]
  by_cases none : largestLength (start.x - center.x) (start.y - center.y) displacement.x displacement.y radius = 0
  · obtain ⟨offsetX, offsetY, moveX, moveY, nothing⟩ := largestLength_eq_zero domain.nonneg none
    obtain ⟨kept, folds, keeps⟩ := accumulateRoots_keeps [0, 1]
    rw [if_pos none, folds]
    refine ⟨_, rfl, exact_of_nothing offsetX offsetY moveX moveY nothing keeps ?_⟩
    rw [decide_eq_true_eq, plane_eq_iff]
  · rw [if_neg none, requirePrecision_eq_ok.mpr one, requirePrecision_eq_ok.mpr two, requirePrecision_eq_ok.mpr three,
      requirePrecision_eq_ok.mpr four, requirePrecision_eq_ok.mpr five]
    obtain ⟨factor, is⟩ : ∃ factor, factor = normalization
      (largestLength (start.x - center.x) (start.y - center.y) displacement.x displacement.y radius) := ⟨_, rfl⟩
    have positive : 0 < factor * factor := is ▸ mul_pos (normalization_pos _) (normalization_pos _)
    obtain ⟨polynomial, creates, stands⟩ :=
      normalized_standsFor (start.x - center.x) (start.y - center.y) displacement.x displacement.y radius factor
    simp only [scalbn_normalization, ← is, creates]
    obtain ⟨answer, solves, exactly⟩ := exact_of_standsFor domain.nonneg positive stands
    rw [solves]
    refine ⟨_, rfl, exactly _ ?_⟩
    rw [decide_eq_true_eq, plane_eq_iff]

end Query

end BlobRoyale.Simulation
