import BlobRoyale.Motion.SolverMoves
import BlobRoyale.Simulation.GridExactness

/-!
# The grid is a broad-phase superset

In exact arithmetic, with `nextafter` free to move further out, two bodies within the tolerated contact
distance share a cell, wherever they lie, and every body covers a cell.
-/

namespace BlobRoyale.Simulation

/-- Scalars whose arithmetic is that of the real numbers they stand for. -/
class ExactScalar (S : Type) extends Scalar S where
  real : S → ℝ
  real_zero : real 0 = 0
  real_one : real 1 = 1
  real_natCast : ∀ count : Nat, real (count : S) = count
  real_neg : ∀ value : S, real (-value) = -real value
  real_add : ∀ first second : S, real (first + second) = real first + real second
  real_sub : ∀ first second : S, real (first - second) = real first - real second
  real_mul : ∀ first second : S, real (first * second) = real first * real second
  real_div : ∀ first second : S, real (first / second) = real first / real second
  real_le : ∀ first second : S, real first ≤ real second ↔ first ≤ second
  nextDown_le : ∀ value : S, real (Scalar.nextDown value) ≤ real value
  le_nextUp : ∀ value : S, real value ≤ real (Scalar.nextUp value)

namespace ExactScalar

attribute [simp] real_zero real_one real_natCast real_neg real_add real_sub real_mul real_div

instance : ExactScalar ℚ where
  real value := value
  real_zero := Rat.cast_zero
  real_one := Rat.cast_one
  real_natCast := Rat.cast_natCast
  real_neg := Rat.cast_neg
  real_add := Rat.cast_add
  real_sub := Rat.cast_sub
  real_mul := Rat.cast_mul
  real_div := Rat.cast_div
  real_le _ _ := Rat.cast_le
  nextDown_le _ := le_rfl
  le_nextUp _ := le_rfl

variable {S : Type} [ExactScalar S]

theorem real_lt (first second : S) : real first < real second ↔ first < second := by
  rw [← not_le, ← not_le, real_le]

@[simp] theorem real_max (first second : S) : real (max first second) = max (real first) (real second) := by
  obtain below | above := le_total first second
  · rw [max_eq_right below, max_eq_right ((real_le _ _).mpr below)]
  · rw [max_eq_left above, max_eq_left ((real_le _ _).mpr above)]

@[simp] theorem real_min (first second : S) : real (min first second) = min (real first) (real second) := by
  obtain below | above := le_total first second
  · rw [min_eq_left below, min_eq_left ((real_le _ _).mpr below)]
  · rw [min_eq_right above, min_eq_right ((real_le _ _).mpr above)]

@[simp] theorem real_abs (value : S) : real (Scalar.abs value) = |real value| := by
  rw [Scalar.abs, real_max, real_neg]
  rfl

@[simp] theorem real_positionTolerance : real (positionTolerance : S) = 1 / 1000000000 := by
  rw [positionTolerance, real_div, real_one, real_natCast, Nat.cast_ofNat]

@[simp] theorem real_relativeTolerance : real (relativeTolerance : S) = 1 / 1000000000000 := by
  rw [relativeTolerance, real_div, real_one, real_natCast, Nat.cast_ofNat]

theorem real_positive {value : S} (positive : 0 < value) : 0 < real value := by
  rw [← real_lt, real_zero] at positive
  exact positive

end ExactScalar

open ExactScalar

section Axis

variable {S : Type} [ExactScalar S] {worldExtent : S} {cellCount : Nat}

theorem real_internalBoundary (worldExtent : S) (cellCount index : Nat) :
    real (internalBoundary worldExtent cellCount index) = real worldExtent * index / cellCount := by
  rw [internalBoundary, real_div, real_mul, real_natCast, real_natCast]

theorem internalBoundary_mono (extent : 0 < worldExtent) {first second : Nat} (ordered : first ≤ second) :
    internalBoundary worldExtent cellCount first ≤ internalBoundary worldExtent cellCount second := by
  rw [← real_le, real_internalBoundary, real_internalBoundary]
  have positive := real_positive extent
  gcongr

theorem firstIntersectedCell_boundary_lt {minimum : S}
    (positive : 0 < firstIntersectedCell minimum worldExtent cellCount) (counted : 0 < cellCount) :
    firstIntersectedCell minimum worldExtent cellCount < cellCount ∧
      internalBoundary worldExtent cellCount (firstIntersectedCell minimum worldExtent cellCount) < minimum := by
  unfold firstIntersectedCell at positive ⊢
  split at positive
  · exact absurd positive (lt_irrefl 0)
  · next inside =>
    rw [if_neg inside]
    have ends := @partitionPoint_spec (fun index => internalBoundary worldExtent cellCount index < minimum) 1
      cellCount counted
    have bounds := @partitionPoint_bounds (fun index => internalBoundary worldExtent cellCount index < minimum) 1
      cellCount counted
    dsimp only at positive ⊢
    have same : (if partitionPoint (fun index => decide (internalBoundary worldExtent cellCount index < minimum)) 1
        cellCount = cellCount then cellCount - 1
      else partitionPoint (fun index => decide (internalBoundary worldExtent cellCount index < minimum)) 1
        cellCount - 1) = partitionPoint (fun index => decide (internalBoundary worldExtent cellCount index < minimum))
          1 cellCount - 1 := by
      split
      · next full => rw [full]
      · rfl
    rw [same] at positive ⊢
    refine ⟨by omega, ?_⟩
    obtain first | found := ends.1
    · omega
    · exact of_decide_eq_true found

/-- No cell whose lower boundary the interval reaches lies behind the last intersected cell. -/
theorem le_lastIntersectedCell {maximum : S} {index : Nat} (extent : 0 < worldExtent) (within : index < cellCount)
    (reached : internalBoundary worldExtent cellCount index ≤ maximum) :
    index ≤ lastIntersectedCell maximum worldExtent cellCount := by
  unfold lastIntersectedCell
  split
  · omega
  · have ends := @partitionPoint_spec (fun index => internalBoundary worldExtent cellCount index ≤ maximum) 1
      cellCount (by omega)
    by_contra later
    have early : partitionPoint (fun index => decide (internalBoundary worldExtent cellCount index ≤ maximum)) 1
        cellCount ≤ index := by omega
    obtain full | stopped := ends.2
    · omega
    · exact of_decide_eq_false stopped ((internalBoundary_mono extent early).trans reached)

/-- The clamped interval's first cell is not behind the last cell of any interval it does not lie beyond. -/
theorem firstIntersectedCell_le_last {minimum maximum : S} (extent : 0 < worldExtent) (counted : 0 < cellCount)
    (ordered : minimum ≤ maximum) :
    firstIntersectedCell (max 0 minimum) worldExtent cellCount ≤
      lastIntersectedCell (min worldExtent maximum) worldExtent cellCount := by
  by_cases first : firstIntersectedCell (max 0 minimum) worldExtent cellCount = 0
  · rw [first]
    exact Nat.zero_le _
  · obtain ⟨within, below⟩ := firstIntersectedCell_boundary_lt (Nat.pos_of_ne_zero first) counted
    refine le_lastIntersectedCell extent within (le_min ?_ ?_)
    · have boundary := real_internalBoundary worldExtent cellCount
        (firstIntersectedCell (max 0 minimum) worldExtent cellCount)
      rw [← real_le, boundary, div_le_iff₀ (Nat.cast_pos.mpr counted)]
      have positive := real_positive extent
      have fewer : ((firstIntersectedCell (max 0 minimum) worldExtent cellCount : Nat) : ℝ) ≤ cellCount :=
        Nat.cast_le.mpr within.le
      gcongr
    · obtain negative | beyond := lt_max_iff.mp below
      · have nonnegative : (0 : S) ≤ internalBoundary worldExtent cellCount
            (firstIntersectedCell (max 0 minimum) worldExtent cellCount) := by
          rw [← real_le, real_internalBoundary, real_zero]
          have positive := real_positive extent
          positivity
        exact absurd negative (not_lt.mpr nonnegative)
      · exact beyond.le.trans ordered

end Axis

section Reach

variable {S : Type} [ExactScalar S]

/-- How far a coverage reaches from its center, in exact real arithmetic. -/
noncomputable def coverageReach (radius : ℝ) : ℝ := radius + coveragePadding radius

theorem positionTolerance_real : (positionTolerance : ℝ) = 1 / 1000000000 := by
  unfold positionTolerance
  norm_num

theorem coverageReach_eq (radius : ℝ) : coverageReach radius =
    radius + (1 / 1000000000 + 1 / 1000000000000 * |2 * radius|) / (1 - 1 / 1000000000000) := by
  have magnitude (value : ℝ) : Scalar.abs value = |value| := rfl
  simp only [coverageReach, coveragePadding, comparisonTolerance, diameter, positionTolerance_real,
    relativeTolerance_real, magnitude, max_self, Nat.cast_ofNat]

theorem real_coveragePadding (radius : S) :
    real radius + real (coveragePadding radius) = coverageReach (real radius) := by
  rw [coverageReach_eq]
  simp only [coveragePadding, comparisonTolerance, diameter, max_self, real_div, real_add, real_mul, real_sub,
    real_one, real_positionTolerance, real_relativeTolerance, real_abs, real_natCast]
  norm_num

theorem le_coverageReach_add {first second distance : ℝ} (firstPositive : 0 ≤ first) (secondPositive : 0 ≤ second)
    (nonnegative : 0 ≤ distance)
    (accepted : lessThanOrApproximatelyEqual distance (first + second) positionTolerance = true) :
    distance ≤ coverageReach first + coverageReach second := by
  have magnitude (value : ℝ) : Scalar.abs value = |value| := rfl
  rw [lessThanOrApproximatelyEqual, Bool.or_eq_true, decide_eq_true_iff, approximatelyEqual, decide_eq_true_iff,
    comparisonTolerance, positionTolerance_real, relativeTolerance_real, magnitude, magnitude, magnitude] at accepted
  rw [coverageReach_eq, coverageReach_eq, abs_of_nonneg (by linarith), abs_of_nonneg (by linarith)]
  have padded : first + (1 / 1000000000 + 1 / 1000000000000 * (2 * first)) / (1 - 1 / 1000000000000) +
      (second + (1 / 1000000000 + 1 / 1000000000000 * (2 * second)) / (1 - 1 / 1000000000000)) =
      (first + second + 2 / 1000000000 + (first + second) / 1000000000000) / (1 - 1 / 1000000000000) := by
    ring
  rw [padded, le_div_iff₀ (by norm_num)]
  obtain closer | near := accepted
  · linarith
  · rw [abs_of_nonneg nonnegative, abs_of_nonneg (add_nonneg firstPositive secondPositive)] at near
    have ahead := (le_abs_self _).trans near
    obtain longer | shorter := le_total (first + second) distance
    · rw [max_eq_left longer] at ahead
      linarith
    · linarith

/-- Along one axis, the cells of one interval do not all lie behind those of another it reaches. -/
theorem intersectedCells_reach {worldExtent : S} {cellCount : Nat} (extent : 0 < worldExtent)
    (counted : 0 < cellCount) {center other radius otherRadius : S}
    (reaches : real center - real other ≤ coverageReach (real radius) + coverageReach (real otherRadius)) :
    (intersectedCells center radius worldExtent (coveragePadding radius) cellCount).1 ≤
      (intersectedCells other otherRadius worldExtent (coveragePadding otherRadius) cellCount).2 := by
  refine firstIntersectedCell_le_last extent counted ((real_le _ _).mp ?_)
  refine (nextDown_le _).trans (le_trans ?_ (le_nextUp _))
  simp only [real_add, real_sub]
  have here := real_coveragePadding radius
  have there := real_coveragePadding otherRadius
  linarith

end Reach

namespace SpatialGrid

variable {S : Type} [ExactScalar S] {configuration : SimulationConfig S} {bounds : ArenaBounds S}

theorem effectiveRadius_nonneg {body : PhysicsBody S} (declared : 0 ≤ body.radius) :
    0 ≤ real (effectiveRadius body configuration.playerRadius) := by
  rw [← real_zero (S := S), real_le, effectiveRadius]
  split
  · exact configuration.radius_admitted.2.1.le
  · exact declared

/-- A nonempty coverage inside the grid. -/
structure Valid (configuration : SimulationConfig S) (coverage : CellCoverage) : Prop where
  rows : coverage.firstRow ≤ coverage.lastRow ∧ coverage.lastRow < configuration.spatialGridRows
  columns : coverage.firstColumn ≤ coverage.lastColumn ∧ coverage.lastColumn < configuration.spatialGridColumns

theorem coverageOfBody_valid {body : PhysicsBody S} (declared : 0 ≤ body.radius) :
    Valid configuration (coverageOfBody configuration bounds body) := by
  have nonnegative := @effectiveRadius_nonneg _ _ configuration _ declared
  have reaches : ∀ center : S, real center - real center ≤
      coverageReach (real (effectiveRadius body configuration.playerRadius)) +
        coverageReach (real (effectiveRadius body configuration.playerRadius)) := by
    intro center
    rw [sub_self, coverageReach_eq, abs_of_nonneg (by linarith)]
    have padding : (0 : ℝ) < 1 - 1 / 1000000000000 := by norm_num
    positivity
  have inside := coverageOf_inside configuration bounds body.position
    (effectiveRadius body configuration.playerRadius)
  exact ⟨⟨intersectedCells_reach bounds.height_admitted.2.1 configuration.rows_positive (reaches _),
      inside.lastRow_lt⟩,
    ⟨intersectedCells_reach bounds.width_admitted.2.1 configuration.columns_positive (reaches _),
      inside.lastColumn_lt⟩⟩

/-- The distance between two centers, in exact real arithmetic. -/
noncomputable def centerDistance (first second : PhysicsBody S) : ℝ :=
  Real.sqrt ((real first.position.x - real second.position.x) * (real first.position.x - real second.position.x) +
    (real first.position.y - real second.position.y) * (real first.position.y - real second.position.y))

theorem axis_le_distance (x y : ℝ) : x ≤ Real.sqrt (x * x + y * y) ∧ y ≤ Real.sqrt (x * x + y * y) :=
  ⟨Real.le_sqrt_of_sq_le (by nlinarith [mul_self_nonneg y]), Real.le_sqrt_of_sq_le (by nlinarith [mul_self_nonneg x])⟩

theorem centerDistance_comm (first second : PhysicsBody S) :
    centerDistance first second = centerDistance second first := by
  unfold centerDistance
  congr 1
  ring

theorem coverageOfBody_reaches {first second : PhysicsBody S} (firstDeclared : 0 ≤ first.radius)
    (secondDeclared : 0 ≤ second.radius)
    (accepted : lessThanOrApproximatelyEqual (centerDistance first second)
      (real (effectiveRadius first configuration.playerRadius) +
        real (effectiveRadius second configuration.playerRadius)) positionTolerance = true) :
    (coverageOfBody configuration bounds first).firstRow ≤ (coverageOfBody configuration bounds second).lastRow ∧
      (coverageOfBody configuration bounds first).firstColumn ≤
        (coverageOfBody configuration bounds second).lastColumn := by
  have reach := le_coverageReach_add (@effectiveRadius_nonneg _ _ configuration _ firstDeclared)
    (@effectiveRadius_nonneg _ _ configuration _ secondDeclared) (Real.sqrt_nonneg _) accepted
  obtain ⟨alongX, alongY⟩ := axis_le_distance (real first.position.x - real second.position.x)
    (real first.position.y - real second.position.y)
  exact ⟨intersectedCells_reach bounds.height_admitted.2.1 configuration.rows_positive (alongY.trans reach),
    intersectedCells_reach bounds.width_admitted.2.1 configuration.columns_positive (alongX.trans reach)⟩

/-- Coverages are valid, and share a cell where the centers are within the tolerated contact distance. -/
theorem broad_phase_superset (configuration : SimulationConfig S) (bounds : ArenaBounds S)
    {first second : EntityId × PhysicsBody S} {firstCoverage secondCoverage : CellCoverage}
    (firstDeclared : 0 ≤ first.2.radius) (secondDeclared : 0 ≤ second.2.radius)
    (firstCovers : bodyCoverage configuration bounds first = .ok firstCoverage)
    (secondCovers : bodyCoverage configuration bounds second = .ok secondCoverage) :
    Valid configuration firstCoverage ∧ Valid configuration secondCoverage ∧
      (lessThanOrApproximatelyEqual (centerDistance first.2 second.2)
        (real (effectiveRadius first.2 configuration.playerRadius) +
          real (effectiveRadius second.2 configuration.playerRadius)) positionTolerance = true →
        firstCoverage.Shares secondCoverage) := by
  rw [(bodyCoverage_eq_ok.mp firstCovers).2, (bodyCoverage_eq_ok.mp secondCovers).2]
  have firstValid := @coverageOfBody_valid _ _ configuration bounds _ firstDeclared
  have secondValid := @coverageOfBody_valid _ _ configuration bounds _ secondDeclared
  refine ⟨firstValid, secondValid, fun accepted => ?_⟩
  obtain ⟨firstRows, firstColumns⟩ := @coverageOfBody_reaches _ _ configuration bounds _ _ firstDeclared
    secondDeclared accepted
  obtain ⟨secondRows, secondColumns⟩ := @coverageOfBody_reaches _ _ configuration bounds _ _ secondDeclared
    firstDeclared
    (by rw [centerDistance_comm, add_comm]; exact accepted)
  refine ⟨max (coverageOfBody configuration bounds first.2).firstRow (coverageOfBody configuration bounds second.2).firstRow,
    max (coverageOfBody configuration bounds first.2).firstColumn
      (coverageOfBody configuration bounds second.2).firstColumn, ⟨?_, ?_⟩, ?_, ?_⟩
  · exact ⟨le_max_left _ _, max_le firstValid.rows.1 secondRows⟩
  · exact ⟨le_max_left _ _, max_le firstValid.columns.1 secondColumns⟩
  · exact ⟨le_max_right _ _, max_le firstRows secondValid.rows.1⟩
  · exact ⟨le_max_right _ _, max_le firstColumns secondValid.columns.1⟩

section OneCell

theorem admittedExtent_hundred : AdmittedExtent (100 : ℚ) := by decide

theorem admittedExtent_one : AdmittedExtent (1 : ℚ) := by decide

theorem validComponent_one : ValidComponent (1 : ℚ) := by decide

theorem admittedMass_one : AdmittedMass (1 : ℚ) false := by decide

theorem admittedRestitution_one : AdmittedRestitution (1 : ℚ) := by decide

theorem admittedDragScale_one : AdmittedDragScale (1 : ℚ) := by decide

theorem nonnegative_one : (0 : ℚ) ≤ 1 := by decide

theorem one_le_maximumSpatialGridCellCount : 1 ≤ maximumSpatialGridCellCount := by decide

def hundredSquare : ArenaBounds ℚ := ⟨100, 100, admittedExtent_hundred, admittedExtent_hundred⟩

def singleCell : SimulationConfig ℚ where
  worldWidth := 100
  worldHeight := 100
  playerRadius := 1
  dragPerSecond := 1
  spatialGridColumns := 1
  spatialGridRows := 1
  spatialGridCellCount := 1
  radius_admitted := admittedExtent_one
  drag_nonnegative := nonnegative_one
  columns_positive := Nat.one_pos
  rows_positive := Nat.one_pos
  cellCount_eq := (Nat.one_mul 1).symm
  cellCount_bounded := one_le_maximumSpatialGridCellCount

def cornerPoint : Vector2 ℚ := ⟨1, 1, validComponent_one, validComponent_one⟩

def cornerDisc : PhysicsBody ℚ :=
  ⟨cornerPoint, cornerPoint, cornerPoint, 1, 1, 1, 1, 1, 1, false, .fold, .floating, admittedMass_one,
    admittedRestitution_one, admittedDragScale_one⟩

/-- Two discs at one point share their cell. -/
theorem broad_phase_superset_corner :
    (coverageOfBody singleCell hundredSquare cornerDisc).Shares (coverageOfBody singleCell hundredSquare cornerDisc) := by
  have covers : bodyCoverage singleCell hundredSquare (.first, cornerDisc) =
      .ok (coverageOfBody singleCell hundredSquare cornerDisc) := bodyCoverage_eq_ok.mpr ⟨by decide +kernel, rfl⟩
  refine (@broad_phase_superset ℚ _ singleCell hundredSquare (.first, cornerDisc) (.first, cornerDisc) _ _
    nonnegative_one nonnegative_one covers covers).2.2 ?_
  have apart : centerDistance cornerDisc cornerDisc = 0 := by
    rw [centerDistance, sub_self, sub_self, mul_zero, add_zero, Real.sqrt_zero]
  have radius : real (effectiveRadius cornerDisc singleCell.playerRadius) = 1 := by
    rw [effectiveRadius]
    exact (congrArg real (ite_self (1 : ℚ))).trans real_one
  rw [apart, radius, lessThanOrApproximatelyEqual, Bool.or_eq_true]
  exact .inl (decide_eq_true (by norm_num))

end OneCell

end SpatialGrid

end BlobRoyale.Simulation
