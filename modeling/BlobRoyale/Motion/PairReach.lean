import BlobRoyale.Motion.ExactMotion
import BlobRoyale.Motion.SweepCompleteness

/-!
# A contact is within reach of its boxes

In exact arithmetic a contact the pair query finds has its two discs touching along both axes, so the
boxes swept over both epochs overlap.
-/

namespace BlobRoyale.Simulation

/-- What the solver relies on of `swept_circle_boundary_query`: it answers its documented domain, a start
it calls inside or on the boundary is, and every root is a crossing. -/
structure ExactCircleQuery (circle : CircleSweepQuery ℝ) : Prop where
  answers : ∀ start displacement center radius, 0 ≤ radius → radius ≤ 2 * maximumPhysicalComponentMagnitude →
    ∃ result, circle start displacement center radius = .ok result
  inside : ∀ start displacement center radius result, circle start displacement center radius = .ok result →
    result.initialRelation ≠ .outside → (start.x - center.x) ^ 2 + (start.y - center.y) ^ 2 ≤ radius ^ 2
  crossing : ∀ start displacement center radius result, circle start displacement center radius = .ok result →
    ∀ root ∈ result.roots, (start.x + displacement.x * root.value - center.x) ^ 2 +
      (start.y + displacement.y * root.value - center.y) ^ 2 = radius ^ 2

namespace SolverState

variable {count : Nat} {state : SolverState ℝ count}

noncomputable def reach (state : SolverState ℝ count) (index : Fin count) : ℝ :=
  effectiveRadius (state.bodies index).subject.2 state.radius

/-- Two discs that touch along both axes at a time of both their epochs. -/
structure Reaches (state : SolverState ℝ count) (first second : Fin count) (time : MotionTime ℝ) : Prop where
  firstEpoch : (state.bodies first).anchor ≤ time
  secondEpoch : (state.bodies second).anchor ≤ time
  near : ∀ axis, |(state.bodies first).placeAt axis time - (state.bodies second).placeAt axis time| ≤
    state.reach first + state.reach second

section Boxes

theorem sweptAabb_covers {index : Fin count} {box : SweptAabb ℝ count} (measured : state.sweptAabb index = .ok box)
    {time : MotionTime ℝ} (epoch : (state.bodies index).anchor ≤ time) :
    (box.minimumX ≤ (state.bodies index).placeAt .x time - state.reach index ∧
      (state.bodies index).placeAt .x time + state.reach index ≤ box.maximumX) ∧
    (box.minimumY ≤ (state.bodies index).placeAt .y time - state.reach index ∧
      (state.bodies index).placeAt .y time + state.reach index ≤ box.maximumY) := by
  obtain ⟨velocity, moves, rest⟩ := bind_eq_ok.mp measured
  obtain ⟨exactly, same, components⟩ := geometricVelocity_real (state.bodies index).subject.2
  cases moves.symm.trans same
  cases rest
  have along : ∀ axis : MotionAxis,
      min (axis.component (state.bodies index).subject.2.position) (axis.component
        (state.bodies index).subject.2.position + axis.component velocity *
          (fixedDeltaSeconds * (1 - (state.bodies index).anchor.value))) ≤ (state.bodies index).placeAt axis time ∧
      (state.bodies index).placeAt axis time ≤ max (axis.component (state.bodies index).subject.2.position)
        (axis.component (state.bodies index).subject.2.position + axis.component velocity *
          (fixedDeltaSeconds * (1 - (state.bodies index).anchor.value))) := by
    intro axis
    have travel : (state.bodies index).travel axis = axis.component velocity := (components axis).symm
    have later : (state.bodies index).anchor.value ≤ time.value := epoch
    have within := time.within.2
    unfold EpochBody.placeAt
    rw [travel, fixedDeltaSeconds_real]
    obtain forward | backward := le_total 0 (axis.component velocity)
    · constructor
      · refine min_le_of_left_le ?_
        nlinarith
      · refine le_max_of_le_right ?_
        nlinarith
    · constructor
      · refine min_le_of_right_le ?_
        nlinarith
      · refine le_max_of_le_left ?_
        nlinarith
  obtain ⟨lowerX, upperX⟩ := along .x
  obtain ⟨lowerY, upperY⟩ := along .y
  refine ⟨⟨sub_le_sub_right lowerX _, add_le_add_left upperX _⟩,
    ⟨sub_le_sub_right lowerY _, add_le_add_left upperY _⟩⟩

theorem Reaches.overlaps {first second : Fin count} {time : MotionTime ℝ} (reaches : state.Reaches first second time)
    (moving : ¬ ((state.bodies first).subject.2.isStatic = true ∧ (state.bodies second).subject.2.isStatic = true))
    (masks : collisionMasksAdmit (state.bodies first).subject.2 (state.bodies second).subject.2 = true)
    {firstBox secondBox : SweptAabb ℝ count} (firstMeasured : state.sweptAabb first = .ok firstBox)
    (secondMeasured : state.sweptAabb second = .ok secondBox) : state.Overlaps firstBox secondBox := by
  obtain ⟨⟨firstLowX, firstHighX⟩, ⟨firstLowY, firstHighY⟩⟩ := sweptAabb_covers firstMeasured reaches.firstEpoch
  obtain ⟨⟨secondLowX, secondHighX⟩, ⟨secondLowY, secondHighY⟩⟩ :=
    sweptAabb_covers secondMeasured reaches.secondEpoch
  obtain ⟨nearLowX, nearHighX⟩ := abs_le.mp (reaches.near .x)
  obtain ⟨nearLowY, nearHighY⟩ := abs_le.mp (reaches.near .y)
  refine ⟨by linarith, by linarith, ?_⟩
  unfold meets
  rw [sweptAabb_body firstMeasured, sweptAabb_body secondMeasured]
  dsimp only
  rw [masks]
  have low : ¬ firstBox.maximumY < secondBox.minimumY := by
    refine not_lt_of_ge ?_
    linarith
  have high : ¬ secondBox.maximumY < firstBox.minimumY := by
    refine not_lt_of_ge ?_
    linarith
  simp only [Bool.and_true, decide_eq_false low, decide_eq_false high, Bool.or_false, Bool.not_false,
    Bool.not_eq_true', Bool.and_eq_false_iff]
  cases static : (state.bodies first).subject.2.isStatic with
  | false => exact .inl rfl
  | true =>
    refine .inr ?_
    cases also : (state.bodies second).subject.2.isStatic with
    | false => rfl
    | true => exact absurd ⟨static, also⟩ moving

end Boxes

section PairEvent

theorem requirePositivePhysicalScalar_eq_ok {value accepted : ℝ} {context : String}
    (accepts : requirePositivePhysicalScalar value context = .ok accepted) : accepted = value ∧ 0 < value := by
  unfold requirePositivePhysicalScalar at accepts
  split at accepts
  · split at accepts
    · cases accepts
    · next within =>
      cases accepts
      exact ⟨rfl, lt_of_not_ge fun negative => within (.inl negative)⟩
  · cases accepts

theorem pairContactDistance_eq_ok {first second : PhysicsBody ℝ} {radius distance : ℝ}
    (accepted : pairContactDistance first second radius = .ok distance) :
    distance = effectiveRadius first radius + effectiveRadius second radius ∧ 0 < distance := by
  obtain ⟨configured, accepts, rest⟩ := bind_eq_ok.mp accepted
  obtain ⟨same, -⟩ := requirePositivePhysicalScalar_eq_ok accepts
  subst same
  obtain ⟨firstRadius, accepts, rest⟩ := bind_eq_ok.mp rest
  obtain ⟨same, positive⟩ := requirePositivePhysicalScalar_eq_ok accepts
  subst same
  obtain ⟨secondRadius, accepts, rest⟩ := bind_eq_ok.mp rest
  obtain ⟨same, also⟩ := requirePositivePhysicalScalar_eq_ok accepts
  subst same
  unfold requireFiniteResult at rest
  rw [if_pos (isFinite_real _), Scalar.normalizeSignedZero_eq] at rest
  cases rest
  exact ⟨rfl, add_pos positive also⟩

theorem mapped_finish {root begin time : MotionTime ℝ} (maps : MotionTime.mapped root begin .finish = .ok time) :
    time.value = begin.value + (1 - begin.value) * root.value ∧ begin ≤ time := by
  have value : time.value = begin.value + (1 - begin.value) * root.value := by
    unfold MotionTime.mapped at maps
    split at maps
    · cases maps
    · split at maps
      · next initial =>
        cases maps
        rw [initial]
        exact (by ring : begin.value = begin.value + (1 - begin.value) * 0)
      · split at maps
        · next final =>
          cases maps
          rw [final]
          exact (by ring : (1 : ℝ) = begin.value + (1 - begin.value) * 1)
        · unfold MotionTime.create at maps
          split at maps
          · split at maps
            · cases maps
              rfl
            · cases maps
          · cases maps
  refine ⟨value, ?_⟩
  have lower : 0 ≤ (1 - begin.value) * root.value :=
    mul_nonneg (sub_nonneg.mpr begin.within.2) root.within.1
  have ahead : begin.value ≤ time.value := by linarith
  exact ahead

variable {pair : PairCache ℝ count} {begin : MotionTime ℝ} {first second : ContactSubject ℝ} {distance : ℝ}

/-- The evaluated subjects of a pair at its latest anchor. -/
structure BeginsAt (state : SolverState ℝ count) (pair : PairCache ℝ count) (begin : MotionTime ℝ)
    (first second : ContactSubject ℝ) (distance : ℝ) : Prop where
  begin_eq : begin = max (state.bodies pair.first).anchor (state.bodies pair.second).anchor
  firstAt : state.subjectAt pair.first begin = .ok first
  secondAt : state.subjectAt pair.second begin = .ok second
  distanceAt : pairContactDistance first.2 second.2 state.radius = .ok distance

theorem BeginsAt.distance_eq (begins : state.BeginsAt pair begin first second distance) :
    distance = state.reach pair.first + state.reach pair.second ∧ 0 < distance := by
  obtain ⟨-, firstCarried, -⟩ := subjectAt_eq_ok begins.firstAt
  obtain ⟨-, secondCarried, -⟩ := subjectAt_eq_ok begins.secondAt
  obtain ⟨same, positive⟩ := pairContactDistance_eq_ok begins.distanceAt
  refine ⟨?_, positive⟩
  rw [same, firstCarried, secondCarried]
  rfl

theorem BeginsAt.reaches_begin (begins : state.BeginsAt pair begin first second distance)
    (firstLive : (state.bodies pair.first).disposition = .continues)
    (secondLive : (state.bodies pair.second).disposition = .continues)
    (inside : (first.2.position.x - second.2.position.x) ^ 2 + (first.2.position.y - second.2.position.y) ^ 2 ≤
      distance ^ 2) : state.Reaches pair.first pair.second begin := by
  obtain ⟨firstEpoch, firstPlace⟩ := subjectAt_place firstLive begins.firstAt
  obtain ⟨secondEpoch, secondPlace⟩ := subjectAt_place secondLive begins.secondAt
  obtain ⟨same, positive⟩ := begins.distance_eq
  refine ⟨firstEpoch, secondEpoch, ?_⟩
  intro axis
  rw [← firstPlace, ← secondPlace, ← same]
  refine abs_le_of_sq_le_sq ?_ (le_of_lt positive)
  cases axis with
  | x => exact (le_add_of_nonneg_right (sq_nonneg _)).trans inside
  | y => exact (le_add_of_nonneg_left (sq_nonneg _)).trans inside

theorem BeginsAt.reaches_root (begins : state.BeginsAt pair begin first second distance)
    (firstLive : (state.bodies pair.first).disposition = .continues)
    (secondLive : (state.bodies pair.second).disposition = .continues) (remains : begin ≠ .finish)
    {firstVelocity secondVelocity displacement : Vector2 ℝ} {root time : MotionTime ℝ}
    (firstMoves : geometricVelocity first.2 = .ok firstVelocity)
    (secondMoves : geometricVelocity second.2 = .ok secondVelocity)
    (displaces : Vector2.create ((firstVelocity.x - secondVelocity.x) * remainingSeconds begin)
      ((firstVelocity.y - secondVelocity.y) * remainingSeconds begin) = .ok displacement)
    (crosses : (first.2.position.x + displacement.x * root.value - second.2.position.x) ^ 2 +
      (first.2.position.y + displacement.y * root.value - second.2.position.y) ^ 2 = distance ^ 2)
    (maps : MotionTime.mapped root begin .finish = .ok time) : state.Reaches pair.first pair.second time := by
  obtain ⟨firstEpoch, firstPlace⟩ := subjectAt_place firstLive begins.firstAt
  obtain ⟨secondEpoch, secondPlace⟩ := subjectAt_place secondLive begins.secondAt
  obtain ⟨same, positive⟩ := begins.distance_eq
  obtain ⟨value, later⟩ := mapped_finish maps
  obtain ⟨x, y⟩ := Vector2.createForOperation_eq_ok displaces
  have moved : ∀ axis : MotionAxis, axis.component displacement =
      ((state.bodies pair.first).travel axis - (state.bodies pair.second).travel axis) *
        (fixedDeltaSeconds * (1 - begin.value)) := by
    intro axis
    rw [← travel_of_geometricVelocity begins.firstAt firstMoves axis,
      ← travel_of_geometricVelocity begins.secondAt secondMoves axis]
    unfold remainingSeconds at x y
    rw [if_neg remains] at x y
    cases axis with
    | x => exact x
    | y => exact y
  refine ⟨firstEpoch.trans later, secondEpoch.trans later, ?_⟩
  intro axis
  have apart : (state.bodies pair.first).placeAt axis time - (state.bodies pair.second).placeAt axis time =
      axis.component first.2.position + axis.component displacement * root.value -
        axis.component second.2.position := by
    rw [(state.bodies pair.first).placeAt_later axis begin time,
      (state.bodies pair.second).placeAt_later axis begin time, ← firstPlace, ← secondPlace, moved, value]
    ring
  rw [apart, ← same]
  refine abs_le_of_sq_le_sq ?_ (le_of_lt positive)
  cases axis with
  | x => exact (le_add_of_nonneg_right (sq_nonneg _)).trans (le_of_eq crosses)
  | y => exact (le_add_of_nonneg_left (sq_nonneg _)).trans (le_of_eq crosses)

variable {circle : CircleSweepQuery ℝ} {work charged : MotionWorkCounts}

theorem pairEvent_reaches (exactly : ExactCircleQuery circle)
    (firstLive : (state.bodies pair.first).disposition = .continues)
    (secondLive : (state.bodies pair.second).disposition = .continues) {event : MotionGeometryEvent ℝ count}
    (computed : state.pairEvent circle work pair = .ok (charged, some event)) :
    state.Reaches pair.first pair.second event.key.time := by
  unfold pairEvent at computed
  obtain ⟨first, firstAt, rest⟩ := bind_eq_ok.mp computed
  obtain ⟨second, secondAt, rest⟩ := bind_eq_ok.mp rest
  obtain ⟨distance, distanceAt, rest⟩ := bind_eq_ok.mp rest
  obtain ⟨firstVelocity, firstMoves, rest⟩ := bind_eq_ok.mp rest
  obtain ⟨secondVelocity, secondMoves, rest⟩ := bind_eq_ok.mp rest
  obtain ⟨displacement, displaces, rest⟩ := bind_eq_ok.mp rest
  obtain ⟨spent, -, rest⟩ := bind_eq_ok.mp rest
  obtain ⟨query, queries, rest⟩ := bind_eq_ok.mp rest
  have begins : state.BeginsAt pair _ first second distance := ⟨rfl, firstAt, secondAt, distanceAt⟩
  dsimp only at rest
  split at rest
  · next touching =>
    obtain ⟨made, makes, rest⟩ := bind_eq_ok.mp rest
    cases rest
    rw [(makePairEvent_eq_some makes).2]
    exact begins.reaches_begin firstLive secondLive
      (exactly.inside _ _ _ _ _ queries touching)
  · split at rest
    · cases rest
    · next remaining =>
      split at rest
      · cases rest
      · next root roots listed =>
        obtain ⟨time, maps, rest⟩ := bind_eq_ok.mp rest
        split at rest
        · obtain ⟨made, makes, rest⟩ := bind_eq_ok.mp rest
          cases rest
          rw [(makePairEvent_eq_some makes).2]
          simp only [Bool.or_eq_true, not_or, decide_eq_true_eq] at remaining
          refine begins.reaches_root firstLive secondLive remaining.1.1 firstMoves secondMoves displaces ?_ maps
          exact exactly.crossing _ _ _ _ _ queries root (by rw [listed]; exact List.mem_cons_self)
        · cases rest

end PairEvent

section Apart

variable {circle : CircleSweepQuery ℝ} {work : MotionWorkCounts} {pair : PairCache ℝ count}

/-- The radii a contact distance accepts. -/
structure Measurable (state : SolverState ℝ count) : Prop where
  configured : 0 < state.radius ∧ state.radius ≤ maximumPhysicalComponentMagnitude
  bodies : ∀ index, 0 < state.reach index ∧ state.reach index ≤ maximumPhysicalComponentMagnitude

/-- A live body whose epoch has already left the places a vector can hold. -/
def Astray (state : SolverState ℝ count) : Prop :=
  ∃ index, (state.bodies index).disposition = .continues ∧ ∃ time, (state.bodies index).anchor ≤ time ∧
    time ≤ state.now ∧ ¬ (state.bodies index).StaysWithin time

theorem requirePositivePhysicalScalar_of {value : ℝ} (within : 0 < value ∧ value ≤ maximumPhysicalComponentMagnitude)
    (context : String) : requirePositivePhysicalScalar value context = .ok value := by
  have admitted : ¬ (value ≤ 0 ∨ maximumPhysicalComponentMagnitude < value) := by
    rintro (negative | large)
    · exact absurd within.1 (not_lt_of_ge negative)
    · exact absurd within.2 (not_le_of_gt large)
  unfold requirePositivePhysicalScalar
  rw [if_pos (isFinite_real value), if_neg admitted]

theorem Measurable.pairContactDistance (measurable : state.Measurable) {time : MotionTime ℝ} {first second : Fin count}
    {firstSubject secondSubject : ContactSubject ℝ} (firstAt : state.subjectAt first time = .ok firstSubject)
    (secondAt : state.subjectAt second time = .ok secondSubject) :
    BlobRoyale.Simulation.pairContactDistance firstSubject.2 secondSubject.2 state.radius =
      .ok (state.reach first + state.reach second) := by
  obtain ⟨-, firstCarried, -⟩ := subjectAt_eq_ok firstAt
  obtain ⟨-, secondCarried, -⟩ := subjectAt_eq_ok secondAt
  have firstRadius : effectiveRadius firstSubject.2 state.radius = state.reach first := by
    rw [firstCarried]
    rfl
  have secondRadius : effectiveRadius secondSubject.2 state.radius = state.reach second := by
    rw [secondCarried]
    rfl
  unfold BlobRoyale.Simulation.pairContactDistance
  rw [requirePositivePhysicalScalar_of measurable.configured]
  dsimp only [bind, Except.bind]
  rw [firstRadius, requirePositivePhysicalScalar_of (measurable.bodies first)]
  dsimp only
  rw [secondRadius, requirePositivePhysicalScalar_of (measurable.bodies second)]
  dsimp only
  unfold requireFiniteResult
  rw [if_pos (isFinite_real _), Scalar.normalizeSignedZero_eq]

end Apart

end SolverState

end BlobRoyale.Simulation
