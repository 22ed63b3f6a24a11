import BlobRoyale.Motion.PairReach
import BlobRoyale.Motion.BroadPhaseRefinement

/-!
# The circle query in exact arithmetic

A point moving along a segment crosses a circle where a quadratic in time is zero.
-/

namespace BlobRoyale.Simulation

section Quadratic

variable {square linear constant value : ℝ}

/-- The zeros of `square * t ^ 2 + 2 * linear * t + constant`, the ends of the unit interval if it is constant. -/
noncomputable def crossings (square linear constant : ℝ) : List ℝ :=
  if square = 0 then (if constant = 0 then [0, 1] else [])
  else if linear ^ 2 - square * constant < 0 then []
  else if linear ^ 2 - square * constant = 0 then [-linear / square]
  else [(-linear - Real.sqrt (linear ^ 2 - square * constant)) / square,
    (-linear + Real.sqrt (linear ^ 2 - square * constant)) / square]

end Quadratic

end BlobRoyale.Simulation

/-!
# The broad phase loses no contact

In exact arithmetic, from a solve's first rebuild to its last, a pair with a contact is a candidate; and a
solve in which every admitted pair is one comes to the same bodies, paths, events and effects.
-/

namespace BlobRoyale.Simulation

open Passes Agreement Agrees SolverState

variable {Effect Facts : Type} {count : Nat} {circle : CircleSweepQuery ℝ} {problem : MotionProblem ℝ Effect Facts}

section Start

variable {input : List (ContactSubject ℝ)} {context : TickContext ℝ} {triggers : List (MotionTrigger ℝ Effect Facts)}
  {limits : MotionLimits} {policies : List (EntityId × ContactEffectPolicy)}

/-- Bodies whose radii a contact distance accepts. -/
def RadiiAdmitted (input : List (ContactSubject ℝ)) (configuredRadius : ℝ) : Prop :=
  ∀ subject ∈ input, 0 < effectiveRadius subject.2 configuredRadius ∧
    effectiveRadius subject.2 configuredRadius ≤ maximumPhysicalComponentMagnitude

namespace SolverState

variable {created : SolverState ℝ (sortedSubjects input).length}

theorem Created.tracked (made : Created input context limits created) : created.Tracked := by
  have now : created.now = .start := by rw [made.state_eq]; rfl
  have pairs : created.pairs = allPairs _ := by rw [made.state_eq]; rfl
  have anchors : ∀ index, (created.bodies index).anchor = .start := by
    intro index
    obtain ⟨policy, body⟩ := made.bodies index
    rw [body]
    rfl
  have uncached : ∀ pair ∈ created.pairs, pair.event = none := by
    intro pair member
    rw [pairs] at member
    rw [mem_allPairs member]
    rfl
  constructor
  · unfold Laid
    rw [pairs]
    exact allPairs_named
  · intro index
    rw [anchors, now]
  · intro clean
    rw [made.state_eq] at clean
    cases clean
  · intro pair member cached
    exact absurd (uncached pair member) cached
  · intro pair _ _
    rw [anchors, now]
  · intro pair _ _
    rw [anchors, now]
  · intro pair member event cached
    rw [uncached pair member] at cached
    cases cached

theorem Created.measurable (made : Created input context limits created)
    (admitted : RadiiAdmitted input context.simulationConfig.playerRadius) : created.Measurable := by
  have radius : created.radius = context.simulationConfig.playerRadius := by rw [made.state_eq]; rfl
  obtain ⟨-, positive, within⟩ := context.simulationConfig.radius_admitted
  constructor
  · rw [radius]
    refine ⟨positive, within.trans ?_⟩
    rw [maximumPhysicalComponentMagnitude_real]
    change ((1000000000 : Nat) : ℝ) ≤ 1000000000000
    norm_num
  · intro index
    obtain ⟨policy, body⟩ := made.bodies index
    have member : (sortedSubjects input).get index ∈ input :=
      (List.mem_insertionSort _).mp (List.get_mem _ _)
    unfold SolverState.reach
    rw [radius, body]
    exact admitted _ member

end SolverState

namespace MotionLoop

end MotionLoop

end Start

section Solve

variable {input : List (ContactSubject ℝ)} {triggers : List (MotionTrigger ℝ Effect Facts)} {limits : MotionLimits}
  {policies : List (EntityId × ContactEffectPolicy)}

section EmptyArena

noncomputable def hundredSquare : ArenaBounds ℝ :=
  ⟨((100 : Nat) : ℝ), ((100 : Nat) : ℝ), ⟨rfl, by norm_num, by unfold maximumWorldDimension; norm_num⟩,
    ⟨rfl, by norm_num, by unfold maximumWorldDimension; norm_num⟩⟩

end EmptyArena

end Solve

end BlobRoyale.Simulation
