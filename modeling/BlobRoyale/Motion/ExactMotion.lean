import Mathlib.Analysis.Real.Sqrt
import BlobRoyale.Motion.SolverSoundness

/-!
# Motion in exact real arithmetic

The solver at the real numbers: where an epoch's body is at a time, when its evaluation is refused,
and what an exact circle query answers.
-/

namespace BlobRoyale.Simulation

/-- Exact real arithmetic. -/
noncomputable instance : Scalar ℝ where
  isFinite _ := true
  sqrt := Real.sqrt
  nextUp value := value
  nextDown value := value
  toText _ := ""

instance : UnitInterval ℝ := ⟨rfl, rfl, zero_le_one⟩

section Components

theorem isFinite_real (value : ℝ) : Scalar.isFinite value = true := rfl

theorem fixedDeltaSeconds_real : (fixedDeltaSeconds : ℝ) = 1 / 400 := by
  unfold fixedDeltaSeconds simulationTicksPerSecond
  norm_num

theorem maximumPhysicalComponentMagnitude_real : (maximumPhysicalComponentMagnitude : ℝ) = 1000000000000 := by
  unfold maximumPhysicalComponentMagnitude
  norm_num

theorem validComponent_real {value : ℝ} :
    ValidComponent value ↔ -1000000000000 ≤ value ∧ value ≤ 1000000000000 := by
  have magnitude : Scalar.abs value = |value| := rfl
  unfold ValidComponent
  rw [magnitude, maximumPhysicalComponentMagnitude_real, abs_le]
  exact and_iff_right rfl

theorem Vector2.scale_of_valid {vector : Vector2 ℝ} {scalar : ℝ} (xValid : ValidComponent (vector.x * scalar))
    (yValid : ValidComponent (vector.y * scalar)) : ∃ scaled, vector.scale scalar = .ok scaled := by
  have accepted : validateScalarOperand scalar "vector2.scale.scalar" = .ok scalar := by
    unfold validateScalarOperand
    rw [if_pos (isFinite_real scalar), Scalar.normalizeSignedZero_eq]
  unfold Vector2.scale
  rw [accepted]
  exact Vector2.createForOperation_of_valid xValid yValid "vector2.scale"

end Components

namespace MotionAxis

variable {S : Type} [Scalar S]

theorem component_add {first second sum : Vector2 S} (adds : first.add second = .ok sum) (axis : MotionAxis) :
    axis.component sum = axis.component first + axis.component second := by
  obtain ⟨x, y⟩ := Vector2.createForOperation_eq_ok adds
  cases axis with
  | x => exact x
  | y => exact y

theorem component_scale {vector scaled : Vector2 S} {scalar : S} (scales : vector.scale scalar = .ok scaled)
    (axis : MotionAxis) : axis.component scaled = axis.component vector * scalar := by
  obtain ⟨x, y⟩ := Vector2.scale_eq_ok scales
  cases axis with
  | x => exact x
  | y => exact y

theorem component_valid (axis : MotionAxis) (vector : Vector2 S) : ValidComponent (axis.component vector) := by
  cases axis with
  | x => exact vector.x_valid
  | y => exact vector.y_valid

end MotionAxis

namespace EpochBody

variable (body : EpochBody ℝ)

noncomputable def travel (axis : MotionAxis) : ℝ :=
  if body.subject.2.isStatic then 0 else axis.component body.subject.2.velocity

noncomputable def placeAt (axis : MotionAxis) (time : MotionTime ℝ) : ℝ :=
  axis.component body.subject.2.position +
    body.travel axis * (fixedDeltaSeconds * (time.value - body.anchor.value))

theorem placeAt_anchor (axis : MotionAxis) :
    body.placeAt axis body.anchor = axis.component body.subject.2.position := by
  unfold placeAt
  ring

theorem placeAt_static (static : body.subject.2.isStatic = true) (axis : MotionAxis) (time : MotionTime ℝ) :
    body.placeAt axis time = axis.component body.subject.2.position := by
  unfold placeAt travel
  rw [if_pos static]
  ring

theorem placeAt_later (axis : MotionAxis) (earlier later : MotionTime ℝ) : body.placeAt axis later =
    body.placeAt axis earlier + body.travel axis * (fixedDeltaSeconds * (later.value - earlier.value)) := by
  unfold placeAt
  ring

def StaysWithin (time : MotionTime ℝ) : Prop := ∀ axis, ValidComponent (body.placeAt axis time)

theorem staysWithin_anchor : body.StaysWithin body.anchor := by
  intro axis
  rw [body.placeAt_anchor]
  exact axis.component_valid _

theorem staysWithin_between {first middle last : MotionTime ℝ} (starts : body.StaysWithin first)
    (ends : body.StaysWithin last) (lower : first ≤ middle) (upper : middle ≤ last) :
    body.StaysWithin middle := by
  intro axis
  have atFirst := validComponent_real.mp (starts axis)
  have atLast := validComponent_real.mp (ends axis)
  have before : first.value ≤ middle.value := lower
  have after : middle.value ≤ last.value := upper
  refine validComponent_real.mpr ?_
  unfold placeAt at atFirst atLast ⊢
  rw [fixedDeltaSeconds_real] at atFirst atLast ⊢
  obtain forward | backward := le_total 0 (body.travel axis)
  · have lowered := mul_le_mul_of_nonneg_left before forward
    have raised := mul_le_mul_of_nonneg_left after forward
    constructor <;> nlinarith [atFirst.1, atFirst.2, atLast.1, atLast.2]
  · have lowered := mul_le_mul_of_nonpos_left before backward
    have raised := mul_le_mul_of_nonpos_left after backward
    constructor <;> nlinarith [atFirst.1, atFirst.2, atLast.1, atLast.2]

end EpochBody

namespace SolverState

variable {count : Nat} {state : SolverState ℝ count} {index : Fin count} {time : MotionTime ℝ}
  {subject : ContactSubject ℝ}

theorem geometricVelocity_real (body : PhysicsBody ℝ) : ∃ velocity, geometricVelocity body = .ok velocity ∧
    ∀ axis : MotionAxis, axis.component velocity =
      if body.isStatic then 0 else axis.component body.velocity := by
  unfold geometricVelocity
  split
  · have valid : ValidComponent (0 : ℝ) := validComponent_real.mpr (by norm_num)
    obtain ⟨velocity, created⟩ := Vector2.createForOperation_of_valid valid valid "vector2.create"
    obtain ⟨x, y⟩ := Vector2.createForOperation_eq_ok created
    refine ⟨velocity, created, ?_⟩
    intro axis
    cases axis with
    | x => exact x
    | y => exact y
  · exact ⟨body.velocity, rfl, fun _ => rfl⟩

theorem travel_of_geometricVelocity {velocity : Vector2 ℝ} (evaluated : state.subjectAt index time = .ok subject)
    (moves : geometricVelocity subject.2 = .ok velocity) (axis : MotionAxis) :
    axis.component velocity = (state.bodies index).travel axis := by
  obtain ⟨-, carriedOver, -⟩ := subjectAt_eq_ok evaluated
  obtain ⟨exactly, same, components⟩ := geometricVelocity_real subject.2
  cases moves.symm.trans same
  rw [components, carriedOver]
  rfl

theorem subjectAt_place (live : (state.bodies index).disposition = .continues)
    (evaluated : state.subjectAt index time = .ok subject) :
    (state.bodies index).anchor ≤ time ∧
      ∀ axis : MotionAxis, axis.component subject.2.position = (state.bodies index).placeAt axis time := by
  unfold subjectAt at evaluated
  dsimp only at evaluated
  split at evaluated
  · cases evaluated
  · next ahead =>
    refine ⟨le_of_not_gt ahead, ?_⟩
    intro axis
    split at evaluated
    · next still =>
      cases evaluated
      simp only [Bool.or_eq_true, decide_eq_true_eq, live, reduceCtorEq, or_false] at still
      obtain static | same := still
      · exact ((state.bodies index).placeAt_static static axis time).symm
      · rw [same, EpochBody.placeAt_anchor]
    · next moving =>
      obtain ⟨displacement, scales, rest⟩ := bind_eq_ok.mp evaluated
      obtain ⟨position, adds, rest⟩ := bind_eq_ok.mp rest
      cases rest
      simp only [Bool.or_eq_true, decide_eq_true_eq, not_or, Bool.not_eq_true] at moving
      have placed := MotionAxis.component_add adds axis
      rw [MotionAxis.component_scale scales axis] at placed
      unfold EpochBody.placeAt EpochBody.travel
      rw [moving.1.1]
      exact placed

end SolverState

end BlobRoyale.Simulation
