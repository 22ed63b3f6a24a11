import BlobRoyale.Gameplay.GameplayValidation
import BlobRoyale.Simulation.ContinuousMotion

/-!
# Locomotion

The bound on normal propulsion: an Euler step that would leave the disc of the admitted speeds is projected
back onto it. Two nested loops shrink the projection while rounding still breaks one of the two bounds.
-/

namespace BlobRoyale.Gameplay

open Simulation

variable {S : Type} [Scalar S]

def maximumLocomotionRoundingStepCount : Nat := 8

def precisionLost {α : Type} (detail : String) : Except Failure α :=
  .error (.gameplay ⟨.locomotionPrecisionLost, "locomotion.normal_propulsion", detail⟩)

/-- What one call holds fixed. -/
structure PropulsionStep (S : Type) [Scalar S] where
  velocity : Vector2 S
  requestedEndpoint : Vector2 S
  zero : Vector2 S
  requestedSquared : S
  boundSquared : S

namespace PropulsionStep

/-- The `steps` acceleration scales that are left, from `accelerationScale` down. -/
def scaleAcceleration (step : PropulsionStep S) (projected : Vector2 S) :
    Nat → S → Except Failure (Option (Vector2 S))
  | 0, _ => .ok none
  | steps + 1, accelerationScale => do
      let candidate ← throughEngine
        (if accelerationScale = 1 then .ok projected else projected.scale accelerationScale)
      if candidate = step.zero then precisionLost "rounding correction erased a nonidentity projected step"
      else do
        let candidateEndpoint ← throughEngine (integrateAcceleratedVelocity step.velocity candidate)
        if candidateEndpoint = step.velocity then
          precisionLost "rounding correction materialized an identity instead of the projected step"
        else if candidate.dot candidate ≤ step.requestedSquared ∧
            candidateEndpoint.dot candidateEndpoint ≤ step.boundSquared then .ok (some candidate)
        else step.scaleAcceleration projected steps (Scalar.nextTowardZero accelerationScale)

def accelerationScale (step : PropulsionStep S) (projected : Vector2 S) : S :=
  let projectedSquared := projected.dot projected
  if step.requestedSquared < projectedSquared then
    min 1 (Scalar.sqrt step.requestedSquared / Scalar.sqrt projectedSquared)
  else 1

/-- The `steps` radial targets that are left, the first of them given. -/
def scaleProjection (step : PropulsionStep S) : Nat → Option (Vector2 S) → S → Except Failure (Vector2 S)
  | 0, _, _ =>
      precisionLost "bounded projection rounding could not preserve speed and propulsion magnitude"
  | steps + 1, given, projectionScale => do
      let target ← throughEngine (match given with
        | some target => .ok target
        | none => step.requestedEndpoint.scale projectionScale)
      let difference ← throughEngine (target.subtract step.velocity)
      let projected ← throughEngine (difference.divide fixedDeltaSeconds)
      let found ← step.scaleAcceleration projected (maximumLocomotionRoundingStepCount + 1)
        (step.accelerationScale projected)
      match found with
      | some candidate => return candidate
      | none => step.scaleProjection steps none (Scalar.nextTowardZero projectionScale)

/-- The radial projection of an endpoint beyond the bound. -/
def project (step : PropulsionStep S) : Except Failure (Vector2 S) := do
  let projectionScale :=
    Scalar.sqrt step.boundSquared / Scalar.sqrt (step.requestedEndpoint.dot step.requestedEndpoint)
  let firstTarget ← throughEngine (step.requestedEndpoint.scale projectionScale)
  if firstTarget = step.velocity then return step.zero
  else step.scaleProjection (maximumLocomotionRoundingStepCount + 1) (some firstTarget) projectionScale

end PropulsionStep

def limitNormalPropulsion (velocity requestedAcceleration : Vector2 S) (normalTopSpeed : S) :
    Except Failure (Vector2 S) := do
  let tuning ← throughEngine
    (MovementTuning.create 0 normalTopSpeed MovementTuning.defaultChargeSpeedFraction 0 0)
  let ceiling := tuning.normalTopSpeed
  let requestedEndpoint ← throughEngine (integrateAcceleratedVelocity velocity requestedAcceleration)
  let boundSquared := max (ceiling * ceiling) (velocity.dot velocity)
  if requestedEndpoint.dot requestedEndpoint ≤ boundSquared then return requestedAcceleration
  else do
    let zero ← throughEngine (Vector2.create 0 0)
    PropulsionStep.project
      ⟨velocity, requestedEndpoint, zero, requestedAcceleration.dot requestedAcceleration, boundSquared⟩

/-- `normalized_thrust_intent`. -/
def normalizedThrustIntent (direction : Vector2 S) : Validated (Vector2 S) :=
  let magnitude := Scalar.sqrt (direction.x * direction.x + direction.y * direction.y)
  let scale := if magnitude ≤ 1 then 1 else 1 / magnitude
  Vector2.create (direction.x * scale) (direction.y * scale)

def thrustAccelerationFromIntent (intent : Vector2 S) (acceleration : S) : Validated (Vector2 S) :=
  Vector2.create (intent.x * acceleration) (intent.y * acceleration)

/-- The acceleration `thrust_steering` stores for a held intent. -/
def propelledAcceleration (velocity intent : Vector2 S) (tuning : MovementTuning S) : Except Failure (Vector2 S) := do
  let requested ← throughEngine (thrustAccelerationFromIntent intent tuning.acceleration)
  limitNormalPropulsion velocity requested tuning.normalTopSpeed

end BlobRoyale.Gameplay
