import BlobRoyale.Motion.SweptGeometry

/-!
# Pair collision

The two impulse equations over a certified contact, the equal-mass exchange and the general one, and the reflection
from a static body.
-/

namespace BlobRoyale.Simulation

variable {S : Type} [Scalar S]

namespace Vector2

variable {x y : S} {vector : Vector2 S} {operation : String}

theorem createForOperation_eq_ok_iff : createForOperation x y operation = .ok vector ↔ vector.x = x ∧ vector.y = y := by
  refine ⟨createForOperation_eq_ok, ?_⟩
  rintro ⟨rfl, rfl⟩
  obtain ⟨created, creates⟩ := createForOperation_of_valid vector.x_valid vector.y_valid operation
  obtain ⟨sameX, sameY⟩ := createForOperation_eq_ok creates
  rw [creates]
  cases created
  cases vector
  cases sameX
  cases sameY
  rfl

/-- `operator-`. -/
def negate (vector : Vector2 S) : Validated (Vector2 S) := createForOperation (-vector.x) (-vector.y) "vector2.negate"

end Vector2

namespace PlayerPairContact

/-- The same certificate in the other orientation. -/
def reversed (contact : PlayerPairContact S) : Validated (PlayerPairContact S) := do
  let normal ← contact.normal.negate
  return { contact with normal := normal }

end PlayerPairContact

namespace PairContactObservation

def reversed (observation : PairContactObservation S) : Validated (PairContactObservation S) := do
  let touch ← observation.touch.reversed
  let impact ← observation.impact.mapM PlayerPairContact.reversed
  return ⟨touch, impact, observation.secondEffectEligible, observation.firstEffectEligible⟩

end PairContactObservation

/-- `body_has_baseline_physics`. -/
def bodyHasBaselinePhysics (body : PhysicsBody S) : Bool :=
  body.mass = PhysicsBody.defaultMass && body.restitution = PhysicsBody.defaultRestitution

structure PlayerPairCollisionResult (S : Type) [Scalar S] where
  contact : PlayerPairContact S
  impulseApplied : Bool
  firstVelocity : Vector2 S
  secondVelocity : Vector2 S
  deriving DecidableEq

def combinedRestitution (firstRestitution secondRestitution : S) : S := min firstRestitution secondRestitution

def resolvesNothing (contact : PlayerPairContact S) : Bool :=
  !contact.isContact || greaterThanOrApproximatelyEqual contact.relativeNormalSpeed 0 velocityTolerance

def resolvePlayerPairCollision (firstBody secondBody : PhysicsBody S) (contact : PlayerPairContact S) :
    Validated (PlayerPairCollisionResult S) :=
  if resolvesNothing contact then .ok ⟨contact, false, firstBody.velocity, secondBody.velocity⟩
  else do
    let firstNormalSpeed ← requireFiniteResult
      (firstBody.velocity.x * contact.normal.x + firstBody.velocity.y * contact.normal.y)
      "physics.resolve_player_pair_collision.first_normal_speed"
    let secondNormalSpeed ← requireFiniteResult
      (secondBody.velocity.x * contact.normal.x + secondBody.velocity.y * contact.normal.y)
      "physics.resolve_player_pair_collision.second_normal_speed"
    let firstNormalDelta ← requireFiniteResult (secondNormalSpeed - firstNormalSpeed)
      "physics.resolve_player_pair_collision.first_normal_delta"
    let secondNormalDelta ← requireFiniteResult (firstNormalSpeed - secondNormalSpeed)
      "physics.resolve_player_pair_collision.second_normal_delta"
    let firstX ← requireFiniteResult (firstBody.velocity.x + firstNormalDelta * contact.normal.x)
      "physics.resolve_player_pair_collision.first_velocity.x"
    let firstY ← requireFiniteResult (firstBody.velocity.y + firstNormalDelta * contact.normal.y)
      "physics.resolve_player_pair_collision.first_velocity.y"
    let firstVelocity ← Vector2.create firstX firstY
    let secondX ← requireFiniteResult (secondBody.velocity.x + secondNormalDelta * contact.normal.x)
      "physics.resolve_player_pair_collision.second_velocity.x"
    let secondY ← requireFiniteResult (secondBody.velocity.y + secondNormalDelta * contact.normal.y)
      "physics.resolve_player_pair_collision.second_velocity.y"
    let secondVelocity ← Vector2.create secondX secondY
    return ⟨contact, true, firstVelocity, secondVelocity⟩

def resolveGeneralPairCollision (firstBody secondBody : PhysicsBody S) (contact : PlayerPairContact S) :
    Validated (PlayerPairCollisionResult S) :=
  if resolvesNothing contact then .ok ⟨contact, false, firstBody.velocity, secondBody.velocity⟩
  else do
    let inverseFirstMass ← requireFiniteResult (1 / firstBody.mass)
      "physics.resolve_general_pair_collision.inverse_first_mass"
    let inverseSecondMass ← requireFiniteResult (1 / secondBody.mass)
      "physics.resolve_general_pair_collision.inverse_second_mass"
    let inverseMassSum ← requireFiniteResult (inverseFirstMass + inverseSecondMass)
      "physics.resolve_general_pair_collision.inverse_mass_sum"
    let restitution := combinedRestitution firstBody.restitution secondBody.restitution
    let impulseNumerator ← requireFiniteResult (-((1 + restitution) * contact.relativeNormalSpeed))
      "physics.resolve_general_pair_collision.impulse_numerator"
    let impulseScalar ← requireFiniteResult (impulseNumerator / inverseMassSum)
      "physics.resolve_general_pair_collision.impulse_scalar"
    let firstNormalDelta ← requireFiniteResult (impulseScalar / firstBody.mass)
      "physics.resolve_general_pair_collision.first_normal_delta"
    let secondNormalDelta ← requireFiniteResult (impulseScalar / secondBody.mass)
      "physics.resolve_general_pair_collision.second_normal_delta"
    let firstX ← requireFiniteResult (firstBody.velocity.x - firstNormalDelta * contact.normal.x)
      "physics.resolve_general_pair_collision.first_velocity.x"
    let firstY ← requireFiniteResult (firstBody.velocity.y - firstNormalDelta * contact.normal.y)
      "physics.resolve_general_pair_collision.first_velocity.y"
    let firstVelocity ← Vector2.create firstX firstY
    let secondX ← requireFiniteResult (secondBody.velocity.x + secondNormalDelta * contact.normal.x)
      "physics.resolve_general_pair_collision.second_velocity.x"
    let secondY ← requireFiniteResult (secondBody.velocity.y + secondNormalDelta * contact.normal.y)
      "physics.resolve_general_pair_collision.second_velocity.y"
    let secondVelocity ← Vector2.create secondX secondY
    return ⟨contact, true, firstVelocity, secondVelocity⟩

def reflectStaticContactVelocity (velocity normal : Vector2 S) : Validated (Vector2 S) :=
  let normalSpeed := velocity.x * normal.x + velocity.y * normal.y
  Vector2.create (velocity.x - ((2 : Nat) : S) * normalSpeed * normal.x)
    (velocity.y - ((2 : Nat) : S) * normalSpeed * normal.y)

end BlobRoyale.Simulation
