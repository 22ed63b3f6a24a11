import BlobRoyale.Simulation.SystemPipeline

/-!
# The motion kernel's boundary

What a tick prepares for the continuous motion solver and how it commits the result: resource
budgets, the contact effect policies of the bodies, accelerated and dragged velocities. The solver
itself, with the mode's contact rules and motion triggers, is a parameter.
-/

namespace BlobRoyale.Simulation

structure MotionLimits where
  bodies : Nat
  candidatePairs : Nat
  pairExaminations : Nat
  rootQueries : Nat
  events : Nat
  triggerQueries : Nat
  paths : Nat
  effects : Nat
  triggerDeclarations : Nat
  triggerCursor : Nat
  deriving DecidableEq

namespace MotionLimits

def ceilings : MotionLimits where
  bodies := 256
  candidatePairs := 256 * (256 - 1) / 2
  pairExaminations := 1000000
  rootQueries := 250000
  events := 2048
  triggerQueries := 250000
  paths := 256 + 2 * 2048
  effects := 8192
  triggerDeclarations := 512
  triggerCursor := maximumEntityCount

/-- The limits a ceiling applies to, in declaration order. -/
def counts (limits : MotionLimits) : List Nat :=
  [limits.bodies, limits.candidatePairs, limits.pairExaminations, limits.rootQueries, limits.events,
    limits.triggerQueries, limits.paths, limits.effects, limits.triggerDeclarations]

/-- `validate_motion_limits`. -/
def validate (limits : MotionLimits) : Validated Unit :=
  if (limits.counts.zip ceilings.counts).all fun pair => pair.1 ≤ pair.2 then
    if limits.triggerCursor ≤ ceilings.triggerCursor then .ok ()
    else
      reject .continuousMotionInvalidInput "continuous_motion"
        "requested trigger cursor ceiling exceeds the declared prototype envelope"
  else
    reject .continuousMotionInvalidInput "continuous_motion"
      "requested motion limits exceed the declared prototype envelope"

end MotionLimits

def requireMotionBudget (count maximum : Nat) (operation : String) : Validated Unit :=
  if maximum < count then reject .continuousMotionBudgetExceeded "continuous_motion" operation
  else .ok ()

variable {S : Type} [Scalar S]

section ContactEffects

/-- `effective_contact_effect_policy` of an entity with an admission. -/
def admittedContactEffectPolicy (world : GameWorld S) (entity : EntityId)
    (admission : ContactEffectAdmission) : Validated ContactEffectPolicy :=
  if (world.bodies.find entity).isNone then
    reject .continuousMotionInvalidInput "contact_effect_admission"
      ("contact effect policy requires a PhysicsBody for EntityId " ++ toString entity.value)
  else
    match admission.policy with
    | .anyTouch => .ok .anyTouch
    | .closingImpact =>
        reject .continuousMotionInvalidInput "contact_effect_admission"
          "closing_impact is represented by absence, never a stored component"

def projectContactEffectPolicies (world : GameWorld S) :
    Validated (List (EntityId × ContactEffectPolicy)) :=
  (world.stores .contactEffectAdmission).entries.mapM fun entry => do
    let policy ← admittedContactEffectPolicy world entry.1 entry.2
    return (entry.1, policy)

end ContactEffects

section Velocity

def integrateAcceleratedVelocity (velocity storedAcceleration : Vector2 S) : Validated (Vector2 S) := do
  let acceleratedX ← requireFiniteResult (velocity.x + storedAcceleration.x * fixedDeltaSeconds)
    "physics.integrate_accelerated_velocity.x"
  let acceleratedY ← requireFiniteResult (velocity.y + storedAcceleration.y * fixedDeltaSeconds)
    "physics.integrate_accelerated_velocity.y"
  Vector2.create acceleratedX acceleratedY

def applyVelocityDrag (acceleratedVelocity : Vector2 S) (dragPerSecond : S) : Validated (Vector2 S) :=
  if Scalar.isFinite dragPerSecond = true ∧ 0 ≤ dragPerSecond then do
    let dragFactor ← requireFiniteResult (max 0 (1 - dragPerSecond * fixedDeltaSeconds))
      "physics.apply_velocity_drag.factor"
    acceleratedVelocity.scale dragFactor
  else
    reject .physicalScalarOutOfRange "physics.apply_velocity_drag.drag_per_second"
      "drag must be finite and greater than or equal to zero"

def accelerateBody (dragPerSecond : S) (body : PhysicsBody S) : Validated (PhysicsBody S) :=
  if body.isStatic then .ok body
  else do
    let accelerated ← integrateAcceleratedVelocity body.velocity body.acceleration
    let dragged ← applyVelocityDrag accelerated (dragPerSecond * body.dragScale)
    return body.withVelocity dragged

def applyStoredAccelerationAndDrag (world : GameWorld S) (dragPerSecond : S) :
    Validated (List (EntityId × PhysicsBody S)) :=
  world.bodies.entries.mapM fun entry => do
    let body ← accelerateBody dragPerSecond entry.2
    return (entry.1, body)

end Velocity

/-- The part of `ContinuousMotionResult` a tick commits. -/
structure ContinuousMotionResult (S : Type) [Scalar S] where
  bodies : List (EntityId × PhysicsBody S)
  effects : List (WorldEvent S)

/-- Binding the mode's motion triggers gives the solver of one tick. -/
structure MotionKernel (S : Type) [Scalar S] where
  bind : GameWorld S → TickContext S → MotionLimits →
    Validated (List (EntityId × PhysicsBody S) → List (EntityId × ContactEffectPolicy) →
      Validated (ContinuousMotionResult S))

namespace GameWorld

def applyMotionResult (world : GameWorld S) (result : ContinuousMotionResult S) :
    Validated (GameWorld S) := do
  let replacement ← ComponentStore.create result.bodies
  let emitted ← result.effects.foldlM emit world
  return emitted.withBodies replacement

theorem emit_eq_ok {world next : GameWorld S} {event : WorldEvent S}
    (emits : world.emit event = .ok next) : next = { world with events := world.events ++ [event] } := by
  unfold emit at emits
  split at emits
  · exact (Except.ok.inj emits).symm
  · cases emits

theorem applyMotionResult_eq_ok {world next : GameWorld S} {result : ContinuousMotionResult S}
    (applied : world.applyMotionResult result = .ok next) :
    ∃ replacement, ComponentStore.create result.bodies = .ok replacement ∧
      next = { world with events := world.events ++ result.effects }.withBodies replacement := by
  obtain ⟨replacement, replaced, rest⟩ := bind_eq_ok.mp applied
  obtain ⟨emitted, emits, committed⟩ := bind_eq_ok.mp rest
  cases committed
  have events : ∀ (effects : List (WorldEvent S)) (before after : GameWorld S),
      effects.foldlM emit before = .ok after →
        after = { before with events := before.events ++ effects } := by
    intro effects
    induction effects with
    | nil =>
      intro before after folded
      rw [List.append_nil]
      exact (Except.ok.inj folded).symm
    | cons effect rest ih =>
      intro before after folded
      rw [List.foldlM_cons] at folded
      obtain ⟨middle, first, folded⟩ := bind_eq_ok.mp folded
      rw [ih middle after folded, emit_eq_ok first, List.append_assoc, List.singleton_append]
  exact ⟨replacement, replaced, congrArg (withBodies · replacement) (events _ _ _ emits)⟩

end GameWorld

end BlobRoyale.Simulation
