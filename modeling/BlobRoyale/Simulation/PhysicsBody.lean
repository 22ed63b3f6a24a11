import BlobRoyale.Simulation.Scalar

/-!
# Physics bodies

A body's mass, restitution and drag scale are validated when it is built, so a change of its
kinematics or radius keeps it valid and cannot be refused.
-/

namespace BlobRoyale.Simulation

/-- Where a body goes when it reaches the arena bounds. -/
inductive BoundsBehavior where
  | fold
  | cross
  deriving DecidableEq, Repr

inductive GroundAttachment where
  | floating
  | groundBound
  deriving DecidableEq, Repr

section Admission

variable {S : Type} [Scalar S]

def AdmittedMass (mass : S) (isStatic : Bool) : Prop :=
  Scalar.isFinite mass = true ∧ 0 ≤ mass ∧ (mass = 0 → isStatic = true) ∧
    mass ≤ maximumPhysicalComponentMagnitude

def AdmittedRestitution (restitution : S) : Prop :=
  Scalar.isFinite restitution = true ∧ 0 ≤ restitution ∧ restitution ≤ 1

def AdmittedDragScale (dragScale : S) : Prop :=
  Scalar.isFinite dragScale = true ∧ 0 ≤ dragScale

instance (mass : S) (isStatic : Bool) : Decidable (AdmittedMass mass isStatic) :=
  inferInstanceAs (Decidable (_ ∧ _ ∧ _ ∧ _))

instance (restitution : S) : Decidable (AdmittedRestitution restitution) :=
  inferInstanceAs (Decidable (_ ∧ _ ∧ _))

instance (dragScale : S) : Decidable (AdmittedDragScale dragScale) :=
  inferInstanceAs (Decidable (_ ∧ _))

end Admission

structure PhysicsBody (S : Type) [Scalar S] where
  position : Vector2 S
  velocity : Vector2 S
  acceleration : Vector2 S
  radius : S
  mass : S
  restitution : S
  dragScale : S
  collisionLayer : UInt32
  collisionMask : UInt32
  isStatic : Bool
  boundsBehavior : BoundsBehavior
  groundAttachment : GroundAttachment
  massAdmitted : AdmittedMass mass isStatic
  restitutionAdmitted : AdmittedRestitution restitution
  dragScaleAdmitted : AdmittedDragScale dragScale
  deriving DecidableEq

namespace PhysicsBody

variable {S : Type} [Scalar S]

def undeclaredRadius : S := 0
def defaultMass : S := 1
def defaultRestitution : S := 1
def defaultDragScale : S := 1
def defaultCollisionLayer : UInt32 := 1
def defaultCollisionMask : UInt32 := 1

/-- The one place a body is built; a finite check precedes each range check. -/
def validated (position velocity acceleration : Vector2 S) (radius mass restitution dragScale : S)
    (collisionLayer collisionMask : UInt32) (isStatic : Bool) (boundsBehavior : BoundsBehavior)
    (groundAttachment : GroundAttachment) : Validated (PhysicsBody S) :=
  if massAdmitted : AdmittedMass mass isStatic then
    if restitutionAdmitted : AdmittedRestitution restitution then
      if dragScaleAdmitted : AdmittedDragScale dragScale then
        .ok ⟨position, velocity, acceleration, radius, mass, restitution, dragScale, collisionLayer,
          collisionMask, isStatic, boundsBehavior, groundAttachment, massAdmitted,
          restitutionAdmitted, dragScaleAdmitted⟩
      else
        reject .physicsBodyDragScaleOutOfRange "physics_body.drag_scale"
          (if Scalar.isFinite dragScale = true then "drag scale must be greater than or equal to zero"
          else "drag scale must be finite")
    else
      reject .physicsBodyRestitutionOutOfRange "physics_body.restitution"
        (if Scalar.isFinite restitution = true then
          "restitution must lie in the closed interval from zero to one"
        else "restitution must be finite")
  else
    reject .physicsBodyMassOutOfRange "physics_body.mass"
      (if Scalar.isFinite mass = true then
        "mass must be within the accepted physical component limit, and greater than zero unless " ++
          "the body is static"
      else "mass must be finite")

/-- `create` with the default collision and material fields. -/
def create (position velocity acceleration : Vector2 S) : Validated (PhysicsBody S) :=
  validated position velocity acceleration undeclaredRadius defaultMass defaultRestitution
    defaultDragScale defaultCollisionLayer defaultCollisionMask false .fold .floating

/-- The kinematic changes, which no validation can refuse. -/
def withPosition (body : PhysicsBody S) (position : Vector2 S) : PhysicsBody S :=
  { body with position := position }

def withVelocity (body : PhysicsBody S) (velocity : Vector2 S) : PhysicsBody S :=
  { body with velocity := velocity }

def withAcceleration (body : PhysicsBody S) (acceleration : Vector2 S) : PhysicsBody S :=
  { body with acceleration := acceleration }

def withRadius (body : PhysicsBody S) (radius : S) : PhysicsBody S := { body with radius := radius }

def crossesBounds (body : PhysicsBody S) : Bool := body.boundsBehavior = .cross

end PhysicsBody

/-- `collision_masks_admit`, the admission of a candidate pair. -/
def collisionMasksAdmit {S : Type} [Scalar S] (first second : PhysicsBody S) : Bool :=
  first.collisionMask &&& second.collisionLayer ≠ 0 && second.collisionMask &&& first.collisionLayer ≠ 0

/-- A body's own radius, or the configured one it leaves undeclared. -/
def effectiveRadius {S : Type} [Scalar S] (body : PhysicsBody S) (configuredRadius : S) : S :=
  if body.radius = PhysicsBody.undeclaredRadius then configuredRadius else body.radius

end BlobRoyale.Simulation
