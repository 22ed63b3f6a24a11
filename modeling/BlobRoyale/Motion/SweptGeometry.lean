import Mathlib.Data.Prod.Lex
import BlobRoyale.Simulation.GameWorld
import BlobRoyale.Simulation.Arena

/-!
# Motion events in order

Times within a tick, and the lexicographic chronology of motion events: time, then priority, then
the identity of what they happen to.
-/

namespace BlobRoyale.Simulation

variable {S : Type} [Scalar S]

/-- Zero and one are finite and ascend, as the endpoints of a tick have to. -/
class UnitInterval (S : Type) [Scalar S] : Prop where
  finite_zero : Scalar.isFinite (0 : S) = true
  finite_one : Scalar.isFinite (1 : S) = true
  zero_le_one : (0 : S) ≤ 1

namespace MotionTime

theorem value_injective : Function.Injective (MotionTime.value : MotionTime S → S) := by
  intro first second same
  cases first
  cases second
  cases same
  rfl

instance : LinearOrder (MotionTime S) := LinearOrder.lift' MotionTime.value value_injective

def create (value : S) : Validated (MotionTime S) :=
  if finite : Scalar.isFinite value = true then
    if within : 0 ≤ value ∧ value ≤ 1 then .ok ⟨value, finite, within⟩
    else reject .physicalScalarOutOfRange "motion_time" "motion time must lie in [0, 1]"
  else reject .physicalScalarNotFinite "motion_time" "motion time must be finite"

variable [UnitInterval S]

def start : MotionTime S :=
  ⟨0, UnitInterval.finite_zero, le_refl 0, UnitInterval.zero_le_one⟩

/-- `MotionTime::end`. -/
def finish : MotionTime S :=
  ⟨1, UnitInterval.finite_one, UnitInterval.zero_le_one, le_refl 1⟩

theorem le_finish (time : MotionTime S) : time ≤ finish := time.within.2

/-- `map_motion_time`: a local root mapped into its interval, endpoints kept exactly. -/
def mapped (location begin finish : MotionTime S) : Validated (MotionTime S) :=
  if finish < begin then
    reject .physicalScalarOutOfRange "motion_time.interval" "motion interval must be ordered"
  else if location = start then .ok begin
  else if location = MotionTime.finish then .ok finish
  else create (begin.value + (finish.value - begin.value) * location.value)

end MotionTime

inductive MotionEventPriority where
  | supportLoss
  | bodyContact
  | wallX
  | wallY
  | checkpoint
  deriving DecidableEq, Repr

namespace MotionEventPriority

def rank : MotionEventPriority → Nat
  | supportLoss => 0
  | bodyContact => 1
  | wallX => 2
  | wallY => 3
  | checkpoint => 4

theorem rank_injective : Function.Injective rank := by
  intro first second same
  cases first <;> cases second <;> first | rfl | cases same

instance : LinearOrder MotionEventPriority := LinearOrder.lift' rank rank_injective

end MotionEventPriority

structure MotionEventKey (S : Type) [Scalar S] where
  time : MotionTime S
  priority : MotionEventPriority
  firstEntity : EntityId
  secondIdentity : Nat
  deriving DecidableEq

instance [UnitInterval S] : Inhabited (MotionEventKey S) :=
  ⟨⟨.start, .supportLoss, Identity.first, 0⟩⟩

namespace MotionEventKey

def rank (key : MotionEventKey S) : MotionTime S ×ₗ MotionEventPriority ×ₗ EntityId ×ₗ Nat :=
  toLex (key.time, toLex (key.priority, toLex (key.firstEntity, key.secondIdentity)))

theorem rank_injective : Function.Injective (rank : MotionEventKey S → _) := by
  intro first second same
  cases first
  cases second
  cases same
  rfl

instance : LinearOrder (MotionEventKey S) := LinearOrder.lift' rank rank_injective

theorem time_le {first second : MotionEventKey S} (ordered : first ≤ second) :
    first.time ≤ second.time := by
  have ranked : first.rank ≤ second.rank := ordered
  rw [rank, rank, Prod.Lex.toLex_le_toLex] at ranked
  obtain earlier | ⟨same, -⟩ := ranked
  · exact le_of_lt earlier
  · exact le_of_eq same

def contact (time : MotionTime S) (pair : CandidatePair) : MotionEventKey S :=
  ⟨time, .bodyContact, pair.lowerId, pair.higherId.value⟩

def boundary (time : MotionTime S) (priority : MotionEventPriority) (entity : EntityId)
    (featureIndex : Nat) : Validated (MotionEventKey S) :=
  match priority with
  | .bodyContact =>
      reject .physicalScalarOutOfRange "motion_event.priority"
        "boundary requires a declared non-contact priority"
  | .supportLoss | .wallX | .wallY | .checkpoint => .ok ⟨time, priority, entity, featureIndex⟩

theorem boundary_eq_ok {time : MotionTime S} {priority : MotionEventPriority} {entity : EntityId}
    {featureIndex : Nat} {key : MotionEventKey S}
    (created : boundary time priority entity featureIndex = .ok key) :
    key = ⟨time, priority, entity, featureIndex⟩ ∧ priority ≠ .bodyContact := by
  cases priority with
  | bodyContact => cases created
  | supportLoss | wallX | wallY | checkpoint =>
    cases created
    constructor
    · rfl
    · intro impossible
      cases impossible

def Involves (key : MotionEventKey S) (entity : EntityId) : Prop :=
  key.firstEntity = entity ∨ (key.priority = .bodyContact ∧ key.secondIdentity = entity.value)

end MotionEventKey

instance : UnitInterval ℚ where
  finite_zero := rfl
  finite_one := rfl
  zero_le_one := by decide

end BlobRoyale.Simulation

/-!
# Swept geometry

Roots of a moving point against a line, what the circle query answers about a moving point and a
disc, and the contact of two bodies at one time. The circle query itself is a parameter of the solver.
-/

namespace BlobRoyale.Simulation

variable {S : Type} [Scalar S]

inductive CircleInitialRelation where
  | inside
  | onBoundary
  | outside
  deriving DecidableEq, Repr

inductive CircleLineTopology where
  | stationary
  | miss
  | tangent
  | secant
  deriving DecidableEq, Repr

inductive CircleRadialMotion where
  | approaching
  | orthogonal
  | receding
  deriving DecidableEq, Repr

/-- `roots` ascend and are at most two. -/
structure CircleSweepResult (S : Type) [Scalar S] where
  roots : List (MotionTime S)
  initialRelation : CircleInitialRelation
  topology : CircleLineTopology
  initialRadialMotion : CircleRadialMotion
  initialCentersCoincident : Bool

/-- `swept_circle_boundary_query` of a start, a displacement, a center and a boundary radius. -/
abbrev CircleSweepQuery (S : Type) [Scalar S] :=
  Vector2 S → Vector2 S → Vector2 S → S → Validated (CircleSweepResult S)

section Line

def requireFinite (value : S) (context : String) : Validated Unit :=
  if Scalar.isFinite value = true then .ok ()
  else reject .physicalScalarNotFinite context "scalar must be finite"

variable [UnitInterval S]

/-- One accumulated root: kept when it lies in the unit interval. -/
def acceptRoot (value : S) : Validated (List (MotionTime S)) :=
  if finite : Scalar.isFinite value = true then
    if within : 0 ≤ value ∧ value ≤ 1 then .ok [⟨value, finite, within⟩] else .ok []
  else reject .physicalScalarNotFinite "swept_geometry.root" "calculated root must be finite"

def sweptLineBoundaryRoots (start displacement boundary : S) : Validated (List (MotionTime S)) := do
  requireFinite start "swept_geometry.line.start"
  requireFinite displacement "swept_geometry.line.displacement"
  requireFinite boundary "swept_geometry.line.boundary"
  let offset := boundary - start
  requireFinite offset "swept_geometry.line.offset"
  if displacement = 0 then
    return if offset = 0 then [.start, .finish] else []
  else if (0 < displacement ∧ (offset < 0 ∨ displacement < offset)) ∨
      (displacement < 0 ∧ (0 < offset ∨ offset < displacement)) then
    return []
  else acceptRoot (offset / displacement)

end Line

/-- `geometric_velocity`: a static body moves nowhere. -/
def geometricVelocity (body : PhysicsBody S) : Validated (Vector2 S) :=
  if body.isStatic then Vector2.create 0 0 else .ok body.velocity

def relativeSpeed (first second : PhysicsBody S) (normal : Vector2 S) : Validated S := do
  let firstVelocity ← geometricVelocity first
  let secondVelocity ← geometricVelocity second
  return (secondVelocity.x - firstVelocity.x) * normal.x + (secondVelocity.y - firstVelocity.y) * normal.y

def closing (speed : S) : Bool := !greaterThanOrApproximatelyEqual speed 0 velocityTolerance

def pairContactDistance (first second : PhysicsBody S) (configuredRadius : S) : Validated S := do
  let radius ← requirePositivePhysicalScalar configuredRadius
    "physics.pair_contact_distance.configured_radius"
  let firstRadius ← requirePositivePhysicalScalar (effectiveRadius first radius)
    "physics.pair_contact_distance.first_radius"
  let secondRadius ← requirePositivePhysicalScalar (effectiveRadius second radius)
    "physics.pair_contact_distance.second_radius"
  requireFiniteResult (firstRadius + secondRadius) "physics.pair_contact_distance.contact_distance"

structure ContactGeometry (S : Type) [Scalar S] where
  normal : Vector2 S
  distance : S

/-- Distinct centers give the normal; coincident ones take it from the relative velocity. -/
def contactGeometry (first second : PhysicsBody S) : Validated (ContactGeometry S) := do
  let dx := second.position.x - first.position.x
  let dy := second.position.y - first.position.y
  let distance := Scalar.sqrt (dx * dx + dy * dy)
  if dx ≠ 0 ∨ dy ≠ 0 then
    return ⟨← Vector2.create (dx / distance) (dy / distance), distance⟩
  else do
    let firstVelocity ← geometricVelocity first
    let secondVelocity ← geometricVelocity second
    let vx := firstVelocity.x - secondVelocity.x
    let vy := firstVelocity.y - secondVelocity.y
    let magnitude := Scalar.sqrt (vx * vx + vy * vy)
    if approximatelyEqual magnitude 0 velocityTolerance then
      return ⟨← Vector2.create 1 0, distance⟩
    else return ⟨← Vector2.create (vx / magnitude) (vy / magnitude), distance⟩

/-- A contact certified by a swept query, never re-detected. -/
structure PlayerPairContact (S : Type) [Scalar S] where
  isContact : Bool
  normal : Vector2 S
  centerDistance : S
  relativeNormalSpeed : S
  deriving DecidableEq

/-- `MotionContactAccess::create`. -/
def PlayerPairContact.certified (normal : Vector2 S) (distance relativeSpeed : S) :
    Validated (PlayerPairContact S) :=
  if Scalar.isFinite distance = true ∧ 0 ≤ distance ∧ Scalar.isFinite relativeSpeed = true ∧
      approximatelyEqual (normal.x * normal.x + normal.y * normal.y) 1 scalarTolerance = true then
    .ok ⟨true, normal, distance, relativeSpeed⟩
  else
    reject .continuousMotionPrecisionLost "continuous_motion"
      "a swept contact certificate is not finite and normalized"

/-- The uses of one certificate; each side's effects have their own eligibility. -/
structure PairContactObservation (S : Type) [Scalar S] where
  touch : PlayerPairContact S
  impact : Option (PlayerPairContact S)
  firstEffectEligible : Bool
  secondEffectEligible : Bool

end BlobRoyale.Simulation
