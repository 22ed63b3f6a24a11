import BlobRoyale.Simulation.Arena
import BlobRoyale.Simulation.RandomDraws
import BlobRoyale.Simulation.SystemPipeline

/-!
# Hazard crossings

The geometry of one crossing: a hazard starts clear of the arena edge it enters through, aimed from a
point drawn on that edge at a point drawn on the opposite one, and lives for the ticks its travel
distance takes at its speed.
-/

namespace BlobRoyale.Gameplay

open Simulation

variable {S : Type} [RoundedScalar S]

def hazardEntryEdgeCount : UInt64 := 4

def hazardEntryClearanceRadii : S := ((2 : Nat) : S)

structure HazardCrossing (S : Type) [Scalar S] where
  position : Vector2 S
  velocity : Vector2 S
  travelDistance : S

/-- One point on one arena edge: 0 top, 1 right, 2 bottom, 3 left. -/
def pointOnEdge (edge : UInt64) (along : S) (bounds : ArenaBounds S) : Validated (Vector2 S) :=
  match (edge % hazardEntryEdgeCount).toNat with
  | 0 => Vector2.create (along * bounds.width) 0
  | 1 => Vector2.create bounds.width (along * bounds.height)
  | 2 => Vector2.create (along * bounds.width) bounds.height
  | _ => Vector2.create 0 (along * bounds.height)

def outwardNormal (edge : UInt64) : Validated (Vector2 S) :=
  match (edge % hazardEntryEdgeCount).toNat with
  | 0 => Vector2.create 0 (-1)
  | 1 => Vector2.create 1 0
  | 2 => Vector2.create 0 1
  | _ => Vector2.create (-1) 0

def travelDistanceOf (crossingLength radius : S) : S :=
  crossingLength + ((2 : Nat) : S) * (hazardEntryClearanceRadii * radius)

/-- The crossing from one drawn point to the other. -/
def crossingBetween (edge : UInt64) (entryAlong exitAlong : S) (bounds : ArenaBounds S) (radius speed : S) :
    Validated (HazardCrossing S) := do
  let entry ← pointOnEdge edge entryAlong bounds
  let exit ← pointOnEdge (edge + 2) exitAlong bounds
  let deltaX := exit.x - entry.x
  let deltaY := exit.y - entry.y
  let length := Scalar.sqrt (deltaX * deltaX + deltaY * deltaY)
  let direction ← Vector2.create (deltaX / length) (deltaY / length)
  let normal ← outwardNormal edge
  let clearance := hazardEntryClearanceRadii * radius
  let position ← Vector2.create (entry.x + normal.x * clearance) (entry.y + normal.y * clearance)
  let velocity ← Vector2.create (direction.x * speed) (direction.y * speed)
  return ⟨position, velocity, travelDistanceOf length radius⟩

/-- What one crossing draws: the entry edge and a place along it and along the opposite one. -/
structure CrossingDraw (S : Type) where
  edge : UInt64
  entryAlong : S
  exitAlong : S

def drawCrossing (random : DeterministicRandom) : Validated (CrossingDraw S × DeterministicRandom) := do
  let (edge, random) ← random.nextBelow hazardEntryEdgeCount
  let (entryAlong, random) := random.nextUnitInterval
  let (exitAlong, random) := random.nextUnitInterval
  return (⟨edge, entryAlong, exitAlong⟩, random)

def drawHazardCrossing (random : DeterministicRandom) (bounds : ArenaBounds S) (radius speed : S) :
    Validated (HazardCrossing S × DeterministicRandom) := do
  let (drawn, random) ← drawCrossing random
  let crossing ← crossingBetween drawn.edge drawn.entryAlong drawn.exitAlong bounds radius speed
  return (crossing, random)

/-- One configured kind of hazard; `create` admits whole intervals of at least one tick. -/
structure HazardArchetype (S : Type) where
  kindName : String
  radius : S
  mass : S
  restitution : S
  speed : S
  spawnIntervalTicks : Nat
  lethalOnContact : Bool
  contactEffectPolicy : ContactEffectPolicy
  speedVariationFraction : S
  intervalPositive : 0 < spawnIntervalTicks

def drawHazardSpeed (random : DeterministicRandom) (archetype : HazardArchetype S) : S × DeterministicRandom :=
  let (sample, random) : S × DeterministicRandom := random.nextUnitInterval
  (archetype.speed * (1 + archetype.speedVariationFraction * (((2 : Nat) : S) * sample - 1)), random)

def hazardLifetimeTicks (travelDistance speed secondsPerTick : S) : Nat :=
  let ticks := RoundedScalar.ceil (travelDistance / speed / secondsPerTick)
  if 1 ≤ ticks then
    if ((maximumProtocolSafeInteger : Nat) : S) ≤ ticks then maximumProtocolSafeInteger
    else RoundedScalar.toWhole ticks
  else 1

/-- The body of one crossing, and the changes the source makes to it. -/
def crossingBody (archetype : HazardArchetype S) (crossing : HazardCrossing S) : Validated (PhysicsBody S) := do
  let still ← Vector2.create 0 0
  let body ← PhysicsBody.validated crossing.position crossing.velocity still archetype.radius archetype.mass
    PhysicsBody.defaultRestitution PhysicsBody.defaultDragScale PhysicsBody.defaultCollisionLayer
    PhysicsBody.defaultCollisionMask false .fold .floating
  let body ← PhysicsBody.validated body.position body.velocity body.acceleration body.radius body.mass
    archetype.restitution body.dragScale body.collisionLayer body.collisionMask body.isStatic body.boundsBehavior
    body.groundAttachment
  PhysicsBody.validated body.position body.velocity body.acceleration body.radius body.mass body.restitution 0
    body.collisionLayer body.collisionMask body.isStatic .cross body.groundAttachment

/-- `assign_contact_effect_policy` without an instance's own policy. -/
def assignContactEffectPolicy (world : GameWorld S) (entity : EntityId) (policy : ContactEffectPolicy) :
    Validated (GameWorld S) :=
  if policy = .closingImpact then
    .ok (world.withStore .contactEffectAdmission ((world.stores .contactEffectAdmission).erase entity))
  else
    match (world.stores .contactEffectAdmission).insertOrAssign entity ⟨policy⟩ with
    | .error refusal => .error refusal
    | .ok admissions => .ok (world.withStore .contactEffectAdmission admissions)

def markLethal (world : GameWorld S) (entity : EntityId) (lethal : Bool) : Validated (GameWorld S) :=
  if lethal then
    match (world.stores .lethalOnContact).insertOrAssign entity ⟨⟩ with
    | .error refusal => .error refusal
    | .ok marked => .ok (world.withStore .lethalOnContact marked)
  else .ok world

def createCrossingHazard (world : GameWorld S) (bounds : ArenaBounds S) (archetype : HazardArchetype S)
    (secondsPerTick : S) : Validated (EntityId × GameWorld S) := do
  let (speed, random) := drawHazardSpeed (world.random.get .hazards) archetype
  let (crossing, random) ← drawHazardCrossing random bounds archetype.radius speed
  let body ← crossingBody archetype crossing
  let (entity, world) ← { world with random := world.random.set .hazards random }.createEntity
  let bodies ← world.bodies.insertOrAssign entity body
  let crossings ← (world.stores .crossingHazard).insertOrAssign entity ⟨⟩
  let lifetimes ← (world.stores .lifetime).insertOrAssign entity
    ⟨hazardLifetimeTicks crossing.travelDistance speed secondsPerTick⟩
  let world := ((world.withBodies bodies).withStore .crossingHazard crossings).withStore .lifetime lifetimes
  let world ← markLethal world entity archetype.lethalOnContact
  let world ← assignContactEffectPolicy world entity archetype.contactEffectPolicy
  return (entity, world)

end BlobRoyale.Gameplay

/-!
# Hazard spawning

One birth trial per running tick: a sample chooses a class by the room's rates, another a kind of that
class by its authored weight.
-/

namespace BlobRoyale.Gameplay

open Simulation

def maximumActiveCrossingHazardCount : Nat := 64
def maximumMotionBodyCount : Nat := 256

/-- A value for each class of hazards. -/
structure ByClass (S : Type) where
  lethal : S
  nonlethal : S

def ByClass.get {S : Type} (values : ByClass S) (lethal : Bool) : S := if lethal then values.lethal else values.nonlethal

variable {S : Type} [RoundedScalar S]

namespace HazardArchetype

/-- `1.0 / spawn_interval_ticks`. -/
def weight (archetype : HazardArchetype S) : S := 1 / ((archetype.spawnIntervalTicks : Nat) : S)

end HazardArchetype

namespace HazardSpawnSystem

def addWeight (weights : ByClass S) (archetype : HazardArchetype S) : ByClass S :=
  if archetype.lethalOnContact then { weights with lethal := weights.lethal + archetype.weight }
  else { weights with nonlethal := weights.nonlethal + archetype.weight }

def classWeights (archetypes : List (HazardArchetype S)) : ByClass S := archetypes.foldl addWeight ⟨0, 0⟩

/-- The rates of the tuning, zero for a class without weight. -/
def classRates (weights : ByClass S) (tuning : MovementTuning S) : ByClass S where
  lethal := if weights.lethal = 0 then 0 else tuning.lethalSpawnRatePerSecond
  nonlethal := if weights.nonlethal = 0 then 0 else tuning.nonlethalSpawnRatePerSecond

/-- The kinds' loop from an index on: the last kind of the class seen, as an index, is the selected one. -/
def selectKind (lethal : Bool) (kindSample cumulativeWeight : S) (selected : Option Nat) (index : Nat) :
    List (HazardArchetype S) → Option Nat
  | [] => selected
  | archetype :: rest =>
      if archetype.lethalOnContact ≠ lethal then selectKind lethal kindSample cumulativeWeight selected (index + 1) rest
      else
        let cumulativeWeight := cumulativeWeight + archetype.weight
        if kindSample < cumulativeWeight then some index
        else selectKind lethal kindSample cumulativeWeight (some index) (index + 1) rest

/-- The kind the two samples choose, none for no birth. -/
def chooseKind (archetypes : List (HazardArchetype S)) (tuning : MovementTuning S) (classSample kindSample : S) :
    Option Nat :=
  let weights := classWeights archetypes
  let rates := classRates weights tuning
  if (rates.lethal + rates.nonlethal) * fixedDeltaSeconds ≤ classSample then none
  else
    let lethal : Bool := classSample < rates.lethal * fixedDeltaSeconds
    selectKind lethal (kindSample * weights.get lethal) 0 none 0 archetypes

def gated (archetypes : List (HazardArchetype S)) (world : GameWorld S) : Bool :=
  let rates := classRates (classWeights archetypes) world.matchState.movement.current
  rates.lethal + rates.nonlethal = 0 || world.reservation.count = 0 ||
    maximumActiveCrossingHazardCount ≤ (world.stores .crossingHazard).entries.length ||
    maximumMotionBodyCount ≤ world.bodies.entries.length || maximumEntityCount ≤ world.entities.length

def withHazardStream (world : GameWorld S) (random : DeterministicRandom) : GameWorld S :=
  { world with random := world.random.set .hazards random }

/-- A selection that no kind answers is the null the source does not come to dereference. -/
def apply (archetypes : List (HazardArchetype S)) (world : GameWorld S) (context : TickContext S) :
    Validated (GameWorld S) :=
  if world.matchState.phase ≠ .running then .ok world
  else
    let weights := classWeights archetypes
    let rates := classRates weights world.matchState.movement.current
    if gated archetypes world then .ok world
    else
      let (classSample, random) : S × DeterministicRandom := (world.random.get .hazards).nextUnitInterval
      if (rates.lethal + rates.nonlethal) * fixedDeltaSeconds ≤ classSample then .ok (withHazardStream world random)
      else
        let lethal : Bool := classSample < rates.lethal * fixedDeltaSeconds
        let (sample, random) : S × DeterministicRandom := random.nextUnitInterval
        let world := withHazardStream world random
        match (selectKind lethal (sample * weights.get lethal) 0 none 0 archetypes).bind (archetypes[·]?) with
        | none => .ok world
        | some archetype => do
            let (_, world) ← createCrossingHazard world context.map.bounds archetype fixedDeltaSeconds
            return world

end HazardSpawnSystem

end BlobRoyale.Gameplay
