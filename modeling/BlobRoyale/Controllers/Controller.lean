import BlobRoyale.Simulation.AbilityWindows
import BlobRoyale.Simulation.GameWorld

/-!
# Controllers

What a controller may see, the commands it may author from it, and when it may ask for a body again.
-/

namespace BlobRoyale.Controllers

open Simulation

inductive ControllersValidationCode where
  | observationControllerMismatch
  | tacticalModeUnsupported
  | tacticalCandidateLimitExceeded
  | tacticalObjectiveInvalid
  | tacticalRunningTickInvalid
  deriving DecidableEq, Repr

structure ControllersValidationError where
  code : ControllersValidationCode
  context : String
  detail : String
  deriving DecidableEq, Repr

/-- What ends a decision without commands: an error of this library, or one of the simulation's validators. -/
inductive DecisionError where
  | controllers (error : ControllersValidationError)
  | simulation (error : SimulationValidationError)
  deriving DecidableEq, Repr

abbrev Decided (α : Type) := Except DecisionError α

def decided {α : Type} (validated : Validated α) : Decided α := validated.mapError .simulation

variable {S Terrain : Type} [Scalar S]

/-- One published world as a controller sees it. -/
structure Observation (S Terrain : Type) [Scalar S] where
  snapshot : WorldSnapshot S
  terrain : Terrain
  controller : ControllerId

namespace Observation

variable (observation : Observation S Terrain)

def tickSequence : TickSequence := observation.snapshot.tickSequence

/-- `entity_driven_by`: the body this controller drives. -/
def entity : Option EntityId :=
  let controllables : ComponentStore (Controllable S) := observation.snapshot.stores .controllable
  (controllables.entries.find? fun entry => entry.2.controllerId = observation.controller).map Prod.fst

/-- `find_observed_component`. -/
def find (kind : ComponentKind) (entity : EntityId) : Option (kind.Value S) :=
  (observation.snapshot.stores kind).find entity

def findBody (entity : EntityId) : Option (PhysicsBody S) := observation.find .physicsBody entity
def findControllable (entity : EntityId) : Option (Controllable S) := observation.find .controllable entity
def findStun (entity : EntityId) : Option Stun := observation.find .stun entity
def findShield (entity : EntityId) : Option Shield := observation.find .shield entity
def findCharge (entity : EntityId) : Option Charge := observation.find .charge entity

def stunned (entity : EntityId) : Bool :=
  (observation.findStun entity).any fun stun => stun.window.contains observation.tickSequence

/-- `commandable_controllable`. -/
def commandable (controller : ControllerId) : Option (EntityId × Controllable S) :=
  if observation.controller ≠ controller then none
  else do
    let self ← observation.entity
    let body ← observation.findBody self
    if body.isStatic || observation.stunned self then none
    else
      let controllable ← observation.findControllable self
      if controllable.controllerId = controller then some (self, controllable) else none

def requestThrust (controller : ControllerId) (direction : Vector2 S) : List (Command S) :=
  match observation.commandable controller with
  | none => []
  | some (self, controllable) => [.thrust ⟨self, direction, controllable.inputGeneration, false⟩]

def requestShield (controller : ControllerId) : List (Command S) :=
  match observation.commandable controller with
  | none => []
  | some (self, controllable) => [.shield ⟨self, controllable.inputGeneration⟩]

def requestCharge (controller : ControllerId) (direction : Vector2 S) : List (Command S) :=
  match observation.commandable controller with
  | none => []
  | some (self, controllable) => [.charge ⟨self, direction, controllable.inputGeneration⟩]

end Observation

def spawnRequestRetryTicks : Nat := simulationTicksPerSecond / 10

/-- `request_body`: the request, and the tick of the last one made. -/
def requestBody (controller : ControllerId) (lastSpawnRequestTick : Option TickSequence)
    (observation : Observation S Terrain) : List (Command S) × Option TickSequence :=
  if lastSpawnRequestTick.any fun last => observation.tickSequence.value < last.value + spawnRequestRetryTicks then
    ([], lastSpawnRequestTick)
  else ([.spawn ⟨controller⟩], some observation.tickSequence)

/-- `ControllerTargetOffset`. -/
structure ControllerTargetOffset (S : Type) where
  x : S
  y : S

def controllerTargetOffset (origin target : Vector2 S) : ControllerTargetOffset S :=
  ⟨target.x - origin.x, target.y - origin.y⟩

def controllerSquaredMagnitude (offset : ControllerTargetOffset S) : S := offset.x * offset.x + offset.y * offset.y

def controllerMagnitude (offset : ControllerTargetOffset S) : S := Scalar.sqrt (controllerSquaredMagnitude offset)

def clampControllerDirectionComponent (component : S) : S :=
  if maximumThrustDirectionComponentMagnitude < component then maximumThrustDirectionComponentMagnitude
  else if component < -maximumThrustDirectionComponentMagnitude then -maximumThrustDirectionComponentMagnitude
  else component

end BlobRoyale.Controllers
