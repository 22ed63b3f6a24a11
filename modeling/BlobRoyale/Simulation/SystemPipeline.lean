import BlobRoyale.Simulation.SpatialGrid
import BlobRoyale.Library.Transition

/-!
# Systems and their stages

The view of a tick a system is given, and the declared systems, staged in a fixed stage order with
the declaration order kept within a stage.
-/

namespace BlobRoyale.Simulation

/-- The map as the engine reads it. Its terrain is a query that may refuse a radius. -/
structure MapDefinition (S : Type) [Scalar S] where
  name : String
  bounds : ArenaBounds S
  staticBodies : List (PhysicsBody S)
  spawnPoints : List (Vector2 S)
  /-- `terrain_supports_disc`. -/
  terrainSupportsDisc : Vector2 S → S → Validated Bool

structure TickContext (S : Type) [Scalar S] where
  tickSequence : TickSequence
  simulationConfig : SimulationConfig S
  map : MapDefinition S
  spatialIndex : SpatialGrid S

inductive SystemStage where
  | preKernel
  | postKernel
  | lifecycle
  deriving DecidableEq, Repr

/-- `kSystemStages`. -/
def SystemStage.all : List SystemStage := [preKernel, postKernel, lifecycle]

structure SimulationSystem (S : Type) [Scalar S] where
  name : String
  apply : GameWorld S → TickContext S → Validated (GameWorld S)

structure StagedSystem (S : Type) [Scalar S] where
  stage : SystemStage
  system : SimulationSystem S

structure SystemPipeline (S : Type) [Scalar S] where
  stagedSystems : List (StagedSystem S)

namespace SystemPipeline

variable {S : Type} [Scalar S]

def declaredPosition (declaredIndex : Nat) : String :=
  " (declared system " ++ toString declaredIndex ++ ")"

def validateNames : List (StagedSystem S) → Nat → Validated Unit
  | [], _ => .ok ()
  | staged :: rest, declaredIndex =>
      if staged.system.name = "" then
        reject .systemPipelineSystemNameEmpty "system_pipeline.systems.name"
          ("a system name must be a stable, unique, snake_case identity and must not be empty" ++
            declaredPosition declaredIndex)
      else validateNames rest (declaredIndex + 1)

/-- Each name is compared with the `earlier` ones, first to last. -/
def validateUniqueNames (earlier : List String) : List (StagedSystem S) → Validated Unit
  | [] => .ok ()
  | staged :: rest =>
      match earlier.findIdx? (· = staged.system.name) with
      | some index =>
          reject .systemPipelineDuplicateSystemName "system_pipeline.systems.name"
            ("system name " ++ staged.system.name ++ " is already declared by system " ++
              toString index ++ declaredPosition earlier.length)
      | none => validateUniqueNames (earlier ++ [staged.system.name]) rest

def create (declaredSystems : List (StagedSystem S)) : Validated (SystemPipeline S) := do
  validateNames declaredSystems 0
  validateUniqueNames [] declaredSystems
  return ⟨SystemStage.all.flatMap fun stage => declaredSystems.filter fun staged => staged.stage = stage⟩

def empty : SystemPipeline S := ⟨[]⟩

def withAppended (pipeline : SystemPipeline S) (staged : StagedSystem S) : Validated (SystemPipeline S) :=
  create (pipeline.stagedSystems ++ [staged])

def systemsAt (pipeline : SystemPipeline S) (stage : SystemStage) : List (StagedSystem S) :=
  pipeline.stagedSystems.filter fun staged => staged.stage = stage

/-- `stage_is_declared`. -/
def declares (pipeline : SystemPipeline S) (stage : SystemStage) : Bool :=
  !(pipeline.systemsAt stage).isEmpty

def applyStage (pipeline : SystemPipeline S) (stage : SystemStage) (world : GameWorld S)
    (context : TickContext S) : Validated (GameWorld S) :=
  (pipeline.systemsAt stage).foldlM (fun world staged => staged.system.apply world context) world

theorem systemsAt_created {declared : List (StagedSystem S)} {pipeline : SystemPipeline S}
    (created : create declared = .ok pipeline) (stage : SystemStage) :
    pipeline.systemsAt stage = declared.filter fun staged => staged.stage = stage := by
  obtain ⟨_, -, rest⟩ := bind_eq_ok.mp created
  obtain ⟨_, -, committed⟩ := bind_eq_ok.mp rest
  cases committed
  have staged (other : SystemStage) :
      (declared.filter fun staged => staged.stage = other).filter (fun staged => staged.stage = stage) =
        if other = stage then declared.filter fun staged => staged.stage = stage else [] := by
    rw [List.filter_filter]
    split
    · next same =>
      subst same
      exact List.filter_congr fun entry _ => by rw [Bool.and_self]
    · next different =>
      refine List.filter_eq_nil_iff.mpr fun entry _ => ?_
      intro both
      simp only [Bool.and_eq_true, decide_eq_true_eq] at both
      exact different (both.2.symm.trans both.1)
  simp only [systemsAt, SystemStage.all, List.flatMap_cons, List.flatMap_nil, List.filter_append, staged]
  cases stage <;> simp

theorem systemsAt_withAppended {pipeline next : SystemPipeline S} {staged : StagedSystem S}
    (appended : pipeline.withAppended staged = .ok next) (stage : SystemStage) :
    next.systemsAt stage =
      pipeline.systemsAt stage ++ if staged.stage = stage then [staged] else [] := by
  rw [systemsAt_created appended, List.filter_append, systemsAt]
  congr 1
  split <;> simp_all

theorem applyStage_of_undeclared {pipeline : SystemPipeline S} {stage : SystemStage}
    {world next : GameWorld S} {context : TickContext S} (undeclared : pipeline.declares stage = false)
    (applied : pipeline.applyStage stage world context = .ok next) : next = world := by
  rw [declares, Bool.not_eq_false', List.isEmpty_iff] at undeclared
  rw [applyStage, undeclared] at applied
  exact (Except.ok.inj applied).symm

end SystemPipeline

end BlobRoyale.Simulation

/-!
# Seating

Entities that have a controller and no body wait for a spawn point. Each gets the point the mode's
policy chooses among the free ones, and occupies it for those behind.
-/

namespace BlobRoyale.Simulation

open Transition

variable {S : Type} [Scalar S]

/-- The mode's choice of a spawn point, given the rotation counter and which points are free. -/
structure SpawnPolicy (S : Type) [Scalar S] where
  chooseSpawnPoint : GameWorld S → TickContext S → EntityId → Nat → List Bool → Validated (Option Nat)

/-- `IdleSpawnPolicy`. -/
def SpawnPolicy.idle : SpawnPolicy S := ⟨fun _ _ _ _ _ => .ok none⟩

def seatIsSupportedAndUnoccupied (point : Vector2 S) (bodies : List (EntityId × PhysicsBody S))
    (playerRadius : S) (map : MapDefinition S) : Validated Bool := do
  let supported ← map.terrainSupportsDisc point playerRadius
  return supported && bodies.all fun entry =>
    let dx := entry.2.position.x - point.x
    let dy := entry.2.position.y - point.y
    let centerDistance := Scalar.sqrt (dx * dx + dy * dy)
    let contactDistance := playerRadius + effectiveRadius entry.2 playerRadius
    !lessThanOrApproximatelyEqual centerDistance contactDistance positionTolerance

/-- A ground-bound player body at rest, with no intent carried over from an earlier life. -/
def GameWorld.seatBodyAtRest (world : GameWorld S) (entity : EntityId) (position : Vector2 S)
    (playerRadius : S) : Validated (GameWorld S) := do
  let rest ← Vector2.create 0 0
  let body ← PhysicsBody.validated position rest rest playerRadius PhysicsBody.defaultMass
    PhysicsBody.defaultRestitution PhysicsBody.defaultDragScale PhysicsBody.defaultCollisionLayer
    PhysicsBody.defaultCollisionMask false .fold .floating
  let bodies ← world.bodies.insertOrAssign entity { body with groundAttachment := .groundBound }
  let seated := world.withBodies bodies
  return seated.withControllables (seated.controllables.modify entity fun controllable =>
    { controllable with normalizedThrustIntent := none, brakingIntent := false })

def GameWorld.entitiesAwaitingABody (world : GameWorld S) : List EntityId :=
  world.controllables.keys.filter fun entity => (world.bodies.find entity).isNone

/-- One pass over the pending entities. -/
structure SeatingPass (S : Type) [Scalar S] where
  world : GameWorld S
  pointIsFree : List Bool
  seatedCount : Nat

namespace SpawnPolicy

/-- `refresh_free_points`. -/
def freePoints (world : GameWorld S) (context : TickContext S) : Validated (List Bool) :=
  context.map.spawnPoints.mapM fun point =>
    seatIsSupportedAndUnoccupied point world.bodies.entries context.simulationConfig.playerRadius
      context.map

def seatEntity (policy : SpawnPolicy S) (context : TickContext S) (pass : SeatingPass S)
    (entity : EntityId) : Validated (SeatingPass S) := do
  let chosen ← policy.chooseSpawnPoint pass.world context entity
    pass.world.matchState.spawnRotationCounter pass.pointIsFree
  match chosen with
  | none => return pass
  | some index =>
      let pointCount := context.map.spawnPoints.length
      let position := "spawn_system.spawn_points[entity_id=" ++ toString entity.value ++ "]"
      match context.map.spawnPoints[index]? with
      | none =>
          reject .spawnPolicyIndexOutOfRange position
            ("the mode's spawn policy chose index " ++ toString index ++ " of " ++
              toString pointCount ++ " spawn points")
      | some point =>
          if pass.pointIsFree[index]? = some true then do
            let seated ← pass.world.seatBodyAtRest entity point context.simulationConfig.playerRadius
            let free ← freePoints seated context
            return ⟨seated.withMatch
              { seated.matchState with spawnRotationCounter := (index + 1) % pointCount },
              free, pass.seatedCount + 1⟩
          else
            reject .spawnPolicyPointOccupied position
              ("the mode's spawn policy chose occupied spawn point " ++ toString index)

/-- How many pending entities were seated, and the world with their bodies. -/
def seatPendingEntities (policy : SpawnPolicy S) (world : GameWorld S) (context : TickContext S) :
    Validated (Nat × GameWorld S) :=
  if world.entitiesAwaitingABody.isEmpty then .ok (0, world)
  else do
    let free ← freePoints world context
    let pass ← world.entitiesAwaitingABody.foldlM (policy.seatEntity context) ⟨world, free, 0⟩
    return (pass.seatedCount, pass.world)

theorem seatEntity_eq_ok {policy : SpawnPolicy S} {context : TickContext S} {pass next : SeatingPass S}
    {entity : EntityId} (seated : policy.seatEntity context pass entity = .ok next) :
    next = pass ∨
      (next.seatedCount = pass.seatedCount + 1 ∧ ∃ bodies controllables counter,
        next.world = ((pass.world.withBodies bodies).withControllables controllables).withMatch
          { pass.world.matchState with spawnRotationCounter := counter }) := by
  obtain ⟨chosen, -, rest⟩ := bind_eq_ok.mp seated
  cases chosen with
  | none => exact .inl (Except.ok.inj rest).symm
  | some index =>
    dsimp only at rest
    split at rest
    · cases rest
    · split at rest
      · obtain ⟨world, placed, rest⟩ := bind_eq_ok.mp rest
        obtain ⟨free, -, committed⟩ := bind_eq_ok.mp rest
        obtain ⟨_, -, placed⟩ := bind_eq_ok.mp placed
        obtain ⟨_, -, placed⟩ := bind_eq_ok.mp placed
        obtain ⟨bodies, -, placed⟩ := bind_eq_ok.mp placed
        cases placed
        cases committed
        exact .inr ⟨rfl, bodies, _, _, rfl⟩
      · cases rest

theorem seatPendingEntities_preserves {P : GameWorld S → Prop} {policy : SpawnPolicy S}
    {world next : GameWorld S} {context : TickContext S} {count : Nat}
    (seated : policy.seatPendingEntities world context = .ok (count, next)) (initial : P world)
    (preserves : ∀ entity pass after, P pass.world →
      policy.seatEntity context pass entity = .ok after → P after.world) : P next := by
  unfold seatPendingEntities at seated
  split at seated
  · cases seated
    exact initial
  · obtain ⟨free, -, rest⟩ := bind_eq_ok.mp seated
    obtain ⟨pass, folded, committed⟩ := bind_eq_ok.mp rest
    cases committed
    exact @foldlM_preserves _ _ _ _ (fun pass => P pass.world) _ _ _
      (fun entity _ before after => preserves entity before after) initial folded

theorem seatPendingEntities_none {policy : SpawnPolicy S} {world next : GameWorld S}
    {context : TickContext S} (seated : policy.seatPendingEntities world context = .ok (0, next)) :
    next = world := by
  unfold seatPendingEntities at seated
  split at seated
  · cases seated
    rfl
  · obtain ⟨free, -, rest⟩ := bind_eq_ok.mp seated
    obtain ⟨pass, folded, committed⟩ := bind_eq_ok.mp rest
    have untouched : pass.seatedCount = 0 → pass.world = world := by
      refine @foldlM_preserves _ _ _ _ (fun pass => pass.seatedCount = 0 → pass.world = world) _ _ _
        (fun entity _ before after held stepped => ?_) (fun _ => rfl) folded
      obtain rfl | ⟨counted, -⟩ := seatEntity_eq_ok stepped
      · exact held
      · intro none
        omega
    obtain ⟨count, same⟩ := Prod.mk.inj (Except.ok.inj committed)
    exact same ▸ untouched count

end SpawnPolicy

end BlobRoyale.Simulation
