import BlobRoyale.Gameplay.HazardSpawnSystem
import BlobRoyale.Gameplay.RespawnSystem
import BlobRoyale.Gameplay.RoyaleZone
import BlobRoyale.Gameplay.StandingsRecorder
import BlobRoyale.Gameplay.SteeringSystems

/-!
# The royale mode

The systems the mode declares besides the zone's: the ranking of the eliminated, the wipe between two matches,
the expiry of what lives for a time, and the published grace; and the declaration itself.
-/

namespace BlobRoyale.Gameplay

open Simulation Transition

section Rosters

variable {S : Type} [Scalar S]

/-- `alive_entities`, ascending. -/
def aliveEntities (world : GameWorld S) : List EntityId := (world.bodies.join world.controllables).map Prod.fst

def aliveCount (world : GameWorld S) : Nat := (aliveEntities world).length

/-- `participant_entities`, ascending. -/
def participantEntities (world : GameWorld S) : List EntityId := world.controllables.keys

theorem mem_aliveEntities {world : GameWorld S} {entity : EntityId} : entity ∈ aliveEntities world ↔
    (world.bodies.find entity).isSome = true ∧ (world.controllables.find entity).isSome = true := by
  rw [aliveEntities, List.mem_map]
  constructor
  · rintro ⟨⟨other, body, link⟩, member, rfl⟩
    obtain ⟨bodied, linked⟩ := ComponentStore.mem_join.mp member
    exact ⟨bodied ▸ rfl, linked ▸ rfl⟩
  · rintro ⟨bodied, linked⟩
    obtain ⟨body, bodied⟩ := Option.isSome_iff_exists.mp bodied
    obtain ⟨link, linked⟩ := Option.isSome_iff_exists.mp linked
    exact ⟨(entity, body, link), ComponentStore.mem_join.mpr ⟨bodied, linked⟩, rfl⟩

theorem aliveEntities_ascending (world : GameWorld S) : (aliveEntities world).Pairwise (· < ·) :=
  List.pairwise_map.mpr (ComponentStore.join_ascending world.bodies world.controllables)

end Rosters

/-- The royale arm of the mode state. -/
structure RoyaleBlock where
  placements : List RoyalePlacement
  previousPhase : MatchPhase
  eliminationGraceTicks : Nat
  deriving DecidableEq

variable {S : Type} [Scalar S]

def RoyaleBlock.modeState (block : RoyaleBlock) : ModeMatchState S :=
  .royalePlacements block.placements block.previousPhase block.eliminationGraceTicks

/-- `royale_mode_state_of`: the held block, or the one it is born with. -/
def royaleModeStateOf (modeState : ModeMatchState S) : RoyaleBlock :=
  match modeState with
  | .royalePlacements placements previousPhase graceTicks => ⟨placements, previousPhase, graceTicks⟩
  | _ => ⟨[], .lobby, 0⟩

namespace PlacementRecorderSystem

def controllerOfEliminated (world : GameWorld S) (entity : EntityId) : Except RoyaleFailure ControllerId :=
  match world.controllables.find entity with
  | none => .error (.royale .eliminatedEntityWithoutController
      ("placement_recorder.placements[entity_id=" ++ toString entity.value ++ "]")
      "an eliminated entity must carry a Controllable; a placement without a controller cannot be published")
  | some controllable => .ok controllable.controllerId

def remove (world : GameWorld S) (entity : EntityId) : Validated (GameWorld S) :=
  (world.destroyEntity entity).emit (.despawn entity)

/-- The tick's eliminated, ranked behind everybody left. -/
def record (world : GameWorld S) (placements : List RoyalePlacement) (eliminated : List EntityId)
    (tick : TickSequence) : Except RoyaleFailure (GameWorld S × List RoyalePlacement) :=
  if eliminated.isEmpty then .ok (world, placements)
  else do
    let controllers ← eliminated.mapM (controllerOfEliminated world)
    let remaining ← throughRoyale (eliminated.foldlM remove world)
    let placement := aliveCount remaining + 1
    if maximumPlayerCount < placements.length + eliminated.length then
      .error (.royale .placementLimitExceeded "placement_recorder.placements"
        ("one match's placement list would hold " ++ toString (placements.length + eliminated.length) ++
          " entries, past the accepted limit " ++ toString maximumPlayerCount))
    else
      return (remaining, placements ++ (eliminated.zip controllers).map fun ranked =>
        ⟨ranked.1, ranked.2, placement, tick⟩)

/-- The ranking a tick starts from: the first tick of a match clears it. -/
def openedPlacements (matchState : MatchState S) : List RoyalePlacement :=
  if matchState.phase = .running ∧ matchState.previousPhase = .countdown then []
  else (royaleModeStateOf matchState.modeState).placements

/-- `PlacementRecorderSystem::apply`. -/
def apply (world : GameWorld S) (context : TickContext S) : Except RoyaleFailure (GameWorld S) := do
  let block := royaleModeStateOf world.matchState.modeState
  let (recorded, placements) ←
    record world (openedPlacements world.matchState) (eliminatedEntitiesOf world) context.tickSequence
  let written : RoyaleBlock := ⟨placements, world.matchState.phase, block.eliminationGraceTicks⟩
  return recorded.withMatch { recorded.matchState with modeState := written.modeState }

end PlacementRecorderSystem

/-- `MatchResetSystem::apply`. -/
def MatchResetSystem.apply (world : GameWorld S) : GameWorld S :=
  if world.matchState.phase ≠ .lobby ∨ world.matchState.previousPhase ≠ .ended then world
  else (participantEntities world).foldl GameWorld.destroyEntity world

namespace LifetimeExpirySystem

def expired (world : GameWorld S) : List EntityId :=
  let lifetimes : ComponentStore Lifetime := world.stores .lifetime
  (lifetimes.entries.filter fun entry => entry.2.ticksRemaining ≤ 1).map Prod.fst

def countDown (lifetimes : ComponentStore Lifetime) : ComponentStore Lifetime :=
  lifetimes.mapValues fun _ lifetime => if 1 < lifetime.ticksRemaining then ⟨lifetime.ticksRemaining - 1⟩ else lifetime

/-- `LifetimeExpirySystem::apply`. -/
def apply (world : GameWorld S) : Validated (GameWorld S) :=
  (expired world).foldlM (fun world entity => world.emit (.despawn entity))
    (world.withStore .lifetime (countDown (world.stores .lifetime)))

end LifetimeExpirySystem

/-- `EliminationGracePublisherSystem::apply`. -/
def EliminationGracePublisherSystem.apply (eliminationGraceTicks : Nat) (world : GameWorld S) : GameWorld S :=
  let block := { royaleModeStateOf world.matchState.modeState with eliminationGraceTicks := eliminationGraceTicks }
  world.withMatch { world.matchState with modeState := block.modeState }

/-- `RoyaleObjective`. -/
def royaleObjective (configuration : RoyaleConfiguration S) : MatchObjective S where
  canStart world := .ok (lobbyReadyToStart world)
  outcome world _ := .ok <|
    match aliveEntities world with
    | [winner] => .wonByEntity winner
    | [] => .drawn
    | _ => .undecided
  durations := ⟨configuration.countdownTicks, configuration.restartDelayTicks⟩

/-- What the surroundings of the mode supply: the library's `hypot`, and the engine's own error for a throw that
it passes on. -/
structure RoyalePlatform (S : Type) where
  hypot : S → S → S
  report : RoyaleFailure → SimulationValidationError

/-- A system of the mode as the pipeline holds it. -/
def RoyalePlatform.staged (platform : RoyalePlatform S) (stage : SystemStage) (name : String)
    (apply : GameWorld S → TickContext S → Except RoyaleFailure (GameWorld S)) : StagedSystem S :=
  ⟨stage, name, fun world context => (apply world context).mapError platform.report⟩

/-- What a status pass returns, without the world a throw leaves. -/
def throughStatus (applied : Applied S) : Except RoyaleFailure (GameWorld S) :=
  match applied with
  | .ok world => .ok world
  | .error thrown => .error (.through thrown.failure)

end BlobRoyale.Gameplay

/-!
# The declaration

The mode's systems in their stages, its objective and the map it can be played on.
-/

namespace BlobRoyale.Gameplay

open Simulation Transition

variable {S : Type} [RoundedScalar S]

/-- A declared mode. -/
structure RoyaleMode (S : Type) [RoundedScalar S] where
  configuration : RoyaleConfiguration S
  hazards : List (HazardArchetype S)
  abilities : AbilityConfiguration S

namespace RoyaleMode

def declaredSystems (mode : RoyaleMode S) (platform : RoyalePlatform S) : List (StagedSystem S) :=
  [platform.staged .preKernel "thrust_steering" fun world context =>
      throughMode (ThrustSteeringSystem.apply platform.hypot world context),
    platform.staged .preKernel "ability" fun world context =>
      throughRoyale (AbilitySystem.apply mode.abilities world context),
    platform.staged .preKernel "velocity_rotation" fun world context =>
      throughRoyale (VelocityRotationSystem.apply world context),
    platform.staged .postKernel "zone_shrink" (ZoneShrinkSystem.apply mode.configuration),
    platform.staged .postKernel "zone_elimination" fun world _ => ZoneEliminationSystem.apply mode.configuration world,
    platform.staged .postKernel "charge_contact" fun world context =>
      throughRoyale (ChargeContactSystem.apply world context),
    platform.staged .postKernel "status" fun world context => throughStatus (StatusSystem.apply world context),
    platform.staged .lifecycle "placement_recorder" PlacementRecorderSystem.apply,
    platform.staged .lifecycle "match_reset" fun world _ => .ok (MatchResetSystem.apply world),
    platform.staged .lifecycle "lifetime_expiry" fun world _ => throughRoyale (LifetimeExpirySystem.apply world),
    platform.staged .lifecycle "hazard_spawn" fun world context =>
      throughRoyale (HazardSpawnSystem.apply mode.hazards world context),
    platform.staged .lifecycle "elimination_grace_publisher" fun world _ =>
      .ok (EliminationGracePublisherSystem.apply mode.configuration.eliminationGraceTicks world)]

/-- `RoyaleMode::systems`. -/
def systems (mode : RoyaleMode S) (platform : RoyalePlatform S) : Validated (SystemPipeline S) :=
  SystemPipeline.create (mode.declaredSystems platform)

/-- The mode as the engine is given it, with its contact rules and triggers bound in `motion`. -/
def gameMode (mode : RoyaleMode S) (platform : RoyalePlatform S) (motion : MotionKernel S) :
    Validated (GameMode S) := do
  let systems ← mode.systems platform
  return ⟨"royale", systems, motion, .all, ShippedSpawnPolicy.rotatingRing.policy, royaleObjective mode.configuration⟩

/-- `RoyaleMode::validate_map`. -/
def validateMap (mode : RoyaleMode S) (map : MapDefinition S) : Except RoyaleFailure Unit :=
  let fullRadius := zoneFullRadius map.bounds
  if fullRadius ≤ mode.configuration.zoneMinimumRadius then
    .error (.royale .mapArenaWithinZoneMinimum "royale_mode.validate_map.bounds"
      ("map " ++ map.name ++ " has a circumscribed radius of " ++ Scalar.toText fullRadius ++
        " wu, which must be strictly greater than the " ++ Scalar.toText mode.configuration.zoneMinimumRadius ++
        " wu zone minimum or the zone would never contract"))
  else .ok ()

end RoyaleMode

end BlobRoyale.Gameplay
