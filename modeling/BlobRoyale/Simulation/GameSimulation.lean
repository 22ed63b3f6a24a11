import BlobRoyale.Simulation.SystemPipeline
import BlobRoyale.Simulation.ContinuousMotion
import BlobRoyale.Simulation.Intake

/-!
# The match lifecycle

The system every pipeline ends with. It alone moves the match between its phases, asking the mode's
objective when a match may start and when it is decided.
-/

namespace BlobRoyale.Simulation

structure MatchLifecycleDurations where
  countdownTicks : Nat
  restartDelayTicks : Nat
  deriving DecidableEq

structure MatchObjective (S : Type) [Scalar S] where
  canStart : GameWorld S → Validated Bool
  outcome : GameWorld S → TickContext S → Validated MatchOutcome
  durations : MatchLifecycleDurations

/-- The saturating elapsed time of the lifecycle. -/
def ticksSince (now started : TickSequence) : Nat :=
  if started.value ≤ now.value then now.value - started.value else 0

variable {S : Type} [Scalar S]

/-- `lobby_ready_to_start`. -/
def lobbyReadyToStart (world : GameWorld S) : Bool :=
  world.matchState.seats.isFull && world.matchState.seats.startRequested

namespace MatchState

/-- A return to the lobby clears the start request. -/
def commitTransition (matchState : MatchState S) (phase : MatchPhase) (now : TickSequence) :
    MatchState S :=
  { matchState with
    phase := phase
    phaseStartedTick := now
    seats := if phase = .lobby then matchState.seats.clearStartRequest else matchState.seats }

end MatchState

namespace MatchObjective

/-- `MatchLifecycleSystem::apply`. -/
def advance (objective : MatchObjective S) (world : GameWorld S) (context : TickContext S) :
    Validated (GameWorld S) :=
  let current := { world.matchState with previousPhase := world.matchState.phase }
  let now := context.tickSequence
  let opened := world.withMatch current
  match current.phase with
  | .lobby => do
      let start ← objective.canStart opened
      if start then return opened.withMatch (current.commitTransition .countdown now)
      else return opened
  | .countdown => do
      let start ← objective.canStart opened
      if start then
        if objective.durations.countdownTicks ≤ ticksSince now current.phaseStartedTick then
          return opened.withMatch
            { current.commitTransition .running now with runningStartedTick := now }
        else return opened
      else return opened.withMatch (current.commitTransition .lobby now)
  | .running => do
      let outcome ← objective.outcome opened context
      if outcome.isDecided then
        return opened.withMatch ({ current with outcome := outcome }.commitTransition .ended now)
      else return opened
  | .ended =>
      if objective.durations.restartDelayTicks ≤ ticksSince now current.phaseStartedTick then
        .ok (opened.withMatch (current.commitTransition .lobby now))
      else .ok opened

/-- `MatchLifecycleSystem`. -/
def system (objective : MatchObjective S) : SimulationSystem S := ⟨"match_lifecycle", objective.advance⟩

end MatchObjective

end BlobRoyale.Simulation

/-!
# The simulation step

A simulation and one tick of it, as a release build runs it. The tick is cut where a stage is handed
a context, so that each cut shows the world at that stage's entry and the index published to it.
-/

namespace BlobRoyale.Simulation

variable {S : Type} [Scalar S]

/-- What a mode declares to the engine. -/
structure GameMode (S : Type) [Scalar S] where
  name : String
  systems : SystemPipeline S
  motion : MotionKernel S
  acceptedCommandKinds : CommandKindMask
  spawnPolicy : SpawnPolicy S
  objective : MatchObjective S

structure GameSimulation (S : Type) [Scalar S] where
  configuration : SimulationConfig S
  map : MapDefinition S
  world : GameWorld S
  grid : SpatialGrid S
  systemPipeline : SystemPipeline S
  motion : MotionKernel S
  motionLimits : MotionLimits
  spawnPolicy : SpawnPolicy S
  modeName : String
  acceptedCommandKinds : CommandKindMask
  tickSequence : TickSequence

/-- `require_mode_accepts_server_issued_kinds`. -/
def requireModeAcceptsServerIssuedKinds (accepted : CommandKindMask) (modeName : String) :
    Validated Unit :=
  match [CommandKind.spawn, .despawn, .leave].find? fun kind => !accepted.contains kind with
  | some kind =>
      reject .gameSimulationModeRefusesServerIssuedKind "game_simulation.setup.accepted_command_kinds"
        ("mode " ++ modeName ++ " does not accept the server-issued command kind " ++ kind.name)
  | none =>
      if accepted.contains .startMatch && !accepted.contains .join then
        reject .gameSimulationModeRefusesServerIssuedKind "game_simulation.setup.accepted_command_kinds"
          ("mode " ++ modeName ++ " accepts start_match but not the server-issued command kind join, " ++
            "so its lobby could never be filled")
      else .ok ()

def requireSpawnPointsAreSeatable (configuration : SimulationConfig S) (map : MapDefinition S) :
    Validated Unit :=
  map.spawnPoints.zipIdx.forM fun (point, index) => do
    let context := "map." ++ map.name ++ ".spawn_points[" ++ toString index ++ "].position"
    if map.bounds.containsDiscCenter point configuration.playerRadius then
      let supported ← map.terrainSupportsDisc point configuration.playerRadius
      if supported then return ()
      else
        reject .mapSpawnPointNotSeatable context
          ("a spawn point must keep the complete closed disc of the configured player radius on " ++
            "supported terrain")
    else
      reject .mapSpawnPointNotSeatable context
        ("a spawn point must keep the complete closed disc of the configured player radius inside " ++
          "the arena")

def requireCommittedBodyInBounds (configuration : SimulationConfig S) (map : MapDefinition S)
    (entry : EntityId × PhysicsBody S) : Validated Unit :=
  let context := "game_simulation.commit.bodies[entity_id=" ++ toString entry.1.value ++ "]"
  match motionBodyEnvelopeViolation entry.2 map.bounds configuration.playerRadius with
  | none => .ok ()
  | some .staticOutsideEnvelope =>
      reject .gameSimulationBodyOutOfBounds context
        "committed static body center must lie inside the closed arena rectangle"
  | some .foldingBodyDoesNotFitEnvelope =>
      reject .gameSimulationBodyOutOfBounds context "committed folding body must fit its motion envelope"

def requireCommittedBodiesInBounds (world : GameWorld S) (map : MapDefinition S)
    (configuration : SimulationConfig S) : Validated Unit :=
  world.bodies.entries.forM (requireCommittedBodyInBounds configuration map)

/-- `apply_despawn_events`: whether any live entity was removed, and the surviving world. -/
def GameWorld.applyDespawnEvents (world : GameWorld S) : Bool × GameWorld S :=
  let removed := world.events.filterMap fun
    | .despawn entity => if world.contains entity then some entity else none
    | _ => none
  (!removed.isEmpty, removed.foldl GameWorld.destroyEntity world)

def SpatialGrid.refreshed (grid : SpatialGrid S) (stale : Bool) (world : GameWorld S) :
    Validated (SpatialGrid S) :=
  if stale then grid.rebuilt world else .ok grid

/-- A world at a stage's entry and the context the stage is handed. -/
structure StageView (S : Type) [Scalar S] where
  world : GameWorld S
  context : TickContext S

namespace GameSimulation

/-- `create` with the mode's declarations, or the engine's defaults for them, already chosen. -/
def create (configuration : SimulationConfig S) (initialWorld : GameWorld S) (limits : MotionLimits)
    (map : MapDefinition S) (mode : GameMode S) : Validated (GameSimulation S) := do
  limits.validate
  requireMotionBudget initialWorld.bodies.entries.length limits.bodies
    "initial motion body budget exhausted"
  let _ ← projectContactEffectPolicies initialWorld
  requireModeAcceptsServerIssuedKinds mode.acceptedCommandKinds mode.name
  requireSpawnPointsAreSeatable configuration map
  requireCommittedBodiesInBounds initialWorld map configuration
  let systemPipeline ← mode.systems.withAppended ⟨.lifecycle, mode.objective.system⟩
  let initialGrid ← SpatialGrid.create configuration map.bounds initialWorld
  return ⟨configuration, map, initialWorld, initialGrid, systemPipeline, mode.motion, limits,
    mode.spawnPolicy, mode.name, mode.acceptedCommandKinds, .zero⟩

section Tick

variable (sim : GameSimulation S) (tick : TickSequence)

def contextAt (grid : SpatialGrid S) : TickContext S := ⟨tick, sim.configuration, sim.map, grid⟩

def requireBudget (world : GameWorld S) (operation : String) : Validated Unit :=
  requireMotionBudget world.bodies.entries.length sim.motionLimits.bodies operation

def takeInputs (batch : InputBatch S) : Validated (StageView S × List MovementTuningDecision) := do
  let (world, decisions) ← applyInputBatch (sim.world.openTick batch.entityIdReservation) batch
    sim.map.spawnPoints.length tick
  sim.requireBudget world "intake motion body budget exhausted"
  let batchGrid ← sim.grid.refreshed (indexedBodiesOf world ≠ indexedBodiesOf sim.world) world
  return (⟨world, sim.contextAt tick batchGrid⟩, decisions)

def seat (seating : StageView S) : Validated (StageView S) := do
  let (seatedCount, world) ← sim.spawnPolicy.seatPendingEntities seating.world seating.context
  sim.requireBudget world "seated motion body budget exhausted"
  let intakeGrid ← seating.context.spatialIndex.refreshed (seatedCount ≠ 0) world
  return ⟨world, sim.contextAt tick intakeGrid⟩

/-- The pre-kernel systems, up to the kernel context. -/
def steer (preKernel : StageView S) : Validated (StageView S) := do
  let world ← sim.systemPipeline.applyStage .preKernel preKernel.world preKernel.context
  sim.requireBudget world "kernel-entry motion body budget exhausted"
  let moved := indexedBodiesOf preKernel.world ≠ indexedBodiesOf world
  let pairGrid ← preKernel.context.spatialIndex.refreshed
    (sim.systemPipeline.declares .preKernel && moved) world
  return ⟨world, sim.contextAt tick pairGrid⟩

/-- The motion kernel, up to the post-kernel context. -/
def move (kernel : StageView S) : Validated (StageView S) := do
  let policies ← projectContactEffectPolicies kernel.world
  let solve ← sim.motion.bind kernel.world kernel.context sim.motionLimits
  let subjects ← applyStoredAccelerationAndDrag kernel.world sim.configuration.dragPerSecond
  let motion ← solve subjects policies
  let world ← kernel.world.applyMotionResult motion
  let nextGrid ← kernel.context.spatialIndex.rebuilt world
  return ⟨world, sim.contextAt tick nextGrid⟩

/-- The post-kernel systems. The lifecycle stage is handed the same context. -/
def settle (postKernel : StageView S) : Validated (StageView S) := do
  let world ← sim.systemPipeline.applyStage .postKernel postKernel.world postKernel.context
  return ⟨world, postKernel.context⟩

/-- The lifecycle systems and the commit, from the world and the index the kernel left. -/
def commit (postKernel lifecycle : StageView S) : Validated (GameSimulation S) := do
  let closed ← sim.systemPipeline.applyStage .lifecycle lifecycle.world lifecycle.context
  let (rosterRemoved, surviving) := closed.applyDespawnEvents
  sim.requireBudget surviving "surviving motion body budget exhausted"
  let _ ← projectContactEffectPolicies surviving
  requireCommittedBodiesInBounds surviving sim.map sim.configuration
  let lateStageDeclared :=
    sim.systemPipeline.declares .postKernel || sim.systemPipeline.declares .lifecycle
  let moved := indexedBodiesOf postKernel.world ≠ indexedBodiesOf surviving
  let grid ← postKernel.context.spatialIndex.refreshed (rosterRemoved || (lateStageDeclared && moved))
    surviving
  return { sim with world := surviving.closeTick, grid := grid, tickSequence := tick }

end Tick

/-- Every stage's view of one tick, with what the tick commits and reports. -/
structure TickTrace (S : Type) [Scalar S] where
  seating : StageView S
  preKernel : StageView S
  kernel : StageView S
  postKernel : StageView S
  lifecycle : StageView S
  committed : GameSimulation S
  decisions : List MovementTuningDecision

def trace (sim : GameSimulation S) (batch : InputBatch S) : Validated (TickTrace S) := do
  let tick ← sim.tickSequence.next
  let (seating, decisions) ← sim.takeInputs tick batch
  let preKernel ← sim.seat tick seating
  let kernel ← sim.steer tick preKernel
  let postKernel ← sim.move tick kernel
  let lifecycle ← sim.settle postKernel
  let committed ← sim.commit tick postKernel lifecycle
  return ⟨seating, preKernel, kernel, postKernel, lifecycle, committed, decisions⟩

def step (sim : GameSimulation S) (batch : InputBatch S) :
    Validated (GameSimulation S × List MovementTuningDecision) := do
  let trace ← sim.trace batch
  return (trace.committed, trace.decisions)

/-- A tick of a simulation, as a step of a run. -/
def Steps (sim : GameSimulation S) (batch : InputBatch S) (next : GameSimulation S) : Prop :=
  ∃ decisions, sim.step batch = .ok (next, decisions)

/-- A traced tick, phase by phase. -/
structure Traced (sim : GameSimulation S) (batch : InputBatch S) (tick : TickSequence)
    (trace : TickTrace S) : Prop where
  next : sim.tickSequence.next = .ok tick
  inputs : sim.takeInputs tick batch = .ok (trace.seating, trace.decisions)
  seated : sim.seat tick trace.seating = .ok trace.preKernel
  steered : sim.steer tick trace.preKernel = .ok trace.kernel
  moved : sim.move tick trace.kernel = .ok trace.postKernel
  settled : sim.settle trace.postKernel = .ok trace.lifecycle
  committed : sim.commit tick trace.postKernel trace.lifecycle = .ok trace.committed

theorem trace_eq_ok {sim : GameSimulation S} {batch : InputBatch S} {trace : TickTrace S}
    (traces : sim.trace batch = .ok trace) : ∃ tick, sim.Traced batch tick trace := by
  obtain ⟨tick, next, rest⟩ := bind_eq_ok.mp traces
  obtain ⟨⟨seating, decisions⟩, inputs, rest⟩ := bind_eq_ok.mp rest
  obtain ⟨preKernel, seated, rest⟩ := bind_eq_ok.mp rest
  obtain ⟨kernel, steered, rest⟩ := bind_eq_ok.mp rest
  obtain ⟨postKernel, moved, rest⟩ := bind_eq_ok.mp rest
  obtain ⟨lifecycle, settled, rest⟩ := bind_eq_ok.mp rest
  obtain ⟨committed, commits, result⟩ := bind_eq_ok.mp rest
  cases result
  exact ⟨tick, next, inputs, seated, steered, moved, settled, commits⟩

theorem step_eq_ok {sim next : GameSimulation S} {batch : InputBatch S}
    {decisions : List MovementTuningDecision} :
    sim.step batch = .ok (next, decisions) ↔
      ∃ trace, sim.trace batch = .ok trace ∧ trace.committed = next ∧ trace.decisions = decisions := by
  simp only [step, bind_eq_ok, pure, Except.pure, Except.ok.injEq, Prod.mk.injEq]

theorem commit_eq_ok {sim next : GameSimulation S} {tick : TickSequence}
    {postKernel lifecycle : StageView S} (commits : sim.commit tick postKernel lifecycle = .ok next) :
    ∃ closed grid,
      sim.systemPipeline.applyStage .lifecycle lifecycle.world lifecycle.context = .ok closed ∧
        requireCommittedBodiesInBounds closed.applyDespawnEvents.2 sim.map sim.configuration = .ok () ∧
        postKernel.context.spatialIndex.refreshed (closed.applyDespawnEvents.1 ||
          ((sim.systemPipeline.declares .postKernel || sim.systemPipeline.declares .lifecycle) &&
            decide (indexedBodiesOf postKernel.world ≠ indexedBodiesOf closed.applyDespawnEvents.2)))
          closed.applyDespawnEvents.2 = .ok grid ∧
        next = { sim with
          world := closed.applyDespawnEvents.2.closeTick, grid := grid, tickSequence := tick } := by
  obtain ⟨closed, applied, rest⟩ := bind_eq_ok.mp commits
  obtain ⟨-, -, rest⟩ := bind_eq_ok.mp rest
  obtain ⟨-, -, rest⟩ := bind_eq_ok.mp rest
  obtain ⟨⟨⟩, bounded, rest⟩ := bind_eq_ok.mp rest
  obtain ⟨grid, refreshed, committed⟩ := bind_eq_ok.mp rest
  exact ⟨closed, grid, applied, bounded, refreshed, (Except.ok.inj committed).symm⟩

section OneCell

def squareArena : ArenaBounds ℚ := ⟨100, 100, by decide, by decide⟩

def oneCell : SimulationConfig ℚ where
  worldWidth := 100
  worldHeight := 100
  playerRadius := 1
  dragPerSecond := 0
  spatialGridColumns := 1
  spatialGridRows := 1
  spatialGridCellCount := 1
  radius_admitted := by decide
  drag_nonnegative := by decide
  columns_positive := by decide
  rows_positive := by decide
  cellCount_eq := rfl
  cellCount_bounded := by decide

/-- An empty one-cell arena with a solver that moves nothing. -/
def oneCellSimulation (staged : List (StagedSystem ℚ)) : GameSimulation ℚ where
  configuration := oneCell
  map := ⟨"square", squareArena, [], [], fun _ _ => .ok true⟩
  world := .empty 0
  grid := ⟨oneCell, squareArena, [[]], []⟩
  systemPipeline := ⟨staged⟩
  motion := ⟨fun _ _ _ => .ok fun subjects _ => .ok ⟨subjects, []⟩⟩
  motionLimits := .ceilings
  spawnPolicy := .idle
  modeName := "one_cell"
  acceptedCommandKinds := .all
  tickSequence := .zero

/-- A lobby's only seat, taken by the first controller. -/
def oneTakenSeat : SeatRoster := ⟨[.controller .first], false, by decide⟩

end OneCell

end GameSimulation

end BlobRoyale.Simulation

/-!
# What a tick leaves of the match record

Between phase 0 and the commit the engine itself writes the rotation counter and nothing else of
the match record. What the declared systems keep too, the tick keeps, up to the lifecycle system.
-/

namespace BlobRoyale.Simulation

open Transition

variable {S : Type} [Scalar S] {α : Type}

namespace GameWorld

theorem applyDespawnEvents_matchState (world : GameWorld S) :
    world.applyDespawnEvents.2.matchState = world.matchState :=
  (destroyEntities_frame _ world).1

end GameWorld

namespace SystemPipeline

/-- No declared system writes what is observed of the match record. -/
def Keeps (pipeline : SystemPipeline S) (observe : MatchState S → α) : Prop :=
  ∀ staged ∈ pipeline.stagedSystems, ∀ world context next,
    staged.system.apply world context = .ok next → observe next.matchState = observe world.matchState

theorem mem_stagedSystems {pipeline : SystemPipeline S} {stage : SystemStage} {staged : StagedSystem S}
    (member : staged ∈ pipeline.systemsAt stage) : staged ∈ pipeline.stagedSystems :=
  List.mem_of_mem_filter member

theorem Keeps.fold {pipeline : SystemPipeline S} {observe : MatchState S → α}
    (keeps : pipeline.Keeps observe) {systems : List (StagedSystem S)}
    (declared : ∀ staged ∈ systems, staged ∈ pipeline.stagedSystems) {world next : GameWorld S}
    {context : TickContext S}
    (folded : systems.foldlM (fun world staged => staged.system.apply world context) world = .ok next) :
    observe next.matchState = observe world.matchState :=
  @foldlM_preserves _ _ _ _ (fun after => observe after.matchState = observe world.matchState) _ _ _
    (fun staged member before after held applied =>
      (keeps staged (declared staged member) before context after applied).trans held) rfl folded

theorem Keeps.applyStage {pipeline : SystemPipeline S} {observe : MatchState S → α}
    (keeps : pipeline.Keeps observe) {stage : SystemStage} {world next : GameWorld S}
    {context : TickContext S} (applied : pipeline.applyStage stage world context = .ok next) :
    observe next.matchState = observe world.matchState :=
  keeps.fold (fun _ member => mem_stagedSystems member) applied

end SystemPipeline

namespace GameSimulation

variable {sim : GameSimulation S} {batch : InputBatch S} {tick : TickSequence} {trace : TickTrace S}

theorem seat_matchState {view next : StageView S} (seats : sim.seat tick view = .ok next) :
    ∃ counter, next.world.matchState =
      { view.world.matchState with spawnRotationCounter := counter } := by
  obtain ⟨⟨count, world⟩, seated, rest⟩ := bind_eq_ok.mp seats
  obtain ⟨-, -, rest⟩ := bind_eq_ok.mp rest
  obtain ⟨grid, -, committed⟩ := bind_eq_ok.mp rest
  cases committed
  refine @SpawnPolicy.seatPendingEntities_preserves _ _ (fun after => ∃ counter, after.matchState =
    { view.world.matchState with spawnRotationCounter := counter }) _ _ _ _ _ seated ⟨_, rfl⟩ ?_
  rintro entity pass after ⟨counter, same⟩ placed
  obtain rfl | ⟨-, bodies, controllables, rotated, world⟩ := SpawnPolicy.seatEntity_eq_ok placed
  · exact ⟨counter, same⟩
  · refine ⟨rotated, ?_⟩
    rw [world, same]
    rfl

theorem move_matchState {view next : StageView S} (moves : sim.move tick view = .ok next) :
    next.world.matchState = view.world.matchState := by
  obtain ⟨policies, -, rest⟩ := bind_eq_ok.mp moves
  obtain ⟨solve, -, rest⟩ := bind_eq_ok.mp rest
  obtain ⟨subjects, -, rest⟩ := bind_eq_ok.mp rest
  obtain ⟨motion, -, rest⟩ := bind_eq_ok.mp rest
  obtain ⟨world, applied, rest⟩ := bind_eq_ok.mp rest
  obtain ⟨grid, -, committed⟩ := bind_eq_ok.mp rest
  cases committed
  obtain ⟨replacement, -, rfl⟩ := GameWorld.applyMotionResult_eq_ok applied
  rfl

theorem Traced.frame (traced : sim.Traced batch tick trace) :
    trace.committed.systemPipeline = sim.systemPipeline ∧ trace.committed.map = sim.map ∧
      trace.committed.tickSequence = tick ∧ trace.lifecycle.context.tickSequence = tick := by
  obtain ⟨closed, grid, -, -, -, committed⟩ := commit_eq_ok traced.committed
  obtain ⟨late, -, lifecycle⟩ := bind_eq_ok.mp traced.settled
  obtain ⟨policies, -, rest⟩ := bind_eq_ok.mp traced.moved
  obtain ⟨solve, -, rest⟩ := bind_eq_ok.mp rest
  obtain ⟨subjects, -, rest⟩ := bind_eq_ok.mp rest
  obtain ⟨motion, -, rest⟩ := bind_eq_ok.mp rest
  obtain ⟨world, -, rest⟩ := bind_eq_ok.mp rest
  obtain ⟨grid, -, postKernel⟩ := bind_eq_ok.mp rest
  rw [committed, ← Except.ok.inj lifecycle, ← Except.ok.inj postKernel]
  exact ⟨rfl, rfl, rfl, rfl⟩

theorem Traced.intake (traced : sim.Traced batch tick trace) :
    applyInputBatch (sim.world.openTick batch.entityIdReservation) batch sim.map.spawnPoints.length tick =
      .ok (trace.seating.world, trace.decisions) := by
  obtain ⟨⟨world, decisions⟩, applied, rest⟩ := bind_eq_ok.mp traced.inputs
  obtain ⟨-, -, rest⟩ := bind_eq_ok.mp rest
  obtain ⟨grid, -, result⟩ := bind_eq_ok.mp rest
  obtain ⟨seating, reported⟩ := Prod.mk.inj (Except.ok.inj result)
  rw [applied, ← seating, ← reported]

/-- What is observed of the match record reaches the lifecycle stage as phase 0 left it. -/
theorem Traced.reaches_lifecycle {observe : MatchState S → α} (traced : sim.Traced batch tick trace)
    (steered : ∀ world context next, sim.systemPipeline.applyStage .preKernel world context = .ok next →
      observe next.matchState = observe world.matchState)
    (settled : ∀ world context next, sim.systemPipeline.applyStage .postKernel world context = .ok next →
      observe next.matchState = observe world.matchState)
    (unrotated : ∀ matchState counter,
      observe { matchState with spawnRotationCounter := counter } = observe matchState) :
    observe trace.lifecycle.world.matchState = observe trace.seating.world.matchState := by
  obtain ⟨counter, rotated⟩ := seat_matchState traced.seated
  obtain ⟨world, applied, rest⟩ := bind_eq_ok.mp traced.steered
  obtain ⟨-, -, rest⟩ := bind_eq_ok.mp rest
  obtain ⟨grid, -, kernel⟩ := bind_eq_ok.mp rest
  obtain ⟨late, appliedLate, lifecycle⟩ := bind_eq_ok.mp traced.settled
  have kernelWorld : trace.kernel.world = world := congrArg StageView.world (Except.ok.inj kernel).symm
  have lifecycleWorld : trace.lifecycle.world = late :=
    congrArg StageView.world (Except.ok.inj lifecycle).symm
  calc observe trace.lifecycle.world.matchState
      = observe trace.postKernel.world.matchState := lifecycleWorld ▸ settled _ _ _ appliedLate
    _ = observe trace.kernel.world.matchState := by rw [move_matchState traced.moved]
    _ = observe trace.preKernel.world.matchState := kernelWorld ▸ steered _ _ _ applied
    _ = observe trace.seating.world.matchState := by rw [rotated, unrotated]

theorem Traced.keeps {observe : MatchState S → α} (traced : sim.Traced batch tick trace)
    (keeps : sim.systemPipeline.Keeps observe)
    (unrotated : ∀ matchState counter,
      observe { matchState with spawnRotationCounter := counter } = observe matchState) :
    observe trace.committed.world.matchState = observe trace.seating.world.matchState := by
  obtain ⟨closed, grid, applied, -, -, committed⟩ := commit_eq_ok traced.committed
  have reached := traced.reaches_lifecycle (fun _ _ _ => keeps.applyStage)
    (fun _ _ _ => keeps.applyStage) unrotated
  have closing : trace.committed.world.matchState = closed.matchState := by
    rw [committed]
    exact closed.applyDespawnEvents_matchState
  rw [closing, keeps.applyStage applied, reached]

/-- Under a declared pipeline with the lifecycle system appended, the last word is the lifecycle's. -/
theorem Traced.advances {observe : MatchState S → α} {declared : SystemPipeline S}
    {objective : MatchObjective S} (traced : sim.Traced batch tick trace)
    (appended : declared.withAppended ⟨.lifecycle, objective.system⟩ = .ok sim.systemPipeline)
    (keeps : declared.Keeps observe)
    (unrotated : ∀ matchState counter,
      observe { matchState with spawnRotationCounter := counter } = observe matchState) :
    ∃ entry context closed, observe entry.matchState = observe trace.seating.world.matchState ∧
      context.tickSequence = trace.lifecycle.context.tickSequence ∧
      objective.advance entry context = .ok closed ∧
      trace.committed.world.matchState = closed.matchState := by
  have early : ∀ {stage}, stage ≠ .lifecycle →
      sim.systemPipeline.systemsAt stage = declared.systemsAt stage := by
    intro stage different
    rw [SystemPipeline.systemsAt_withAppended appended, if_neg (Ne.symm different), List.append_nil]
  have kept : ∀ {stage}, stage ≠ .lifecycle → ∀ world context next,
      sim.systemPipeline.applyStage stage world context = .ok next →
      observe next.matchState = observe world.matchState := by
    intro stage different world context next applied
    rw [SystemPipeline.applyStage, early different] at applied
    exact keeps.fold (fun _ member => SystemPipeline.mem_stagedSystems member) applied
  obtain ⟨closed, grid, applied, -, -, committed⟩ := commit_eq_ok traced.committed
  have reached := traced.reaches_lifecycle (kept (by decide)) (kept (by decide)) unrotated
  rw [SystemPipeline.applyStage, SystemPipeline.systemsAt_withAppended appended, if_pos rfl,
    foldlM_concat] at applied
  obtain ⟨entry, before, advanced⟩ := applied
  refine ⟨entry, trace.lifecycle.context, closed, ?_, rfl, advanced, ?_⟩
  · exact (keeps.fold (fun _ member => SystemPipeline.mem_stagedSystems member) before).trans reached
  · rw [committed]
    exact closed.applyDespawnEvents_matchState

end GameSimulation

end BlobRoyale.Simulation
