import BlobRoyale.Gameplay.RoyaleLifecycle

/-!
# The stages of a royale tick

A simulation that plays the mode runs its declared systems and the match lifecycle, and nothing else: what one
tick makes of the players, the zone, the counters and the ranking, stage by stage.
-/

namespace BlobRoyale.Gameplay

open Simulation Transition PlacementRecorderSystem

variable {S : Type} [RoundedScalar S]

theorem RoyalePlatform.staged_eq_ok {platform : RoyalePlatform S} {stage : SystemStage} {name : String}
    {apply : GameWorld S → TickContext S → Except RoyaleFailure (GameWorld S)} {world next : GameWorld S}
    {context : TickContext S} :
    (platform.staged stage name apply).system.apply world context = .ok next ↔ apply world context = .ok next := by
  show (apply world context).mapError platform.report = .ok next ↔ _
  cases apply world context <;> simp [Except.mapError]

theorem throughStatus_eq_ok {applied : Applied S} {next : GameWorld S} (returned : throughStatus applied = .ok next) :
    applied = .ok next := by
  cases applied with
  | ok world => exact congrArg Except.ok (Except.ok.inj returned)
  | error => cases returned

/-- Whether an entity's body stands outside of a zone. -/
def standsOutside (zone : Zone S) (world : GameWorld S) (entity : EntityId) : Bool :=
  (world.bodies.find entity).any (ZoneEliminationSystem.isOutside zone)

/-- Exactly one entity carries a zone, and it carries this one. -/
def CarriesZone (zone : Zone S) (world : GameWorld S) : Prop :=
  ∃ carrier, ∀ entity, (world.stores .zone).find entity = if entity = carrier then some zone else none

namespace ZoneEliminationSystem

variable {graceTicks : Nat} {zone : Zone S} {world after : GameWorld S} {entity : EntityId}

theorem mem_namedBy : entity ∈ namedBy graceTicks zone world (world.bodies.join world.controllables) ↔
    entity ∈ aliveEntities world ∧
      names graceTicks (standsOutside zone world entity) ((world.stores .zoneExposure).find entity) = true := by
  have stands : ∀ entry ∈ world.bodies.join world.controllables,
      standsOutside zone world entry.1 = isOutside zone entry.2.1 := by
    intro entry member
    rw [standsOutside, (ComponentStore.mem_join.mp member).1]
    rfl
  constructor
  · intro named
    obtain ⟨entry, listed, rfl⟩ := List.mem_map.mp named
    obtain ⟨member, late⟩ := List.mem_filter.mp listed
    exact ⟨List.mem_map_of_mem member, (stands entry member).symm ▸ late⟩
  · rintro ⟨alive, late⟩
    obtain ⟨entry, member, rfl⟩ := List.mem_map.mp alive
    exact List.mem_map_of_mem (List.mem_filter.mpr ⟨member, stands entry member ▸ late⟩)

theorem Judged.counter (judged : Judged graceTicks zone (world.bodies.join world.controllables) world after)
    (alive : entity ∈ aliveEntities world) : (after.stores .zoneExposure).find entity =
      counted (standsOutside zone world entity) ((world.stores .zoneExposure).find entity) := by
  obtain ⟨entry, member, rfl⟩ := List.mem_map.mp alive
  rw [judged.visited entry member, standsOutside, (ComponentStore.mem_join.mp member).1]
  rfl

end ZoneEliminationSystem

/-- A late step: players and counters can only go, and the zone stays where it is. -/
structure Settles (before after : GameWorld S) : Prop where
  sound : RoyaleSound after
  fewer : Fewer before after
  fades : Fades before after
  zones : ∀ entity, (after.stores .zone).find entity = (before.stores .zone).find entity

namespace Settles

variable {first second third before after : GameWorld S}

theorem trans (left : Settles first second) (right : Settles second third) : Settles first third :=
  ⟨right.sound, left.fewer.trans right.fewer, left.fades.trans right.fades,
    fun entity => (right.zones entity).trans (left.zones entity)⟩

theorem of_gone {gone : EntityId → Prop} [DecidablePred gone] (leave : Gone gone before after)
    (sound : RoyaleSound before) (zoneless : ∀ entity, gone entity → carried before entity .zone = false) :
    Settles before after := by
  refine ⟨leave.sound sound, leave.fewer, leave.fades, fun entity => ?_⟩
  rw [leave .zone entity]
  split
  · next leaves => exact (Option.not_isSome_iff_eq_none.mp (Bool.eq_false_iff.mp (zoneless entity leaves))).symm
  · rfl

theorem of_stores (sound : RoyaleSound before) (stores : after.stores = before.stores) : Settles before after := by
  have carriers : ∀ entity kind, carried after entity kind = carried before entity kind := by
    intro entity kind
    rw [carried, carried, stores]
  refine ⟨sound.of_carried fun kind _ entity => carriers entity kind, ⟨fun entity member => ?_, fun entity _ => ?_⟩,
    fun entity held => (carriers entity _).symm.trans held, fun entity => ?_⟩
  · rwa [mem_alive_iff, carriers, carriers, ← mem_alive_iff] at member
  · rw [stores]
  · rw [stores]

theorem of_expired (expired : LifetimeExpirySystem.Expired before after) (sound : RoyaleSound before) :
    Settles before after := by
  refine ⟨sound.of_carried fun kind _ entity => expired.carried entity kind,
    ⟨fun entity member => ?_, fun entity _ => ?_⟩, fun entity held => (expired.carried entity _).symm.trans held,
    fun entity => ?_⟩
  · rwa [mem_alive_iff, expired.carried, expired.carried, ← mem_alive_iff] at member
  · rw [expired.rest .zoneExposure (by decide)]
  · rw [expired.rest .zone (by decide)]

theorem of_spawned (spawned : Spawned before after) (sound : RoyaleSound before) : Settles before after := by
  obtain stores | ⟨created, born, -, zoneless, bare⟩ := spawned.born
  · exact of_stores sound stores
  · refine ⟨born.sound sound fun zoned => ?_, born.fewer, born.fades bare, fun entity => ?_⟩
    · rw [zoneless] at zoned
      cases zoned
    · by_cases own : entity = created
      · rw [own, find_of_fresh born.fresh]
        exact Option.not_isSome_iff_eq_none.mp (Bool.eq_false_iff.mp zoneless)
      · exact born.others .zone rfl entity own

end Settles

theorem Spawned.mem_alive {before after : GameWorld S} {entity : EntityId} (spawned : Spawned before after) :
    entity ∈ aliveEntities after ↔ entity ∈ aliveEntities before := by
  obtain stores | ⟨created, born, -⟩ := spawned.born
  · rw [mem_alive_iff, mem_alive_iff, carried, carried, stores]
    rfl
  · exact born.mem_alive

namespace RoyaleMode

/-- A simulation that runs the mode's declarations. -/
structure Plays (mode : RoyaleMode S) (platform : RoyalePlatform S) (sim : GameSimulation S) : Prop where
  declared : ∃ declared, mode.systems platform = .ok declared ∧
    declared.withAppended ⟨.lifecycle, (royaleObjective mode.configuration).system⟩ = .ok sim.systemPipeline
  seating : sim.spawnPolicy = ShippedSpawnPolicy.rotatingRing.policy
  honest : HonestKernel sim.motion

variable {mode : RoyaleMode S} {platform : RoyalePlatform S} {sim : GameSimulation S} {world next : GameWorld S}
  {context : TickContext S}

theorem plays_created {motion : MotionKernel S} {gameMode : GameMode S} {configuration : SimulationConfig S}
    {limits : MotionLimits} {map : MapDefinition S} (honest : HonestKernel motion)
    (declares : mode.gameMode platform motion = .ok gameMode)
    (created : GameSimulation.create configuration world limits map gameMode = .ok sim) :
    mode.Plays platform sim ∧ sim.world = world ∧ sim.map = map ∧ sim.tickSequence = .zero := by
  obtain ⟨systems, declared, bound⟩ := bind_eq_ok.mp declares
  cases bound
  obtain ⟨-, -, rest⟩ := bind_eq_ok.mp created
  obtain ⟨-, -, rest⟩ := bind_eq_ok.mp rest
  obtain ⟨-, -, rest⟩ := bind_eq_ok.mp rest
  obtain ⟨-, -, rest⟩ := bind_eq_ok.mp rest
  obtain ⟨-, -, rest⟩ := bind_eq_ok.mp rest
  obtain ⟨-, -, rest⟩ := bind_eq_ok.mp rest
  obtain ⟨pipeline, appended, rest⟩ := bind_eq_ok.mp rest
  obtain ⟨grid, -, committed⟩ := bind_eq_ok.mp rest
  cases committed
  exact ⟨⟨⟨systems, declared, appended⟩, rfl, honest⟩, rfl, rfl, rfl⟩

theorem Plays.systemsAt (plays : mode.Plays platform sim) (stage : SystemStage) :
    sim.systemPipeline.systemsAt stage =
      ((mode.declaredSystems platform).filter fun staged => staged.stage = stage) ++
        if SystemStage.lifecycle = stage then [⟨.lifecycle, (royaleObjective mode.configuration).system⟩] else [] := by
  obtain ⟨declared, systems, appended⟩ := plays.declared
  rw [SystemPipeline.systemsAt_withAppended appended, SystemPipeline.systemsAt_created systems]

theorem Plays.steered (plays : mode.Plays platform sim)
    (applied : sim.systemPipeline.applyStage .preKernel world context = .ok next) : FieldKept world next := by
  rw [SystemPipeline.applyStage, plays.systemsAt] at applied
  obtain ⟨thrust, steers, rest⟩ := bind_eq_ok.mp applied
  obtain ⟨ability, acts, rest⟩ := bind_eq_ok.mp rest
  obtain ⟨turned, turns, rest⟩ := bind_eq_ok.mp rest
  cases rest
  have thrusts := ThrustSteeringSystem.apply_kept (throughMode_eq_ok.mp (RoyalePlatform.staged_eq_ok.mp steers))
  have abilities := AbilitySystem.apply_kept (throughRoyale_eq_ok.mp (RoyalePlatform.staged_eq_ok.mp acts))
  have turning := VelocityRotationSystem.apply_kept (throughRoyale_eq_ok.mp (RoyalePlatform.staged_eq_ok.mp turns))
  exact (thrusts.trans abilities).trans turning

theorem Plays.settled (plays : mode.Plays platform sim)
    (applied : sim.systemPipeline.applyStage .postKernel world context = .ok next) :
    ∃ shrunk judged, ZoneShrinkSystem.apply mode.configuration world context = .ok shrunk ∧
      ZoneEliminationSystem.apply mode.configuration shrunk = .ok judged ∧ FieldKept judged next := by
  rw [SystemPipeline.applyStage, plays.systemsAt] at applied
  obtain ⟨shrunk, shrinks, rest⟩ := bind_eq_ok.mp applied
  obtain ⟨judged, judges, rest⟩ := bind_eq_ok.mp rest
  obtain ⟨charged, charges, rest⟩ := bind_eq_ok.mp rest
  obtain ⟨stunned, stuns, rest⟩ := bind_eq_ok.mp rest
  cases rest
  refine ⟨shrunk, judged, RoyalePlatform.staged_eq_ok.mp shrinks, RoyalePlatform.staged_eq_ok.mp judges, ?_⟩
  have charging := ChargeContactSystem.apply_kept (throughRoyale_eq_ok.mp (RoyalePlatform.staged_eq_ok.mp charges))
  have stunning := StatusSystem.apply_kept (throughStatus_eq_ok (RoyalePlatform.staged_eq_ok.mp stuns))
  exact charging.trans stunning

theorem Plays.closed (plays : mode.Plays platform sim)
    (applied : sim.systemPipeline.applyStage .lifecycle world context = .ok next) :
    ∃ recorded expired spawned, PlacementRecorderSystem.apply world context = .ok recorded ∧
      LifetimeExpirySystem.apply (MatchResetSystem.apply recorded) = .ok expired ∧
      HazardSpawnSystem.apply mode.hazards expired context = .ok spawned ∧
      (royaleObjective mode.configuration).advance (EliminationGracePublisherSystem.apply
        mode.configuration.eliminationGraceTicks spawned) context = .ok next := by
  rw [SystemPipeline.applyStage, plays.systemsAt] at applied
  obtain ⟨recorded, records, rest⟩ := bind_eq_ok.mp applied
  obtain ⟨cleared, resets, rest⟩ := bind_eq_ok.mp rest
  obtain ⟨expired, expires, rest⟩ := bind_eq_ok.mp rest
  obtain ⟨spawned, spawns, rest⟩ := bind_eq_ok.mp rest
  obtain ⟨published, publishes, rest⟩ := bind_eq_ok.mp rest
  obtain ⟨closed, advances, rest⟩ := bind_eq_ok.mp rest
  cases rest
  cases RoyalePlatform.staged_eq_ok.mp resets
  cases RoyalePlatform.staged_eq_ok.mp publishes
  exact ⟨recorded, expired, spawned, RoyalePlatform.staged_eq_ok.mp records,
    throughRoyale_eq_ok.mp (RoyalePlatform.staged_eq_ok.mp expires),
    throughRoyale_eq_ok.mp (RoyalePlatform.staged_eq_ok.mp spawns), advances⟩

theorem Plays.of_frame {next : GameSimulation S} (plays : mode.Plays platform sim)
    (pipeline : next.systemPipeline = sim.systemPipeline) (seating : next.spawnPolicy = sim.spawnPolicy)
    (motion : next.motion = sim.motion) : mode.Plays platform next :=
  ⟨pipeline ▸ plays.declared, seating.trans plays.seating, motion ▸ plays.honest⟩

section Entering

variable {batch : InputBatch S} {tick : TickSequence} {trace : GameSimulation.TickTrace S}

/-- What the kernel leaves of the committed world. -/
structure Moved (before after : GameWorld S) : Prop where
  sound : RoyaleSound after
  named : Named after
  record : royaleRecord after.matchState = royaleRecord before.matchState
  fades : Fades before after
  fewer : before.matchState.phase = .running ∨ before.matchState.phase = .ended → Fewer before after

def Solves (sim : GameSimulation S) (batch : InputBatch S) (tick : TickSequence) (postKernel : StageView S) : Prop :=
  ∃ seating decisions preKernel kernel, sim.takeInputs tick batch = .ok (seating, decisions) ∧
    sim.seat tick seating = .ok preKernel ∧ sim.steer tick preKernel = .ok kernel ∧ sim.move tick kernel = .ok postKernel

theorem solves_traced (traced : sim.Traced batch tick trace) : Solves sim batch tick trace.postKernel :=
  ⟨_, _, _, _, traced.inputs, traced.seated, traced.steered, traced.moved⟩

/-- Up to the kernel a tick changes neither the match nor, once it runs, who plays it; only spawns draw ids. -/
theorem Plays.moved (plays : mode.Plays platform sim) {postKernel : StageView S}
    (solves : Solves sim batch tick postKernel) (sound : RoyaleSound sim.world) (quiet : sim.world.events = []) :
    Moved sim.world postKernel.world ∧ postKernel.context.tickSequence = tick ∧ postKernel.context.map = sim.map ∧
      batch.entityIdReservation.count ≤ postKernel.world.reservation.count + spawnCommandCount batch.commands := by
  obtain ⟨seatingView, decisions, preView, kernelView, inputs, seats, steers, moves⟩ := solves
  obtain ⟨⟨world, decided⟩, applied, rest⟩ := bind_eq_ok.mp inputs
  obtain ⟨-, -, rest⟩ := bind_eq_ok.mp rest
  obtain ⟨batchGrid, -, taken⟩ := bind_eq_ok.mp rest
  cases taken
  obtain ⟨intake, playing⟩ := applyInputBatch_entered applied
  have drawn := applyInputBatch_draws applied
  obtain ⟨⟨count, seatedWorld⟩, seated, rest⟩ := bind_eq_ok.mp seats
  obtain ⟨-, -, rest⟩ := bind_eq_ok.mp rest
  obtain ⟨grid, -, preKernel⟩ := bind_eq_ok.mp rest
  cases preKernel
  obtain ⟨steeredWorld, steered, rest⟩ := bind_eq_ok.mp steers
  obtain ⟨-, -, rest⟩ := bind_eq_ok.mp rest
  obtain ⟨pairGrid, -, kernel⟩ := bind_eq_ok.mp rest
  cases kernel
  have seating : Entered world seatedWorld := seatPendingEntities_entered seated
  have kept : FieldKept seatedWorld steeredWorld := plays.steered steered
  have opened : Entered sim.world world :=
    ⟨fun sound => intake.sound (sound.of_carried fun _ _ _ => rfl), intake.fades, intake.record, intake.events⟩
  have arrived := opened.trans seating
  have quietly : ∀ event ∈ steeredWorld.events, ∃ entity duration, event = .stunRequest entity duration := by
    obtain ⟨requests, events, asks⟩ := kept.events
    intro event member
    rw [events, arrived.events, quiet, List.nil_append] at member
    exact asks event member
  obtain ⟨solved, fewer, fades, named, record, reservation, now, map⟩ := move_kept plays.honest quietly moves
  refine ⟨⟨solved (kept.sound (arrived.sound sound)), named, ?_, (arrived.fades.trans kept.fades).trans fades,
    fun closed => ?_⟩, now, map, ?_⟩
  · rw [record]
    show royaleRecord steeredWorld.matchState = _
    rw [kept.record]
    exact arrived.record
  · have deferred : seatedWorld = world := by
      refine rotatingRing_defers (closed.imp (fun running => ?_) fun ended => ?_) (plays.seating ▸ seated)
      · exact (congrArg Prod.fst opened.record).trans running
      · exact (congrArg Prod.fst opened.record).trans ended
    have admitted : Fewer sim.world world := ⟨playing.alive, playing.exposure⟩
    exact (admitted.trans (deferred ▸ kept.fewer)).trans fewer
  · rw [reservation]
    show _ ≤ steeredWorld.reservation.count + _
    rw [kept.reservation, seatPendingEntities_reservation seated]
    exact drawn

/-- What the post-kernel stage leaves: the zone it wrote, and the counters and names read off it. -/
structure Judgement (graceTicks : Nat) (zone : Zone S) (before after : GameWorld S) : Prop where
  sound : RoyaleSound after
  named : Named after
  record : after.matchState = before.matchState
  zoned : CarriesZone zone after
  alive : aliveEntities after = aliveEntities before
  fades : before.matchState.phase ≠ .running → Fades before after
  counters : before.matchState.phase = .running → ∀ entity ∈ aliveEntities before,
    (after.stores .zoneExposure).find entity = ZoneEliminationSystem.counted (standsOutside zone before entity)
      ((before.stores .zoneExposure).find entity)
  events : ∃ (late : List EntityId) (requests : List (WorldEvent S)), after.events = before.events ++ late.map .elimination ++ requests ∧
    (∀ event ∈ requests, ∃ entity duration, event = .stunRequest entity duration) ∧ late.Pairwise (· < ·) ∧
    ∀ entity, entity ∈ late ↔ before.matchState.phase = .running ∧ entity ∈ aliveEntities before ∧
      ZoneEliminationSystem.names graceTicks (standsOutside zone before entity)
        ((before.stores .zoneExposure).find entity) = true

/-- The zone of a tick. -/
structure ZoneAt (configuration : RoyaleConfiguration S) (bounds : ArenaBounds S) (matchState : MatchState S)
    (tick : TickSequence) (zone : Zone S) : Prop where
  center : zoneCenter bounds = .ok zone.center
  radius : zone.radius = ZoneShrinkSystem.radius configuration bounds matchState tick

theorem Plays.judged (plays : mode.Plays platform sim) (sound : RoyaleSound world) (named : Named world)
    (applied : sim.systemPipeline.applyStage .postKernel world context = .ok next) :
    ∃ zone, ZoneAt mode.configuration context.map.bounds world.matchState context.tickSequence zone ∧
      Judgement mode.configuration.eliminationGraceTicks zone world next := by
  obtain ⟨shrunk, judged, shrinks, judges, kept⟩ := plays.settled applied
  obtain ⟨zone, placed, written⟩ : ∃ zone, ZoneAt mode.configuration context.map.bounds world.matchState
      context.tickSequence zone ∧ ZoneShrinkSystem.Shrunk zone world shrunk := by
    obtain ⟨center, centered, written⟩ := ZoneShrinkSystem.apply_eq_ok sound.sole shrinks
    exact ⟨_, ⟨centered, rfl⟩, written⟩
  refine ⟨zone, placed, ?_⟩
  have bodies : shrunk.bodies = world.bodies := written.rest .physicsBody (by decide)
  have exposures : shrunk.stores .zoneExposure = world.stores .zoneExposure := written.rest .zoneExposure (by decide)
  have stands : ∀ entity, standsOutside zone shrunk entity = standsOutside zone world entity := by
    intro entity
    rw [standsOutside, bodies]
    rfl
  have rosters : aliveEntities shrunk = aliveEntities world := aliveEntities_congr written.mem_alive
  obtain ⟨carrier, carries⟩ := written.carrier
  by_cases running : world.matchState.phase = .running
  · set graceTicks := mode.configuration.eliminationGraceTicks
    have judgement := ZoneEliminationSystem.apply_eq_ok ((congrArg MatchState.phase written.record).trans running)
      written.zoneOf judges
    obtain ⟨requests, requested, asks⟩ := kept.events
    refine ⟨kept.sound (judgement.sound (written.sound sound)), kept.named (judgement.named (written.named named)
      ((congrArg MatchState.phase written.record).trans running)),
      kept.record.trans (judgement.record.trans written.record), ⟨carrier, fun entity => ?_⟩,
      (aliveEntities_congr fun _ => kept.mem_alive).trans ((aliveEntities_congr judgement.mem_alive).trans rosters),
      fun idle => absurd running idle, fun _ entity alive => ?_, ?_⟩
    · rw [kept.rest .zone rfl, judgement.rest .zone (by decide)]
      exact carries entity
    · rw [kept.exposures, judgement.counter (rosters ▸ alive), stands, exposures]
    · refine ⟨_, requests, ?_, asks, ZoneEliminationSystem.namedBy_ascending graceTicks zone shrunk,
        fun entity => ?_⟩
      · rw [requested, judgement.events, written.events]
      · rw [ZoneEliminationSystem.mem_namedBy, rosters, stands, exposures]
        exact (and_iff_right running).symm
  · have idle : judged = shrunk :=
      ZoneEliminationSystem.apply_idle (fun phase => running ((congrArg MatchState.phase written.record).symm.trans phase))
        judges
    rw [idle] at kept
    obtain ⟨requests, requested, asks⟩ := kept.events
    refine ⟨kept.sound (written.sound sound), kept.named (written.named named), kept.record.trans written.record,
      ⟨carrier, fun entity => ?_⟩, (aliveEntities_congr fun _ => kept.mem_alive).trans rosters,
      fun _ => written.fades.trans kept.fades, fun phase => absurd phase running, [], requests, ?_, asks, .nil,
      fun entity => ?_⟩
    · rw [kept.rest .zone rfl]
      exact carries entity
    · rw [requested, written.events, List.map_nil, List.append_nil]
    · constructor
      · exact fun none => nomatch none
      · exact fun phase => absurd phase.1 running

def survivors (world : GameWorld S) : List EntityId :=
  (aliveEntities world).filter fun entity => !(eliminatedEntitiesOf world).contains entity

theorem mem_survivors {world : GameWorld S} {entity : EntityId} :
    entity ∈ survivors world ↔ entity ∈ aliveEntities world ∧ entity ∉ eliminatedEntitiesOf world := by
  simp [survivors]

/-- Whether the tick wipes the field: the first one back in the lobby. -/
def Wipes (matchState : MatchState S) : Prop := matchState.phase = .lobby ∧ matchState.previousPhase = .ended

/-- What the lifecycle stage and the commit leave of the world the post-kernel stage left. -/
structure Closing (graceTicks : Nat) (tick : TickSequence) (before after : GameWorld S) : Prop where
  settles : Settles before after
  quiet : after.events = []
  alive : ¬ Wipes before.matchState → aliveEntities after = survivors before
  wiped : Wipes before.matchState → ∀ entity, carried after entity .zoneExposure = false
  ranked : ∃ appended, Appended tick before (survivors before).length appended ∧
    royaleModeStateOf after.matchState.modeState =
      ⟨openedPlacements before.matchState ++ appended, before.matchState.phase, graceTicks⟩
  previousPhase : after.matchState.previousPhase = before.matchState.phase
  clock : ClockStep tick before.matchState.clock after.matchState.clock
  decided : before.matchState.phase = .running → (after.matchState.phase = .running ∧ 2 ≤ aliveCount after) ∨
    (after.matchState.phase = .ended ∧
      ((∃ winner, aliveEntities after = [winner] ∧ after.matchState.outcome = .wonByEntity winner) ∨
        (aliveEntities after = [] ∧ after.matchState.outcome = .drawn)))

theorem survivors_congr {before after : GameWorld S} {gone : EntityId → Prop} [DecidablePred gone]
    (leave : Gone gone before after) (same : ∀ entity, gone entity ↔ entity ∈ eliminatedEntitiesOf before) :
    aliveEntities after = survivors before := by
  have sorted : (survivors before).Pairwise (· < ·) := (aliveEntities_ascending before).filter _
  have members : ∀ entity, entity ∈ aliveEntities after ↔ entity ∈ survivors before := by
    intro entity
    rw [leave.mem_alive, mem_survivors, same]
  exact ((List.perm_ext_iff_of_nodup ((aliveEntities_ascending after).imp ne_of_lt) (sorted.imp ne_of_lt)).mpr
    members).eq_of_pairwise (fun _ _ _ _ less greater => absurd less (lt_asymm greater))
      (aliveEntities_ascending after) sorted

theorem despawned_cases {before after : GameWorld S} {announced : List EntityId} {entity : EntityId}
    (events : after.events = before.events ++ (eliminatedEntitiesOf before).map .despawn ++ announced.map .despawn)
    (member : entity ∈ despawnedEntities after) :
    .despawn entity ∈ before.events ∨ entity ∈ eliminatedEntitiesOf before ∨ entity ∈ announced := by
  have listed := mem_despawned member
  rw [events, List.mem_append, List.mem_append] at listed
  obtain (earlier | eliminated) | expired := listed
  · exact .inl earlier
  · obtain ⟨other, named, same⟩ := List.mem_map.mp eliminated
    cases same
    exact .inr (.inl named)
  · obtain ⟨other, named, same⟩ := List.mem_map.mp expired
    cases same
    exact .inr (.inr named)

theorem Plays.closing (plays : mode.Plays platform sim) (sound : RoyaleSound world) (named : Named world)
    {closed : GameWorld S} (applied : sim.systemPipeline.applyStage .lifecycle world context = .ok closed) :
    Closing mode.configuration.eliminationGraceTicks context.tickSequence world
      closed.applyDespawnEvents.2.closeTick := by
  obtain ⟨recorded, expired, spawned, records, expires, spawns, advances⟩ := plays.closed applied
  have record := PlacementRecorderSystem.apply_eq_ok records
  obtain ⟨appended, ranks, -, ranking⟩ := record.ranked
  obtain ⟨kept, announcedEvents, -⟩ := matchReset_frame recorded
  have expiry := LifetimeExpirySystem.apply_eq_ok expires
  have birth := hazardSpawn_spawned spawns
  have advance := advance_eq_ok advances
  obtain ⟨announced, expiredEvents, lasting⟩ := expiry.events
  have driven : ∀ entity ∈ eliminatedEntitiesOf world, entity ∈ aliveEntities world := by
    intro entity member
    exact (named.eliminated entity (mem_eliminatedEntitiesOf.mp member)).1
  have zoneless : ∀ {world : GameWorld S} {entity : EntityId}, RoyaleSound world →
      (carried world entity .physicsBody = true ∨ carried world entity .controllable = true ∨
        carried world entity .lifetime = true) → carried world entity .zone = false := by
    intro world entity sound busy
    refine Bool.eq_false_iff.mpr fun zoned => ?_
    obtain ⟨bodiless, undriven, brief⟩ := (sound.coherent entity).zone zoned
    rw [bodiless, undriven, brief] at busy
    simp at busy
  have same : recorded.matchState.phase = world.matchState.phase ∧
      recorded.matchState.previousPhase = world.matchState.previousPhase := by
    rw [ranking]
    exact ⟨rfl, rfl⟩
  have first : Settles world recorded := .of_gone record.gone sound fun entity member =>
    zoneless sound (.inr (.inl (mem_alive_iff.mp (driven entity member)).2))
  have second : Settles recorded (MatchResetSystem.apply recorded) := by
    by_cases wipes : Wipes recorded.matchState
    · exact .of_gone (matchReset_gone wipes) first.sound fun entity member =>
        zoneless first.sound (.inr (.inl (SortedStore.mem_keys_iff.mp member)))
    · exact .of_stores first.sound (by rw [matchReset_idle wipes])
  have third : Settles (MatchResetSystem.apply recorded) expired := .of_expired expiry second.sound
  have fourth : Settles expired spawned := .of_spawned birth third.sound
  have fifth : Settles spawned closed := .of_stores fourth.sound advance.untouched.stores
  have late : Settles (MatchResetSystem.apply recorded) closed := (third.trans fourth).trans fifth
  have events : closed.events =
      world.events ++ (eliminatedEntitiesOf world).map .despawn ++ announced.map .despawn := by
    rw [advance.untouched.events]
    show spawned.events = _
    rw [birth.events, expiredEvents, announcedEvents, record.events]
  have leaving : ∀ entity ∈ despawnedEntities closed,
      carried closed entity .zone = false ∧ entity ∉ aliveEntities closed := by
    intro entity member
    have early := first.trans second
    have unzoned : carried closed entity .zone = carried world entity .zone := by
      rw [carried, carried, late.zones, early.zones]
    rw [unzoned]
    obtain nobodys | eliminated | expires := despawned_cases events member
    · obtain ⟨bodied, undriven⟩ := named.despawned entity nobodys
      refine ⟨zoneless sound (.inl bodied), fun alive => ?_⟩
      have lived := mem_alive_iff.mp (early.fewer.alive entity (late.fewer.alive entity alive))
      rw [undriven] at lived
      cases lived.2
    · refine ⟨zoneless sound (.inr (.inl (mem_alive_iff.mp (driven entity eliminated)).2)), fun alive => ?_⟩
      have stays := second.fewer.alive entity (late.fewer.alive entity alive)
      exact (record.gone.mem_alive.mp stays).2 eliminated
    · have brief := lasting entity expires
      refine ⟨?_, fun alive => ?_⟩
      · rw [carried, ← early.zones]
        exact zoneless second.sound (.inr (.inr brief))
      · have lived := mem_alive_iff.mp (late.fewer.alive entity alive)
        rw [(second.sound.coherent entity).lifetime brief] at lived
        cases lived.2
  have removed : Settles closed closed.applyDespawnEvents.2 :=
    .of_gone (applyDespawnEvents_gone closed) fifth.sound fun entity member => (leaving entity member).1
  have committed : Settles closed.applyDespawnEvents.2 closed.applyDespawnEvents.2.closeTick :=
    .of_stores removed.sound rfl
  have published : spawned.matchState = recorded.matchState := by
    rw [birth.record, expiry.record, kept]
  have final : closed.applyDespawnEvents.2.closeTick.matchState = closed.matchState :=
    closed.applyDespawnEvents_matchState
  have staying : ¬ Wipes world.matchState →
      aliveEntities spawned = survivors world ∧
        aliveEntities closed.applyDespawnEvents.2.closeTick = survivors world := by
    intro calm
    have idle : MatchResetSystem.apply recorded = recorded :=
      matchReset_idle fun wipes => calm ⟨same.1.symm.trans wipes.1, same.2.symm.trans wipes.2⟩
    have outlived := survivors_congr record.gone fun _ => Iff.rfl
    have expiring : aliveEntities expired = survivors world := by
      rw [← outlived, ← idle]
      refine aliveEntities_congr fun entity => ?_
      rw [mem_alive_iff, mem_alive_iff, expiry.carried, expiry.carried]
    have spawning : aliveEntities spawned = survivors world :=
      (aliveEntities_congr fun _ => birth.mem_alive).trans expiring
    refine ⟨spawning, (aliveEntities_congr fun entity => ?_).trans spawning⟩
    have advanced : entity ∈ aliveEntities closed ↔ entity ∈ aliveEntities spawned := by
      rw [mem_alive_iff, mem_alive_iff, carried, carried, advance.untouched.stores]
      rfl
    refine (applyDespawnEvents_gone closed).mem_alive.trans (Iff.trans ?_ advanced)
    exact ⟨And.left, fun alive => ⟨alive, fun member => (leaving entity member).2 alive⟩⟩
  refine ⟨((first.trans second).trans late).trans (removed.trans committed), rfl, fun calm => (staying calm).2,
    fun wipes entity => ?_, ⟨appended, ?_, ?_⟩, ?_, ?_, fun running => ?_⟩
  · refine Bool.eq_false_iff.mpr fun held => ?_
    have counted := (late.fades.trans (removed.fades.trans committed.fades)) entity held
    rw [(matchReset_gone ⟨same.1.trans wipes.1, same.2.trans wipes.2⟩).carried] at counted
    split at counted
    · cases counted
    · next stays =>
      exact stays (SortedStore.mem_keys_iff.mpr ((first.sound.coherent entity).exposure counted))
  · have outlived := survivors_congr record.gone fun _ => Iff.rfl
    rw [← outlived]
    exact ranks
  · rw [final, advance.modeState]
    show ({ royaleModeStateOf spawned.matchState.modeState with
      eliminationGraceTicks := mode.configuration.eliminationGraceTicks } : RoyaleBlock) = _
    rw [published, ranking]
    rfl
  · rw [final, advance.previousPhase]
    show spawned.matchState.phase = _
    rw [published]
    exact same.1
  · rw [final]
    have taken : (EliminationGracePublisherSystem.apply mode.configuration.eliminationGraceTicks
        spawned).matchState.clock = world.matchState.clock := by
      show spawned.matchState.clock = _
      rw [published, ranking]
      rfl
    rw [← taken]
    exact advance.clock
  · have calm : ¬ Wipes world.matchState := by
      intro wipes
      rw [wipes.1] at running
      cases running
    obtain ⟨spawning, ending⟩ := staying calm
    have verdict := advance.decided (by
      show spawned.matchState.phase = _
      rw [published, same.1]
      exact running)
    rw [final, ending, aliveCount, ending, ← spawning]
    exact verdict

end Entering

end RoyaleMode

end BlobRoyale.Gameplay
