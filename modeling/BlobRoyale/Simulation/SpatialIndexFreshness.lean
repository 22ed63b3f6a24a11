import BlobRoyale.Simulation.GameSimulation
import BlobRoyale.Simulation.IntakeEffects

/-!
# Freshness of the spatial index

The committed index is the rebuild of the committed world, whatever the systems and the solver did.
A stage is handed the rebuild of the bodies it finds, except the lifecycle stage, which is handed
the context of the post-kernel stage.
-/

namespace BlobRoyale.Simulation

open Transition

variable {S : Type} [Scalar S]

/-- The index published with a view is the rebuild of its world. -/
def StageView.Fresh (view : StageView S) : Prop :=
  SpatialGrid.create view.context.simulationConfig view.context.map.bounds view.world =
    .ok view.context.spatialIndex

instance (view : StageView S) : Decidable view.Fresh := inferInstanceAs (Decidable (_ = Except.ok _))

/-- The committed index is the rebuild of the committed world. -/
def GameSimulation.Fresh (sim : GameSimulation S) : Prop :=
  SpatialGrid.create sim.configuration sim.map.bounds sim.world = .ok sim.grid

instance (sim : GameSimulation S) : Decidable sim.Fresh := inferInstanceAs (Decidable (_ = Except.ok _))

section Refreshes

variable {configuration : SimulationConfig S} {bounds : ArenaBounds S} {world other : GameWorld S}
  {grid refreshed : SpatialGrid S} {stale : Bool}

/-- A refresh skipped only for the same indexed bodies leaves the rebuild, if there is one. -/
theorem SpatialGrid.refreshed_unique {rebuild : SpatialGrid S}
    (created : create configuration bounds world = .ok grid)
    (skips : stale = false → indexedBodiesOf world = indexedBodiesOf other)
    (refreshes : grid.refreshed stale other = .ok refreshed)
    (rebuilt : create configuration bounds other = .ok rebuild) : rebuild = refreshed := by
  cases stale with
  | true =>
    have built : grid.rebuilt other = .ok refreshed := refreshes
    rw [rebuilt_eq created, rebuilt] at built
    exact Except.ok.inj built
  | false =>
    cases refreshes
    exact create_unique (skips rfl) created rebuilt

theorem SpatialGrid.refreshed_frame (refreshes : grid.refreshed stale other = .ok refreshed) :
    refreshed.configuration = grid.configuration ∧ refreshed.bounds = grid.bounds := by
  cases stale with
  | true =>
    obtain ⟨configuration, bounds, -⟩ := create_eq_ok refreshes
    exact ⟨configuration, bounds⟩
  | false =>
    cases refreshes
    exact ⟨rfl, rfl⟩

/-- A refresh skipped only for the same indexed bodies, fitting their envelopes, is a rebuild. -/
theorem SpatialGrid.refreshed_create (created : create configuration bounds world = .ok grid)
    (skips : stale = false → indexedBodiesOf world = indexedBodiesOf other ∧
      Fits configuration bounds other)
    (refreshes : grid.refreshed stale other = .ok refreshed) :
    create configuration bounds other = .ok refreshed := by
  cases stale with
  | true => exact (rebuilt_eq created).symm.trans refreshes
  | false =>
    cases refreshes
    exact create_congr (skips rfl).1 (skips rfl).2 created

end Refreshes

/-- Every body of `next` is a body of `world`. -/
def BodiesOf (world next : GameWorld S) : Prop :=
  ∀ entity body, next.bodies.find entity = some body → world.bodies.find entity = some body

theorem BodiesOf.fits {world next : GameWorld S} {configuration : SimulationConfig S}
    {bounds : ArenaBounds S} (subset : BodiesOf world next) (fits : Fits configuration bounds world) :
    Fits configuration bounds next := by
  intro entry member
  have found := subset entry.1 entry.2 (SortedStore.find_eq_some_iff.mpr member)
  exact fits entry (SortedStore.find_eq_some_iff.mp found)

theorem Applies.bodiesOf {seatCeiling : Nat} {world next : GameWorld S} {command : Command S}
    (applies : Applies seatCeiling world command next) : BodiesOf world next := by
  have removed : ∀ (entities : List EntityId), BodiesOf world (entities.foldl GameWorld.destroyEntity world) := by
    intro entities entity body found
    rw [GameWorld.bodies, GameWorld.destroyEntities_find] at found
    split at found
    · cases found
    · exact found
  cases applies with
  | despawned command => exact removed [command.entity]
  | alreadyEmbodied | judged | lobbyClosed | lobbyChanged | joined => exact fun _ _ found => found
  | spawned command created drawn controllables bodiless draws =>
    obtain ⟨rest, -, -, rfl⟩ := GameWorld.createEntity_eq_ok draws
    intro entity body found
    rwa [GameWorld.bodies, GameWorld.withControllables, GameWorld.withStore_other _ (by decide)] at found
  | left command => exact removed (world.driven command.controller)
  | recorded =>
    intro entity body found
    unfold GameWorld.recordCommand at found
    split at found
    · exact found
    · rwa [GameWorld.bodies, GameWorld.withControllables, GameWorld.withStore_other _ (by decide)] at found

theorem applyInputBatch_bodiesOf {world next : GameWorld S} {batch : InputBatch S} {seatCeiling : Nat}
    {tick : TickSequence} {decisions : List MovementTuningDecision}
    (applied : applyInputBatch world batch seatCeiling tick = .ok (next, decisions)) :
    BodiesOf world next := by
  refine @applyInputBatch_preserves _ _ (BodiesOf world) _ _ _ _ _ _ applied ?_ ?_ fun _ _ held => held
  · intro entity body found
    rwa [GameWorld.bodies, GameWorld.clearCommandsThisTick, GameWorld.withControllables,
      GameWorld.withStore_other _ (by decide)] at found
  · intro command member before after held applies entity body found
    exact held entity body (applies.bodiesOf entity body found)

theorem requireCommittedBodiesInBounds_fits {world : GameWorld S} {map : MapDefinition S}
    {configuration : SimulationConfig S}
    (bounded : requireCommittedBodiesInBounds world map configuration = .ok ()) :
    Fits configuration map.bounds world := by
  have checked : ∀ entries : List (EntityId × PhysicsBody S),
      entries.forM (requireCommittedBodyInBounds configuration map) = .ok () →
      ∀ entry ∈ entries,
        motionBodyEnvelopeViolation entry.2 map.bounds configuration.playerRadius = none := by
    intro entries
    induction entries with
    | nil => exact fun _ _ member => by cases member
    | cons entry rest ih =>
      intro passes other member
      obtain ⟨⟨⟩, first, later⟩ := bind_eq_ok.mp passes
      obtain rfl | member := List.mem_cons.mp member
      · unfold requireCommittedBodyInBounds at first
        split at first
        · next fits => exact fits
        · cases first
        · cases first
      · exact ih later other member
  exact checked _ bounded

/-- A destroyed entity is found by no despawn event, so a world without removals survives whole. -/
theorem GameWorld.applyDespawnEvents_none {world : GameWorld S}
    (none : world.applyDespawnEvents.1 = false) : world.applyDespawnEvents.2 = world := by
  unfold applyDespawnEvents at none ⊢
  dsimp only at none ⊢
  rw [Bool.not_eq_false', List.isEmpty_iff] at none
  rw [none, List.foldl_nil]

namespace GameSimulation

variable {sim : GameSimulation S} {batch : InputBatch S} {tick : TickSequence}
  {view next postKernel lifecycle : StageView S}

/-- The view of a stage of this simulation's tick. -/
def Publishes (sim : GameSimulation S) (tick : TickSequence) (view : StageView S) : Prop :=
  view.context = sim.contextAt tick view.context.spatialIndex

theorem Publishes.fresh_iff (published : sim.Publishes tick view) :
    view.Fresh ↔ SpatialGrid.create sim.configuration sim.map.bounds view.world =
      .ok view.context.spatialIndex := by
  rw [StageView.Fresh, published]
  rfl

theorem takeInputs_fresh (fresh : sim.Fresh) {decisions : List MovementTuningDecision}
    (inputs : sim.takeInputs tick batch = .ok (view, decisions)) :
    sim.Publishes tick view ∧ view.Fresh := by
  obtain ⟨⟨world, _⟩, applied, rest⟩ := bind_eq_ok.mp inputs
  obtain ⟨-, -, rest⟩ := bind_eq_ok.mp rest
  obtain ⟨grid, refreshes, committed⟩ := bind_eq_ok.mp rest
  cases committed
  have subset : BodiesOf (sim.world.openTick batch.entityIdReservation) world :=
    applyInputBatch_bodiesOf applied
  refine ⟨rfl, SpatialGrid.refreshed_create fresh (fun skip => ⟨?_, ?_⟩) refreshes⟩
  · exact (not_not.mp (of_decide_eq_false skip)).symm
  · exact @BodiesOf.fits _ _ _ _ _ _ subset (SpatialGrid.create_eq_ok fresh).2.2

theorem seat_fresh (published : sim.Publishes tick view) (fresh : view.Fresh)
    (seats : sim.seat tick view = .ok next) : sim.Publishes tick next ∧ next.Fresh := by
  obtain ⟨⟨count, world⟩, seated, rest⟩ := bind_eq_ok.mp seats
  obtain ⟨-, -, rest⟩ := bind_eq_ok.mp rest
  obtain ⟨grid, refreshes, committed⟩ := bind_eq_ok.mp rest
  cases committed
  have built := published.fresh_iff.mp fresh
  refine ⟨rfl, SpatialGrid.refreshed_create built (fun skip => ?_) refreshes⟩
  obtain rfl : count = 0 := not_not.mp (of_decide_eq_false skip)
  obtain rfl := SpawnPolicy.seatPendingEntities_none seated
  exact ⟨rfl, (SpatialGrid.create_eq_ok built).2.2⟩

theorem steer_unique (published : sim.Publishes tick view) (fresh : view.Fresh)
    (steers : sim.steer tick view = .ok next) :
    sim.Publishes tick next ∧
      (next.context.spatialIndex.configuration = sim.configuration ∧
        next.context.spatialIndex.bounds = sim.map.bounds) ∧
      ∀ rebuild, SpatialGrid.create sim.configuration sim.map.bounds next.world = .ok rebuild →
        rebuild = next.context.spatialIndex := by
  obtain ⟨world, applied, rest⟩ := bind_eq_ok.mp steers
  obtain ⟨-, -, rest⟩ := bind_eq_ok.mp rest
  obtain ⟨grid, refreshes, committed⟩ := bind_eq_ok.mp rest
  cases committed
  have built := published.fresh_iff.mp fresh
  obtain ⟨configuration, bounds, -⟩ := SpatialGrid.create_eq_ok built
  obtain ⟨sameConfiguration, sameBounds⟩ := SpatialGrid.refreshed_frame refreshes
  refine ⟨rfl, ⟨sameConfiguration.trans configuration, sameBounds.trans bounds⟩, fun rebuild rebuilt => ?_⟩
  refine SpatialGrid.refreshed_unique built (fun skip => ?_) refreshes rebuilt
  obtain undeclared | still := Bool.and_eq_false_iff.mp skip
  · rw [SystemPipeline.applyStage_of_undeclared undeclared applied]
  · exact not_not.mp (of_decide_eq_false still)

theorem move_fresh (frame : view.context.spatialIndex.configuration = sim.configuration ∧
      view.context.spatialIndex.bounds = sim.map.bounds)
    (moves : sim.move tick view = .ok next) : sim.Publishes tick next ∧ next.Fresh := by
  obtain ⟨policies, -, rest⟩ := bind_eq_ok.mp moves
  obtain ⟨solve, -, rest⟩ := bind_eq_ok.mp rest
  obtain ⟨subjects, -, rest⟩ := bind_eq_ok.mp rest
  obtain ⟨motion, -, rest⟩ := bind_eq_ok.mp rest
  obtain ⟨world, -, rest⟩ := bind_eq_ok.mp rest
  obtain ⟨grid, rebuilt, committed⟩ := bind_eq_ok.mp rest
  cases committed
  rw [SpatialGrid.rebuilt, frame.1, frame.2] at rebuilt
  exact ⟨rfl, rebuilt⟩

theorem settle_context (settles : sim.settle view = .ok next) :
    next.context = view.context ∧
      sim.systemPipeline.applyStage .postKernel view.world view.context = .ok next.world := by
  obtain ⟨world, applied, committed⟩ := bind_eq_ok.mp settles
  cases committed
  exact ⟨rfl, applied⟩

theorem commit_fresh (published : sim.Publishes tick postKernel) (fresh : postKernel.Fresh)
    (settles : sim.settle postKernel = .ok lifecycle) {committed : GameSimulation S}
    (commits : sim.commit tick postKernel lifecycle = .ok committed) : committed.Fresh := by
  obtain ⟨closed, grid, applied, bounded, refreshes, rfl⟩ := commit_eq_ok commits
  have built := published.fresh_iff.mp fresh
  have fits := requireCommittedBodiesInBounds_fits bounded
  refine @SpatialGrid.refreshed_create _ _ _ _ _ _ _ _ _ built (fun skip => ⟨?_, fits⟩) refreshes
  obtain ⟨unremoved, skip⟩ := Bool.or_eq_false_iff.mp skip
  obtain undeclared | still := Bool.and_eq_false_iff.mp skip
  · obtain ⟨post, late⟩ := Bool.or_eq_false_iff.mp undeclared
    have settled := SystemPipeline.applyStage_of_undeclared post (settle_context settles).2
    have finished := SystemPipeline.applyStage_of_undeclared late applied
    rw [GameWorld.applyDespawnEvents_none unremoved, finished, settled]
    rfl
  · exact not_not.mp (of_decide_eq_false still)

variable {trace : TickTrace S}

theorem Traced.views_fresh (traced : sim.Traced batch tick trace) (fresh : sim.Fresh) :
    trace.seating.Fresh ∧ trace.preKernel.Fresh ∧
      (∀ rebuild, SpatialGrid.create sim.configuration sim.map.bounds trace.kernel.world = .ok rebuild →
        rebuild = trace.kernel.context.spatialIndex) ∧
      sim.Publishes tick trace.postKernel ∧ trace.postKernel.Fresh := by
  obtain ⟨seatingPublished, seating⟩ := takeInputs_fresh fresh traced.inputs
  obtain ⟨preKernelPublished, preKernel⟩ := seat_fresh seatingPublished seating traced.seated
  obtain ⟨-, frame, kernel⟩ := steer_unique preKernelPublished preKernel traced.steered
  exact ⟨seating, preKernel, kernel, move_fresh frame traced.moved⟩

theorem Traced.committed_fresh (traced : sim.Traced batch tick trace) (fresh : sim.Fresh) :
    trace.committed.Fresh := by
  obtain ⟨-, -, -, published, postKernel⟩ := traced.views_fresh fresh
  exact commit_fresh published postKernel traced.settled traced.committed

/-- The whole tick: what is committed, and what every stage is handed. -/
theorem spatial_index_never_stale (fresh : sim.Fresh) (traces : sim.trace batch = .ok trace) :
    trace.committed.Fresh ∧ trace.seating.Fresh ∧ trace.preKernel.Fresh ∧
      (∀ rebuild, SpatialGrid.create sim.configuration sim.map.bounds trace.kernel.world = .ok rebuild →
        rebuild = trace.kernel.context.spatialIndex) ∧
      trace.postKernel.Fresh ∧ trace.lifecycle.context = trace.postKernel.context ∧
      (indexedBodiesOf trace.postKernel.world = indexedBodiesOf trace.lifecycle.world →
        ∀ rebuild, SpatialGrid.create sim.configuration sim.map.bounds trace.lifecycle.world =
          .ok rebuild → rebuild = trace.lifecycle.context.spatialIndex) := by
  obtain ⟨tick, traced⟩ := trace_eq_ok traces
  obtain ⟨seating, preKernel, kernel, published, postKernel⟩ := traced.views_fresh fresh
  have lifecycle := (settle_context traced.settled).1
  refine ⟨traced.committed_fresh fresh, seating, preKernel, kernel, postKernel, lifecycle, ?_⟩
  intro same rebuild rebuilt
  rw [lifecycle]
  exact SpatialGrid.create_unique same (published.fresh_iff.mp postKernel) rebuilt

theorem create_fresh {configuration : SimulationConfig S} {world : GameWorld S} {limits : MotionLimits}
    {map : MapDefinition S} {mode : GameMode S}
    (created : create configuration world limits map mode = .ok sim) : sim.Fresh := by
  obtain ⟨-, -, rest⟩ := bind_eq_ok.mp created
  obtain ⟨-, -, rest⟩ := bind_eq_ok.mp rest
  obtain ⟨-, -, rest⟩ := bind_eq_ok.mp rest
  obtain ⟨-, -, rest⟩ := bind_eq_ok.mp rest
  obtain ⟨-, -, rest⟩ := bind_eq_ok.mp rest
  obtain ⟨-, -, rest⟩ := bind_eq_ok.mp rest
  obtain ⟨pipeline, -, rest⟩ := bind_eq_ok.mp rest
  obtain ⟨grid, built, committed⟩ := bind_eq_ok.mp rest
  cases committed
  exact built

theorem run_fresh {length : Nat} (run : Run (@Steps S _) length) (start : (run.state 0).Fresh) :
    ∀ position, position ≤ length → (run.state position).Fresh := by
  refine run.invariant start fun fresh step => ?_
  obtain ⟨decisions, stepped⟩ := step
  obtain ⟨trace, traces, rfl, -⟩ := step_eq_ok.mp stepped
  obtain ⟨tick, traced⟩ := trace_eq_ok traces
  exact traced.committed_fresh fresh

section OneCell

/-- A post-kernel system that puts a body in the middle of the arena. -/
def lateArrival : SimulationSystem ℚ :=
  ⟨"late_arrival", fun world _ => world.seatBodyAtRest .first ⟨50, 50, by decide, by decide⟩ 1⟩

/-- The lifecycle stage is handed an index without the body that stands in its world. -/
theorem lifecycle_index_stale :
    (oneCellSimulation [⟨.postKernel, lateArrival⟩]).Fresh ∧
      ∃ trace, (oneCellSimulation [⟨.postKernel, lateArrival⟩]).trace .empty = .ok trace ∧
        ¬ trace.lifecycle.Fresh := by
  refine ⟨by decide +kernel, ?_⟩
  have stale : (match (oneCellSimulation [⟨.postKernel, lateArrival⟩]).trace .empty with
    | .ok trace => decide (¬ trace.lifecycle.Fresh)
    | .error _ => false) = true := by decide +kernel
  split at stale
  · next trace traces => exact ⟨trace, traces, of_decide_eq_true stale⟩
  · cases stale

theorem spatial_index_never_stale_late_arrival :
    ∃ trace, (oneCellSimulation [⟨.postKernel, lateArrival⟩]).trace .empty = .ok trace ∧
      trace.committed.Fresh ∧ trace.postKernel.Fresh := by
  have succeeds : ((oneCellSimulation [⟨.postKernel, lateArrival⟩]).trace .empty).isOk = true := by
    decide +kernel
  cases traces : (oneCellSimulation [⟨.postKernel, lateArrival⟩]).trace .empty with
  | error refusal =>
    rw [traces] at succeeds
    cases succeeds
  | ok trace =>
    obtain ⟨committed, -, -, -, postKernel, -⟩ :=
      spatial_index_never_stale (by decide +kernel) traces
    exact ⟨trace, rfl, committed, postKernel⟩

end OneCell

end GameSimulation

end BlobRoyale.Simulation
