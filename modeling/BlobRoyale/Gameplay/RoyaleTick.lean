import BlobRoyale.Gameplay.RoyaleField
import BlobRoyale.Library.Passes

/-!
# A royale tick, up to its lifecycle stage

What phase 0, the seating, the steering systems and the kernel each leave of the players, and what the zone's two
systems then read.
-/

namespace BlobRoyale.Gameplay

open Simulation Transition

variable {S : Type} [Scalar S]

/-- The part of the match record that phase 0 and the seating leave alone. -/
def royaleRecord (matchState : MatchState S) : MatchPhase × MatchPhase × TickSequence × TickSequence × ModeMatchState S :=
  (matchState.phase, matchState.previousPhase, matchState.phaseStartedTick, matchState.runningStartedTick,
    matchState.modeState)

/-- Nobody comes alive, no event is emitted and the match goes on as it was. -/
structure Entered (before after : GameWorld S) : Prop where
  sound : RoyaleSound before → RoyaleSound after
  fades : Fades before after
  record : royaleRecord after.matchState = royaleRecord before.matchState
  events : after.events = before.events

theorem Entered.trans {first second third : GameWorld S} (left : Entered first second) (right : Entered second third) :
    Entered first third :=
  ⟨right.sound ∘ left.sound, left.fades.trans right.fades, right.record.trans left.record,
    right.events.trans left.events⟩

theorem Entered.refl (world : GameWorld S) : Entered world world := ⟨id, fun _ held => held, rfl, rfl⟩

section Intake

variable {world next : GameWorld S} {command : Command S} {seatCeiling : Nat} {entity : EntityId}

theorem fieldKept_recordCommand (world : GameWorld S) (command : Command S) :
    FieldKept world (world.recordCommand command) := by
  unfold GameWorld.recordCommand
  split
  · exact .refl world
  · exact .modifyLink fun _ => rfl

theorem fieldKept_clearCommandsThisTick (world : GameWorld S) : FieldKept world world.clearCommandsThisTick := by
  refine ⟨fun other => ?_, fun other => GameWorld.controllerOf_clearCommandsThisTick world other, fun kind apart => ?_,
    rfl, rfl, rfl, [], (List.append_nil _).symm, fun _ none => nomatch none⟩
  · exact congrArg (fun store : ComponentStore (PhysicsBody S) => (store.find other).isSome)
      (GameWorld.withStore_other _ (show ComponentKind.physicsBody ≠ .controllable by decide))
  · refine GameWorld.withStore_other _ fun same => ?_
    rw [same] at apart
    cases apart

theorem born_spawned {command : SpawnCommand} {created : EntityId} {drawn : GameWorld S}
    {controllables : ComponentStore (Controllable S)} (draws : world.createEntity = .ok (created, drawn))
    (inserted : drawn.controllables.insertOrAssign created (.linked command.controller) = .ok controllables) :
    Born created world (drawn.withControllables controllables) := by
  obtain ⟨rest, -, fresh, rfl⟩ := GameWorld.createEntity_eq_ok draws
  have found := ComponentStore.find_of_insertOrAssign inserted
  have others : ∀ kind, kind ≠ .controllable →
      (({ world with reservation := rest } : GameWorld S).withControllables controllables).stores kind =
        world.stores kind := fun kind other => GameWorld.withStore_other _ other
  have bare : ∀ kind, kind ≠ .controllable → carried
      (({ world with reservation := rest } : GameWorld S).withControllables controllables) created kind = false := by
    intro kind other
    rw [carried, others kind other, find_of_fresh fresh]
    rfl
  refine ⟨fresh, fun kind _ entity different => ?_, ⟨fun held => ?_, fun held => ?_, fun held => ?_⟩,
    .inl (bare .physicsBody (by decide))⟩
  · by_cases link : kind = .controllable
    · subst link
      rw [GameWorld.withControllables, GameWorld.withStore_same, found, if_neg different]
    · rw [others kind link]
  · rw [bare .zone (by decide)] at held
    cases held
  · rw [bare .lifetime (by decide)] at held
    cases held
  · rw [bare .zoneExposure (by decide)] at held
    cases held

theorem applies_entered (applies : Applies seatCeiling world command next) :
    Entered world next ∧ Fewer world next := by
  have kept : FieldKept world next → royaleRecord next.matchState = royaleRecord world.matchState →
      next.events = world.events → Entered world next ∧ Fewer world next :=
    fun kept record events => ⟨⟨kept.sound, kept.fades, record, events⟩, kept.fewer⟩
  have same (other : GameWorld S) (stores : other.stores = world.stores)
      (record : royaleRecord other.matchState = royaleRecord world.matchState) (events : other.events = world.events) :
      Entered world other ∧ Fewer world other := by
    have carriers : ∀ entity kind, carried other entity kind = carried world entity kind := by
      intro entity kind
      rw [carried, carried, stores]
    refine ⟨⟨fun sound => sound.of_carried fun kind _ entity => carriers entity kind, fun entity held => ?_, record,
      events⟩, fun entity member => ?_, fun entity _ => by rw [stores]⟩
    · rwa [carriers] at held
    · rw [mem_alive_iff, carriers, carriers] at member
      exact mem_alive_iff.mpr member
  cases applies with
  | despawned command =>
    have gone := gone_destroyed [command.entity] world
    exact ⟨⟨gone.sound, gone.fades, rfl, rfl⟩, gone.fewer⟩
  | alreadyEmbodied | judged | lobbyClosed => exact kept (.refl world) rfl rfl
  | spawned command created drawn controllables bodiless draws inserted =>
    have born := born_spawned draws inserted
    obtain ⟨rest, -, fresh, rfl⟩ := GameWorld.createEntity_eq_ok draws
    have apart : carried (({ world with reservation := rest } : GameWorld S).withControllables controllables) created
        .zone = false := by
      rw [carried, GameWorld.withControllables, GameWorld.withStore_other _ (by decide), find_of_fresh fresh]
      rfl
    have bare : carried (({ world with reservation := rest } : GameWorld S).withControllables controllables) created
        .zoneExposure = false := by
      rw [carried, GameWorld.withControllables, GameWorld.withStore_other _ (by decide), find_of_fresh fresh]
      rfl
    refine ⟨⟨fun sound => born.sound sound fun zoned => ?_, born.fades bare, rfl, rfl⟩, born.fewer⟩
    rw [apart] at zoned
    cases zoned
  | lobbyChanged | joined => exact same _ rfl rfl rfl
  | left command =>
    have gone := gone_destroyed (world.driven command.controller) world
    obtain ⟨record, -, events⟩ := GameWorld.destroyEntities_frame (world.driven command.controller) world
    have left : Gone (· ∈ world.driven command.controller) world (world.applyLeave command.controller) := gone
    refine ⟨⟨left.sound, left.fades, ?_, events⟩, left.fewer⟩
    rw [GameWorld.applyLeave_matchState]
    rfl
  | recorded =>
    refine kept (fieldKept_recordCommand world _) ?_ ?_
    · rw [GameWorld.recordCommand_matchState]
    · unfold GameWorld.recordCommand
      split <;> rfl

theorem applyInputBatch_entered {batch : InputBatch S} {tick : TickSequence} {decisions : List MovementTuningDecision}
    (applied : applyInputBatch world batch seatCeiling tick = .ok (next, decisions)) :
    Entered world next ∧ Fewer world next := by
  have cleared := fieldKept_clearCommandsThisTick world
  refine applyInputBatch_preserves (P := fun after => Entered world after ∧ Fewer world after) applied
    ⟨⟨cleared.sound, cleared.fades, rfl, rfl⟩, cleared.fewer⟩ ?_ ?_
  · intro command _ before after held applies
    have step := applies_entered applies
    exact ⟨held.1.trans step.1, held.2.trans step.2⟩
  · intro before movement held
    exact ⟨⟨fun sound => (held.1.sound sound).of_carried fun _ _ _ => rfl, held.1.fades, held.1.record, held.1.events⟩,
      held.2.alive, held.2.exposure⟩

theorem applies_draws (applies : Applies seatCeiling world command next) :
    world.reservation.count ≤ next.reservation.count + spawnCommandCount [command] := by
  have kept : next.reservation = world.reservation →
      world.reservation.count ≤ next.reservation.count + spawnCommandCount [command] := by
    intro same
    rw [same]
    exact Nat.le_add_right _ _
  cases applies with
  | despawned | alreadyEmbodied | judged | lobbyClosed | lobbyChanged | joined => exact kept rfl
  | spawned command created drawn controllables bodiless draws inserted =>
    obtain ⟨rest, drew, -, rfl⟩ := GameWorld.createEntity_eq_ok draws
    obtain ⟨-, count, -⟩ := EntityIdReservation.drawNext_eq_ok drew
    exact le_of_eq count.symm
  | left command =>
    exact kept (GameWorld.destroyEntities_frame (world.driven command.controller) world).2.1
  | recorded command =>
    refine kept ?_
    unfold GameWorld.recordCommand
    split <;> rfl

theorem applyInputBatch_draws {batch : InputBatch S} {tick : TickSequence} {decisions : List MovementTuningDecision}
    (applied : applyInputBatch world batch seatCeiling tick = .ok (next, decisions)) :
    world.reservation.count ≤ next.reservation.count + spawnCommandCount batch.commands := by
  have folded : ∀ (commands : List (Command S)) (revision : Nat) (pass final : IntakePass S),
      pass.applyCommands seatCeiling tick revision commands = .ok final →
      pass.world.reservation.count ≤ final.world.reservation.count + spawnCommandCount commands := by
    intro commands revision
    induction commands with
    | nil =>
      intro pass final done
      cases done
      exact Nat.le_add_right _ _
    | cons command rest ih =>
      intro pass final done
      rw [IntakePass.applyCommands, List.foldlM_cons] at done
      obtain ⟨middle, first, done⟩ := bind_eq_ok.mp done
      have one := applies_draws (IntakePass.applyCommand_applies first).1
      have others := ih middle final done
      rw [spawnCommandCount_cons]
      omega
  obtain ⟨pass, passed, committed⟩ := applyInputBatch_eq_ok applied
  obtain ⟨movement, closed⟩ := pass.close_world tick world.matchState.movement.revision
  rw [show next = _ from congrArg Prod.fst committed, closed]
  exact folded _ _ _ _ passed

end Intake

section Seating

variable {world next : GameWorld S} {context : TickContext S} {entity : EntityId} {count : Nat}

theorem seatBodyAtRest_entered {position : Vector2 S} {playerRadius : S}
    (linked : carried world entity .controllable = true)
    (seats : world.seatBodyAtRest entity position playerRadius = .ok next) :
    Entered world next ∧ ∀ other, carried next other .controllable = carried world other .controllable := by
  obtain ⟨rest, -, seats⟩ := bind_eq_ok.mp seats
  obtain ⟨body, -, seats⟩ := bind_eq_ok.mp seats
  obtain ⟨bodies, inserted, seats⟩ := bind_eq_ok.mp seats
  cases seats
  have found := ComponentStore.find_of_insertOrAssign inserted
  have links : FieldKept (world.withBodies bodies) ((world.withBodies bodies).withControllables
      ((world.withBodies bodies).controllables.modify entity fun controllable =>
        { controllable with normalizedThrustIntent := none, brakingIntent := false })) := .modifyLink fun _ => rfl
  have rest : ∀ kind, kind ≠ .physicsBody → ∀ other,
      carried (world.withBodies bodies) other kind = carried world other kind := by
    intro kind other entity
    rw [carried, GameWorld.withBodies, GameWorld.withStore_other _ other]
    rfl
  have embodied : RoyaleSound world → RoyaleSound (world.withBodies bodies) := by
    intro sound
    refine ⟨fun first second left right => ?_, fun other => ?_⟩
    · exact sound.sole first second ((rest .zone (by decide) first).symm.trans left)
        ((rest .zone (by decide) second).symm.trans right)
    · obtain ⟨zone, lifetime, exposure⟩ := sound.coherent other
      refine ⟨fun held => ?_, ?_, ?_⟩
      · rw [rest .zone (by decide)] at held
        obtain ⟨bodiless, undriven, brief⟩ := zone held
        rw [rest .controllable (by decide), rest .lifetime (by decide)]
        refine ⟨?_, undriven, brief⟩
        have different : other ≠ entity := by
          rintro rfl
          rw [linked] at undriven
          cases undriven
        rw [carried, GameWorld.withBodies, GameWorld.withStore_same, found, if_neg different]
        exact bodiless
      · rw [rest .controllable (by decide), rest .lifetime (by decide)]
        exact lifetime
      · rw [rest .controllable (by decide), rest .zoneExposure (by decide)]
        exact exposure
  refine ⟨⟨fun sound => links.sound (embodied sound), fun other held => ?_, rfl, rfl⟩, fun other => ?_⟩
  · rw [links.carried rfl, rest .zoneExposure (by decide)] at held
    exact held
  · rw [links.carried rfl, rest .controllable (by decide)]

theorem seatPendingEntities_entered {policy : SpawnPolicy S}
    (seated : policy.seatPendingEntities world context = .ok (count, next)) : Entered world next := by
  unfold SpawnPolicy.seatPendingEntities at seated
  split at seated
  · cases seated
    exact .refl world
  · obtain ⟨free, -, rest⟩ := bind_eq_ok.mp seated
    obtain ⟨pass, folded, committed⟩ := bind_eq_ok.mp rest
    cases committed
    refine (foldlM_preserves (P := fun pass : SeatingPass S => Entered world pass.world ∧
      ∀ other, carried pass.world other .controllable = carried world other .controllable)
      (fun entity member before after held offered => ?_) ⟨.refl world, fun _ => rfl⟩ folded).1
    obtain ⟨chosen, -, rest⟩ := bind_eq_ok.mp offered
    cases chosen with
    | none =>
      cases rest
      exact held
    | some index =>
      dsimp only at rest
      split at rest
      · cases rest
      · split at rest
        · obtain ⟨placed, seats, rest⟩ := bind_eq_ok.mp rest
          obtain ⟨mask, -, committed⟩ := bind_eq_ok.mp rest
          cases committed
          have linked : carried before.world entity .controllable = true :=
            (held.2 entity).trans (SpawnPolicy.mem_awaiting_iff.mp member).1
          obtain ⟨entered, links⟩ := seatBodyAtRest_entered linked seats
          obtain ⟨sound, fades, record, events⟩ := held.1.trans entered
          exact ⟨⟨fun before => (sound before).of_carried fun _ _ _ => rfl, fades, record, events⟩,
            fun other => (links other).trans (held.2 other)⟩
        · cases rest

theorem seatPendingEntities_reservation {policy : SpawnPolicy S}
    (seated : policy.seatPendingEntities world context = .ok (count, next)) :
    next.reservation = world.reservation := by
  refine SpawnPolicy.seatPendingEntities_preserves (P := fun after => after.reservation = world.reservation) seated rfl
    fun entity pass after same placed => ?_
  obtain rfl | ⟨-, bodies, controllables, rotated, world⟩ := SpawnPolicy.seatEntity_eq_ok placed
  · exact same
  · rw [world]
    exact same

theorem rotatingRing_defers (closed : world.matchState.phase = .running ∨ world.matchState.phase = .ended)
    (seated : (ShippedSpawnPolicy.rotatingRing.policy : SpawnPolicy S).seatPendingEntities world context =
      .ok (count, next)) : next = world := by
  unfold SpawnPolicy.seatPendingEntities at seated
  split at seated
  · cases seated
    rfl
  · obtain ⟨free, -, rest⟩ := bind_eq_ok.mp seated
    obtain ⟨pass, folded, committed⟩ := bind_eq_ok.mp rest
    cases committed
    refine foldlM_preserves (P := fun pass : SeatingPass S => pass.world = world)
      (fun entity _ before after held offered => ?_) rfl folded
    obtain ⟨chosen, chooses, rest⟩ := bind_eq_ok.mp offered
    cases chooses
    dsimp only at rest
    rw [RotatingRingSpawnPolicy.chooseSpawnPoint, held, if_pos closed] at rest
    cases rest
    exact held

end Seating

section Kernel

/-- A solver of the mode's contact rules and triggers: it moves bodies one for one, eliminates players of a running
match only and despawns only bodies that are nobody's. -/
def HonestKernel (motion : MotionKernel S) : Prop :=
  ∀ world context limits solve subjects policies result, motion.bind world context limits = .ok solve →
    subjects.map Prod.fst = world.bodies.keys → solve subjects policies = .ok result →
    (∀ entity, entity ∈ result.bodies.map Prod.fst ↔ entity ∈ world.bodies.keys) ∧
    (∀ entity, .elimination entity ∈ result.effects →
      entity ∈ aliveEntities world ∧ world.matchState.phase = .running) ∧
    ∀ entity, .despawn entity ∈ result.effects →
      carried world entity .physicsBody = true ∧ carried world entity .controllable = false

/-- Whom the events of a tick may name: the eliminated are players of a running match, the despawned are bodies of
nobody. -/
structure Named (world : GameWorld S) : Prop where
  eliminated : ∀ entity, .elimination entity ∈ world.events →
    entity ∈ aliveEntities world ∧ world.matchState.phase = .running
  despawned : ∀ entity, .despawn entity ∈ world.events →
    carried world entity .physicsBody = true ∧ carried world entity .controllable = false

variable {sim : GameSimulation S} {tick : TickSequence} {view postKernel : StageView S} {world next : GameWorld S}

theorem carried_created {entries : List (EntityId × PhysicsBody S)} {store : ComponentStore (PhysicsBody S)}
    (created : ComponentStore.create entries = .ok store) (entity : EntityId) :
    (store.find entity).isSome = true ↔ entity ∈ entries.map Prod.fst := by
  have sorted : store.entries = entries.insertionSort fun left right => left.1 ≤ right.1 := by
    unfold ComponentStore.create at created
    dsimp only at created
    split at created
    · split at created
      · cases created
      · cases created
        rfl
    · cases created
  rw [← SortedStore.mem_keys_iff, SortedStore.keys, sorted]
  exact ((List.perm_insertionSort _ entries).map Prod.fst).mem_iff

theorem acceleration_keys {drag : S} {subjects : List (EntityId × PhysicsBody S)}
    (accelerated : applyStoredAccelerationAndDrag world drag = .ok subjects) :
    subjects.map Prod.fst = world.bodies.keys := by
  have related := Passes.mapM_forall₂ accelerated
  clear accelerated
  rw [SortedStore.keys]
  generalize world.bodies.entries = entries at related
  induction related with
  | nil => rfl
  | cons stepped _ ih =>
    obtain ⟨body, -, made⟩ := bind_eq_ok.mp stepped
    cases made
    exact congrArg (List.cons _) ih

theorem move_kept (honest : HonestKernel sim.motion)
    (quiet : ∀ event ∈ view.world.events, ∃ entity duration, event = .stunRequest entity duration)
    (moved : sim.move tick view = .ok postKernel) :
    (RoyaleSound view.world → RoyaleSound postKernel.world) ∧ Fewer view.world postKernel.world ∧
      Fades view.world postKernel.world ∧ Named postKernel.world ∧
      postKernel.world.matchState = view.world.matchState ∧ postKernel.world.reservation = view.world.reservation ∧
      postKernel.context.tickSequence = tick ∧ postKernel.context.map = sim.map := by
  obtain ⟨policies, -, rest⟩ := bind_eq_ok.mp moved
  obtain ⟨solve, bound, rest⟩ := bind_eq_ok.mp rest
  obtain ⟨subjects, accelerated, rest⟩ := bind_eq_ok.mp rest
  obtain ⟨result, solved, rest⟩ := bind_eq_ok.mp rest
  obtain ⟨world, applied, rest⟩ := bind_eq_ok.mp rest
  obtain ⟨grid, -, committed⟩ := bind_eq_ok.mp rest
  cases committed
  obtain ⟨bodies, eliminated, despawned⟩ := honest _ _ _ _ _ _ _ bound (acceleration_keys accelerated) solved
  obtain ⟨replacement, replaced, rfl⟩ := GameWorld.applyMotionResult_eq_ok applied
  have carriers : ∀ entity kind, carried (({ view.world with events := view.world.events ++ result.effects } :
      GameWorld S).withBodies replacement) entity kind = carried view.world entity kind := by
    intro entity kind
    by_cases body : kind = .physicsBody
    · subst body
      rw [carried, carried, GameWorld.withBodies, GameWorld.withStore_same, Bool.eq_iff_iff,
        carried_created replaced, bodies, SortedStore.mem_keys_iff]
    · rw [carried, carried, GameWorld.withBodies, GameWorld.withStore_other _ body]
  have alive : ∀ entity, entity ∈ aliveEntities (({ view.world with
      events := view.world.events ++ result.effects } : GameWorld S).withBodies replacement) ↔
        entity ∈ aliveEntities view.world := by
    intro entity
    rw [mem_alive_iff, mem_alive_iff, carriers, carriers]
  have exposures : (({ view.world with events := view.world.events ++ result.effects } : GameWorld S).withBodies
      replacement).stores .zoneExposure = view.world.stores .zoneExposure :=
    GameWorld.withStore_other _ (by decide)
  have effects : ∀ event, event ∈ view.world.events ++ result.effects →
      (∀ entity duration, event ≠ .stunRequest entity duration) → event ∈ result.effects := by
    intro event member other
    obtain earlier | later := List.mem_append.mp member
    · obtain ⟨entity, duration, same⟩ := quiet event earlier
      exact absurd same (other entity duration)
    · exact later
  refine ⟨fun sound => sound.of_carried fun kind _ entity => carriers entity kind,
    ⟨fun entity member => (alive entity).mp member, fun entity _ => by rw [exposures]⟩,
    fun entity held => (carriers entity .zoneExposure).symm.trans held, ⟨fun entity member => ?_, fun entity member => ?_⟩,
    rfl, rfl, rfl, rfl⟩
  · obtain ⟨lived, running⟩ := eliminated entity (effects _ member fun _ _ same => by cases same)
    exact ⟨(alive entity).mpr lived, running⟩
  · rw [carriers, carriers]
    exact despawned entity (effects _ member fun _ _ same => by cases same)

theorem FieldKept.named (kept : FieldKept world next) (named : Named world) : Named next := by
  obtain ⟨added, events, asks⟩ := kept.events
  have before : ∀ event, event ∈ next.events → (∀ entity duration, event ≠ .stunRequest entity duration) →
      event ∈ world.events := by
    intro event member other
    rw [events] at member
    obtain earlier | later := List.mem_append.mp member
    · exact earlier
    · obtain ⟨entity, duration, same⟩ := asks event later
      exact absurd same (other entity duration)
  refine ⟨fun entity member => ?_, fun entity member => ?_⟩
  · obtain ⟨lived, running⟩ := named.eliminated entity (before _ member fun _ _ same => by cases same)
    exact ⟨kept.mem_alive.mpr lived, kept.record ▸ running⟩
  · rw [kept.carried rfl, kept.carried rfl]
    exact named.despawned entity (before _ member fun _ _ same => by cases same)

end Kernel

section Zone

variable {configuration : RoyaleConfiguration S} {world next shrunk : GameWorld S} {context : TickContext S}
  {zone : Zone S} {graceTicks : Nat}

namespace ZoneShrinkSystem

theorem Shrunk.same (shrunk : Shrunk zone world next) {kind : ComponentKind} (other : kind ≠ .zone)
    (entity : EntityId) : carried next entity kind = carried world entity kind := by
  rw [carried, carried, shrunk.rest kind other]

theorem Shrunk.sound (written : Shrunk zone world next) (sound : RoyaleSound world) : RoyaleSound next := by
  obtain ⟨carrier, held⟩ := written.carrier
  have own : ∀ entity, carried next entity .zone = true → entity = carrier := by
    intro entity zoned
    rw [carried, held] at zoned
    split at zoned
    · next same => exact same
    · cases zoned
  have apart : carried world carrier .physicsBody = false ∧ carried world carrier .controllable = false ∧
      carried world carrier .lifetime = false := by
    obtain ⟨entity, entries, origin⟩ := written.written
    have same : entity = carrier := by
      refine own entity ?_
      rw [carried, SortedStore.find_eq_some_iff.mpr (entries ▸ List.mem_singleton_self (entity, zone))]
      rfl
    subst same
    obtain ⟨-, standing⟩ | ⟨-, -, fresh⟩ := origin
    · exact (sound.coherent entity).zone standing
    · exact ⟨carried_of_fresh fresh _, carried_of_fresh fresh _, carried_of_fresh fresh _⟩
  refine ⟨fun first second left right => (own first left).trans (own second right).symm, fun entity => ?_⟩
  obtain ⟨-, lifetime, exposure⟩ := sound.coherent entity
  refine ⟨fun zoned => ?_, ?_, ?_⟩
  · rw [own entity zoned, written.same (by decide), written.same (by decide), written.same (by decide)]
    exact apart
  · rw [written.same (by decide), written.same (by decide)]
    exact lifetime
  · rw [written.same (by decide), written.same (by decide)]
    exact exposure

theorem Shrunk.mem_alive (written : Shrunk zone world next) (entity : EntityId) :
    entity ∈ aliveEntities next ↔ entity ∈ aliveEntities world := by
  rw [mem_alive_iff, mem_alive_iff, written.same (by decide), written.same (by decide)]

theorem Shrunk.fades (written : Shrunk zone world next) : Fades world next :=
  fun entity held => (written.same (by decide) entity).symm.trans held

theorem Shrunk.named (written : Shrunk zone world next) (named : Named world) : Named next := by
  refine ⟨fun entity member => ?_, fun entity member => ?_⟩
  · obtain ⟨lived, running⟩ := named.eliminated entity (written.events ▸ member)
    exact ⟨(written.mem_alive entity).mpr lived, written.record ▸ running⟩
  · rw [written.same (by decide), written.same (by decide)]
    exact named.despawned entity (written.events ▸ member)

end ZoneShrinkSystem

namespace ZoneEliminationSystem

theorem Judged.same {joined : List (EntityId × PhysicsBody S × Controllable S)} (judged : Judged graceTicks zone joined world next)
    {kind : ComponentKind} (other : kind ≠ .zoneExposure) (entity : EntityId) :
    carried next entity kind = carried world entity kind := by
  rw [carried, carried, judged.rest kind other]

theorem Judged.mem_alive {joined : List (EntityId × PhysicsBody S × Controllable S)}
    (judged : Judged graceTicks zone joined world next) (entity : EntityId) :
    entity ∈ aliveEntities next ↔ entity ∈ aliveEntities world := by
  rw [mem_alive_iff, mem_alive_iff, judged.same (by decide), judged.same (by decide)]

theorem namedBy_alive {entity : EntityId}
    (named : entity ∈ namedBy graceTicks zone world (world.bodies.join world.controllables)) :
    entity ∈ aliveEntities world := by
  obtain ⟨entry, member, rfl⟩ := List.mem_map.mp named
  exact List.mem_map_of_mem (List.mem_of_mem_filter member)

variable (judged : Judged graceTicks zone (world.bodies.join world.controllables) world next)
include judged

theorem Judged.sound (sound : RoyaleSound world) : RoyaleSound next := by
  refine ⟨fun first second left right => ?_, fun entity => ?_⟩
  · exact sound.sole first second ((judged.same (by decide) first).symm.trans left)
      ((judged.same (by decide) second).symm.trans right)
  · obtain ⟨zoned, lifetime, exposure⟩ := sound.coherent entity
    refine ⟨?_, ?_, fun held => ?_⟩
    · rw [judged.same (by decide), judged.same (by decide), judged.same (by decide), judged.same (by decide)]
      exact zoned
    · rw [judged.same (by decide), judged.same (by decide)]
      exact lifetime
    · rw [judged.same (by decide)]
      by_cases alive : entity ∈ aliveEntities world
      · exact (mem_alive_iff.mp alive).2
      · rw [carried, judged.others entity alive] at held
        exact exposure held

theorem Judged.named (named : Named world) (running : world.matchState.phase = .running) : Named next := by
  refine ⟨fun entity member => ?_, fun entity member => ?_⟩
  · rw [judged.events] at member
    refine ⟨(judged.mem_alive entity).mpr ?_, judged.record ▸ running⟩
    obtain earlier | later := List.mem_append.mp member
    · exact (named.eliminated entity earlier).1
    · obtain ⟨other, listed, same⟩ := List.mem_map.mp later
      cases same
      exact namedBy_alive listed
  · rw [judged.events] at member
    rw [judged.same (by decide), judged.same (by decide)]
    obtain earlier | later := List.mem_append.mp member
    · exact named.despawned entity earlier
    · obtain ⟨other, -, same⟩ := List.mem_map.mp later
      cases same

end ZoneEliminationSystem

end Zone

end BlobRoyale.Gameplay
