import BlobRoyale.Simulation.IntakeEffects

/-!
# What phase 0 draws from its reservation

A batch draws at most one id per Spawn. When the reservation holds that many, all above the live
entities, phase 0 neither exhausts it nor draws a live id; a full component store is the one refusal
left to a batch of well-formed commands.
-/

namespace BlobRoyale.Simulation

open Transition

variable {S : Type} [Scalar S]

/-- `spawn_command_count`: how many commands may draw an id. -/
def spawnCommandCount (commands : List (Command S)) : Nat :=
  commands.countP fun command => command.kind = .spawn

theorem spawnCommandCount_cons (command : Command S) (rest : List (Command S)) :
    spawnCommandCount (command :: rest) = spawnCommandCount [command] + spawnCommandCount rest := by
  rw [← List.singleton_append]
  exact List.countP_append

/-- The reservation covers `spawns` more draws of fresh ids below `bound`. -/
structure GameWorld.Provisioned (world : GameWorld S) (spawns bound : Nat) : Prop where
  enough : spawns ≤ world.reservation.count
  fresh : world.reservation.count ≠ 0 → ∀ entity, world.contains entity = true →
    entity.value < world.reservation.first.value
  within : world.reservation.count ≠ 0 →
    world.reservation.first.value + world.reservation.count ≤ bound
  below : ∀ entity, world.contains entity = true → entity.value < bound

namespace GameWorld

variable {world next : GameWorld S} {spawns bound : Nat}

theorem contains_of_stores {entity : EntityId}
    (stores : ∀ kind, ((next.stores kind).find entity).isSome = true →
      ((world.stores kind).find entity).isSome = true) (live : next.contains entity = true) :
    world.contains entity = true := by
  obtain ⟨kind, held⟩ := contains_iff.mp live
  exact contains_iff.mpr ⟨kind, stores kind held⟩

theorem contains_of_withControllables {store : ComponentStore (Controllable S)} {entity : EntityId}
    (found : (store.find entity).isSome = true → (world.controllables.find entity).isSome = true)
    (live : (world.withControllables store).contains entity = true) : world.contains entity = true := by
  refine contains_of_stores (fun kind held => ?_) live
  by_cases same : kind = .controllable
  · subst same
    rw [withControllables, withStore_same] at held
    exact found held
  · rwa [withControllables, @withStore_other S _ world .controllable store _ same] at held

theorem contains_of_destroyed {entities : List EntityId} {entity : EntityId}
    (live : (entities.foldl destroyEntity world).contains entity = true) :
    world.contains entity = true := by
  refine contains_of_stores (fun kind held => ?_) live
  rw [destroyEntities_find] at held
  split at held
  · cases held
  · exact held

theorem contains_of_applyLeave {controller : ControllerId} {entity : EntityId}
    (live : (world.applyLeave controller).contains entity = true) : world.contains entity = true :=
  @contains_of_destroyed _ _ world (world.driven controller) entity live

theorem contains_of_recordCommand {command : Command S} {entity : EntityId}
    (live : (world.recordCommand command).contains entity = true) : world.contains entity = true := by
  unfold recordCommand at live
  split at live
  · exact live
  · refine contains_of_withControllables (fun held => ?_) live
    rw [ComponentStore.find_modify] at held
    split at held
    · rwa [Option.isSome_map] at held
    · exact held

theorem contains_of_clearCommandsThisTick {entity : EntityId}
    (live : world.clearCommandsThisTick.contains entity = true) : world.contains entity = true := by
  refine contains_of_withControllables (fun held => ?_) live
  rwa [ComponentStore.find_mapValues, Option.isSome_map] at held

theorem Provisioned.of_subset (provisioned : world.Provisioned spawns bound)
    (reservation : next.reservation = world.reservation)
    (live : ∀ entity, next.contains entity = true → world.contains entity = true) :
    next.Provisioned spawns bound where
  enough := reservation ▸ provisioned.enough
  fresh nonempty entity held :=
    reservation ▸ provisioned.fresh (reservation ▸ nonempty) entity (live entity held)
  within nonempty := reservation ▸ provisioned.within (reservation ▸ nonempty)
  below entity held := provisioned.below entity (live entity held)

theorem Provisioned.fewer {more : Nat} (provisioned : world.Provisioned more bound)
    (fewer : spawns ≤ more) : world.Provisioned spawns bound :=
  { provisioned with enough := Nat.le_trans fewer provisioned.enough }

theorem Provisioned.draws (provisioned : world.Provisioned (spawns + 1) bound) :
    ∃ drawn, world.createEntity = .ok (world.reservation.first, drawn) := by
  have nonempty : 0 < world.reservation.count := Nat.lt_of_lt_of_le (Nat.succ_pos _) provisioned.enough
  obtain ⟨rest, draws⟩ := EntityIdReservation.drawNext_of_pos nonempty
  have absent : world.contains world.reservation.first ≠ true := fun live =>
    Nat.lt_irrefl _ (provisioned.fresh (Nat.ne_of_gt nonempty) _ live)
  refine ⟨{ world with reservation := rest }, bind_eq_ok.mpr ⟨_, draws, ?_⟩⟩
  dsimp only
  rw [if_neg absent]

theorem Provisioned.spawned (provisioned : world.Provisioned (spawns + 1) bound) {created : EntityId}
    {drawn : GameWorld S} {controllables : ComponentStore (Controllable S)}
    {controllable : Controllable S} (draws : world.createEntity = .ok (created, drawn))
    (inserted : drawn.controllables.insertOrAssign created controllable = .ok controllables) :
    (drawn.withControllables controllables).Provisioned spawns bound := by
  obtain ⟨rest, drew, -, rfl⟩ := createEntity_eq_ok draws
  obtain ⟨rfl, count, first⟩ := EntityIdReservation.drawNext_eq_ok drew
  have enough := provisioned.enough
  have nonempty : world.reservation.count ≠ 0 := by omega
  have within := provisioned.within nonempty
  -- what lives afterwards is the drawn id, or lived before
  have live : ∀ entity, (({ world with reservation := rest } : GameWorld S).withControllables
      controllables).contains entity = true →
      entity = world.reservation.first ∨ world.contains entity = true := by
    intro entity held
    by_cases same : entity = world.reservation.first
    · exact .inl same
    · have kept : ({ world with reservation := rest } : GameWorld S).contains entity = true := by
        refine contains_of_withControllables (fun found => ?_) held
        rwa [ComponentStore.find_of_insertOrAssign inserted, if_neg same] at found
      exact .inr kept
  refine ⟨?_, ?_, ?_, ?_⟩
  · show spawns ≤ rest.count
    omega
  · intro remaining entity held
    have next : rest.first.value = world.reservation.first.value + 1 := first remaining
    show entity.value < rest.first.value
    obtain rfl | before := live entity held
    · omega
    · have below := provisioned.fresh nonempty entity before
      omega
  · intro remaining
    have next : rest.first.value = world.reservation.first.value + 1 := first remaining
    show rest.first.value + rest.count ≤ bound
    omega
  · intro entity held
    obtain rfl | before := live entity held
    · omega
    · exact provisioned.below entity before

end GameWorld

theorem Applies.provisioned {seatCeiling spawns bound : Nat} {world next : GameWorld S}
    {command : Command S} (applies : Applies seatCeiling world command next)
    (provisioned : world.Provisioned (spawnCommandCount [command] + spawns) bound) :
    next.Provisioned spawns bound := by
  have fewer := provisioned.fewer (Nat.le_add_left spawns _)
  cases applies with
  | despawned command =>
    exact fewer.of_subset rfl fun entity live =>
      @GameWorld.contains_of_destroyed _ _ world [command.entity] entity live
  | alreadyEmbodied | judged | lobbyClosed => exact fewer
  | spawned command created drawn controllables bodiless draws inserted =>
    rw [Nat.add_comm] at provisioned
    exact provisioned.spawned draws inserted
  | lobbyChanged | joined => exact fewer.of_subset rfl fun _ live => live
  | left command =>
    exact fewer.of_subset (GameWorld.destroyEntities_frame (world.driven command.controller) world).2.1
      fun entity => GameWorld.contains_of_applyLeave
  | recorded command =>
    refine fewer.of_subset ?_ fun entity => GameWorld.contains_of_recordCommand
    unfold GameWorld.recordCommand
    split <;> rfl

section Refusals

namespace SeatRoster

theorem exists_assignSeat {roster : SeatRoster} {index : Nat} (within : index < roster.seats.length)
    (seat : Seat) : ∃ next, roster.assignSeat index seat = .ok next := by
  rw [assignSeat, if_pos within]
  exact ⟨_, rfl⟩

theorem exists_applyLobbyChange {roster : SeatRoster} {seatCeiling : Nat} {command : Command S}
    {reservation : EntityIdReservation} (wellFormed : command.WellFormed reservation) :
    ∃ next, roster.applyLobbyChange seatCeiling command = .ok next := by
  cases command with
  | setSeatCount command =>
    dsimp only [applyLobbyChange]
    split
    · exact ⟨_, rfl⟩
    · have range : minimumSeatCount ≤ command.seatCount ∧ command.seatCount ≤ maximumSeatCount := wellFormed
      rw [trySetSeatCount, dif_pos range]
      split
      · exact ⟨_, rfl⟩
      · exact ⟨_, rfl⟩
  | clearSeat command =>
    dsimp only [applyLobbyChange]
    split
    · next found => exact exists_assignSeat (List.getElem?_eq_some_iff.mp found).1 _
    · exact ⟨_, rfl⟩
    · exact ⟨_, rfl⟩
  | seatNpc command =>
    dsimp only [applyLobbyChange]
    split
    · next found =>
      split
      · exact ⟨_, rfl⟩
      · exact exists_assignSeat (List.getElem?_eq_some_iff.mp found).1 _
    · exact ⟨_, rfl⟩
  | _ => exact ⟨_, rfl⟩

theorem lt_of_firstJoinableSeat {roster : SeatRoster} {phase : MatchPhase} {index : Nat}
    (found : roster.firstJoinableSeat phase = some index) : index < roster.seats.length := by
  unfold firstJoinableSeat at found
  split at found
  · next empty =>
    cases found
    exact (List.findIdx?_eq_some_iff_findIdx_eq.mp empty).1
  · split at found
    · exact (List.findIdx?_eq_some_iff_findIdx_eq.mp found).1
    · cases found

theorem exists_joined {roster : SeatRoster} (phase : MatchPhase) (controller : ControllerId)
    (seatIndex : Option Nat) (expectedNpc : Option NpcDeclaration) :
    ∃ next, roster.joined phase controller seatIndex expectedNpc = .ok next := by
  unfold joined
  split
  · exact ⟨_, rfl⟩
  · split
    · split
      · next found =>
        split
        · exact ⟨_, rfl⟩
        · split
          · exact ⟨_, rfl⟩
          · exact exists_assignSeat (List.getElem?_eq_some_iff.mp found).1 _
      · exact ⟨_, rfl⟩
      · exact ⟨_, rfl⟩
    · split
      · next found => exact exists_assignSeat (lt_of_firstJoinableSeat found) _
      · exact ⟨_, rfl⟩

end SeatRoster

theorem ComponentStore.insertOrAssign_refusal {V : Type} {store : ComponentStore V} {entity : EntityId}
    {value : V} {refusal : SimulationValidationError}
    (refused : store.insertOrAssign entity value = .error refusal) :
    refusal.code = .componentStoreLimitExceeded := by
  unfold insertOrAssign at refused
  split at refused
  · cases refused
  · cases refused
    rfl

namespace IntakePass

variable {seatCeiling : Nat} {decisionTick : TickSequence} {entryRevision spawns bound : Nat}
  {reservation : EntityIdReservation} {refusal : SimulationValidationError}

/-- The one refusal of a well-formed command in a provisioned world is a full component store. -/
theorem applyCommand_refusal {pass : IntakePass S} {command : Command S}
    (wellFormed : command.WellFormed reservation)
    (provisioned : pass.world.Provisioned (spawnCommandCount [command] + spawns) bound)
    (refused : pass.applyCommand seatCeiling decisionTick entryRevision command = .error refusal) :
    refusal.code = .componentStoreLimitExceeded := by
  have lobbied : ∀ {other : Command S}, other.WellFormed reservation →
      (∃ next, pass.applyMemberCommand other = .ok next) →
      (pass.world.applyLobbyCommand other seatCeiling >>= fun changed =>
        if changed.1 then return { pass with world := changed.2 } else pass.applyMemberCommand other) =
        .error refusal → False := by
    rintro other wellFormed ⟨next, member⟩ refused
    obtain ⟨seats, changed⟩ := @SeatRoster.exists_applyLobbyChange _ _ pass.world.matchState.seats
      seatCeiling other reservation wellFormed
    unfold GameWorld.applyLobbyCommand at refused
    split at refused
    · split at refused
      · rw [changed] at refused
        cases refused
      · cases refused
    · rw [show _ = _ from member] at refused
      cases refused
  cases command with
  | despawn command => cases refused
  | setMovementTuning command => cases refused
  | spawn command =>
    dsimp only [applyCommand] at refused
    unfold GameWorld.applySpawn at refused
    split at refused
    · cases refused
    · have one : spawns + 1 ≤ spawnCommandCount [(.spawn command : Command S)] + spawns := Nat.le_of_eq (Nat.add_comm _ _)
      obtain ⟨drawn, draws⟩ := (provisioned.fewer one).draws
      rw [draws] at refused
      cases inserted : drawn.controllables.insertOrAssign pass.world.reservation.first
          (.linked command.controller) with
      | ok controllables =>
        simp only [bind, Except.bind, inserted] at refused
        cases refused
      | error full =>
        simp only [bind, Except.bind, inserted] at refused
        cases refused
        exact ComponentStore.insertOrAssign_refusal inserted
  | join command =>
    obtain ⟨seats, joined⟩ := @SeatRoster.exists_joined pass.world.matchState.seats
      pass.world.matchState.phase command.controller command.seatIndex command.expectedNpc
    refine (lobbied wellFormed ⟨{ pass with world := pass.world.withSeats seats }, ?_⟩ refused).elim
    rw [applyMemberCommand, GameWorld.applyJoin, joined]
    rfl
  | _ => exact (lobbied wellFormed ⟨_, rfl⟩ refused).elim

theorem applyCommands_refusal {commands : List (Command S)} {pass : IntakePass S}
    (wellFormed : ∀ command ∈ commands, command.WellFormed reservation)
    (provisioned : pass.world.Provisioned (spawnCommandCount commands) bound)
    (refused : pass.applyCommands seatCeiling decisionTick entryRevision commands = .error refusal) :
    refusal.code = .componentStoreLimitExceeded := by
  induction commands generalizing pass with
  | nil => cases refused
  | cons command rest ih =>
    rw [spawnCommandCount_cons] at provisioned
    rw [applyCommands, List.foldlM_cons] at refused
    cases applied : pass.applyCommand seatCeiling decisionTick entryRevision command with
    | error first =>
      rw [applied] at refused
      cases refused
      exact applyCommand_refusal (wellFormed command List.mem_cons_self) provisioned applied
    | ok next =>
      rw [applied] at refused
      exact ih (fun other member => wellFormed other (List.mem_cons_of_mem _ member))
        ((applyCommand_applies applied).1.provisioned provisioned) refused

theorem applyCommands_provisioned {commands : List (Command S)} {pass final : IntakePass S}
    (provisioned : pass.world.Provisioned (spawnCommandCount commands) bound)
    (applied : pass.applyCommands seatCeiling decisionTick entryRevision commands = .ok final) :
    final.world.Provisioned 0 bound := by
  induction commands generalizing pass with
  | nil =>
    cases applied
    exact provisioned
  | cons command rest ih =>
    rw [spawnCommandCount_cons] at provisioned
    rw [applyCommands, List.foldlM_cons] at applied
    obtain ⟨next, first, rest⟩ := bind_eq_ok.mp applied
    exact ih ((applyCommand_applies first).1.provisioned provisioned) rest

end IntakePass

variable {world next : GameWorld S} {batch : InputBatch S} {seatCeiling bound : Nat} {tick : TickSequence}

theorem applyInputBatch_refusal {refusal : SimulationValidationError}
    (provisioned : world.Provisioned (spawnCommandCount batch.commands) bound)
    (refused : applyInputBatch world batch seatCeiling tick = .error refusal) :
    refusal.code = .componentStoreLimitExceeded := by
  unfold applyInputBatch at refused
  split at refused
  · cases refused
  · have cleared : (IntakePass.start world).world.Provisioned (spawnCommandCount batch.commands) bound :=
      provisioned.of_subset rfl fun entity => GameWorld.contains_of_clearCommandsThisTick
    dsimp only at refused
    cases passed : (IntakePass.start world).applyCommands seatCeiling tick
        world.matchState.movement.revision batch.commands with
    | error first =>
      rw [passed] at refused
      cases refused
      exact IntakePass.applyCommands_refusal batch.wellFormed cleared passed
    | ok pass =>
      rw [passed] at refused
      cases refused

theorem applyInputBatch_provisioned {decisions : List MovementTuningDecision}
    (provisioned : world.Provisioned (spawnCommandCount batch.commands) bound)
    (applied : applyInputBatch world batch seatCeiling tick = .ok (next, decisions)) :
    next.Provisioned 0 bound := by
  obtain ⟨pass, passed, committed⟩ := applyInputBatch_eq_ok applied
  have cleared : (IntakePass.start world).world.Provisioned (spawnCommandCount batch.commands) bound :=
    provisioned.of_subset rfl fun entity => GameWorld.contains_of_clearCommandsThisTick
  have held := IntakePass.applyCommands_provisioned cleared passed
  obtain ⟨movement, closed⟩ := pass.close_world tick world.matchState.movement.revision
  rw [show next = _ from congrArg Prod.fst committed, closed]
  exact held.of_subset rfl fun _ live => live

end Refusals

end BlobRoyale.Simulation
