import BlobRoyale.Simulation.SeatOwnership
import BlobRoyale.Simulation.IntakeProvision

/-!
# Leave wins inside its own tick

Phase 0 applies a Leave after every command that arranges entities or seats. A batch that holds one
therefore ends as its other commands alone would end, less what the controller drives and holds.
-/

namespace BlobRoyale.Simulation

open Transition

variable {S : Type} [Scalar S]

namespace Command

def isLate : Command S → Bool
  | leave _ | shield _ | charge _ | rotateVelocity _ => true
  | spawn _ | despawn _ | thrust _ | setSeatCount _ | clearSeat _ | seatNpc _ | startMatch _ | join _
  | setMovementTuning _ => false

theorem isLate_of_rank {command : Command S}
    (rank : CommandKind.leave.applicationRank ≤ command.kind.applicationRank) :
    command.isLate = true := by
  cases command with
  | leave | shield | charge | rotateVelocity => rfl
  | _ => simp [kind, CommandKind.applicationRank] at rank

end Command

def InputBatch.without (batch : InputBatch S) (command : Command S) : InputBatch S where
  commands := batch.commands.filter (· ≠ command)
  entityIdReservation := batch.entityIdReservation
  ascending := batch.ascending.filter _
  wellFormed other member := batch.wellFormed other (List.mem_of_mem_filter member)

theorem InputBatch.commands_without {batch : InputBatch S} {command : Command S}
    {earlier later : List (Command S)} (split : batch.commands = earlier ++ command :: later) :
    (batch.without command).commands = earlier ++ later := by
  have ascending := batch.ascending
  rw [split] at ascending
  obtain ⟨-, after, before⟩ := List.pairwise_append.mp ascending
  have others : ∀ other ∈ earlier ++ later, other ≠ command := by
    rintro other member rfl
    obtain first | last := List.mem_append.mp member
    · exact lt_irrefl _ (before other first other List.mem_cons_self)
    · exact lt_irrefl _ (List.rel_of_pairwise_cons after last)
  calc (batch.without command).commands
      = (earlier ++ command :: later).filter (· ≠ command) := congrArg _ split
    _ = (earlier ++ later).filter (· ≠ command) := by simp
    _ = earlier ++ later := List.filter_eq_self.mpr fun other member => by simpa using others other member

namespace GameWorld

def withMovement (world : GameWorld S) (movement : MovementTuningState S) : GameWorld S :=
  world.withMatch { world.matchState with movement := movement }

def applyLate (world : GameWorld S) : Command S → GameWorld S
  | .leave command => world.applyLeave command.controller
  | command => world.recordCommand command

theorem applyLate_cases (world : GameWorld S) (command : Command S) :
    (∃ controller, world.applyLate command = world.applyLeave controller ∧
        ∀ other : GameWorld S, other.applyLate command = other.applyLeave controller) ∨
      (world.applyLate command = world.recordCommand command ∧
        ∀ other : GameWorld S, other.applyLate command = other.recordCommand command) := by
  cases command with
  | leave command => exact .inl ⟨command.controller, rfl, fun _ => rfl⟩
  | _ => exact .inr ⟨rfl, fun _ => rfl⟩

end GameWorld

theorem Seat.vacated_comm (first second : ControllerId) (seat : Seat) :
    (seat.vacated second).vacated first = (seat.vacated first).vacated second := by
  cases seat with
  | empty => rfl
  | controller person => grind [vacated]
  | npc declared => grind [vacated]

/-- A world from which a controller is gone, and that is otherwise seated as `others`. -/
structure GameWorld.Departed (controller : ControllerId) (others left : GameWorld S) : Prop where
  seats : left.matchState.seats.seats = others.matchState.seats.seats.map (Seat.vacated controller)
  gone : ∀ entity, others.controllerOf entity = some controller → left.contains entity = false

namespace GameWorld

variable {controller : ControllerId} {world others left : GameWorld S}

theorem contains_applyLeave_of_driven {entity : EntityId}
    (drives : world.controllerOf entity = some controller) :
    (world.applyLeave controller).contains entity = false := by
  refine Bool.eq_false_iff.mpr fun live => ?_
  obtain ⟨kind, held⟩ := contains_iff.mp live
  have erased := destroyEntities_find (world.driven controller) world entity kind
  rw [if_pos (mem_driven.mpr drives)] at erased
  rw [show ((world.applyLeave controller).stores kind).find entity = none from erased] at held
  cases held

theorem find_eq_none_of_absent {entity : EntityId} (absent : world.contains entity = false)
    (kind : ComponentKind) : (world.stores kind).find entity = none :=
  Option.not_isSome_iff_eq_none.mp fun held => Bool.eq_false_iff.mp absent (contains_iff.mpr ⟨kind, held⟩)

theorem departed_applyLeave (world : GameWorld S) (controller : ControllerId) :
    Departed controller world (world.applyLeave controller) where
  seats := by
    rw [applyLeave_matchState]
    rfl
  gone _ drives := contains_applyLeave_of_driven drives

theorem Departed.applyLate (departed : Departed controller others left) (command : Command S) :
    Departed controller (others.applyLate command) (left.applyLate command) := by
  obtain ⟨leaver, same, alike⟩ | ⟨same, alike⟩ := others.applyLate_cases command
  · rw [same, alike left]
    refine ⟨?_, fun entity drives => Bool.eq_false_iff.mpr fun live => ?_⟩
    · rw [applyLeave_matchState, applyLeave_matchState]
      simp only [SeatRoster.vacated, departed.seats, List.map_map]
      exact List.map_congr_left fun seat _ => (Seat.vacated_comm controller leaver seat).symm
    · rw [controllerOf_applyLeave] at drives
      split at drives
      · cases drives
      · exact Bool.eq_false_iff.mp (departed.gone entity drives) (contains_of_applyLeave live)
  · rw [same, alike left]
    refine ⟨?_, fun entity drives => Bool.eq_false_iff.mpr fun live => ?_⟩
    · rw [recordCommand_matchState, recordCommand_matchState]
      exact departed.seats
    · rw [controllerOf_recordCommand] at drives
      exact Bool.eq_false_iff.mp (departed.gone entity drives) (contains_of_recordCommand live)

theorem Departed.applyLateCommands (departed : Departed controller others left)
    (commands : List (Command S)) :
    Departed controller (commands.foldl GameWorld.applyLate others)
      (commands.foldl GameWorld.applyLate left) := by
  induction commands generalizing others left with
  | nil => exact departed
  | cons command rest ih => exact ih (departed.applyLate command)

theorem contains_of_applyLate {entity : EntityId} {commands : List (Command S)}
    (live : (commands.foldl applyLate world).contains entity = true) : world.contains entity = true := by
  induction commands generalizing world with
  | nil => exact live
  | cons command rest ih =>
    have before := ih live
    obtain ⟨leaver, same, -⟩ | ⟨same, -⟩ := world.applyLate_cases command
    · exact contains_of_applyLeave (same ▸ before)
    · exact contains_of_recordCommand (same ▸ before)

end GameWorld

namespace IntakePass

variable {seatCeiling : Nat} {decisionTick : TickSequence} {entryRevision : Nat} {pass : IntakePass S}

theorem applyCommand_late {command : Command S} (late : command.isLate = true) :
    pass.applyCommand seatCeiling decisionTick entryRevision command =
      .ok { pass with world := pass.world.applyLate command } := by
  cases command with
  | leave | shield | charge | rotateVelocity => rfl
  | _ => cases late

theorem applyCommands_late {commands : List (Command S)}
    (late : ∀ command ∈ commands, command.isLate = true) :
    pass.applyCommands seatCeiling decisionTick entryRevision commands =
      .ok { pass with world := commands.foldl GameWorld.applyLate pass.world } := by
  induction commands generalizing pass with
  | nil => rfl
  | cons command rest ih =>
    rw [applyCommands, List.foldlM_cons, applyCommand_late (late command List.mem_cons_self)]
    exact ih fun other member => late other (List.mem_cons_of_mem _ member)

end IntakePass

/-- The converse of `applyInputBatch_eq_ok`. -/
theorem applyInputBatch_of_pass {world : GameWorld S} {batch : InputBatch S} {seatCeiling : Nat}
    {decisionTick : TickSequence} {pass : IntakePass S}
    (passed : (IntakePass.start world).applyCommands seatCeiling decisionTick
      world.matchState.movement.revision batch.commands = .ok pass) :
    applyInputBatch world batch seatCeiling decisionTick =
      .ok (pass.close decisionTick world.matchState.movement.revision) := by
  unfold applyInputBatch
  split
  · next empty =>
    rw [List.isEmpty_iff.mp empty] at passed
    cases passed
    rfl
  · exact bind_eq_ok.mpr ⟨pass, passed, rfl⟩

section Bystanders

variable {controller : ControllerId} {seatCeiling : Nat} {world next : GameWorld S} {command : Command S}

/-- Whether a lobby or joining command may take a bot's seat from it in the given phase. -/
def Command.unseatsBot (phase : MatchPhase) (index : Nat) : Command S → Bool
  | clearSeat command => phase = .lobby ∧ command.seatIndex = index
  | join command => (phase = .lobby ∨ phase = .countdown) ∧ command.seatIndex = none
  | spawn _ | despawn _ | thrust _ | setSeatCount _ | seatNpc _ | startMatch _ | leave _
  | setMovementTuning _ | shield _ | charge _ | rotateVelocity _ => false

theorem SeatRoster.Reseats.getElem?_of_ne {roster reseated : SeatRoster} {position index : Nat} {seat : Seat}
    (reseats : roster.Reseats reseated position seat) (other : position ≠ index) :
    reseated.seats[index]? = roster.seats[index]? := by
  rw [reseats.seats, List.getElem?_set_ne other]

theorem SeatRoster.applyLobbyChange_keepsBot {roster changed : SeatRoster} {index : Nat} {declared : NpcSeat}
    (found : roster.seats[index]? = some (.npc declared)) (left : command.unseatsBot .lobby index = false)
    (applied : roster.applyLobbyChange seatCeiling command = .ok changed) :
    changed.seats[index]? = some (.npc declared) := by
  cases command with
  | setSeatCount command =>
    cases SeatRoster.applyLobbyChange_changes applied with
    | unchanged => exact found
    | resized _ _ underCeiling resizes => exact resizes.getElem? found rfl
    | vacant _ unsized => exact absurd rfl (unsized command)
  | clearSeat command =>
    have other : command.seatIndex ≠ index := by simpa [Command.unseatsBot] using left
    dsimp only [applyLobbyChange] at applied
    split at applied
    · rw [(reseats_of_assignSeat applied).getElem?_of_ne other]
      exact found
    · cases applied
      exact found
    · cases applied
      exact found
  | seatNpc command =>
    dsimp only [applyLobbyChange] at applied
    split at applied
    · next seat taken =>
      split at applied
      · cases applied
        exact found
      · next vacant =>
        have other : command.seatIndex ≠ index := by
          rintro rfl
          cases found.symm.trans taken
          exact vacant rfl
        rw [(reseats_of_assignSeat applied).getElem?_of_ne other]
        exact found
    · cases applied
      exact found
  | _ =>
    cases applied
    exact found

theorem SeatRoster.joined_keepsBot {roster changed : SeatRoster} {phase : MatchPhase} {join : JoinCommand}
    {index : Nat} {declared : NpcSeat} (found : roster.seats[index]? = some (.npc declared))
    (held : declared.controller = some controller)
    (left : (Command.join join : Command S).unseatsBot phase index = false)
    (applied : roster.joined phase join.controller join.seatIndex join.expectedNpc = .ok changed) :
    changed.seats[index]? = some (.npc declared) := by
  have kept : ∀ {position seat}, roster.assignSeat position seat = .ok changed → position ≠ index →
      changed.seats[index]? = some (.npc declared) := by
    intro position seat assigned other
    rw [(reseats_of_assignSeat assigned).getElem?_of_ne other]
    exact found
  unfold joined at applied
  split at applied
  · cases applied
    exact found
  · split at applied
    · next position named =>
      split at applied
      · next other taken =>
        split at applied
        · cases applied
          exact found
        · next unbound =>
          split at applied
          · cases applied
            exact found
          · refine kept applied ?_
            rintro rfl
            cases found.symm.trans taken
            rw [held] at unbound
            exact unbound rfl
      · cases applied
        exact found
      · cases applied
        exact found
    · next unnamed =>
      split at applied
      · next position joinable =>
        refine kept applied ?_
        rintro rfl
        unfold firstJoinableSeat at joinable
        split at joinable
        · next empty =>
          cases joinable
          obtain ⟨within, vacant, -⟩ := List.findIdx?_eq_some_iff_getElem.mp empty
          rw [List.getElem?_eq_getElem within] at found
          rw [Option.some.inj found] at vacant
          cases vacant
        · split at joinable
          · next early =>
            simp [Command.unseatsBot, unnamed, early] at left
          · cases joinable
      · cases applied
        exact found

theorem Applies.keepsBot (applies : Applies seatCeiling world command next) {index : Nat} {declared : NpcSeat}
    (found : world.matchState.seats.seats[index]? = some (.npc declared))
    (held : declared.controller = some controller)
    (left : command.unseatsBot world.matchState.phase index = false)
    (stays : command ≠ .leave ⟨controller⟩) :
    next.matchState.seats.seats[index]? = some (.npc declared) := by
  cases applies with
  | despawned | alreadyEmbodied | judged | lobbyClosed => exact found
  | spawned command created drawn controllables bodiless draws inserted =>
    obtain ⟨rest, -, -, rfl⟩ := GameWorld.createEntity_eq_ok draws
    exact found
  | lobbyChanged _ lobby phase seats changed =>
    rw [phase] at left
    exact SeatRoster.applyLobbyChange_keepsBot found left changed
  | joined command seats changed => exact SeatRoster.joined_keepsBot found held left changed
  | left command =>
    rw [GameWorld.applyLeave_matchState]
    have other : declared.controller ≠ some command.controller := by
      rw [held]
      rintro ⟨⟩
      exact stays rfl
    simp only [SeatRoster.vacated, List.getElem?_map, found, Option.map_some, Seat.vacated, if_neg other]
  | recorded =>
    rw [GameWorld.recordCommand_matchState]
    exact found

/-- An entity linked to the controller when the tick began: still linked, or gone with an id the tick
cannot draw again. -/
structure GameWorld.Tied (world : GameWorld S) (block : EntityIdReservation) (controller : ControllerId)
    (entity : EntityId) : Prop where
  draws : ∀ drawn, world.reservation.contains drawn = true → block.contains drawn = true
  linked : world.controllerOf entity = some controller ∨
    (world.contains entity = false ∧ block.contains entity = false)

variable {block : EntityIdReservation} {entity : EntityId}

theorem GameWorld.contains_of_controllerOf (linked : world.controllerOf entity = some controller) :
    world.contains entity = true := by
  obtain ⟨controllable, found, -⟩ := Option.map_eq_some_iff.mp linked
  exact contains_iff.mpr ⟨.controllable, Option.isSome_iff_exists.mpr ⟨controllable, found⟩⟩

/-- A tie survives a change of the world that draws nothing, links as before and gains no entity. -/
theorem GameWorld.Tied.of_subset (tied : world.Tied block controller entity)
    (reservation : next.reservation = world.reservation)
    (links : world.controllerOf entity = some controller → next.controllerOf entity = some controller)
    (live : next.contains entity = true → world.contains entity = true) :
    next.Tied block controller entity where
  draws := reservation ▸ tied.draws
  linked := tied.linked.imp links fun ⟨gone, spent⟩ =>
    ⟨Bool.eq_false_iff.mpr fun held => Bool.eq_false_iff.mp gone (live held), spent⟩

theorem EntityIdReservation.contains_of_draw {reservation rest : EntityIdReservation} {drawn other : EntityId}
    (draws : reservation.drawNext = .ok (drawn, rest)) (inside : rest.contains other = true) :
    reservation.contains other = true := by
  obtain ⟨-, count, first⟩ := drawNext_eq_ok draws
  rw [contains_iff] at inside ⊢
  have moved := first (by omega)
  omega

theorem EntityIdReservation.contains_drawn {reservation rest : EntityIdReservation} {drawn : EntityId}
    (draws : reservation.drawNext = .ok (drawn, rest)) : reservation.contains drawn = true := by
  obtain ⟨rfl, count, -⟩ := drawNext_eq_ok draws
  rw [contains_iff]
  omega

theorem Applies.tied (applies : Applies seatCeiling world command next) (valid : command.WellFormed block)
    (tied : world.Tied block controller entity) (stays : command ≠ .leave ⟨controller⟩) :
    next.Tied block controller entity := by
  cases applies with
  | alreadyEmbodied | judged | lobbyClosed => exact tied
  | despawned command =>
    refine ⟨tied.draws, ?_⟩
    by_cases same : entity = command.entity
    · subst same
      refine .inr ⟨Bool.eq_false_iff.mpr fun live => ?_, valid⟩
      obtain ⟨kind, held⟩ := GameWorld.contains_iff.mp live
      rw [GameWorld.destroyEntity_find, if_pos rfl] at held
      cases held
    · refine tied.linked.imp (fun linked => ?_) fun ⟨gone, spent⟩ => ⟨?_, spent⟩
      · rwa [GameWorld.controllerOf_destroyEntity, if_neg same]
      · exact Bool.eq_false_iff.mpr fun live => Bool.eq_false_iff.mp gone
          (@GameWorld.contains_of_destroyed _ _ world [command.entity] entity live)
  | spawned command created drawn controllables bodiless draws inserted =>
    obtain ⟨rest, drew, fresh, rfl⟩ := GameWorld.createEntity_eq_ok draws
    have drawnHere := tied.draws created (EntityIdReservation.contains_drawn drew)
    have other : entity ≠ created := by
      rintro rfl
      obtain linked | ⟨-, spent⟩ := tied.linked
      · exact Bool.eq_false_iff.mp fresh (GameWorld.contains_of_controllerOf linked)
      · exact Bool.eq_false_iff.mp spent drawnHere
    refine ⟨fun id inside => tied.draws id (EntityIdReservation.contains_of_draw drew inside), ?_⟩
    refine tied.linked.imp (fun linked => ?_) fun ⟨gone, spent⟩ => ⟨?_, spent⟩
    · rwa [GameWorld.controllerOf_spawned draws inserted, if_neg other]
    · refine Bool.eq_false_iff.mpr fun live => Bool.eq_false_iff.mp gone ?_
      refine @GameWorld.contains_of_withControllables _ _ { world with reservation := rest } controllables
        entity (fun held => ?_) live
      rwa [ComponentStore.find_of_insertOrAssign inserted, if_neg other] at held
  | lobbyChanged _ lobby phase seats changed => exact ⟨tied.draws, tied.linked⟩
  | joined command seats changed => exact ⟨tied.draws, tied.linked⟩
  | left command =>
    refine tied.of_subset (GameWorld.destroyEntities_frame _ world).2.1 (fun linked => ?_)
      GameWorld.contains_of_applyLeave
    have other : world.controllerOf entity ≠ some command.controller := by
      rw [linked]
      rintro ⟨⟩
      exact stays rfl
    rwa [GameWorld.controllerOf_applyLeave, if_neg other]
  | recorded =>
    refine tied.of_subset ?_ (fun linked => ?_) GameWorld.contains_of_recordCommand
    · unfold GameWorld.recordCommand
      split <;> rfl
    · rwa [GameWorld.controllerOf_recordCommand]

end Bystanders

section Batches

variable {controller : ControllerId} {seatCeiling : Nat} {world next : GameWorld S} {batch : InputBatch S}
variable {tick : TickSequence} {decisions : List MovementTuningDecision}

theorem InputBatch.isLate_of_split {earlier later : List (Command S)} {leaver : LeaveCommand}
    (split : batch.commands = earlier ++ .leave leaver :: later) :
    ∀ command ∈ later, command.isLate = true := by
  intro command member
  have ascending := batch.ascending
  rw [split] at ascending
  have after := List.rel_of_pairwise_cons (List.pairwise_append.mp ascending).2.1 member
  obtain higher | ⟨same, -⟩ := Prod.Lex.toLex_lt_toLex.mp after
  · exact Command.isLate_of_rank (Nat.le_of_lt higher)
  · exact Command.isLate_of_rank (Nat.le_of_eq same)

/-- Around a Leave: the pass before it, then late commands alone, in the tick as in the one without it. -/
theorem applyInputBatch_around_leave
    (applied : applyInputBatch world batch seatCeiling tick = .ok (next, decisions))
    (leaves : .leave ⟨controller⟩ ∈ batch.commands) :
    ∃ before earlier later movement otherMovement otherDecisions,
      batch.commands = earlier ++ .leave ⟨controller⟩ :: later ∧
      (IntakePass.start world).applyCommands seatCeiling tick world.matchState.movement.revision earlier =
        .ok before ∧
      next = (later.foldl GameWorld.applyLate (before.world.applyLeave controller)).withMovement movement ∧
      applyInputBatch world (batch.without (.leave ⟨controller⟩)) seatCeiling tick =
        .ok ((later.foldl GameWorld.applyLate before.world).withMovement otherMovement, otherDecisions) := by
  obtain ⟨pass, passed, committed⟩ := applyInputBatch_eq_ok applied
  obtain ⟨earlier, later, split⟩ := List.append_of_mem leaves
  have late := InputBatch.isLate_of_split split
  rw [split, IntakePass.applyCommands, List.foldlM_append] at passed
  obtain ⟨before, reached, rest⟩ := bind_eq_ok.mp passed
  have left : pass = { before with world := (Command.leave ⟨controller⟩ :: later).foldl GameWorld.applyLate before.world } :=
    Except.ok.inj (rest.symm.trans (IntakePass.applyCommands_late (List.forall_mem_cons.mpr ⟨rfl, late⟩)))
  have alone : (IntakePass.start world).applyCommands seatCeiling tick world.matchState.movement.revision
      (batch.without (.leave ⟨controller⟩)).commands =
      .ok { before with world := later.foldl GameWorld.applyLate before.world } := by
    rw [InputBatch.commands_without split, IntakePass.applyCommands, List.foldlM_append]
    exact bind_eq_ok.mpr ⟨before, reached, IntakePass.applyCommands_late late⟩
  obtain ⟨movement, closed⟩ := pass.close_world tick world.matchState.movement.revision
  obtain ⟨otherMovement, otherClosed⟩ := IntakePass.close_world
    { before with world := later.foldl GameWorld.applyLate before.world } tick world.matchState.movement.revision
  refine ⟨before, earlier, later, movement, otherMovement, _, split, reached, ?_,
    (applyInputBatch_of_pass alone).trans (congrArg _ (Prod.ext otherClosed rfl))⟩
  rw [show next = _ from congrArg Prod.fst committed, closed, left]
  rfl

/-- Whatever else a batch holds, its Leave wins: no entity linked to the controller before the tick or by the
batch's other commands is in any store, and the seats are those the other commands leave, vacated by it. A
declared bot keeps its seat up to then, unless one of them may unseat it. -/
theorem leave_wins_its_tick
    (applied : applyInputBatch (world.openTick batch.entityIdReservation) batch seatCeiling tick =
      .ok (next, decisions))
    (leaves : .leave ⟨controller⟩ ∈ batch.commands) :
    ∃ others otherDecisions,
      applyInputBatch (world.openTick batch.entityIdReservation) (batch.without (.leave ⟨controller⟩)) seatCeiling
        tick = .ok (others, otherDecisions) ∧
      next.FreeOf controller ∧
      (∀ entity, world.controllerOf entity = some controller ∨ others.controllerOf entity = some controller →
        ∀ kind, (next.stores kind).find entity = none) ∧
      next.matchState.seats.seats = others.matchState.seats.seats.map (Seat.vacated controller) ∧
      ∀ (index : Nat) declared, world.matchState.seats.seats[index]? = some (.npc declared) →
        declared.controller = some controller →
        (∀ command ∈ batch.commands, command.unseatsBot world.matchState.phase index = false) →
        next.matchState.seats.seats[index]? = some (.npc { declared with controller := none }) := by
  obtain ⟨before, earlier, later, movement, otherMovement, otherDecisions, split, reached, rfl, alone⟩ :=
    applyInputBatch_around_leave applied leaves
  have departed := (before.world.departed_applyLeave controller).applyLateCommands later
  have stays : ∀ command ∈ earlier, command ∈ batch.commands ∧ command ≠ .leave ⟨controller⟩ := by
    intro command member
    have ascending := batch.ascending
    rw [split] at ascending ⊢
    refine ⟨List.mem_append_left _ member, ?_⟩
    rintro rfl
    exact lt_irrefl _ ((List.pairwise_append.mp ascending).2.2 _ member _ List.mem_cons_self)
  refine ⟨_, otherDecisions, alone, applyInputBatch_freeOf_of_leave applied leaves, ?_, departed.seats, ?_⟩
  · rintro entity linked
    refine GameWorld.find_eq_none_of_absent (Bool.eq_false_iff.mpr fun live => ?_)
    obtain linked | linked := linked
    · have initial : (IntakePass.start (world.openTick batch.entityIdReservation)).world.Tied
          batch.entityIdReservation controller entity := by
        refine ⟨fun drawn inside => inside, .inl ?_⟩
        rw [IntakePass.start, GameWorld.controllerOf_clearCommandsThisTick]
        exact linked
      have tied := IntakePass.applyCommands_preserves reached initial fun command member _ _ held applies =>
        applies.tied (batch.wellFormed command (stays command member).1) held (stays command member).2
      have departing := GameWorld.contains_of_applyLate live
      obtain linked | ⟨gone, -⟩ := tied.linked
      · exact Bool.eq_false_iff.mp (GameWorld.contains_applyLeave_of_driven linked) departing
      · exact Bool.eq_false_iff.mp gone (GameWorld.contains_of_applyLeave departing)
    · exact Bool.eq_false_iff.mp (departed.gone entity linked) live
  · intro index declared found held spared
    have kept := applyInputBatch_preserves (P := fun reached => reached.matchState.phase = world.matchState.phase ∧
        reached.matchState.seats.seats[index]? = some (.npc declared)) alone ⟨rfl, found⟩
      (fun command member _ _ kept applies => by
        obtain ⟨listed, other⟩ := List.mem_filter.mp member
        exact ⟨applies.seatCount.1.trans kept.1,
          applies.keepsBot kept.2 held (kept.1 ▸ spared command listed) (of_decide_eq_true other)⟩)
      fun _ _ kept => kept
    have sits : (later.foldl GameWorld.applyLate before.world).matchState.seats.seats[index]? =
        some (.npc declared) := kept.2
    have vacated := congrArg (·[index]?) departed.seats
    simp only [List.getElem?_map, sits, Option.map_some, Seat.vacated, held, if_true] at vacated
    exact vacated

end Batches

def wanderer : SeatKindName := ⟨"wander", .inl (by decide)⟩

/-- A lobby whose one seat is held by a declared bot. -/
def botLobby : GameWorld ℚ :=
  (GameWorld.empty 0).withSeats ⟨[.npc ⟨wanderer, some .first, none⟩], false, by decide⟩

/-- The bot leaves in the tick its seat is cleared. -/
def clearedDeparture : InputBatch ℚ where
  commands := [.clearSeat ⟨.first, 0⟩, .leave ⟨.first⟩]
  entityIdReservation := .none
  ascending := by decide
  wellFormed := by
    intro command member
    simp only [List.mem_cons, List.not_mem_nil, or_false] at member
    obtain rfl | rfl := member
    · exact (by decide : 0 < maximumLobbySeatCount)
    · trivial

/-- A seat cleared in the tick its bot leaves is no longer that declaration's. -/
theorem leave_loses_cleared_seat :
    ¬ ∀ (world next : GameWorld ℚ) (batch : InputBatch ℚ) (seatCeiling : Nat) (tick : TickSequence)
      (decisions : List MovementTuningDecision) (controller : ControllerId) (index : Nat) (declared : NpcSeat),
      applyInputBatch (world.openTick batch.entityIdReservation) batch seatCeiling tick = .ok (next, decisions) →
      .leave ⟨controller⟩ ∈ batch.commands →
      world.matchState.seats.seats[index]? = some (.npc declared) → declared.controller = some controller →
      next.matchState.seats.seats[index]? = some (.npc { declared with controller := none }) := by
  intro kept
  have applied : ∃ next decisions, applyInputBatch (botLobby.openTick clearedDeparture.entityIdReservation)
      clearedDeparture 1 .zero = .ok (next, decisions) ∧ next.matchState.seats.seats = [.empty] :=
    ⟨_, _, rfl, rfl⟩
  obtain ⟨next, decisions, applied, seats⟩ := applied
  have bot := kept botLobby next clearedDeparture 1 .zero decisions .first 0 _ applied (by simp [clearedDeparture])
    rfl rfl
  rw [seats] at bot
  cases bot

/-- A controller spawns, joins and leaves in one tick, beside a bot that stays. -/
def visit : InputBatch ℚ where
  commands := [.spawn ⟨.first⟩, .startMatch ⟨.first⟩, .leave ⟨.first⟩]
  entityIdReservation := firstArrival.batch.entityIdReservation
  ascending := by decide
  wellFormed := by
    intro command member
    simp only [List.mem_cons, List.not_mem_nil, or_false] at member
    obtain rfl | rfl | rfl := member
    · trivial
    · trivial
    · trivial

theorem leave_wins_its_tick_visit :
    ∃ next decisions, applyInputBatch (botLobby.openTick visit.entityIdReservation) visit 1 .zero =
        .ok (next, decisions) ∧
      next.FreeOf .first ∧ next.matchState.seats.seats = [.npc ⟨wanderer, none, none⟩] := by
  have applied : ∃ next decisions, applyInputBatch (botLobby.openTick visit.entityIdReservation) visit 1 .zero =
      .ok (next, decisions) ∧ next.matchState.seats.seats = [.npc ⟨wanderer, none, none⟩] := ⟨_, _, rfl, rfl⟩
  obtain ⟨next, decisions, applied, seats⟩ := applied
  obtain ⟨others, otherDecisions, -, free, -⟩ :=
    @leave_wins_its_tick _ _ .first 1 botLobby next visit .zero decisions applied (by simp [visit])
  exact ⟨next, decisions, applied, free, seats⟩

end BlobRoyale.Simulation
