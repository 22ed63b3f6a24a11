import BlobRoyale.Simulation.Intake

/-!
# What phase 0 can do

`Applies` lists every effect one command has on the world. An invariant of the world is proved once
for each effect and reaches the committed world by `applyInputBatch_preserves`.
-/

namespace BlobRoyale.Simulation

open Transition

variable {S : Type} [Scalar S]

theorem Seat.occupant_vacated (seat : Seat) (controller : ControllerId) :
    (seat.vacated controller).occupant =
      if seat.occupant = some controller then none else seat.occupant := by
  cases seat with
  | empty => rfl
  | controller person => by_cases same : person = controller <;> simp [vacated, occupant, same]
  | npc declared =>
    by_cases same : declared.controller = some controller <;> simp [vacated, occupant, same]

namespace SeatRoster

def occupantAt (roster : SeatRoster) (index : Nat) : Option ControllerId :=
  roster.seats[index]?.bind Seat.occupant

theorem holdsSeat_iff {roster : SeatRoster} {controller : ControllerId} :
    roster.holdsSeat controller = true ↔ ∃ index, roster.occupantAt index = some controller := by
  simp only [holdsSeat, occupantAt, List.any_eq_true, beq_iff_eq, Option.bind_eq_some_iff]
  constructor
  · rintro ⟨seat, member, sits⟩
    obtain ⟨index, within, rfl⟩ := List.getElem_of_mem member
    exact ⟨index, _, List.getElem?_eq_getElem within, sits⟩
  · rintro ⟨index, seat, found, sits⟩
    exact ⟨seat, List.mem_of_getElem? found, sits⟩

theorem assignSeat_eq_ok {roster next : SeatRoster} {index : Nat} {seat : Seat}
    (assigned : roster.assignSeat index seat = .ok next) :
    index < roster.seats.length ∧ next.seats = roster.seats.set index seat ∧
      next.startRequested = roster.startRequested := by
  unfold assignSeat at assigned
  split at assigned
  · next within =>
    cases assigned
    exact ⟨within, rfl, rfl⟩
  · cases assigned

/-- A roster with one seat replaced. -/
structure Reseats (roster next : SeatRoster) (index : Nat) (seat : Seat) : Prop where
  within : index < roster.seats.length
  seats : next.seats = roster.seats.set index seat
  startRequested : next.startRequested = roster.startRequested

theorem Reseats.occupantAt {roster next : SeatRoster} {index : Nat} {seat : Seat}
    (reseats : roster.Reseats next index seat) (position : Nat) :
    next.occupantAt position = if position = index then seat.occupant else roster.occupantAt position := by
  rw [SeatRoster.occupantAt, reseats.seats, List.getElem?_set]
  by_cases same : index = position
  · subst same
    simp [reseats.within]
  · simp [same, Ne.symm same, SeatRoster.occupantAt]

theorem Reseats.seatCount_eq {roster next : SeatRoster} {index : Nat} {seat : Seat}
    (reseats : roster.Reseats next index seat) : next.seatCount = roster.seatCount := by
  rw [seatCount, reseats.seats, List.length_set]
  rfl

theorem reseats_of_assignSeat {roster next : SeatRoster} {index : Nat} {seat : Seat}
    (assigned : roster.assignSeat index seat = .ok next) : roster.Reseats next index seat :=
  have ⟨within, seats, startRequested⟩ := assignSeat_eq_ok assigned
  ⟨within, seats, startRequested⟩

/-- A roster resized to a legal count, its dropped seats unoccupied. -/
structure Resizes (roster next : SeatRoster) (count : Nat) : Prop where
  least : minimumSeatCount ≤ count
  seats : next.seats = resize roster.seats count
  startRequested : next.startRequested = roster.startRequested
  dropsUnoccupied : ∀ seat ∈ roster.seats.drop count, seat.isOccupied = false

theorem Resizes.getElem? {roster next : SeatRoster} {count : Nat} (resizes : roster.Resizes next count)
    {index : Nat} {seat : Seat} (found : roster.seats[index]? = some seat)
    (occupied : seat.isOccupied = true) : next.seats[index]? = some seat := by
  have within : index < count := by
    by_contra beyond
    have dropped : (roster.seats.drop count)[index - count]? = some seat := by
      rw [List.getElem?_drop, Nat.add_sub_cancel' (Nat.le_of_not_lt beyond), found]
    have unoccupied := resizes.dropsUnoccupied seat (List.mem_of_getElem? dropped)
    exact absurd occupied (Bool.eq_false_iff.mp unoccupied)
  obtain ⟨bound, rfl⟩ := List.getElem?_eq_some_iff.mp found
  rw [resizes.seats, resize, List.getElem?_append_left (by simp; omega), List.getElem?_take,
    if_pos within, List.getElem?_eq_getElem bound]

theorem Resizes.occupantAt {roster next : SeatRoster} {count : Nat}
    (resizes : roster.Resizes next count) {index : Nat} {controller : ControllerId}
    (sits : next.occupantAt index = some controller) : roster.occupantAt index = some controller := by
  obtain ⟨seat, found, occupant⟩ := Option.bind_eq_some_iff.mp sits
  rw [resizes.seats, resize, List.getElem?_append] at found
  split at found
  · rw [List.getElem?_take] at found
    split at found
    · exact Option.bind_eq_some_iff.mpr ⟨seat, found, occupant⟩
    · cases found
  · rw [List.getElem?_replicate] at found
    split at found
    · cases found
      cases occupant
    · cases found

/-- Every change a lobby command makes to the roster. -/
inductive LobbyChange (roster : SeatRoster) (seatCeiling : Nat) : Command S → SeatRoster → Prop where
  | unchanged (command : Command S) : LobbyChange roster seatCeiling command roster
  | resized (command : SetSeatCountCommand) (next : SeatRoster)
      (underCeiling : command.seatCount ≤ seatCeiling)
      (resizes : roster.Resizes next command.seatCount) :
      LobbyChange roster seatCeiling (.setSeatCount command) next
  | vacant (command : Command S) (unsized : ∀ resize, command ≠ .setSeatCount resize)
      (next : SeatRoster) (index : Nat) (seat : Seat) (unoccupied : seat.occupant = none)
      (reseats : roster.Reseats next index seat) : LobbyChange roster seatCeiling command next
  | requested (command : StartMatchCommand) :
      LobbyChange roster seatCeiling (.startMatch command) roster.requestStart

theorem applyLobbyChange_changes {roster next : SeatRoster} {seatCeiling : Nat} {command : Command S}
    (changed : roster.applyLobbyChange seatCeiling command = .ok next) :
    roster.LobbyChange seatCeiling command next := by
  cases command with
  | setSeatCount command =>
    dsimp only [applyLobbyChange] at changed
    split at changed
    · cases changed
      exact .unchanged _
    · next allowed =>
      obtain ⟨⟨kept, resized⟩, counted, committed⟩ := bind_eq_ok.mp changed
      cases committed
      unfold trySetSeatCount at counted
      split at counted
      · next range =>
        split at counted
        · cases counted
          exact .unchanged _
        · next unoccupied =>
          cases counted
          refine .resized command _ (Nat.le_of_not_lt allowed) ⟨range.1, rfl, rfl, ?_⟩
          simpa using unoccupied
      · cases counted
  | clearSeat command =>
    dsimp only [applyLobbyChange] at changed
    split at changed
    · exact .vacant _ (fun _ same => by cases same) next _ .empty rfl (reseats_of_assignSeat changed)
    · cases changed
      exact .unchanged _
    · cases changed
      exact .unchanged _
  | seatNpc command =>
    dsimp only [applyLobbyChange] at changed
    split at changed
    · split at changed
      · cases changed
        exact .unchanged _
      · exact .vacant _ (fun _ same => by cases same) next _ _ rfl (reseats_of_assignSeat changed)
    · cases changed
      exact .unchanged _
  | startMatch command =>
    cases changed
    exact .requested command
  | _ =>
    cases changed
    exact .unchanged _

theorem joined_cases {roster next : SeatRoster} {phase : MatchPhase} {controller : ControllerId}
    {seatIndex : Option Nat} {expectedNpc : Option NpcDeclaration}
    (changed : roster.joined phase controller seatIndex expectedNpc = .ok next) :
    next = roster ∨
      (roster.holdsSeat controller = false ∧
        ∃ index seat, seat.occupant = some controller ∧ roster.Reseats next index seat) := by
  unfold joined at changed
  split at changed
  · cases changed
    exact .inl rfl
  · next unseated =>
    have unseated := Bool.eq_false_iff.mpr unseated
    split at changed
    · split at changed
      · split at changed
        · cases changed
          exact .inl rfl
        · split at changed
          · cases changed
            exact .inl rfl
          · exact .inr ⟨unseated, _, _, rfl, reseats_of_assignSeat changed⟩
      · cases changed
        exact .inl rfl
      · cases changed
        exact .inl rfl
    · split at changed
      · exact .inr ⟨unseated, _, _, rfl, reseats_of_assignSeat changed⟩
      · cases changed
        exact .inl rfl

theorem occupantAt_vacated (roster : SeatRoster) (controller : ControllerId) (index : Nat) :
    (roster.vacated controller).occupantAt index =
      if roster.occupantAt index = some controller then none else roster.occupantAt index := by
  have mapped : (roster.vacated controller).occupantAt index =
      roster.seats[index]?.bind fun seat => (seat.vacated controller).occupant := by
    rw [occupantAt, vacated, List.getElem?_map, Option.bind_map]
    rfl
  obtain found | ⟨seat, found⟩ := Option.eq_none_or_eq_some roster.seats[index]?
  · have vacant : roster.occupantAt index = none := by rw [occupantAt, found, Option.bind_none]
    rw [mapped, found, vacant]
    rfl
  · have sits : roster.occupantAt index = seat.occupant := by
      rw [occupantAt, found, Option.bind_some]
    rw [mapped, found, sits, Option.bind_some, Seat.occupant_vacated]

theorem vacated_seatCount (roster : SeatRoster) (controller : ControllerId) :
    (roster.vacated controller).seatCount = roster.seatCount :=
  List.length_map _

end SeatRoster

inductive Applies (seatCeiling : Nat) (world : GameWorld S) : Command S → GameWorld S → Prop where
  | despawned (command : DespawnCommand) :
      Applies seatCeiling world (.despawn command) (world.destroyEntity command.entity)
  | alreadyEmbodied (command : SpawnCommand)
      (holds : world.controllerHoldsABody command.controller = true) :
      Applies seatCeiling world (.spawn command) world
  | spawned (command : SpawnCommand) (created : EntityId) (drawn : GameWorld S)
      (controllables : ComponentStore (Controllable S))
      (bodiless : world.controllerHoldsABody command.controller = false)
      (draws : world.createEntity = .ok (created, drawn))
      (inserted : drawn.controllables.insertOrAssign created (.linked command.controller) =
        .ok controllables) :
      Applies seatCeiling world (.spawn command) (drawn.withControllables controllables)
  | judged (command : SetMovementTuningCommand S) :
      Applies seatCeiling world (.setMovementTuning command) world
  | lobbyClosed (command : Command S) (lobby : command.isLobbyCommand = true)
      (phase : world.matchState.phase ≠ .lobby) : Applies seatCeiling world command world
  | lobbyChanged (command : Command S) (lobby : command.isLobbyCommand = true)
      (phase : world.matchState.phase = .lobby) (seats : SeatRoster)
      (changed : world.matchState.seats.applyLobbyChange seatCeiling command = .ok seats) :
      Applies seatCeiling world command (world.withSeats seats)
  | joined (command : JoinCommand) (seats : SeatRoster)
      (changed : world.matchState.seats.joined world.matchState.phase command.controller
        command.seatIndex command.expectedNpc = .ok seats) :
      Applies seatCeiling world (.join command) (world.withSeats seats)
  | left (command : LeaveCommand) :
      Applies seatCeiling world (.leave command) (world.applyLeave command.controller)
  | recorded (command : Command S) (addressed : command.addressedIdentity.entity.isSome = true)
      (surviving : ∀ despawn, command ≠ .despawn despawn) :
      Applies seatCeiling world command (world.recordCommand command)

namespace GameWorld

/-- The links after a spawn: the created entity to its controller, all others as before. -/
theorem controllerOf_spawned {world drawn : GameWorld S} {controller : ControllerId}
    {created : EntityId} {controllables : ComponentStore (Controllable S)}
    (draws : world.createEntity = .ok (created, drawn))
    (inserted : drawn.controllables.insertOrAssign created (.linked controller) = .ok controllables)
    (entity : EntityId) :
    (drawn.withControllables controllables).controllerOf entity =
      if entity = created then some controller else world.controllerOf entity := by
  obtain ⟨rest, -, -, rfl⟩ := createEntity_eq_ok draws
  rw [controllerOf_withControllables, ComponentStore.find_of_insertOrAssign inserted]
  split <;> rfl

theorem applySpawn_applies {world next : GameWorld S} {command : SpawnCommand}
    (spawned : world.applySpawn command.controller = .ok next) (seatCeiling : Nat) :
    Applies seatCeiling world (.spawn command) next := by
  unfold applySpawn at spawned
  split at spawned
  · next holds =>
    cases spawned
    exact .alreadyEmbodied command holds
  · next bodiless =>
    obtain ⟨⟨created, drawn⟩, draws, inserted⟩ := bind_eq_ok.mp spawned
    obtain ⟨controllables, stored, committed⟩ := bind_eq_ok.mp inserted
    cases committed
    exact .spawned command created drawn controllables (Bool.eq_false_iff.mpr bodiless) draws stored

theorem applyLobbyCommand_handled {world next : GameWorld S} {command : Command S} {seatCeiling : Nat}
    {handled : Bool} (applied : world.applyLobbyCommand command seatCeiling = .ok (handled, next)) :
    (handled = command.isLobbyCommand) ∧
      (handled = true → Applies seatCeiling world command next) ∧ (handled = false → next = world) := by
  unfold applyLobbyCommand at applied
  split at applied
  · next lobby =>
    split at applied
    · next phase =>
      obtain ⟨seats, changed, committed⟩ := bind_eq_ok.mp applied
      cases committed
      exact ⟨lobby.symm, fun _ => .lobbyChanged command lobby phase seats changed, fun same => by cases same⟩
    · next phase =>
      cases applied
      exact ⟨lobby.symm, fun _ => .lobbyClosed command lobby phase, fun same => by cases same⟩
  · next other =>
    cases applied
    exact ⟨(Bool.eq_false_iff.mpr other).symm, fun same => (by cases same), fun _ => rfl⟩

end GameWorld

namespace IntakePass

variable {seatCeiling : Nat} {decisionTick : TickSequence} {entryRevision : Nat}

theorem applyMemberCommand_applies {pass next : IntakePass S} {command : Command S}
    (lobby : command.isLobbyCommand = false)
    (other : ∀ controller, command ≠ .spawn ⟨controller⟩) (surviving : ∀ entity, command ≠ .despawn ⟨entity⟩)
    (untuned : ∀ tuning, command ≠ .setMovementTuning tuning)
    (applied : pass.applyMemberCommand command = .ok next) :
    Applies seatCeiling pass.world command next.world ∧ next.decisions = pass.decisions ∧
      next.winner = pass.winner := by
  cases command with
  | spawn command => exact absurd rfl (other command.controller)
  | despawn command => exact absurd rfl (surviving command.entity)
  | setMovementTuning command => exact absurd rfl (untuned command)
  | setSeatCount | clearSeat | seatNpc | startMatch => cases lobby
  | join join =>
    obtain ⟨world, joined, committed⟩ := bind_eq_ok.mp applied
    obtain ⟨seats, changed, seated⟩ := bind_eq_ok.mp joined
    cases committed
    cases seated
    exact ⟨.joined join seats changed, rfl, rfl⟩
  | leave leave =>
    cases applied
    exact ⟨.left leave, rfl, rfl⟩
  | thrust command | shield command | charge command | rotateVelocity command =>
    cases applied
    exact ⟨.recorded _ rfl fun _ same => (by cases same), rfl, rfl⟩

theorem applyCommand_applies {pass next : IntakePass S} {command : Command S}
    (applied : pass.applyCommand seatCeiling decisionTick entryRevision command = .ok next) :
    Applies seatCeiling pass.world command next.world ∧
      ((∃ tuning, command = .setMovementTuning tuning ∧
          next = pass.judge decisionTick entryRevision tuning) ∨
        ((∀ tuning, command ≠ .setMovementTuning tuning) ∧ next.decisions = pass.decisions ∧
          next.winner = pass.winner)) := by
  have lobbied : ∀ {other : Command S}, (∀ controller, other ≠ .spawn ⟨controller⟩) →
      (∀ entity, other ≠ .despawn ⟨entity⟩) → (∀ tuning, other ≠ .setMovementTuning tuning) →
      (pass.world.applyLobbyCommand other seatCeiling >>= fun changed =>
        if changed.1 then return { pass with world := changed.2 } else pass.applyMemberCommand other) =
        .ok next →
      Applies seatCeiling pass.world other next.world ∧
        ((∃ tuning, other = .setMovementTuning tuning ∧
            next = pass.judge decisionTick entryRevision tuning) ∨
          ((∀ tuning, other ≠ .setMovementTuning tuning) ∧ next.decisions = pass.decisions ∧
            next.winner = pass.winner)) := by
    intro other unspawned surviving untuned result
    obtain ⟨⟨handled, world⟩, changed, rest⟩ := bind_eq_ok.mp result
    obtain ⟨lobby, effect, -⟩ := GameWorld.applyLobbyCommand_handled changed
    cases handled with
    | true =>
      cases rest
      exact ⟨effect rfl, .inr ⟨untuned, rfl, rfl⟩⟩
    | false =>
      obtain ⟨applies, decisions, winner⟩ := applyMemberCommand_applies lobby.symm unspawned surviving
        untuned rest
      exact ⟨applies, .inr ⟨untuned, decisions, winner⟩⟩
  cases command with
  | despawn command =>
    cases applied
    exact ⟨.despawned command, .inr ⟨fun _ same => (by cases same), rfl, rfl⟩⟩
  | spawn command =>
    obtain ⟨world, spawned, committed⟩ := bind_eq_ok.mp applied
    cases committed
    exact ⟨GameWorld.applySpawn_applies spawned seatCeiling, .inr ⟨fun _ same => (by cases same), rfl, rfl⟩⟩
  | setMovementTuning tuning =>
    cases applied
    exact ⟨.judged tuning, .inl ⟨tuning, rfl, rfl⟩⟩
  | _ =>
    refine lobbied ?_ ?_ ?_ applied
    all_goals
      intro _ same
      cases same

theorem applyCommands_preserves {P : GameWorld S → Prop} {pass final : IntakePass S}
    {commands : List (Command S)}
    (applied : pass.applyCommands seatCeiling decisionTick entryRevision commands = .ok final)
    (initial : P pass.world)
    (preserves : ∀ command ∈ commands, ∀ before after, P before →
      Applies seatCeiling before command after → P after) : P final.world :=
  @foldlM_preserves _ _ _ _ (fun pass => P pass.world) _ _ _
    (fun command member _ _ holds stepped =>
      preserves command member _ _ holds (applyCommand_applies stepped).1) initial applied

theorem close_world (pass : IntakePass S) (decisionTick : TickSequence) (entryRevision : Nat) :
    ∃ movement, (pass.close decisionTick entryRevision).1 =
      pass.world.withMatch { pass.world.matchState with movement := movement } := by
  unfold close
  split
  · exact ⟨_, rfl⟩
  · exact ⟨_, rfl⟩

end IntakePass

theorem applyInputBatch_eq_ok {world next : GameWorld S} {batch : InputBatch S} {seatCeiling : Nat}
    {decisionTick : TickSequence} {decisions : List MovementTuningDecision}
    (applied : applyInputBatch world batch seatCeiling decisionTick = .ok (next, decisions)) :
    ∃ pass, (IntakePass.start world).applyCommands seatCeiling decisionTick
        world.matchState.movement.revision batch.commands = .ok pass ∧
      (next, decisions) = pass.close decisionTick world.matchState.movement.revision := by
  unfold applyInputBatch at applied
  split at applied
  · next empty =>
    rw [List.isEmpty_iff] at empty
    cases applied
    exact ⟨IntakePass.start world, by rw [empty]; rfl, rfl⟩
  · obtain ⟨pass, passed, committed⟩ := bind_eq_ok.mp applied
    exact ⟨pass, passed, (Except.ok.inj committed).symm⟩

theorem applyInputBatch_preserves {P : GameWorld S → Prop} {world next : GameWorld S}
    {batch : InputBatch S} {seatCeiling : Nat} {decisionTick : TickSequence}
    {decisions : List MovementTuningDecision}
    (applied : applyInputBatch world batch seatCeiling decisionTick = .ok (next, decisions))
    (cleared : P world.clearCommandsThisTick)
    (preserves : ∀ command ∈ batch.commands, ∀ before after, P before →
      Applies seatCeiling before command after → P after)
    (tuned : ∀ (before : GameWorld S) movement, P before →
      P (before.withMatch { before.matchState with movement := movement })) : P next := by
  obtain ⟨pass, passed, committed⟩ := applyInputBatch_eq_ok applied
  have holds := IntakePass.applyCommands_preserves passed cleared preserves
  obtain ⟨movement, closed⟩ := pass.close_world decisionTick world.matchState.movement.revision
  rw [show next = _ from congrArg Prod.fst committed, closed]
  exact tuned pass.world movement holds

/-- The pass before the batch's command at `position`. -/
def passBefore (world : GameWorld S) (batch : InputBatch S) (seatCeiling : Nat)
    (decisionTick : TickSequence) (position : Nat) : Validated (IntakePass S) :=
  (IntakePass.start world).applyCommands seatCeiling decisionTick world.matchState.movement.revision
    (batch.commands.take position)

section Positions

variable {world : GameWorld S} {batch : InputBatch S} {seatCeiling : Nat} {decisionTick : TickSequence}
  {position : Nat}

theorem passBefore_succ {command : Command S} {pass : IntakePass S}
    (found : batch.commands[position]? = some command)
    (reached : passBefore world batch seatCeiling decisionTick position = .ok pass) :
    passBefore world batch seatCeiling decisionTick (position + 1) =
      pass.applyCommand seatCeiling decisionTick world.matchState.movement.revision command := by
  unfold passBefore IntakePass.applyCommands at reached
  rw [passBefore, IntakePass.applyCommands, List.take_add_one, found, Option.toList_some,
    List.foldlM_append, reached]
  exact bind_pure (IntakePass.applyCommand seatCeiling decisionTick _ pass command)

theorem passBefore_of_le {later : Nat} {final : IntakePass S} (ordered : position ≤ later)
    (reached : passBefore world batch seatCeiling decisionTick later = .ok final) :
    ∃ pass, passBefore world batch seatCeiling decisionTick position = .ok pass := by
  obtain ⟨distance, rfl⟩ := Nat.exists_eq_add_of_le ordered
  rw [passBefore, List.take_add, IntakePass.applyCommands, List.foldlM_append] at reached
  obtain ⟨pass, before, -⟩ := bind_eq_ok.mp reached
  exact ⟨pass, before⟩

end Positions

end BlobRoyale.Simulation
