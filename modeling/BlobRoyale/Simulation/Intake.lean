import BlobRoyale.Library.Transition
import BlobRoyale.Simulation.GameWorld
import BlobRoyale.Simulation.InputBatch

/-!
# Phase 0

Every command of a tick's batch, applied in batch order: entities leave and arrive, tuning requests
are judged against the revision at tick entry, lobby commands edit the roster, and any other command
is recorded on the controllable it addresses.
-/

namespace BlobRoyale.Simulation

variable {S : Type} [Scalar S]

namespace Command

def isLobbyCommand : Command S → Bool
  | setSeatCount _ | clearSeat _ | seatNpc _ | startMatch _ => true
  | spawn _ | despawn _ | thrust _ | leave _ | join _ | setMovementTuning _ | shield _ | charge _
  | rotateVelocity _ => false

end Command

namespace SeatRoster

/-- What a lobby command does to the roster; one the roster cannot honor changes nothing. -/
def applyLobbyChange (roster : SeatRoster) (seatCeiling : Nat) : Command S → Validated SeatRoster
  | .setSeatCount command =>
      if seatCeiling < command.seatCount then .ok roster
      else do
        let (_, resized) ← roster.trySetSeatCount command.seatCount
        return resized
  | .clearSeat command =>
      match roster.seats[command.seatIndex]? with
      | some (.npc _) => roster.assignSeat command.seatIndex .empty
      | some _ | none => .ok roster
  | .seatNpc command =>
      match roster.seats[command.seatIndex]? with
      | some seat =>
          if seat.isOccupied then .ok roster
          else roster.assignSeat command.seatIndex (.npc ⟨command.kind, none, command.profileName⟩)
      | none => .ok roster
  | .startMatch _ => .ok roster.requestStart
  | _ => .ok roster

/-- `controller_holds_a_seat`. -/
def holdsSeat (roster : SeatRoster) (controller : ControllerId) : Bool :=
  roster.seats.any fun seat => seat.occupant == some controller

/-- What joining does: bind a declared bot's seat, or take the first joinable one. -/
def joined (roster : SeatRoster) (phase : MatchPhase) (controller : ControllerId)
    (seatIndex : Option Nat) (expectedNpc : Option NpcDeclaration) : Validated SeatRoster :=
  if roster.holdsSeat controller then .ok roster
  else
    match seatIndex with
    | some index =>
        match roster.seats[index]? with
        | some (.npc declared) =>
            if declared.controller.isSome then .ok roster
            else if expectedNpc.any fun expected => declared.declaration ≠ expected then .ok roster
            else roster.assignSeat index (.npc { declared with controller := some controller })
        | some _ | none => .ok roster
    | none =>
        match roster.firstJoinableSeat phase with
        | some index => roster.assignSeat index (.controller controller)
        | none => .ok roster

end SeatRoster

namespace Seat

/-- A seat after a controller left: its own seat is empty, its declaration has no bot. -/
def vacated (controller : ControllerId) : Seat → Seat
  | .empty => .empty
  | .controller person => if person = controller then .empty else .controller person
  | .npc declared =>
      if declared.controller = some controller then .npc { declared with controller := none }
      else .npc declared

end Seat

def SeatRoster.vacated (roster : SeatRoster) (controller : ControllerId) : SeatRoster where
  seats := roster.seats.map (Seat.vacated controller)
  startRequested := roster.startRequested
  bounded := by
    rw [List.length_map]
    exact roster.bounded

namespace GameWorld

/-- The command kind's lobby effect, and whether the command was a lobby command. -/
def applyLobbyCommand (world : GameWorld S) (command : Command S) (seatCeiling : Nat) :
    Validated (Bool × GameWorld S) :=
  if command.isLobbyCommand then
    if world.matchState.phase = .lobby then do
      let seats ← world.matchState.seats.applyLobbyChange seatCeiling command
      return (true, world.withSeats seats)
    else .ok (true, world)
  else .ok (false, world)

def controllerHoldsABody (world : GameWorld S) (controller : ControllerId) : Bool :=
  world.controllables.entries.any fun entry => entry.2.controllerId == controller

def applyJoin (world : GameWorld S) (controller : ControllerId) (seatIndex : Option Nat)
    (expectedNpc : Option NpcDeclaration) : Validated (GameWorld S) := do
  let seats ← world.matchState.seats.joined world.matchState.phase controller seatIndex expectedNpc
  return world.withSeats seats

def driven (world : GameWorld S) (controller : ControllerId) : List EntityId :=
  (world.controllables.entries.filter fun entry => entry.2.controllerId = controller).map Prod.fst

def applyLeave (world : GameWorld S) (controller : ControllerId) : GameWorld S :=
  let destroyed := (world.driven controller).foldl destroyEntity world
  destroyed.withSeats (destroyed.matchState.seats.vacated controller)

def applySpawn (world : GameWorld S) (controller : ControllerId) : Validated (GameWorld S) :=
  if world.controllerHoldsABody controller then .ok world
  else do
    let (created, drawn) ← world.createEntity
    let controllables ← drawn.controllables.insertOrAssign created (.linked controller)
    return drawn.withControllables controllables

/-- Append a command to the record of the entity it addresses, when that entity is controllable. -/
def recordCommand (world : GameWorld S) (command : Command S) : GameWorld S :=
  match command.addressedIdentity.entity with
  | none => world
  | some entity =>
      world.withControllables (world.controllables.modify entity fun controllable =>
        { controllable with commandsThisTick := controllable.commandsThisTick ++ [command] })

def clearCommandsThisTick (world : GameWorld S) : GameWorld S :=
  world.withControllables (world.controllables.mapValues fun _ controllable =>
    { controllable with commandsThisTick := [] })

@[simp] theorem controllerOf_clearCommandsThisTick (world : GameWorld S) (entity : EntityId) :
    world.clearCommandsThisTick.controllerOf entity = world.controllerOf entity := by
  rw [clearCommandsThisTick, controllerOf_withControllables, ComponentStore.find_mapValues,
    Option.map_map]
  rfl

@[simp] theorem controllerOf_recordCommand (world : GameWorld S) (command : Command S)
    (entity : EntityId) : (world.recordCommand command).controllerOf entity = world.controllerOf entity := by
  unfold recordCommand
  split
  · rfl
  · next addressed found =>
    rw [controllerOf_withControllables, ComponentStore.find_modify]
    split
    · rw [Option.map_map]
      rfl
    · rfl

@[simp] theorem recordCommand_matchState (world : GameWorld S) (command : Command S) :
    (world.recordCommand command).matchState = world.matchState := by
  unfold recordCommand
  split <;> rfl

theorem mem_driven {world : GameWorld S} {controller : ControllerId} {entity : EntityId} :
    entity ∈ world.driven controller ↔ world.controllerOf entity = some controller := by
  simp only [driven, controllerOf, List.mem_map, List.mem_filter, decide_eq_true_eq,
    Option.map_eq_some_iff, SortedStore.find_eq_some_iff]
  constructor
  · rintro ⟨⟨other, controllable⟩, ⟨member, named⟩, rfl⟩
    exact ⟨controllable, member, named⟩
  · rintro ⟨controllable, member, named⟩
    exact ⟨(entity, controllable), ⟨member, named⟩, rfl⟩

theorem controllerHoldsABody_iff {world : GameWorld S} {controller : ControllerId} :
    world.controllerHoldsABody controller = true ↔
      ∃ entity, world.controllerOf entity = some controller := by
  simp only [controllerHoldsABody, List.any_eq_true, beq_iff_eq, controllerOf, Option.map_eq_some_iff,
    SortedStore.find_eq_some_iff, Prod.exists]

theorem controllerOf_applyLeave (world : GameWorld S) (controller : ControllerId) (entity : EntityId) :
    (world.applyLeave controller).controllerOf entity =
      if world.controllerOf entity = some controller then none else world.controllerOf entity := by
  rw [applyLeave, controllerOf_withSeats, controllerOf, controllables, destroyEntities_find]
  by_cases driven : entity ∈ world.driven controller
  · rw [if_pos driven, if_pos (mem_driven.mp driven)]
    rfl
  · rw [if_neg driven, if_neg (mt mem_driven.mpr driven)]
    rfl

theorem applyLeave_matchState (world : GameWorld S) (controller : ControllerId) :
    (world.applyLeave controller).matchState =
      { world.matchState with seats := world.matchState.seats.vacated controller } := by
  simp only [applyLeave, withSeats, withMatch, (destroyEntities_frame (world.driven controller) world).1]

end GameWorld

/-- One pass over a batch: the world so far, a decision per tuning command, the last eligible one. -/
structure IntakePass (S : Type) [Scalar S] where
  world : GameWorld S
  decisions : List MovementTuningDecision
  winner : Option (SetMovementTuningCommand S × Nat)

namespace IntakePass

def start (world : GameWorld S) : IntakePass S := ⟨world.clearCommandsThisTick, [], none⟩

/-- A tuning command's status before the winner is known. -/
def tuningStatus (world : GameWorld S) (entryRevision : Nat) (tuning : SetMovementTuningCommand S) :
    MovementTuningDecisionStatus :=
  if world.matchState.seats.holdsSeat tuning.controller then
    if tuning.expectedRevision = entryRevision then
      if maximumProtocolSafeInteger ≤ entryRevision then .revisionExhausted
      else if world.matchState.movement.admits tuning.tuning then .superseded
      else .unsupportedTuning
    else .staleRevision
  else .notSeated

def judge (pass : IntakePass S) (decisionTick : TickSequence) (entryRevision : Nat)
    (tuning : SetMovementTuningCommand S) : IntakePass S :=
  let status := tuningStatus pass.world entryRevision tuning
  { pass with
    decisions := pass.decisions ++
      [⟨tuning.controller, tuning.tuningRequestId, status, decisionTick, entryRevision⟩]
    winner := if status = .superseded then some (tuning, pass.decisions.length) else pass.winner }

/-- A command that is neither an entity's arrival or destruction, a tuning request nor a lobby edit. -/
def applyMemberCommand (pass : IntakePass S) (command : Command S) : Validated (IntakePass S) :=
  match command with
  | .join join => do
      let world ← pass.world.applyJoin join.controller join.seatIndex join.expectedNpc
      return { pass with world := world }
  | .leave leave => .ok { pass with world := pass.world.applyLeave leave.controller }
  | _ => .ok { pass with world := pass.world.recordCommand command }

def applyCommand (seatCeiling : Nat) (decisionTick : TickSequence) (entryRevision : Nat)
    (pass : IntakePass S) (command : Command S) : Validated (IntakePass S) :=
  match command with
  | .despawn despawn => .ok { pass with world := pass.world.destroyEntity despawn.entity }
  | .spawn spawn => do
      let world ← pass.world.applySpawn spawn.controller
      return { pass with world := world }
  | .setMovementTuning tuning => .ok (pass.judge decisionTick entryRevision tuning)
  | _ => do
      let (handled, world) ← pass.world.applyLobbyCommand command seatCeiling
      if handled then return { pass with world := world } else pass.applyMemberCommand command

def applyCommands (seatCeiling : Nat) (decisionTick : TickSequence) (entryRevision : Nat)
    (pass : IntakePass S) (commands : List (Command S)) : Validated (IntakePass S) :=
  commands.foldlM (applyCommand seatCeiling decisionTick entryRevision) pass

/-- Commit the winner and report the committed revision on every decision. -/
def close (pass : IntakePass S) (decisionTick : TickSequence) (entryRevision : Nat) :
    GameWorld S × List MovementTuningDecision :=
  match pass.winner with
  | none => (pass.world, pass.decisions.map fun decision =>
      { decision with revision := pass.world.matchState.movement.revision })
  | some (tuning, index) =>
      let movement := { pass.world.matchState.movement with
        current := tuning.tuning
        revision := entryRevision + 1
        effectiveTick := decisionTick }
      let decisions := pass.decisions.modify index fun decision => { decision with status := .applied }
      (pass.world.withMatch { pass.world.matchState with movement := movement },
        decisions.map fun decision => { decision with revision := movement.revision })

end IntakePass

def applyInputBatch (world : GameWorld S) (batch : InputBatch S) (seatCeiling : Nat)
    (decisionTick : TickSequence) : Validated (GameWorld S × List MovementTuningDecision) :=
  if batch.commands.isEmpty then
    .ok (world.clearCommandsThisTick, [])
  else do
    let entryRevision := world.matchState.movement.revision
    let pass ← (IntakePass.start world).applyCommands seatCeiling decisionTick entryRevision
      batch.commands
    return pass.close decisionTick entryRevision

end BlobRoyale.Simulation
