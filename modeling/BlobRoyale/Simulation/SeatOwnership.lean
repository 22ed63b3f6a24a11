import BlobRoyale.Simulation.IntakeEffects

/-!
# Seat and body ownership

A controller drives at most one body and sits in at most one seat, whatever the batches and phases.
The seat count only moves in the lobby, under the ceiling, and never over an occupied seat.
-/

namespace BlobRoyale.Simulation

open Transition

variable {S : Type} [Scalar S]

def GameWorld.SoleBody (world : GameWorld S) : Prop :=
  ∀ first second controller, world.controllerOf first = some controller →
    world.controllerOf second = some controller → first = second

def SeatRoster.SoleSeat (roster : SeatRoster) : Prop :=
  ∀ first second controller, roster.occupantAt first = some controller →
    roster.occupantAt second = some controller → first = second

namespace SeatRoster

variable {roster next : SeatRoster}

theorem SoleSeat.of_subset (sole : roster.SoleSeat)
    (subset : ∀ index controller, next.occupantAt index = some controller →
      roster.occupantAt index = some controller) : next.SoleSeat := by
  intro first second controller sitsFirst sitsSecond
  exact sole first second controller (subset first controller sitsFirst)
    (subset second controller sitsSecond)

theorem SoleSeat.reseats {index : Nat} {seat : Seat} (sole : roster.SoleSeat)
    (reseats : roster.Reseats next index seat)
    (unseated : ∀ controller, seat.occupant = some controller → roster.holdsSeat controller = false) :
    next.SoleSeat := by
  intro first second controller sitsFirst sitsSecond
  have elsewhere : ∀ {position}, seat.occupant = some controller →
      roster.occupantAt position = some controller → False := by
    intro position newcomer sits
    have held := holdsSeat_iff.mpr ⟨position, sits⟩
    exact Bool.eq_false_iff.mp (unseated controller newcomer) held
  rw [reseats.occupantAt] at sitsFirst sitsSecond
  split at sitsFirst
  · next same =>
    split at sitsSecond
    · next other => exact same.trans other.symm
    · exact (elsewhere sitsFirst sitsSecond).elim
  · split at sitsSecond
    · exact (elsewhere sitsSecond sitsFirst).elim
    · exact sole first second controller sitsFirst sitsSecond

theorem SoleSeat.lobbyChange {seatCeiling : Nat} {command : Command S} (sole : roster.SoleSeat)
    (change : roster.LobbyChange seatCeiling command next) : next.SoleSeat := by
  cases change with
  | unchanged => exact sole
  | resized command _ underCeiling resizes =>
    exact sole.of_subset fun index controller sits => resizes.occupantAt sits
  | vacant _ unsized _ index seat unoccupied reseats =>
    refine sole.reseats reseats fun controller sits => ?_
    rw [unoccupied] at sits
    cases sits
  | requested => exact sole

theorem SoleSeat.joined {phase : MatchPhase} {controller : ControllerId} {seatIndex : Option Nat}
    {expectedNpc : Option NpcDeclaration} (sole : roster.SoleSeat)
    (changed : roster.joined phase controller seatIndex expectedNpc = .ok next) : next.SoleSeat := by
  obtain rfl | ⟨unseated, index, seat, sits, reseats⟩ := joined_cases changed
  · exact sole
  · refine sole.reseats reseats fun other sitsToo => ?_
    cases sits.symm.trans sitsToo
    exact unseated

theorem SoleSeat.vacated (sole : roster.SoleSeat) (controller : ControllerId) :
    (roster.vacated controller).SoleSeat := by
  refine sole.of_subset fun index other sits => ?_
  rw [occupantAt_vacated] at sits
  split at sits
  · cases sits
  · exact sits

end SeatRoster

/-- Ownership of bodies and of seats is exclusive. -/
structure Exclusive (world : GameWorld S) : Prop where
  body : world.SoleBody
  seat : world.matchState.seats.SoleSeat

theorem GameWorld.SoleBody.of_subset {world next : GameWorld S} (sole : world.SoleBody)
    (subset : ∀ entity controller, next.controllerOf entity = some controller →
      world.controllerOf entity = some controller) : next.SoleBody := by
  intro first second controller drivesFirst drivesSecond
  exact sole first second controller (subset first controller drivesFirst)
    (subset second controller drivesSecond)

theorem Applies.exclusive {seatCeiling : Nat} {world next : GameWorld S} {command : Command S}
    (applies : Applies seatCeiling world command next) (exclusive : Exclusive world) :
    Exclusive next := by
  cases applies with
  | despawned command =>
    refine ⟨exclusive.body.of_subset fun entity controller drives => ?_, exclusive.seat⟩
    rw [GameWorld.controllerOf_destroyEntity] at drives
    split at drives
    · cases drives
    · exact drives
  | alreadyEmbodied | judged | lobbyClosed => exact exclusive
  | spawned command created drawn controllables bodiless draws inserted =>
    have linked := GameWorld.controllerOf_spawned draws inserted
    have bodyless : ∀ entity, world.controllerOf entity ≠ some command.controller := fun entity drives =>
      Bool.eq_false_iff.mp bodiless (GameWorld.controllerHoldsABody_iff.mpr ⟨entity, drives⟩)
    obtain ⟨rest, -, -, rfl⟩ := GameWorld.createEntity_eq_ok draws
    refine ⟨?_, exclusive.seat⟩
    intro first second controller drivesFirst drivesSecond
    rw [linked] at drivesFirst drivesSecond
    split at drivesFirst
    · next same =>
      split at drivesSecond
      · next other => exact same.trans other.symm
      · cases drivesFirst
        exact absurd drivesSecond (bodyless second)
    · split at drivesSecond
      · cases drivesSecond
        exact absurd drivesFirst (bodyless first)
      · exact exclusive.body first second controller drivesFirst drivesSecond
  | lobbyChanged _ lobby phase seats changed =>
    exact ⟨exclusive.body,
      exclusive.seat.lobbyChange (SeatRoster.applyLobbyChange_changes changed)⟩
  | joined command seats changed => exact ⟨exclusive.body, exclusive.seat.joined changed⟩
  | left command =>
    refine ⟨exclusive.body.of_subset fun entity controller drives => ?_, ?_⟩
    · rw [GameWorld.controllerOf_applyLeave] at drives
      split at drives
      · cases drives
      · exact drives
    · rw [GameWorld.applyLeave_matchState]
      exact exclusive.seat.vacated command.controller
  | recorded =>
    refine ⟨exclusive.body.of_subset fun entity controller drives => ?_, ?_⟩
    · rwa [GameWorld.controllerOf_recordCommand] at drives
    · rw [GameWorld.recordCommand_matchState]
      exact exclusive.seat

theorem Applies.seatCount {seatCeiling : Nat} {world next : GameWorld S} {command : Command S}
    (applies : Applies seatCeiling world command next) :
    next.matchState.phase = world.matchState.phase ∧
      (next.matchState.seats.seatCount = world.matchState.seats.seatCount ∨
        (world.matchState.phase = .lobby ∧ minimumSeatCount ≤ next.matchState.seats.seatCount ∧
          next.matchState.seats.seatCount ≤ seatCeiling)) := by
  cases applies with
  | despawned | alreadyEmbodied | judged | lobbyClosed => exact ⟨rfl, .inl rfl⟩
  | spawned command created drawn controllables bodiless draws =>
    obtain ⟨rest, -, -, rfl⟩ := GameWorld.createEntity_eq_ok draws
    exact ⟨rfl, .inl rfl⟩
  | lobbyChanged _ lobby phase seats changed =>
    refine ⟨rfl, ?_⟩
    cases SeatRoster.applyLobbyChange_changes changed with
    | unchanged | requested => exact .inl rfl
    | resized command _ underCeiling resizes =>
      have count : seats.seatCount = command.seatCount := by
        rw [SeatRoster.seatCount, resizes.seats, SeatRoster.length_resize]
      refine .inr ⟨phase, ?_, ?_⟩
      · exact count ▸ resizes.least
      · exact count ▸ underCeiling
    | vacant _ unsized _ index seat unoccupied reseats => exact .inl reseats.seatCount_eq
  | joined command seats changed =>
    refine ⟨rfl, .inl ?_⟩
    obtain rfl | ⟨-, index, seat, -, reseats⟩ := SeatRoster.joined_cases changed
    · rfl
    · exact reseats.seatCount_eq
  | left command =>
    rw [GameWorld.applyLeave_matchState]
    exact ⟨rfl, .inl (SeatRoster.vacated_seatCount _ _)⟩
  | recorded =>
    rw [GameWorld.recordCommand_matchState]
    exact ⟨rfl, .inl rfl⟩

/-- One tick's intake: the phase it finds and what it applies. -/
structure PhaseZeroTick (S : Type) [Scalar S] where
  phase : MatchPhase
  seatCeiling : Nat
  batch : InputBatch S
  decisionTick : TickSequence

namespace PhaseZeroTick

/-- The tick opened on the batch's reservation, in the phase the tick is about. -/
def enter (tick : PhaseZeroTick S) (world : GameWorld S) : GameWorld S :=
  (world.openTick tick.batch.entityIdReservation).withMatch
    { world.matchState with phase := tick.phase }

/-- The pass before the batch's command at `position`. -/
def passBefore (tick : PhaseZeroTick S) (world : GameWorld S) (position : Nat) :
    Validated (IntakePass S) :=
  Simulation.passBefore (tick.enter world) tick.batch tick.seatCeiling tick.decisionTick position

end PhaseZeroTick

def PhaseZeroStep (world : GameWorld S) (tick : PhaseZeroTick S) (next : GameWorld S) : Prop :=
  ∃ decisions, applyInputBatch (tick.enter world) tick.batch tick.seatCeiling tick.decisionTick =
    .ok (next, decisions)

variable {world next : GameWorld S} {tick : PhaseZeroTick S}

theorem PhaseZeroStep.exclusive (step : PhaseZeroStep world tick next) (exclusive : Exclusive world) :
    Exclusive next := by
  obtain ⟨decisions, applied⟩ := step
  refine applyInputBatch_preserves applied ?_ (fun _ _ _ _ held applies => applies.exclusive held)
    fun before movement held => ⟨held.body, held.seat⟩
  refine ⟨exclusive.body.of_subset fun entity controller drives => ?_, exclusive.seat⟩
  rwa [GameWorld.controllerOf_clearCommandsThisTick] at drives

theorem PhaseZeroStep.seatCount (step : PhaseZeroStep world tick next) :
    next.matchState.seats.seatCount = world.matchState.seats.seatCount ∨
      (tick.phase = .lobby ∧ minimumSeatCount ≤ next.matchState.seats.seatCount ∧
        next.matchState.seats.seatCount ≤ tick.seatCeiling) := by
  obtain ⟨decisions, applied⟩ := step
  refine (@applyInputBatch_preserves _ _ (fun after => after.matchState.phase = tick.phase ∧
    (after.matchState.seats.seatCount = world.matchState.seats.seatCount ∨
      (tick.phase = .lobby ∧ minimumSeatCount ≤ after.matchState.seats.seatCount ∧
        after.matchState.seats.seatCount ≤ tick.seatCeiling))) _ _ _ _ _ _ applied ⟨rfl, .inl rfl⟩
    ?_ fun _ _ held => held).2
  intro command member before after held applies
  obtain ⟨phase, same | ⟨lobby, least, under⟩⟩ := applies.seatCount
  · exact ⟨phase.trans held.1, same ▸ held.2⟩
  · exact ⟨phase.trans held.1, .inr ⟨held.1 ▸ lobby, least, under⟩⟩

theorem Applies.keepsOccupied {seatCeiling : Nat} {command : SetSeatCountCommand}
    (applies : Applies seatCeiling world (.setSeatCount command) next) {index : Nat} {seat : Seat}
    (found : world.matchState.seats.seats[index]? = some seat) (occupied : seat.isOccupied = true) :
    next.matchState.seats.seats[index]? = some seat := by
  cases applies with
  | lobbyClosed => exact found
  | lobbyChanged _ lobby phase seats changed =>
    cases SeatRoster.applyLobbyChange_changes changed with
    | unchanged => exact found
    | resized command _ underCeiling resizes => exact resizes.getElem? found occupied
    | vacant _ unsized => exact absurd rfl (unsized command)
  | recorded _ addressed => cases addressed

theorem PhaseZeroTick.applies_at {position : Nat} {command : Command S}
    {earlier later : IntakePass S} (found : tick.batch.commands[position]? = some command)
    (before : tick.passBefore world position = .ok earlier)
    (after : tick.passBefore world (position + 1) = .ok later) :
    Applies tick.seatCeiling earlier.world command later.world := by
  rw [passBefore, passBefore_succ found before] at after
  exact (IntakePass.applyCommand_applies after).1

/-- Exclusive ownership, and a seat count that moves only as the lobby allows, along every run. -/
theorem seat_ownership {length : Nat} (run : Run (@PhaseZeroStep S _) length)
    (start : Exclusive (run.state 0)) :
    (∀ position, position ≤ length → Exclusive (run.state position)) ∧
    (∀ first last, first ≤ last → last ≤ length →
      0 < (run.state first).matchState.seats.seatCount →
      minimumSeatCount ≤ (run.state last).matchState.seats.seatCount ∧
        (run.state last).matchState.seats.seatCount ≤ maximumSeatCount) ∧
    ∀ position, position < length →
      ((run.label position).phase ≠ .lobby →
        (run.state (position + 1)).matchState.seats.seatCount =
          (run.state position).matchState.seats.seatCount) ∧
      ((run.state position).matchState.seats.seatCount <
          (run.state (position + 1)).matchState.seats.seatCount →
        (run.state (position + 1)).matchState.seats.seatCount ≤ (run.label position).seatCeiling) ∧
      ∀ index command earlier later,
        (run.label position).batch.commands[index]? = some (.setSeatCount command) →
        (run.label position).passBefore (run.state position) index = .ok earlier →
        (run.label position).passBefore (run.state position) (index + 1) = .ok later →
        ∀ (seatIndex : Nat) seat, earlier.world.matchState.seats.seats[seatIndex]? = some seat →
          seat.isOccupied = true → later.world.matchState.seats.seats[seatIndex]? = some seat := by
  refine ⟨run.invariant start fun held step => step.exclusive held, ?_, ?_⟩
  · intro first last ordered within declared
    refine ⟨?_, (run.state last).matchState.seats.bounded⟩
    refine @Run.persists _ _ _ _ run (fun world => minimumSeatCount ≤ world.matchState.seats.seatCount)
      _ _ ordered within declared ?_
    intro position lower upper held step
    obtain same | ⟨-, least, -⟩ := step.seatCount
    · exact same ▸ held
    · exact least
  · intro position before
    have step := run.steps position before
    refine ⟨fun closed => ?_, fun raised => ?_, ?_⟩
    · obtain same | ⟨lobby, -⟩ := step.seatCount
      · exact same
      · exact absurd lobby closed
    · obtain same | ⟨-, -, under⟩ := step.seatCount
      · exact absurd same (Nat.ne_of_gt raised)
      · exact under
    · intro index command earlier later found passed next seatIndex seat sits occupied
      exact (PhaseZeroTick.applies_at found passed next).keepsOccupied sits occupied

/-- A controller spawns, declares two seats and joins one. -/
def firstArrival : PhaseZeroTick ℚ where
  phase := .lobby
  seatCeiling := 4
  batch :=
    { commands := [.spawn ⟨.first⟩, .setSeatCount ⟨.first, 2⟩, .join ⟨.first, none, none⟩]
      entityIdReservation := ⟨.first, 2, by decide, by decide⟩
      ascending := by decide
      wellFormed := by
        intro command member
        simp only [List.mem_cons, List.not_mem_nil, or_false] at member
        obtain rfl | rfl | rfl := member
        · trivial
        · exact ⟨by decide, by decide⟩
        · exact ⟨fun _ => nofun, fun _ => nofun⟩ }
  decisionTick := .zero

/-- The world after phase 0, or the world before it. -/
def PhaseZeroTick.applied (tick : PhaseZeroTick S) (world : GameWorld S) : GameWorld S :=
  match applyInputBatch (tick.enter world) tick.batch tick.seatCeiling tick.decisionTick with
  | .ok (next, _) => next
  | .error _ => world

def firstLobby : Run (@PhaseZeroStep ℚ _) 1 where
  state := trajectory (fun world tick => tick.applied world) (.empty 0) fun _ => firstArrival
  label _ := firstArrival
  steps := fun
    | 0, _ => ⟨[], rfl⟩

theorem seat_ownership_first_lobby :
    Exclusive (firstLobby.state 1) ∧ (firstLobby.state 1).matchState.seats.seatCount = 2 ∧
      (firstLobby.state 1).controllerOf .first = some .first := by
  have start : Exclusive (firstLobby.state 0) :=
    ⟨fun _ _ _ drives => (by cases drives), fun _ _ _ sits => (by cases sits)⟩
  exact ⟨(seat_ownership firstLobby start).1 1 (Nat.le_refl 1), rfl, rfl⟩

end BlobRoyale.Simulation

/-!
# Departures in phase 0

A batch that holds a controller's Leave frees the world of it, whatever else the batch holds: a Leave
is applied after every command that could bring the controller in.
-/

namespace BlobRoyale.Simulation

variable {S : Type} [Scalar S]

/-- The controller a command would give a body or a seat. -/
def Command.arrivingController : Command S → Option ControllerId
  | spawn command => some command.controller
  | join command => some command.controller
  | despawn _ | thrust _ | setSeatCount _ | clearSeat _ | seatNpc _ | startMatch _ | leave _
  | setMovementTuning _ | shield _ | charge _ | rotateVelocity _ => none

theorem Command.kind_of_arrives {command : Command S} {controller : ControllerId}
    (arrives : command.arrivingController = some controller) :
    command.kind = .spawn ∨ command.kind = .join := by
  cases command with
  | spawn => exact .inl rfl
  | join => exact .inr rfl
  | _ => cases arrives

theorem Command.stampedController_of_arrives {command : Command S} {controller : ControllerId}
    (arrives : command.arrivingController = some controller) :
    command.stampedController = some controller := by
  cases command with
  | spawn | join => exact arrives
  | _ => cases arrives

/-- No entity is linked to the controller and no seat holds it. -/
structure GameWorld.FreeOf (world : GameWorld S) (controller : ControllerId) : Prop where
  links : ∀ entity, world.controllerOf entity ≠ some controller
  seats : ∀ index, world.matchState.seats.occupantAt index ≠ some controller

variable {controller : ControllerId} {seatCeiling : Nat} {world next : GameWorld S}

theorem SeatRoster.LobbyChange.occupantAt {roster changed : SeatRoster} {command : Command S}
    (change : roster.LobbyChange seatCeiling command changed) {index : Nat}
    (sits : changed.occupantAt index = some controller) : roster.occupantAt index = some controller := by
  cases change with
  | unchanged | requested => exact sits
  | resized command _ _ resizes => exact resizes.occupantAt sits
  | vacant _ _ _ position seat unoccupied reseats =>
    rw [reseats.occupantAt] at sits
    split at sits
    · rw [unoccupied] at sits
      cases sits
    · exact sits

theorem Applies.freeOf {command : Command S} (applies : Applies seatCeiling world command next)
    (free : world.FreeOf controller) (other : command.arrivingController ≠ some controller) :
    next.FreeOf controller := by
  cases applies with
  | despawned command =>
    refine ⟨fun entity => ?_, free.seats⟩
    rw [GameWorld.controllerOf_destroyEntity]
    split
    · exact (Option.some_ne_none _).symm
    · exact free.links entity
  | alreadyEmbodied | judged | lobbyClosed => exact free
  | spawned command created drawn controllables bodiless draws inserted =>
    have linked := GameWorld.controllerOf_spawned draws inserted
    obtain ⟨rest, -, -, rfl⟩ := GameWorld.createEntity_eq_ok draws
    refine ⟨fun entity => ?_, free.seats⟩
    rw [linked]
    split
    · exact other
    · exact free.links entity
  | lobbyChanged command lobby phase seats changed =>
    refine ⟨free.links, fun index sits => free.seats index ?_⟩
    exact (SeatRoster.applyLobbyChange_changes changed).occupantAt sits
  | joined command seats changed =>
    refine ⟨free.links, fun index => ?_⟩
    obtain rfl | ⟨-, position, seat, occupant, reseats⟩ := SeatRoster.joined_cases changed
    · exact free.seats index
    · show seats.occupantAt index ≠ some controller
      rw [reseats.occupantAt]
      split
      · exact occupant ▸ other
      · exact free.seats index
  | left command =>
    refine ⟨fun entity => ?_, fun index => ?_⟩
    · rw [GameWorld.controllerOf_applyLeave]
      split
      · exact (Option.some_ne_none _).symm
      · exact free.links entity
    · rw [GameWorld.applyLeave_matchState, SeatRoster.occupantAt_vacated]
      split
      · exact (Option.some_ne_none _).symm
      · exact free.seats index
  | recorded command =>
    refine ⟨fun entity => ?_, fun index => ?_⟩
    · rw [GameWorld.controllerOf_recordCommand]
      exact free.links entity
    · rw [GameWorld.recordCommand_matchState]
      exact free.seats index

theorem GameWorld.freeOf_applyLeave (world : GameWorld S) (controller : ControllerId) :
    (world.applyLeave controller).FreeOf controller := by
  refine ⟨fun entity => ?_, fun index => ?_⟩
  · rw [controllerOf_applyLeave]
    split
    · exact (Option.some_ne_none _).symm
    · next other => exact other
  · rw [applyLeave_matchState, SeatRoster.occupantAt_vacated]
    split
    · exact (Option.some_ne_none _).symm
    · next other => exact other

section Batches

variable {batch : InputBatch S} {tick : TickSequence} {decisions : List MovementTuningDecision}

theorem applyInputBatch_freeOf (applied : applyInputBatch world batch seatCeiling tick = .ok (next, decisions))
    (free : world.FreeOf controller)
    (none : ∀ command ∈ batch.commands, command.arrivingController ≠ some controller) :
    next.FreeOf controller := by
  refine applyInputBatch_preserves (P := (·.FreeOf controller)) applied ?_ ?_
    fun _ _ held => ⟨held.links, held.seats⟩
  · refine ⟨fun entity => ?_, free.seats⟩
    rw [GameWorld.controllerOf_clearCommandsThisTick]
    exact free.links entity
  · intro command member before after held applies
    exact applies.freeOf held (none command member)

theorem applyInputBatch_freeOf_of_leave
    (applied : applyInputBatch world batch seatCeiling tick = .ok (next, decisions))
    (leaves : .leave ⟨controller⟩ ∈ batch.commands) : next.FreeOf controller := by
  obtain ⟨pass, passed, committed⟩ := applyInputBatch_eq_ok applied
  obtain ⟨earlier, later, split⟩ := List.append_of_mem leaves
  have ascending := batch.ascending
  rw [split] at passed ascending
  -- every command after the Leave has a higher rank than any arrival
  have absent : ∀ command ∈ later, command.arrivingController ≠ some controller := by
    intro command member arrives
    have after := List.rel_of_pairwise_cons (List.pairwise_append.mp ascending).2.1 member
    have rank : CommandKind.leave.applicationRank ≤ command.kind.applicationRank := by
      obtain higher | ⟨same, -⟩ := Prod.Lex.toLex_lt_toLex.mp after
      · exact Nat.le_of_lt higher
      · exact Nat.le_of_eq same
    obtain spawn | join := Command.kind_of_arrives arrives
    · exact absurd (spawn ▸ rank) (by decide)
    · exact absurd (join ▸ rank) (by decide)
  rw [List.append_cons, IntakePass.applyCommands, List.foldlM_append] at passed
  obtain ⟨departed, reached, rest⟩ := bind_eq_ok.mp passed
  obtain ⟨before, -, left⟩ := Transition.foldlM_concat.mp reached
  have freed : departed.world.FreeOf controller := by
    cases left
    exact before.world.freeOf_applyLeave controller
  have held := IntakePass.applyCommands_preserves (P := (·.FreeOf controller)) rest freed
    fun command member _ _ held applies => applies.freeOf held (absent command member)
  obtain ⟨movement, closed⟩ := pass.close_world tick world.matchState.movement.revision
  rw [show next = _ from congrArg Prod.fst committed, closed]
  exact ⟨held.links, held.seats⟩

end Batches

end BlobRoyale.Simulation
