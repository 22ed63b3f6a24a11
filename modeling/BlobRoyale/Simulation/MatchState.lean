import BlobRoyale.Simulation.Command

/-!
# Match state

The singleton match record of a world: its phase clock, the ordered seat roster of the lobby, the
committed movement tuning with its revision, and the state a mode keeps between ticks.
-/

namespace BlobRoyale.Simulation

inductive MatchPhase where
  | lobby
  | countdown
  | running
  | ended
  deriving DecidableEq, Repr

/-- `MatchOutcome`, its kind and winner in one alternative. -/
inductive MatchOutcome where
  | undecided
  | wonByEntity (winner : EntityId)
  | wonByTeam (winner : TeamId)
  | drawn
  deriving DecidableEq

def MatchOutcome.isDecided : MatchOutcome → Bool
  | undecided => false
  | wonByEntity _ | wonByTeam _ | drawn => true

structure NpcSeat where
  kind : SeatKindName
  controller : Option ControllerId
  profileName : Option BotProfileName
  deriving DecidableEq

def NpcSeat.declaration (seat : NpcSeat) : NpcDeclaration := ⟨seat.kind, seat.profileName⟩

inductive Seat where
  | empty
  | controller (person : ControllerId)
  | npc (seat : NpcSeat)
  deriving DecidableEq

namespace Seat

def isEmpty : Seat → Bool
  | empty => true
  | _ => false

def isNpc : Seat → Bool
  | npc _ => true
  | _ => false

/-- `seat_is_filled`. -/
def isFilled : Seat → Bool
  | empty => false
  | controller _ => true
  | npc seat => seat.controller.isSome

/-- `seat_is_occupied`. -/
def isOccupied (seat : Seat) : Bool := !seat.isEmpty

/-- The controller sitting here, as a person or as a declared bot's. -/
def occupant : Seat → Option ControllerId
  | empty => none
  | controller person => some person
  | npc seat => seat.controller

end Seat

def minimumSeatCount : Nat := 1
def maximumSeatCount : Nat := maximumLobbySeatCount

/-- The ordered seats of the lobby and the one-shot start request. -/
structure SeatRoster where
  seats : List Seat
  startRequested : Bool
  bounded : seats.length ≤ maximumSeatCount
  deriving DecidableEq

namespace SeatRoster

def empty : SeatRoster := ⟨[], false, Nat.zero_le _⟩

def seatCount (roster : SeatRoster) : Nat := roster.seats.length

def isFull (roster : SeatRoster) : Bool := !roster.seats.isEmpty && roster.seats.all Seat.isFilled

def assignSeat (roster : SeatRoster) (index : Nat) (seat : Seat) : Validated SeatRoster :=
  if index < roster.seats.length then
    .ok ⟨roster.seats.set index seat, roster.startRequested, by
      simpa only [List.length_set] using roster.bounded⟩
  else
    reject .seatRosterSeatIndexOutOfRange "seat_roster.seat_index"
      ("seat index " ++ toString index ++ " names no seat in a roster of " ++
        toString roster.seats.length)

/-- `seats_.resize`: the kept seats, then empty ones. -/
def resize (seats : List Seat) (seatCount : Nat) : List Seat :=
  seats.take seatCount ++ List.replicate (seatCount - seats.length) .empty

@[simp] theorem length_resize (seats : List Seat) (seatCount : Nat) :
    (resize seats seatCount).length = seatCount := by
  simp only [resize, List.length_append, List.length_take, List.length_replicate]
  omega

/-- Whether the count was applied; a count that would drop an occupied seat is refused. -/
def trySetSeatCount (roster : SeatRoster) (seatCount : Nat) : Validated (Bool × SeatRoster) :=
  if range : minimumSeatCount ≤ seatCount ∧ seatCount ≤ maximumSeatCount then
    if (roster.seats.drop seatCount).any Seat.isOccupied then
      .ok (false, roster)
    else
      .ok (true, ⟨resize roster.seats seatCount, roster.startRequested, by
        simpa only [length_resize] using range.2⟩)
  else
    reject .seatRosterSeatCountOutOfRange "seat_roster.seat_count"
      ("a declared lobby of " ++ toString seatCount ++ " seats is outside [" ++
        toString minimumSeatCount ++ ", " ++ toString maximumSeatCount ++ "]")

def requestStart (roster : SeatRoster) : SeatRoster := { roster with startRequested := true }

def clearStartRequest (roster : SeatRoster) : SeatRoster := { roster with startRequested := false }

/-- `first_joinable_seat`: the lowest empty seat, else before the match the lowest bot's. -/
def firstJoinableSeat (roster : SeatRoster) (phase : MatchPhase) : Option Nat :=
  match roster.seats.findIdx? Seat.isEmpty with
  | some index => some index
  | none =>
      if phase = .lobby ∨ phase = .countdown then roster.seats.findIdx? Seat.isNpc else none

end SeatRoster

inductive MovementTuningDecisionStatus where
  | applied
  | superseded
  | staleRevision
  | notSeated
  | revisionExhausted
  | unsupportedTuning
  deriving DecidableEq, Repr

structure MovementTuningDecision where
  controller : ControllerId
  tuningRequestId : Nat
  status : MovementTuningDecisionStatus
  decisionTick : TickSequence
  revision : Nat
  deriving DecidableEq

/-- The committed movement controls, their revision, and the room's own maxima. -/
structure MovementTuningState (S : Type) where
  current : MovementTuning S
  defaults : MovementTuning S
  revision : Nat
  effectiveTick : TickSequence
  chargeSpeedFractionMaximum : S
  lethalSpawnRatePerSecondMaximum : S
  nonlethalSpawnRatePerSecondMaximum : S
  deriving DecidableEq

namespace MovementTuningState

variable {S : Type} [Scalar S]

def initial : MovementTuningState S where
  current := .defaults
  defaults := .defaults
  revision := 0
  effectiveTick := .zero
  chargeSpeedFractionMaximum := MovementTuning.maximumChargeSpeedFraction
  lethalSpawnRatePerSecondMaximum := MovementTuning.maximumCrossingSpawnRatePerSecond
  nonlethalSpawnRatePerSecondMaximum := MovementTuning.maximumCrossingSpawnRatePerSecond

def admits (state : MovementTuningState S) (tuning : MovementTuning S) : Bool :=
  tuning.chargeSpeedFraction ≤ state.chargeSpeedFractionMaximum &&
    tuning.lethalSpawnRatePerSecond ≤ state.lethalSpawnRatePerSecondMaximum &&
    tuning.nonlethalSpawnRatePerSecond ≤ state.nonlethalSpawnRatePerSecondMaximum

end MovementTuningState

/-- A normalized time within one tick. -/
structure MotionTime (S : Type) [Scalar S] where
  value : S
  finite : Scalar.isFinite value = true
  within : 0 ≤ value ∧ value ≤ 1
  deriving DecidableEq

structure RoyalePlacement where
  entity : EntityId
  controller : ControllerId
  placement : Nat
  eliminationTick : TickSequence
  deriving DecidableEq

structure RaceStanding (S : Type) [Scalar S] where
  entity : EntityId
  controller : ControllerId
  placement : Nat
  finishedTick : TickSequence
  finishedTickOffset : MotionTime S
  deriving DecidableEq

/-- `ModeMatchState`: the state a mode publishes and keeps between ticks. -/
inductive ModeMatchState (S : Type) [Scalar S] where
  | noModeState
  | royalePlacements (placements : List RoyalePlacement) (previousPhase : MatchPhase)
      (eliminationGraceTicks : Nat)
  | kingOfTheHill (pointsToWin pointIntervalTicks timeLimitTicks : Nat)
  | race (road : RaceRoadName) (checkpointRadius : S) (checkpoints : List (Vector2 S))
      (timeLimitTicks finishWindowTicks : Nat) (standings : List (RaceStanding S))
  deriving DecidableEq

structure MatchState (S : Type) [Scalar S] where
  phase : MatchPhase
  previousPhase : MatchPhase
  phaseStartedTick : TickSequence
  runningStartedTick : TickSequence
  outcome : MatchOutcome
  seats : SeatRoster
  spawnRotationCounter : Nat
  modeState : ModeMatchState S
  movement : MovementTuningState S
  deriving DecidableEq

def MatchState.initial {S : Type} [Scalar S] : MatchState S where
  phase := .lobby
  previousPhase := .lobby
  phaseStartedTick := .zero
  runningStartedTick := .zero
  outcome := .undecided
  seats := .empty
  spawnRotationCounter := 0
  modeState := .noModeState
  movement := .initial

end BlobRoyale.Simulation
