import Mathlib.Data.BitVec
import BlobRoyale.Simulation.Identity
import BlobRoyale.Simulation.Scalar

/-!
# Bounded names and NPC declarations

`BoundedName<Policy>`: one owned name type per domain, its grammar checked at construction. The
domains share the wire kind-name grammar and differ in their error and in whether an empty
default exists.
-/

namespace BlobRoyale.Simulation

private def isLowerCaseLetter (character : Char) : Bool := 'a' ≤ character && character ≤ 'z'

def isSnakeCaseIdentity (value : String) : Bool :=
  match value.toList with
  | [] => false
  | first :: rest =>
      isLowerCaseLetter first && (first :: rest).all fun character =>
        isLowerCaseLetter character || ('0' ≤ character && character ≤ '9') || character == '_'

def isWireKindName (value : String) : Bool :=
  value.utf8ByteSize ≤ maximumKindNameLength && isSnakeCaseIdentity value

inductive NameDomain where
  | botProfile
  | seatKind
  | raceRoad
  | contactRule
  deriving DecidableEq, Repr

namespace NameDomain

/-- `kAllowEmptyDefault`. -/
def allowsEmptyDefault : NameDomain → Bool
  | seatKind | contactRule => true
  | botProfile | raceRoad => false

def code : NameDomain → SimulationValidationCode
  | botProfile => .botProfileNameInvalid
  | seatKind => .seatKindNameInvalid
  | raceRoad => .raceRoadNameInvalid
  | contactRule => .contactRuleNameInvalid

def context : NameDomain → String
  | botProfile => "npc.profile_name"
  | seatKind => "seat.npc_kind"
  | raceRoad => "race_mode_state.road"
  | contactRule => "contact_rule.name"

def refusal (value : String) : NameDomain → String
  | botProfile => "profile name " ++ value ++
      " must be a non-empty lower snake case name of at most 64 bytes"
  | seatKind => "seat controller kind " ++ value ++
      " must be a non-empty snake_case identity within the published kind-name length"
  | raceRoad => "race road name " ++ value ++
      " must be a non-empty snake_case identity within the published kind-name length"
  | contactRule => "contact rule name " ++ value ++
      " must be a non-empty snake_case identity within the accepted length"

end NameDomain

structure BoundedName (domain : NameDomain) where
  value : String
  valid : isWireKindName value = true ∨ (domain.allowsEmptyDefault = true ∧ value = "")
  deriving DecidableEq

namespace BoundedName

variable {domain : NameDomain}

def create (domain : NameDomain) (value : String) : Validated (BoundedName domain) :=
  if accepted : isWireKindName value = true then
    .ok ⟨value, .inl accepted⟩
  else
    reject domain.code domain.context (domain.refusal value)

/-- The unnamed sentinel of a domain that has one. -/
def unnamed (domain : NameDomain) (allowed : domain.allowsEmptyDefault = true) : BoundedName domain :=
  ⟨"", .inr ⟨allowed, rfl⟩⟩

def isEmpty (name : BoundedName domain) : Bool := name.value == ""

end BoundedName

abbrev SeatKindName := BoundedName .seatKind
abbrev BotProfileName := BoundedName .botProfile
abbrev RaceRoadName := BoundedName .raceRoad
abbrev ContactRuleName := BoundedName .contactRule

/-- Complete NPC selection identity, independent of its controller. -/
structure NpcDeclaration where
  kind : SeatKindName
  profileName : Option BotProfileName
  deriving DecidableEq

def NpcDeclaration.isValid (declaration : NpcDeclaration) : Bool := !declaration.kind.isEmpty

/-- The registered declarations a boundary may accept. -/
structure NpcCatalogue where
  unprofiledKinds : List SeatKindName
  profiles : List NpcDeclaration

namespace NpcCatalogue

def empty : NpcCatalogue := ⟨[], []⟩

def contains (catalogue : NpcCatalogue) (declaration : NpcDeclaration) : Bool :=
  match declaration.profileName with
  | none => catalogue.unprofiledKinds.contains declaration.kind
  | some profile => catalogue.profiles.any fun registered =>
      registered.kind == declaration.kind && registered.profileName == some profile

end NpcCatalogue

end BlobRoyale.Simulation

/-!
# Commands

The closed variant of command kinds with its projections: kind, wire name, addressed identity and
phase-0 application rank, and the mask of kinds a mode accepts.
-/

namespace BlobRoyale.Simulation

/-- The room-wide movement controls one tuning request carries, in the source's field order. -/
structure MovementTuning (S : Type) where
  acceleration : S
  normalTopSpeed : S
  chargeSpeedFraction : S
  lethalSpawnRatePerSecond : S
  nonlethalSpawnRatePerSecond : S
  deriving DecidableEq

namespace MovementTuning

variable {S : Type} [Scalar S]

def maximumMovementAcceleration : S := ((10000 : Nat) : S)
def minimumNormalTopSpeed : S := 1
def maximumNormalTopSpeed : S := ((10000 : Nat) : S)
def defaultMovementAcceleration : S := ((400 : Nat) : S)
def defaultNormalTopSpeed : S := ((600 : Nat) : S)
def defaultChargeSpeedFraction : S := ((3 : Nat) : S) / ((4 : Nat) : S)
def maximumChargeSpeedFraction : S := maximumPhysicalComponentMagnitude / maximumNormalTopSpeed
def maximumCrossingSpawnRatePerSecond : S := ((5 : Nat) : S)

def defaults : MovementTuning S :=
  ⟨defaultMovementAcceleration, defaultNormalTopSpeed, defaultChargeSpeedFraction, 0, 0⟩

def requireTuningScalar (value minimum maximum : S) (context : String) : Validated Unit :=
  if Scalar.isFinite value = true then
    if value < minimum ∨ maximum < value then
      reject .movementTuningOutOfRange context
        ("movement tuning must lie in the inclusive range " ++ Scalar.toText minimum ++ " to " ++
          Scalar.toText maximum)
    else .ok ()
  else reject .movementTuningNotFinite context "movement tuning must be finite"

def create (acceleration normalTopSpeed chargeSpeedFraction lethalSpawnRatePerSecond
    nonlethalSpawnRatePerSecond : S) : Validated (MovementTuning S) := do
  requireTuningScalar acceleration 0 maximumMovementAcceleration
    "movement.acceleration_world_units_per_second_squared"
  requireTuningScalar normalTopSpeed minimumNormalTopSpeed maximumNormalTopSpeed
    "movement.normal_top_speed_world_units_per_second"
  requireTuningScalar chargeSpeedFraction 0 maximumChargeSpeedFraction "movement.charge_speed_fraction"
  requireTuningScalar lethalSpawnRatePerSecond 0 maximumCrossingSpawnRatePerSecond
    "movement.lethal_spawn_rate_per_second"
  requireTuningScalar nonlethalSpawnRatePerSecond 0 maximumCrossingSpawnRatePerSecond
    "movement.nonlethal_spawn_rate_per_second"
  return ⟨Scalar.normalizeSignedZero acceleration, normalTopSpeed,
    Scalar.normalizeSignedZero chargeSpeedFraction,
    Scalar.normalizeSignedZero lethalSpawnRatePerSecond,
    Scalar.normalizeSignedZero nonlethalSpawnRatePerSecond⟩

end MovementTuning

structure SpawnCommand where
  controller : ControllerId
  deriving DecidableEq

structure DespawnCommand where
  entity : EntityId
  deriving DecidableEq

structure ThrustCommand (S : Type) [Scalar S] where
  entity : EntityId
  direction : Vector2 S
  inputGeneration : Option TickSequence
  braking : Bool
  deriving DecidableEq

structure SetSeatCountCommand where
  controller : ControllerId
  seatCount : Nat
  deriving DecidableEq

structure ClearSeatCommand where
  controller : ControllerId
  seatIndex : Nat
  deriving DecidableEq

structure SeatNpcCommand where
  controller : ControllerId
  seatIndex : Nat
  kind : SeatKindName
  profileName : Option BotProfileName
  deriving DecidableEq

def SeatNpcCommand.declaration (command : SeatNpcCommand) : NpcDeclaration :=
  ⟨command.kind, command.profileName⟩

structure StartMatchCommand where
  controller : ControllerId
  deriving DecidableEq

structure LeaveCommand where
  controller : ControllerId
  deriving DecidableEq

structure JoinCommand where
  controller : ControllerId
  seatIndex : Option Nat
  expectedNpc : Option NpcDeclaration
  deriving DecidableEq

structure SetMovementTuningCommand (S : Type) where
  controller : ControllerId
  tuningRequestId : Nat
  expectedRevision : Nat
  tuning : MovementTuning S
  deriving DecidableEq

structure ShieldCommand where
  entity : EntityId
  inputGeneration : Option TickSequence
  deriving DecidableEq

structure ChargeCommand (S : Type) [Scalar S] where
  entity : EntityId
  direction : Vector2 S
  inputGeneration : Option TickSequence
  deriving DecidableEq

structure RotateVelocityCommand where
  entity : EntityId
  clockwise : Bool
  inputGeneration : Option TickSequence
  deriving DecidableEq

inductive Command (S : Type) [Scalar S] where
  | spawn (command : SpawnCommand)
  | despawn (command : DespawnCommand)
  | thrust (command : ThrustCommand S)
  | setSeatCount (command : SetSeatCountCommand)
  | clearSeat (command : ClearSeatCommand)
  | seatNpc (command : SeatNpcCommand)
  | startMatch (command : StartMatchCommand)
  | leave (command : LeaveCommand)
  | join (command : JoinCommand)
  | setMovementTuning (command : SetMovementTuningCommand S)
  | shield (command : ShieldCommand)
  | charge (command : ChargeCommand S)
  | rotateVelocity (command : RotateVelocityCommand)
  deriving DecidableEq

inductive CommandKind where
  | spawn
  | despawn
  | thrust
  | setSeatCount
  | clearSeat
  | seatNpc
  | startMatch
  | leave
  | join
  | setMovementTuning
  | shield
  | charge
  | rotateVelocity
  deriving DecidableEq, Repr

namespace CommandKind

/-- Alternative order of the variant, which is also the kind's bit position. -/
def all : List CommandKind :=
  [spawn, despawn, thrust, setSeatCount, clearSeat, seatNpc, startMatch, leave, join,
    setMovementTuning, shield, charge, rotateVelocity]

def bits : CommandKind → BitVec 32
  | spawn => 1#32 <<< 0
  | despawn => 1#32 <<< 1
  | thrust => 1#32 <<< 2
  | setSeatCount => 1#32 <<< 3
  | clearSeat => 1#32 <<< 4
  | seatNpc => 1#32 <<< 5
  | startMatch => 1#32 <<< 6
  | leave => 1#32 <<< 7
  | join => 1#32 <<< 8
  | setMovementTuning => 1#32 <<< 9
  | shield => 1#32 <<< 10
  | charge => 1#32 <<< 11
  | rotateVelocity => 1#32 <<< 12

/-- `command_kind_name_of`. -/
def name : CommandKind → String
  | spawn => "spawn"
  | despawn => "despawn"
  | thrust => "thrust"
  | setSeatCount => "set_seat_count"
  | clearSeat => "clear_seat"
  | seatNpc => "seat_npc"
  | startMatch => "start_match"
  | leave => "leave"
  | join => "join"
  | setMovementTuning => "set_movement_tuning"
  | shield => "shield"
  | charge => "charge"
  | rotateVelocity => "rotate_velocity"

/-- `command_kind_application_rank`: the position of a kind in phase 0's order. -/
def applicationRank : CommandKind → Nat
  | despawn => 0
  | spawn => 1
  | thrust => 2
  | setMovementTuning => 3
  | setSeatCount => 4
  | clearSeat => 5
  | seatNpc => 6
  | startMatch => 7
  | join => 8
  | leave => 9
  | shield => 10
  | charge => 11
  | rotateVelocity => 12

theorem applicationRank_injective : Function.Injective applicationRank := by
  intro first second ranks
  cases first <;> cases second <;> simp [applicationRank] at ranks <;> rfl

end CommandKind

/-- The set of kinds a mode accepts; no bit outside the registered kinds can be set. -/
structure CommandKindMask where
  bits : BitVec 32
  known : bits &&& CommandKind.all.foldl (fun set kind => set ||| kind.bits) 0 = bits
  deriving DecidableEq

namespace CommandKindMask

def allBits : BitVec 32 := CommandKind.all.foldl (fun set kind => set ||| kind.bits) 0

def create (bits : BitVec 32) : Validated CommandKindMask :=
  if known : bits &&& allBits = bits then
    .ok ⟨bits, known⟩
  else
    reject .commandKindMaskUnknownBit "command_kind_mask.bits"
      ("mask bits " ++ toString bits.toNat ++ " include a bit belonging to no registered command kind")

def all : CommandKindMask := ⟨allBits, by decide⟩

def contains (mask : CommandKindMask) (kind : CommandKind) : Bool := mask.bits &&& kind.bits != 0

@[simp] theorem all_contains (kind : CommandKind) : all.contains kind = true := by
  cases kind <;> decide

end CommandKindMask

/-- The one identity a command addresses; the two spaces are never compared with each other. -/
structure AddressedIdentity where
  entity : Option EntityId
  orderingKey : Nat
  deriving DecidableEq

namespace AddressedIdentity

def ofEntity (entity : EntityId) : AddressedIdentity := ⟨some entity, entity.value⟩
def ofController (controller : ControllerId) : AddressedIdentity := ⟨none, controller.value⟩

end AddressedIdentity

namespace Command

variable {S : Type} [Scalar S]

/-- `command_kind_of`. -/
def kind : Command S → CommandKind
  | spawn _ => .spawn
  | despawn _ => .despawn
  | thrust _ => .thrust
  | setSeatCount _ => .setSeatCount
  | clearSeat _ => .clearSeat
  | seatNpc _ => .seatNpc
  | startMatch _ => .startMatch
  | leave _ => .leave
  | join _ => .join
  | setMovementTuning _ => .setMovementTuning
  | shield _ => .shield
  | charge _ => .charge
  | rotateVelocity _ => .rotateVelocity

/-- `addressed_identity_of`: a controller-stamped kind addresses its sender, any other its entity. -/
def addressedIdentity : Command S → AddressedIdentity
  | spawn command => .ofController command.controller
  | setSeatCount command => .ofController command.controller
  | clearSeat command => .ofController command.controller
  | seatNpc command => .ofController command.controller
  | startMatch command => .ofController command.controller
  | leave command => .ofController command.controller
  | join command => .ofController command.controller
  | setMovementTuning command => .ofController command.controller
  | despawn command => .ofEntity command.entity
  | thrust command => .ofEntity command.entity
  | shield command => .ofEntity command.entity
  | charge command => .ofEntity command.entity
  | rotateVelocity command => .ofEntity command.entity

/-- `stamped_controller_of` of the boundary. -/
def stampedController : Command S → Option ControllerId
  | spawn command => some command.controller
  | setSeatCount command => some command.controller
  | clearSeat command => some command.controller
  | seatNpc command => some command.controller
  | startMatch command => some command.controller
  | leave command => some command.controller
  | join command => some command.controller
  | setMovementTuning command => some command.controller
  | despawn _ | thrust _ | shield _ | charge _ | rotateVelocity _ => none

/-- What superseding and canonicalization identify a command by: its kind and ordering key. -/
def slot (command : Command S) : CommandKind × Nat :=
  (command.kind, command.addressedIdentity.orderingKey)

def isSetMovementTuning : Command S → Bool
  | setMovementTuning _ => true
  | _ => false

end Command

end BlobRoyale.Simulation
