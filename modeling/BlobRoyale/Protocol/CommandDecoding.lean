import Mathlib.Algebra.Order.Field.Rat
import Mathlib.Tactic.NormNum
import BlobRoyale.Simulation.Command
import BlobRoyale.Protocol.JsonValue

/-!
# The answer to one client frame

Either one stamped command or one named rejection, each rejection with the close it owes.
-/

namespace BlobRoyale.Protocol

open BlobRoyale.Simulation

inductive CommandDecodeRejection where
  | messageTooLarge
  | malformed
  | kindRejected
  | payloadInvalid
  deriving DecidableEq, Repr

namespace CommandDecodeRejection

/-- `command_decode_rejection_name`. -/
def name : CommandDecodeRejection → String
  | messageTooLarge => "client_message_too_large"
  | malformed => "command_malformed"
  | kindRejected => "command_kind_rejected"
  | payloadInvalid => "command_payload_invalid"

/-- `command_decode_close_code`. -/
def closeCode : CommandDecodeRejection → Nat
  | messageTooLarge => 1009
  | malformed | kindRejected | payloadInvalid => 1008

end CommandDecodeRejection

abbrev CommandDecodeResult (S : Type) [Scalar S] := Except CommandDecodeRejection (Command S)

end BlobRoyale.Protocol

/-!
# Command decoding

The only place where a client's bytes become a command. A decoder refuses a frame by name; that one of the
constructors it calls throws is kept apart from a refusal. The parser is a parameter.
-/

namespace BlobRoyale.Protocol

open BlobRoyale.Simulation

variable {S : Type} [Scalar S]

def clientMessageMaximumByteCount : Nat := 1024
def maximumSafeInteger : Nat := 9007199254740991
def lobbySeatCountMaximum : Nat := 64
def lobbySeatIndexMaximum : Nat := lobbySeatCountMaximum - 1
def thrustComponentMaximumMagnitude : S := 1
def movementAccelerationMinimum : S := 0
def movementAccelerationMaximum : S := ((10000 : Nat) : S)
def movementNormalTopSpeedMinimum : S := 1
def movementNormalTopSpeedMaximum : S := ((10000 : Nat) : S)
def movementChargeSpeedFractionMaximum : S := ((100000000 : Nat) : S)
def movementCrossingSpawnRateMaximum : S := ((5 : Nat) : S)

section WireKinds

/-- `CommandWireKind`: the name a client sends for a kind, where a client may send it. -/
def clientCommandWireName : CommandKind → Option String
  | .spawn | .despawn | .leave | .join => none
  | .thrust => some "set_thrust"
  | .setSeatCount => some "set_seat_count"
  | .clearSeat => some "clear_seat"
  | .seatNpc => some "seat_npc"
  | .startMatch => some "start_match"
  | .setMovementTuning => some "set_movement_tuning"
  | .shield => some "shield"
  | .charge => some "charge"
  | .rotateVelocity => some "rotate_velocity"

def clientCommandKindOfWireName (wireName : String) : Option CommandKind :=
  CommandKind.all.find? fun kind => clientCommandWireName kind == some wireName

theorem clientCommandKindOfWireName_eq_some {wireName : String} {kind : CommandKind} :
    clientCommandKindOfWireName wireName = some kind ↔ clientCommandWireName kind = some wireName := by
  constructor
  · intro found
    have matched := List.find?_some found
    exact eq_of_beq matched
  · intro named
    cases kind <;> cases named <;> decide

end WireKinds

/-- `NpcCatalogue::contains` of a kind and a profile by their names. -/
def containsNames (catalogue : NpcCatalogue) (kind : String) (profileName : Option String) : Bool :=
  match profileName with
  | none => catalogue.unprofiledKinds.any fun registered => registered.value == kind
  | some profile => catalogue.profiles.any fun declaration =>
      declaration.kind.value == kind && declaration.profileName.any fun name => name.value == profile

/-- An answer, a refusal, or the exception of a constructor the decoder calls. -/
abbrev Decoding (α : Type) := ExceptT CommandDecodeRejection (Except SimulationValidationError) α

namespace Decoding

variable {α : Type}

def required (rejection : CommandDecodeRejection) : Option α → Decoding α
  | none => throw rejection
  | some value => pure value

def check (rejection : CommandDecodeRejection) (condition : Bool) : Decoding Unit :=
  if condition then pure () else throw rejection

def constructed (made : Validated α) : Decoding α := ExceptT.lift made

end Decoding

open Decoding

/-- `1U` of a member that is present. -/
def present (encoded : Option (JsonValue S)) : Nat := if encoded.isSome then 1 else 0

section Payloads

variable (payload : List (String × JsonValue S)) (stampedEntity : EntityId) (controller : ControllerId)

def invalid : CommandDecodeRejection := .payloadInvalid

/-- A present generation, in the decoders that may lack one. -/
def decodeInputGeneration : Option (JsonValue S) → Decoding (Option TickSequence)
  | none => pure none
  | some encoded => do
      let value ← required invalid (boundedUnsignedOf encoded 1 maximumSafeInteger)
      let generation ← constructed (TickSequence.create value)
      return some generation

/-- The components of a direction, neither normalized nor clamped. -/
def decodeDirection : Decoding (S × S) := do
  let encodedX ← required invalid (payload.lookup "x")
  let encodedY ← required invalid (payload.lookup "y")
  let x ← required invalid (finiteNumberOf encodedX)
  let y ← required invalid (finiteNumberOf encodedY)
  check invalid (!(thrustComponentMaximumMagnitude < Scalar.abs x || thrustComponentMaximumMagnitude < Scalar.abs y))
  return (x, y)

def decodeSetThrust : Decoding (Command S) := do
  let encodedGeneration := payload.lookup "input_generation"
  let encodedBraking := payload.lookup "braking"
  check invalid (payload.length == 2 + present encodedGeneration + present encodedBraking &&
    encodedBraking.all JsonValue.isBool)
  let (x, y) ← decodeDirection payload
  let generation ← decodeInputGeneration encodedGeneration
  let direction ← constructed (Vector2.create x y)
  return .thrust ⟨stampedEntity, direction, generation, encodedBraking.any JsonValue.getBool⟩

/-- A generation that is required and may be null. -/
def decodeShield : Decoding (Command S) := do
  check invalid (payload.length == 1)
  let encodedGeneration ← required invalid (payload.lookup "input_generation")
  let generation ← decodeInputGeneration (if encodedGeneration.isNull then none else some encodedGeneration)
  return .shield ⟨stampedEntity, generation⟩

def decodeCharge : Decoding (Command S) := do
  let encodedGeneration := payload.lookup "input_generation"
  check invalid (payload.length == if encodedGeneration.isNone then 2 else 3)
  let (x, y) ← decodeDirection payload
  let generation ← decodeInputGeneration encodedGeneration
  let direction ← constructed (Vector2.create x y)
  return .charge ⟨stampedEntity, direction, generation⟩

def decodeSeatIndex (encoded : JsonValue S) : Option Nat := boundedUnsignedOf encoded 0 lobbySeatIndexMaximum

def decodeSetSeatCount : Decoding (Command S) := do
  check invalid (payload.length == 1)
  let encoded ← required invalid (payload.lookup "seat_count")
  let seatCount ← required invalid (boundedUnsignedOf encoded 1 lobbySeatCountMaximum)
  return .setSeatCount ⟨controller, seatCount⟩

def decodeClearSeat : Decoding (Command S) := do
  check invalid (payload.length == 1)
  let encoded ← required invalid (payload.lookup "seat_index")
  let seatIndex ← required invalid (decodeSeatIndex encoded)
  return .clearSeat ⟨controller, seatIndex⟩

def decodeProfileName : Option (JsonValue S) → Decoding (Option String)
  | none => pure none
  | some encoded => do
      let name ← required invalid encoded.string?
      return some name

def createProfileName : Option String → Decoding (Option BotProfileName)
  | none => pure none
  | some name => do
      let profile ← constructed (BoundedName.create .botProfile name)
      return some profile

def decodeSeatNpc (npcCatalogue : NpcCatalogue) : Decoding (Command S) := do
  let encodedProfile := payload.lookup "profile_name"
  check invalid (payload.length == if encodedProfile.isNone then 2 else 3)
  let encodedSeatIndex ← required invalid (payload.lookup "seat_index")
  let encodedNpcKind ← required invalid (payload.lookup "npc_kind")
  let npcKind ← required invalid encodedNpcKind.string?
  let seatIndex ← required invalid (decodeSeatIndex encodedSeatIndex)
  let profileName ← decodeProfileName encodedProfile
  check invalid (containsNames npcCatalogue npcKind profileName && isWireKindName npcKind)
  let kind ← constructed (BoundedName.create .seatKind npcKind)
  let profile ← createProfileName profileName
  return .seatNpc ⟨controller, seatIndex, kind, profile⟩

def decodeStartMatch : Decoding (Command S) := do
  check invalid payload.isEmpty
  return .startMatch ⟨controller⟩

/-- The `scalar` of a tuning payload. -/
def decodeScalar (key : String) (minimum maximum : S) : Decoding S := do
  let encoded ← required invalid (payload.lookup key)
  let value ← required invalid (finiteNumberOf encoded)
  check invalid (minimum ≤ value && value ≤ maximum)
  return value

def decodeTuning : Decoding (MovementTuning S) := do
  let acceleration ← decodeScalar payload "acceleration_world_units_per_second_squared"
    movementAccelerationMinimum movementAccelerationMaximum
  let speed ← decodeScalar payload "normal_top_speed_world_units_per_second"
    movementNormalTopSpeedMinimum movementNormalTopSpeedMaximum
  let charge ← decodeScalar payload "charge_speed_fraction" 0 movementChargeSpeedFractionMaximum
  let lethal ← decodeScalar payload "lethal_spawn_rate_per_second" 0 movementCrossingSpawnRateMaximum
  let nonlethal ← decodeScalar payload "nonlethal_spawn_rate_per_second" 0 movementCrossingSpawnRateMaximum
  constructed (MovementTuning.create acceleration speed charge lethal nonlethal)

def decodeSetMovementTuning : Decoding (Command S) := do
  check invalid (payload.length == 7)
  let encodedId ← required invalid (payload.lookup "tuning_request_id")
  let encodedRevision ← required invalid (payload.lookup "expected_revision")
  let requestId ← required invalid (boundedUnsignedOf encodedId 1 maximumSafeInteger)
  let revision ← required invalid (boundedUnsignedOf encodedRevision 0 maximumSafeInteger)
  let tuning ← decodeTuning payload
  return .setMovementTuning ⟨controller, requestId, revision, tuning⟩

def decodeRotateVelocity : Decoding (Command S) := do
  let encodedDirection := payload.lookup "direction"
  let encodedGeneration := payload.lookup "input_generation"
  check invalid (payload.length == if encodedGeneration.isNone then 1 else 2)
  let encoded ← required invalid encodedDirection
  let direction ← required invalid encoded.string?
  check invalid (direction == "left" || direction == "right")
  let generation ← decodeInputGeneration encodedGeneration
  return .rotateVelocity ⟨stampedEntity, direction == "right", generation⟩

def decodePayload (kind : CommandKind) (npcCatalogue : NpcCatalogue) : Decoding (Command S) :=
  match kind with
  | .thrust => decodeSetThrust payload stampedEntity
  | .shield => decodeShield payload stampedEntity
  | .charge => decodeCharge payload stampedEntity
  | .rotateVelocity => decodeRotateVelocity payload stampedEntity
  | .setSeatCount => decodeSetSeatCount payload controller
  | .clearSeat => decodeClearSeat payload controller
  | .seatNpc => decodeSeatNpc payload controller npcCatalogue
  | .startMatch => decodeStartMatch payload controller
  | .setMovementTuning => decodeSetMovementTuning payload controller
  | .spawn | .despawn | .leave | .join => throw .kindRejected

end Payloads

/-- A parser takes exactly one document, whose objects have distinct names. -/
abbrev Parser (S : Type) [Scalar S] := List UInt8 → Option { document : JsonValue S // document.Unique }

def decodeCommandEnvelope (parse : Parser S) (frame : List UInt8) (acceptedKinds : CommandKindMask)
    (stampedEntity : EntityId) (stampedController : ControllerId) (npcCatalogue : NpcCatalogue) :
    Decoding (Command S) := do
  check .messageTooLarge (frame.length ≤ clientMessageMaximumByteCount)
  let document ← required .malformed (parse frame)
  let envelope ← required .malformed document.val.object?
  check .malformed (envelope.length == 2)
  let encodedKind ← required .malformed (envelope.lookup "kind")
  let encodedPayload ← required .malformed (envelope.lookup "payload")
  let payload ← required .malformed encodedPayload.object?
  let kindName ← required .kindRejected encodedKind.string?
  let kind ← required .kindRejected (clientCommandKindOfWireName kindName)
  check .kindRejected (acceptedKinds.contains kind)
  decodePayload payload stampedEntity stampedController kind npcCatalogue

end BlobRoyale.Protocol

/-!
# The command schemas

What a client may send: the frame of one envelope, and for each kind the members its payload requires, those
it may add, and the range of each.
-/

namespace BlobRoyale.Protocol

open BlobRoyale.Simulation

/-- What the wire's ranges ask of the scalars: integers of 64 bits convert to finite ones, and the constants
two layers state are equal, as the source asserts when it is compiled. -/
class WireScalar (S : Type) [Scalar S] : Prop where
  finite_natCast : ∀ value : Nat, value < 2 ^ 64 → Scalar.isFinite (value : S) = true
  finite_neg : ∀ value : S, Scalar.isFinite value = true → Scalar.isFinite (-value) = true
  one_le_maximum : (1 : S) ≤ maximumPhysicalComponentMagnitude
  chargeSpeedFraction : (movementChargeSpeedFractionMaximum : S) = MovementTuning.maximumChargeSpeedFraction

instance : WireScalar ℚ where
  finite_natCast _ _ := rfl
  finite_neg _ _ := rfl
  one_le_maximum := by
    unfold maximumPhysicalComponentMagnitude
    norm_num
  chargeSpeedFraction := by
    unfold movementChargeSpeedFractionMaximum MovementTuning.maximumChargeSpeedFraction
      maximumPhysicalComponentMagnitude MovementTuning.maximumNormalTopSpeed
    norm_num

structure PayloadSchema (S : Type) where
  required : List (String × (JsonValue S → Prop))
  optional : List (String × (JsonValue S → Prop))

namespace PayloadSchema

variable {S : Type}

def names (members : List (String × (JsonValue S → Prop))) : List String := members.map Prod.fst

/-- Every required member, any optional one, each in its range, and no other. -/
structure Admits (schema : PayloadSchema S) (payload : List (String × JsonValue S)) : Prop where
  closed : ClosedMembers.Within payload (names schema.required ++ names schema.optional)
  required : ∀ member ∈ schema.required, ∃ value, payload.lookup member.1 = some value ∧ member.2 value
  optional : ∀ member ∈ schema.optional, ∀ value, payload.lookup member.1 = some value → member.2 value

theorem admits_iff {schema : PayloadSchema S} {payload : List (String × JsonValue S)}
    (distinct : ClosedMembers.Distinct payload) (nodup : (names schema.required ++ names schema.optional).Nodup) :
    schema.Admits payload ↔
      payload.length = ClosedMembers.expected payload (names schema.required) (names schema.optional) ∧
        (∀ member ∈ schema.required, ∃ value, payload.lookup member.1 = some value ∧ member.2 value) ∧
        ∀ member ∈ schema.optional, ∀ value, payload.lookup member.1 = some value → member.2 value := by
  have counted (required : ∀ member ∈ schema.required, ∃ value, payload.lookup member.1 = some value ∧ member.2 value) :
      payload.length = ClosedMembers.expected payload (names schema.required) (names schema.optional) ↔
        ClosedMembers.Within payload (names schema.required ++ names schema.optional) := by
    refine ClosedMembers.length_eq_expected_iff distinct nodup fun name listed => ?_
    obtain ⟨member, inside, rfl⟩ := List.mem_map.mp listed
    obtain ⟨value, found, -⟩ := required member inside
    rw [found, Option.isSome_some]
  constructor
  · intro admits
    exact ⟨(counted admits.required).mpr admits.closed, admits.required, admits.optional⟩
  · rintro ⟨length, required, optional⟩
    exact ⟨(counted required).mp length, required, optional⟩

end PayloadSchema

variable {S : Type} [Scalar S]

namespace JsonValue

inductive Integer : JsonValue S → Int → Prop where
  | int64 (value : Int64) : Integer (.int64 value) value.toInt
  | uint64 (value : UInt64) : Integer (.uint64 value) value.toNat

/-- The finite double a number is read as. -/
inductive Number : JsonValue S → S → Prop where
  | double {value : S} (finite : Scalar.isFinite value = true) : Number (.double value) value
  | int64 (value : Int64) : Number (.int64 value) (doubleOfInt64 value)
  | uint64 (value : UInt64) : Number (.uint64 value) ((value.toNat : Nat) : S)

def UnsignedIn (minimum maximum : Nat) (value : JsonValue S) : Prop :=
  ∃ integer, Integer value integer ∧ minimum ≤ integer ∧ integer ≤ maximum

def NumberIn (minimum maximum : S) (value : JsonValue S) : Prop :=
  ∃ number, Number value number ∧ minimum ≤ number ∧ number ≤ maximum

def Component (value : JsonValue S) : Prop :=
  ∃ number, Number value number ∧ Scalar.abs number ≤ thrustComponentMaximumMagnitude

def Boolean (value : JsonValue S) : Prop := ∃ flag, value = .bool flag

def Text (value : JsonValue S) : Prop := ∃ text, value = .string text

end JsonValue

open JsonValue

/-- The closed payload of each kind a client may send. -/
def payloadSchema : CommandKind → PayloadSchema S
  | .thrust => ⟨[("x", Component), ("y", Component)],
      [("input_generation", UnsignedIn 1 maximumSafeInteger), ("braking", Boolean)]⟩
  | .shield => ⟨[("input_generation", fun value => value = .null ∨ UnsignedIn 1 maximumSafeInteger value)], []⟩
  | .charge => ⟨[("x", Component), ("y", Component)], [("input_generation", UnsignedIn 1 maximumSafeInteger)]⟩
  | .rotateVelocity => ⟨[("direction", fun value => value = .string "left" ∨ value = .string "right")],
      [("input_generation", UnsignedIn 1 maximumSafeInteger)]⟩
  | .setSeatCount => ⟨[("seat_count", UnsignedIn 1 lobbySeatCountMaximum)], []⟩
  | .clearSeat => ⟨[("seat_index", UnsignedIn 0 lobbySeatIndexMaximum)], []⟩
  | .seatNpc => ⟨[("seat_index", UnsignedIn 0 lobbySeatIndexMaximum), ("npc_kind", Text)], [("profile_name", Text)]⟩
  | .setMovementTuning => ⟨[("tuning_request_id", UnsignedIn 1 maximumSafeInteger),
      ("expected_revision", UnsignedIn 0 maximumSafeInteger),
      ("acceleration_world_units_per_second_squared",
        NumberIn movementAccelerationMinimum movementAccelerationMaximum),
      ("normal_top_speed_world_units_per_second",
        NumberIn movementNormalTopSpeedMinimum movementNormalTopSpeedMaximum),
      ("charge_speed_fraction", NumberIn 0 movementChargeSpeedFractionMaximum),
      ("lethal_spawn_rate_per_second", NumberIn 0 movementCrossingSpawnRateMaximum),
      ("nonlethal_spawn_rate_per_second", NumberIn 0 movementCrossingSpawnRateMaximum)], []⟩
  | .startMatch | .spawn | .despawn | .leave | .join => ⟨[], []⟩

/-- An NPC kind and its profile, or its lack of one, are one choice of the catalogue. -/
def Registered (catalogue : NpcCatalogue) (payload : List (String × JsonValue S)) : Prop :=
  ∃ kind profile, payload.lookup "npc_kind" = some (.string kind) ∧
    payload.lookup "profile_name" = profile.map .string ∧ isWireKindName kind = true ∧
    containsNames catalogue kind profile = true

structure PayloadAdmitted (catalogue : NpcCatalogue) (kind : CommandKind) (payload : List (String × JsonValue S)) :
    Prop where
  shape : (payloadSchema kind).Admits payload
  registered : kind = .seatNpc → Registered catalogue payload

/-- A frame within its byte limit, of one envelope of exactly a kind and a payload: a client kind by its wire
name, in the mask, with that kind's payload. -/
structure FrameAdmitted (parse : Parser S) (frame : List UInt8) (acceptedKinds : CommandKindMask)
    (catalogue : NpcCatalogue) (kind : CommandKind) (payload : List (String × JsonValue S)) : Prop where
  bounded : frame.length ≤ clientMessageMaximumByteCount
  parsed : ∃ document envelope wireName, parse frame = some document ∧ document.val = .object envelope ∧
    ClosedMembers.Within envelope ["kind", "payload"] ∧ envelope.lookup "kind" = some (.string wireName) ∧
    envelope.lookup "payload" = some (.object payload) ∧ clientCommandWireName kind = some wireName
  accepted : acceptedKinds.contains kind = true
  payload : PayloadAdmitted catalogue kind payload

/-- The one identity a kind carries: the sender's body, or the sender. -/
def stampedIdentity (stampedEntity : EntityId) (stampedController : ControllerId) : CommandKind → AddressedIdentity
  | .despawn | .thrust | .shield | .charge | .rotateVelocity => .ofEntity stampedEntity
  | .spawn | .setSeatCount | .clearSeat | .seatNpc | .startMatch | .leave | .join | .setMovementTuning =>
      .ofController stampedController

end BlobRoyale.Protocol
