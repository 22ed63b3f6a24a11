import Mathlib.Order.Basic
import Mathlib.Data.Nat.Basic

/-!
# Limits, identities and validation errors

Bounded identity values of `blob_simulation` and the error its validators throw. A thrown
`SimulationValidationError` is the `error` side of `Except`; the codes listed are those the
modelled functions raise.
-/

namespace BlobRoyale.Simulation

def maximumProtocolSafeInteger : Nat := 9007199254740991
def minimumEntityId : Nat := 1
def maximumEntityId : Nat := maximumProtocolSafeInteger
def maximumEntityCount : Nat := 4096
def maximumLobbySeatCount : Nat := 64
def maximumInputBatchCommandCount : Nat := 65536
def maximumEntityIdReservationCount : Nat := maximumEntityCount
def systemCreatedEntityHeadroom : Nat := 1
def maximumWorldEventCount : Nat := 16 * maximumEntityCount
def maximumKindNameLength : Nat := 64
def maximumContactRuleNameLength : Nat := 64

inductive SimulationValidationCode where
  | physicalScalarNotFinite
  | physicalScalarOutOfRange
  | vectorDivisionByZero
  | physicsBodyMassOutOfRange
  | physicsBodyRestitutionOutOfRange
  | physicsBodyDragScaleOutOfRange
  | entityIdOutOfRange
  | controllerIdOutOfRange
  | teamIdOutOfRange
  | tickSequenceOutOfRange
  | tickWindowExpiryOverflow
  | componentStoreDuplicateEntityId
  | componentStoreLimitExceeded
  | commandKindMaskUnknownBit
  | entityIdReservationLimitExceeded
  | entityIdReservationOutOfRange
  | entityIdReservationExhausted
  | inputBatchCommandLimitExceeded
  | inputBatchCommandKindNotAccepted
  | inputBatchThrustDirectionOutOfRange
  | inputBatchInputGenerationZero
  | inputBatchSpawnAndDespawnConflict
  | inputBatchSeatIndexOutOfRange
  | inputBatchSeatCountOutOfRange
  | inputBatchJoinDeclarationInvalid
  | inputBatchTuningRequestIdOutOfRange
  | inputBatchTuningRevisionOutOfRange
  | movementTuningNotFinite
  | movementTuningOutOfRange
  | seatKindNameInvalid
  | botProfileNameInvalid
  | contactRuleNameInvalid
  | raceRoadNameInvalid
  | seatRosterSeatCountOutOfRange
  | seatRosterSeatIndexOutOfRange
  | gameWorldEntityLimitExceeded
  | gameWorldDuplicateEntityId
  | gameWorldEventLimitExceeded
  | deterministicRandomBoundEmpty
  | spawnPolicyIndexOutOfRange
  | spawnPolicyPointOccupied
  | continuousMotionInvalidInput
  | continuousMotionBudgetExceeded
  | continuousMotionInvalidResponse
  | continuousMotionNoProgress
  | continuousMotionPrecisionLost
  | arenaBoundsScalarNotFinite
  | arenaBoundsScalarOutOfRange
  | terrainQueryRadiusInvalid
  | configWorldScalarNotFinite
  | configWorldScalarOutOfRange
  | configDragNotFinite
  | configDragOutOfRange
  | configWorldTooSmallForPlayer
  | configTickRateUnsupported
  | configSpatialGridDimensionOutOfRange
  | configSpatialGridCellLimitExceeded
  | candidatePairDuplicateEntityId
  | spatialGridGeometryInvalid
  | spatialGridCellCountExceeded
  | spatialGridMembershipLimitExceeded
  | spatialGridCandidatePairLimitExceeded
  | spatialGridPlayerCenterOutOfBounds
  | spatialGridStaticBodyOutOfBounds
  | mapSpawnPointNotSeatable
  | gameSimulationBodyOutOfBounds
  | gameSimulationModeRefusesServerIssuedKind
  | systemPipelineSystemNameEmpty
  | systemPipelineDuplicateSystemName
  | shieldActivationInvalid
  | shieldCancellationBeforeActivation
  | chargeActivationInvalid
  | chargeCancellationBeforeActivation
  | guardedPairFactsInvalid
  | guardedPairSeparationFailed
  deriving DecidableEq, Repr

structure SimulationValidationError where
  code : SimulationValidationCode
  context : String
  detail : String
  deriving DecidableEq, Repr

abbrev Validated (α : Type) := Except SimulationValidationError α

def reject (code : SimulationValidationCode) (context detail : String) : Validated α :=
  .error ⟨code, context, detail⟩

/-- The three identity spaces. They share one range and are never compared with each other. -/
inductive IdentitySpace where
  | entity
  | controller
  | team
  deriving DecidableEq, Repr

namespace IdentitySpace

def typeName : IdentitySpace → String
  | entity => "EntityId"
  | controller => "ControllerId"
  | team => "TeamId"

def context : IdentitySpace → String
  | entity => "entity_id.value"
  | controller => "controller_id.value"
  | team => "team_id.value"

def code : IdentitySpace → SimulationValidationCode
  | entity => .entityIdOutOfRange
  | controller => .controllerIdOutOfRange
  | team => .teamIdOutOfRange

end IdentitySpace

/-- One identity of a space; no value outside the inclusive safe-integer range can be built. -/
structure Identity (space : IdentitySpace) where
  value : Nat
  one_le : minimumEntityId ≤ value
  le_maximum : value ≤ maximumProtocolSafeInteger
  deriving DecidableEq, Repr

namespace Identity

variable {space : IdentitySpace}

def first : Identity space := ⟨minimumEntityId, Nat.le_refl _, by decide⟩

def create (space : IdentitySpace) (value : Nat) : Validated (Identity space) :=
  if range : minimumEntityId ≤ value ∧ value ≤ maximumProtocolSafeInteger then
    .ok ⟨value, range.1, range.2⟩
  else
    reject space.code space.context
      (space.typeName ++ " " ++ toString value ++ " is outside the inclusive safe-integer range")

@[ext] theorem ext_value {first second : Identity space} (values : first.value = second.value) :
    first = second := by
  cases first
  cases second
  cases values
  rfl

theorem value_injective : Function.Injective (value : Identity space → Nat) :=
  fun _ _ values => ext_value values

/-- Identities of one space are ordered by value. -/
instance : LinearOrder (Identity space) where
  le first second := first.value ≤ second.value
  lt first second := first.value < second.value
  le_refl _ := Nat.le_refl _
  le_trans _ _ _ := Nat.le_trans
  lt_iff_le_not_ge _ _ := Nat.lt_iff_le_and_not_ge
  le_antisymm _ _ less more := ext_value (Nat.le_antisymm less more)
  le_total _ _ := Nat.le_total _ _
  toDecidableLE first second := inferInstanceAs (Decidable (first.value ≤ second.value))
  toDecidableLT first second := inferInstanceAs (Decidable (first.value < second.value))
  toDecidableEq := inferInstance

@[simp] theorem value_inj {first second : Identity space} :
    first.value = second.value ↔ first = second :=
  value_injective.eq_iff

@[simp] theorem create_value (identity : Identity space) :
    create space identity.value = .ok identity := by
  simp [create, identity.one_le, identity.le_maximum]

theorem create_eq_ok {value : Nat} {identity : Identity space} :
    create space value = .ok identity ↔ identity.value = value := by
  constructor
  · intro created
    unfold create at created
    split at created
    · cases created
      rfl
    · cases created
  · rintro rfl
    exact create_value identity

end Identity

abbrev EntityId := Identity .entity
abbrev ControllerId := Identity .controller
abbrev TeamId := Identity .team

def EntityId.create (value : Nat) : Validated EntityId := Identity.create .entity value
def ControllerId.create (value : Nat) : Validated ControllerId := Identity.create .controller value
def TeamId.create (value : Nat) : Validated TeamId := Identity.create .team value

structure TickSequence where
  value : Nat
  le_maximum : value ≤ maximumProtocolSafeInteger
  deriving DecidableEq, Repr

namespace TickSequence

def zero : TickSequence := ⟨0, Nat.zero_le _⟩

def create (value : Nat) : Validated TickSequence :=
  if range : value ≤ maximumProtocolSafeInteger then
    .ok ⟨value, range⟩
  else
    reject .tickSequenceOutOfRange "tick_sequence.value"
      ("tick sequence " ++ toString value ++ " exceeds the inclusive protocol-safe integer range")

def next (tick : TickSequence) : Validated TickSequence :=
  if room : tick.value < maximumProtocolSafeInteger then
    .ok ⟨tick.value + 1, room⟩
  else
    reject .tickSequenceOutOfRange "tick_sequence.next" "maximum tick sequence cannot be incremented"

theorem next_value {tick following : TickSequence} (advanced : tick.next = .ok following) :
    following.value = tick.value + 1 := by
  unfold next at advanced
  split at advanced
  · cases advanced
    rfl
  · cases advanced

end TickSequence

theorem bind_eq_ok {action : Except ε α} {continuation : α → Except ε β} {result : β} :
    action >>= continuation = .ok result ↔
      ∃ value, action = .ok value ∧ continuation value = .ok result := by
  cases action <;> simp [bind, Except.bind]

theorem bind_eq_error {action : Except ε α} {continuation : α → Except ε β} {refusal : ε} :
    action >>= continuation = .error refusal ↔
      action = .error refusal ∨ ∃ value, action = .ok value ∧ continuation value = .error refusal := by
  cases action <;> simp [bind, Except.bind]

end BlobRoyale.Simulation

/-!
# Entity id reservations

The block of ids one tick may create entities from. A reservation that runs past the maximum
EntityId, or one wider than the accepted limit, cannot be built, so every drawn id is legal and
the block only shrinks from its front.
-/

namespace BlobRoyale.Simulation

structure EntityIdReservation where
  first : EntityId
  count : Nat
  within : count ≤ maximumEntityIdReservationCount
  representable : first.value + count ≤ maximumEntityId + 1
  deriving DecidableEq

namespace EntityIdReservation

def none : EntityIdReservation := ⟨.first, 0, Nat.zero_le _, by decide⟩

def create (first : EntityId) (count : Nat) : Validated EntityIdReservation :=
  if within : count ≤ maximumEntityIdReservationCount then
    if count = 0 then
      .ok none
    else if representable : first.value + count ≤ maximumEntityId + 1 then
      .ok ⟨first, count, within, representable⟩
    else
      reject .entityIdReservationOutOfRange "entity_id_reservation.first"
        ("reservation of " ++ toString count ++ " ids from EntityId " ++ toString first.value ++
          " runs past the maximum EntityId")
  else
    reject .entityIdReservationLimitExceeded "entity_id_reservation.count"
      ("reservation count " ++ toString count ++ " exceeds the accepted limit " ++
        toString maximumEntityIdReservationCount)

def contains (reservation : EntityIdReservation) (entity : EntityId) : Bool :=
  reservation.count != 0 && reservation.first.value ≤ entity.value &&
    entity.value - reservation.first.value < reservation.count

/-- The next id and the reservation left after drawing it. -/
def drawNext (reservation : EntityIdReservation) : Validated (EntityId × EntityIdReservation) :=
  if empty : reservation.count = 0 then
    reject .entityIdReservationExhausted "entity_id_reservation.draw_next"
      "the tick's EntityId reservation is exhausted; no id may be reused or wrapped"
  else if single : reservation.count = 1 then
    .ok (reservation.first, none)
  else
    have room := reservation.representable
    .ok (reservation.first,
      ⟨⟨reservation.first.value + 1, Nat.le_succ_of_le reservation.first.one_le, by
          unfold maximumEntityId at room
          omega⟩,
        reservation.count - 1, Nat.le_trans (Nat.sub_le _ _) reservation.within, by
          dsimp only
          omega⟩)

@[simp] theorem none_count : none.count = 0 := rfl

theorem create_eq_ok {first : EntityId} {count : Nat} {reservation : EntityIdReservation}
    (created : create first count = .ok reservation) :
    reservation.count = count ∧ (count ≠ 0 → reservation.first = first) := by
  unfold create at created
  split at created
  · split at created
    · next zero =>
        cases created
        exact ⟨zero.symm, fun positive => absurd zero positive⟩
    · split at created
      · cases created
        exact ⟨rfl, fun _ => rfl⟩
      · cases created
  · cases created

theorem create_of_fits {first : EntityId} {count : Nat} (nonempty : count ≠ 0)
    (within : count ≤ maximumEntityIdReservationCount)
    (representable : first.value + count ≤ maximumEntityId + 1) :
    create first count = .ok ⟨first, count, within, representable⟩ := by
  rw [create, dif_pos within, if_neg nonempty, dif_pos representable]

theorem contains_iff {reservation : EntityIdReservation} {entity : EntityId} :
    reservation.contains entity = true ↔
      reservation.first.value ≤ entity.value ∧
        entity.value < reservation.first.value + reservation.count := by
  simp only [contains, Bool.and_eq_true, bne_iff_ne, decide_eq_true_eq]
  omega

theorem drawNext_of_pos {reservation : EntityIdReservation} (positive : 0 < reservation.count) :
    ∃ rest, reservation.drawNext = .ok (reservation.first, rest) := by
  unfold drawNext
  rw [dif_neg (Nat.ne_of_gt positive)]
  split
  · exact ⟨_, rfl⟩
  · exact ⟨_, rfl⟩

/-- What drawing leaves: one id fewer, all of them above the drawn one unless none is left. -/
theorem drawNext_eq_ok {reservation rest : EntityIdReservation} {drawn : EntityId}
    (draws : reservation.drawNext = .ok (drawn, rest)) :
    drawn = reservation.first ∧ rest.count + 1 = reservation.count ∧
      (rest.count ≠ 0 → rest.first.value = reservation.first.value + 1) := by
  unfold drawNext at draws
  split at draws
  · cases draws
  · split at draws
    · next single =>
        cases draws
        exact ⟨rfl, single.symm, fun positive => absurd rfl positive⟩
    · next nonempty multiple =>
        cases draws
        refine ⟨rfl, ?_, fun _ => rfl⟩
        dsimp only
        omega

end EntityIdReservation

end BlobRoyale.Simulation
