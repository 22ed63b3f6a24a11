import BlobRoyale.Simulation.GameSimulation
import BlobRoyale.Library.SortedStore
import BlobRoyale.Runtime.CommandMailbox

/-!
# The entity id allocator

One cursor issues every tick's reservation. It opens above every id the committed world holds and
only rises, so an id below an observed cursor lies below every later reservation.
-/

namespace BlobRoyale.Runtime

open BlobRoyale.Simulation

variable {S : Type} [Scalar S]

/-- `next_entity_id_`, the first id no tick has been given. -/
structure EntityIdAllocator where
  cursor : Nat
  deriving DecidableEq

namespace EntityIdAllocator

def create (firstIssuableEntityId : EntityId) : EntityIdAllocator := ⟨firstIssuableEntityId.value⟩

def aboveCommittedState (sim : GameSimulation S) : Validated EntityIdAllocator := do
  let reserved := minimumEntityId + sim.map.staticBodies.length
  let floor := match sim.world.entities.getLast? with
    | none => reserved
    | some last => max reserved (last.value + 1)
  let first ← EntityId.create floor
  return create first

def nextEntityId (allocator : EntityIdAllocator) : Validated EntityId :=
  EntityId.create allocator.cursor

def reserveForTick (allocator : EntityIdAllocator) (spawnCount : Nat) :
    Validated (EntityIdReservation × EntityIdAllocator) := do
  let width := spawnCount + systemCreatedEntityHeadroom
  let first ← EntityId.create allocator.cursor
  let reservation ← EntityIdReservation.create first width
  return (reservation, ⟨allocator.cursor + width⟩)

theorem aboveCommittedState_above {sim : GameSimulation S} {allocator : EntityIdAllocator}
    (opened : aboveCommittedState sim = .ok allocator) {entity : EntityId}
    (live : sim.world.contains entity = true) : entity.value < allocator.cursor := by
  obtain ⟨first, created, committed⟩ := bind_eq_ok.mp opened
  cases committed
  have floor := Identity.create_eq_ok.mp created
  obtain absent | ⟨last, found⟩ := Option.eq_none_or_eq_some sim.world.entities.getLast?
  · have member := (sim.world.entities_roster.2 entity).mpr live
    rw [List.getLast?_eq_none_iff.mp absent] at member
    cases member
  · rw [found] at floor
    have below : entity.value ≤ last.value := GameWorld.le_getLast_entities found live
    have above : last.value + 1 ≤ first.value := floor ▸ Nat.le_max_right _ _
    exact Nat.lt_of_le_of_lt below above

theorem aboveCommittedState_positive {sim : GameSimulation S} {allocator : EntityIdAllocator}
    (opened : aboveCommittedState sim = .ok allocator) : minimumEntityId ≤ allocator.cursor := by
  obtain ⟨first, -, committed⟩ := bind_eq_ok.mp opened
  cases committed
  exact first.one_le

/-- A reservation is the block at the cursor, one id wider than the spawns it was sized for. -/
theorem reserveForTick_eq_ok {allocator next : EntityIdAllocator} {spawnCount : Nat}
    {reservation : EntityIdReservation}
    (reserved : allocator.reserveForTick spawnCount = .ok (reservation, next)) :
    reservation.first.value = allocator.cursor ∧
      reservation.count = spawnCount + systemCreatedEntityHeadroom ∧
      next.cursor = allocator.cursor + reservation.count := by
  obtain ⟨first, created, rest⟩ := bind_eq_ok.mp reserved
  obtain ⟨block, counted, committed⟩ := bind_eq_ok.mp rest
  cases committed
  obtain ⟨width, start⟩ := EntityIdReservation.create_eq_ok counted
  have nonempty : spawnCount + systemCreatedEntityHeadroom ≠ 0 := Nat.succ_ne_zero spawnCount
  rw [start nonempty, Identity.create_eq_ok.mp created, width]
  exact ⟨rfl, rfl, rfl⟩

/-- A block of legal width is refused only when it would run past the maximum EntityId. -/
theorem exists_reserveForTick {allocator : EntityIdAllocator} {spawnCount : Nat}
    (positive : minimumEntityId ≤ allocator.cursor)
    (width : spawnCount + systemCreatedEntityHeadroom ≤ maximumEntityIdReservationCount)
    (unexhausted : allocator.cursor + spawnCount + systemCreatedEntityHeadroom ≤ maximumEntityId + 1) :
    ∃ reservation next, allocator.reserveForTick spawnCount = .ok (reservation, next) := by
  have headroom : systemCreatedEntityHeadroom = 1 := rfl
  have maximum : maximumEntityId = maximumProtocolSafeInteger := rfl
  have representable : allocator.cursor ≤ maximumProtocolSafeInteger := by omega
  have first : EntityId.create allocator.cursor = .ok ⟨allocator.cursor, positive, representable⟩ :=
    Identity.create_eq_ok.mpr rfl
  have block := @EntityIdReservation.create_of_fits ⟨_, positive, representable⟩ _
    (Nat.succ_ne_zero spawnCount) width (by rwa [Nat.add_assoc] at unexhausted)
  exact ⟨_, _, bind_eq_ok.mpr ⟨_, first, bind_eq_ok.mpr ⟨_, block, rfl⟩⟩⟩

end EntityIdAllocator

end BlobRoyale.Runtime

/-!
# The command sink

The boundary every command source holds: it issues controller ids, registers their presentation,
and hands the mailbox only commands whose values a batch accepts. A submission and a close are two
critical sections each; their halves are separate functions here, as other threads run between them.
-/

namespace BlobRoyale.Runtime

open BlobRoyale.Simulation

variable {S : Type} [Scalar S]

def maximumControllerId : Nat := maximumProtocolSafeInteger
def maximumControllerKindLength : Nat := 64
def maximumDisplayNameLength : Nat := 64

structure ControllerPresentation where
  controllerKind : List UInt8
  displayName : List UInt8
  deriving DecidableEq

inductive ControllerRegistrationResult where
  | registered
  | rejectedDuplicateControllerId
  | rejectedDirectoryFull
  | rejectedControllerKind
  | rejectedDisplayName
  deriving DecidableEq, Repr

/-- `controller_registration_result_name`. -/
def ControllerRegistrationResult.name : ControllerRegistrationResult → String
  | registered => "registered"
  | rejectedDuplicateControllerId => "rejected_duplicate_controller_id"
  | rejectedDirectoryFull => "rejected_directory_full"
  | rejectedControllerKind => "rejected_controller_kind"
  | rejectedDisplayName => "rejected_display_name"

inductive ControllerCloseResult where
  | closed
  | unknownControllerId
  deriving DecidableEq, Repr

def isBoundedPrintable (value : List UInt8) (maximumLength : Nat) : Bool :=
  value.length ≤ maximumLength && value.all fun byte => !(byte < 0x20 || byte == 0x7F)

structure ControllerDirectory where
  entries : SortedStore ControllerId ControllerPresentation
  deriving DecidableEq

namespace ControllerDirectory

def empty : ControllerDirectory := ⟨.empty⟩

def isValidControllerKind (controllerKind : List UInt8) : Bool :=
  !controllerKind.isEmpty && isBoundedPrintable controllerKind maximumControllerKindLength

def isValidDisplayName (displayName : List UInt8) : Bool :=
  isBoundedPrintable displayName maximumDisplayNameLength

def contains (directory : ControllerDirectory) (controller : ControllerId) : Bool :=
  (directory.entries.find controller).isSome

def registerController (directory : ControllerDirectory) (controller : ControllerId)
    (controllerKind displayName : List UInt8) : ControllerRegistrationResult × ControllerDirectory :=
  if !isValidControllerKind controllerKind then (.rejectedControllerKind, directory)
  else if !isValidDisplayName displayName then (.rejectedDisplayName, directory)
  else if directory.contains controller then (.rejectedDuplicateControllerId, directory)
  else if maximumControllerDirectoryEntryCount ≤ directory.entries.entries.length then
    (.rejectedDirectoryFull, directory)
  else (.registered, ⟨directory.entries.insertOrAssign controller ⟨controllerKind, displayName⟩⟩)

def close (directory : ControllerDirectory) (controller : ControllerId) :
    ControllerCloseResult × ControllerDirectory :=
  if directory.contains controller then (.closed, ⟨directory.entries.erase controller⟩)
  else (.unknownControllerId, directory)

theorem contains_registerController {directory : ControllerDirectory} {controller other : ControllerId}
    {controllerKind displayName : List UInt8}
    (listed : (directory.registerController controller controllerKind displayName).2.contains other = true) :
    other = controller ∨ directory.contains other = true := by
  unfold registerController at listed
  split at listed
  · exact .inr listed
  · split at listed
    · exact .inr listed
    · split at listed
      · exact .inr listed
      · split at listed
        · exact .inr listed
        · rw [contains, SortedStore.find_insertOrAssign] at listed
          split at listed
          · next same => exact .inl same
          · exact .inr listed

theorem contains_close (directory : ControllerDirectory) (controller other : ControllerId) :
    (directory.close controller).2.contains other =
      (decide (other ≠ controller) && directory.contains other) := by
  unfold close
  split
  · rw [contains, SortedStore.find_erase]
    by_cases same : other = controller
    · simp [same]
    · simp [same, contains]
  · next absent =>
    by_cases same : other = controller
    · simpa [same] using absent
    · simp [same]

end ControllerDirectory

inductive CommandSinkErrorCode where
  | controllerDirectoryFull
  | controllerKindRejected
  | displayNameRejected
  | controllerIdExhausted
  deriving DecidableEq, Repr

structure CommandSinkError where
  code : CommandSinkErrorCode
  context : String
  detail : String
  deriving DecidableEq, Repr

structure CommandSink (S : Type) [Scalar S] where
  mailbox : CommandMailbox S
  controllerDirectory : ControllerDirectory
  entityIdAllocator : EntityIdAllocator
  nextControllerId : Nat
  npcCatalogue : NpcCatalogue
  issuable : minimumEntityId ≤ nextControllerId

namespace CommandSink

/-- The value rules of the boundary. An exhausted cursor throws, and the source's caller is
`noexcept`: there is no result to return. -/
def validateCommandValues (sink : CommandSink S) : Command S → Validated CommandSubmissionResult
  | .thrust thrust =>
      if !(withinDirectionComponentRange thrust.direction.x &&
          withinDirectionComponentRange thrust.direction.y) then
        .ok .rejectedThrustDirectionOutOfRange
      else if thrust.inputGeneration = some .zero then .ok .rejectedThrustInputGenerationOutOfRange
      else .ok .accepted
  | .shield shield =>
      if shield.inputGeneration = some .zero then .ok .rejectedShieldInputGenerationOutOfRange
      else .ok .accepted
  | .charge charge =>
      if !(withinDirectionComponentRange charge.direction.x &&
          withinDirectionComponentRange charge.direction.y) then
        .ok .rejectedChargeDirectionOutOfRange
      else if charge.inputGeneration = some .zero then .ok .rejectedChargeInputGenerationOutOfRange
      else .ok .accepted
  | .rotateVelocity rotation =>
      if rotation.inputGeneration = some .zero then .ok .rejectedRotationInputGenerationOutOfRange
      else .ok .accepted
  | .despawn despawn => do
      let next ← sink.entityIdAllocator.nextEntityId
      return if next.value ≤ despawn.entity.value then .rejectedUnissuedEntityId else .accepted
  | .join join =>
      if join.expectedNpc.any fun expected => !(join.seatIndex.isSome && expected.isValid) then
        .ok .rejectedJoinDeclarationInvalid
      else if join.seatIndex.any fun index => maximumLobbySeatCount ≤ index then
        .ok .rejectedSeatIndexOutOfRange
      else .ok .accepted
  | .seatNpc seatNpc =>
      if maximumLobbySeatCount ≤ seatNpc.seatIndex then .ok .rejectedSeatIndexOutOfRange
      else if !sink.npcCatalogue.contains seatNpc.declaration then .ok .rejectedNpcDeclarationUnknown
      else .ok .accepted
  | .clearSeat clearSeat =>
      if maximumLobbySeatCount ≤ clearSeat.seatIndex then .ok .rejectedSeatIndexOutOfRange
      else .ok .accepted
  | .setSeatCount seatCount =>
      if seatCount.seatCount < minimumSeatCount ∨ maximumSeatCount < seatCount.seatCount then
        .ok .rejectedSeatCountOutOfRange
      else .ok .accepted
  | .setMovementTuning tuning =>
      if tuning.tuningRequestId = 0 ∨ maximumProtocolSafeInteger < tuning.tuningRequestId then
        .ok .rejectedTuningRequestIdOutOfRange
      else if maximumProtocolSafeInteger < tuning.expectedRevision then
        .ok .rejectedTuningRevisionOutOfRange
      else .ok .accepted
  | .spawn _ | .startMatch _ | .leave _ => .ok .accepted

/-- The first half of `submit`: what it refuses before it reaches the mailbox. -/
def precheck (sink : CommandSink S) (controller : ControllerId) (command : Command S) :
    Validated CommandSubmissionResult :=
  if !sink.controllerDirectory.contains controller then .ok .rejectedSessionNotOpen
  else if command.stampedController.any fun stamped => stamped ≠ controller then
    .ok .rejectedForeignController
  else sink.validateCommandValues command

/-- The second half of `submit`, at the steady clock's reading `now`. -/
def insert (sink : CommandSink S) (command : Command S) (now : Int) :
    CommandSubmissionResult × CommandSink S :=
  let (result, mailbox) := sink.mailbox.submit command now
  (result, { sink with mailbox := mailbox })

def submit (sink : CommandSink S) (controller : ControllerId) (command : Command S) (now : Int) :
    Validated (CommandSubmissionResult × CommandSink S) := do
  let verdict ← sink.precheck controller command
  if verdict = .accepted then return sink.insert command now else return (verdict, sink)

/-- The first half of `close_session`: whether a registration was retired. -/
def retire (sink : CommandSink S) (controller : ControllerId) : Bool × CommandSink S :=
  let (retired, mailbox) := sink.mailbox.retireController controller
  (retired, { sink with mailbox := mailbox })

/-- The second half of `close_session`. -/
def unlist (sink : CommandSink S) (controller : ControllerId) : CommandSink S :=
  { sink with controllerDirectory := (sink.controllerDirectory.close controller).2 }

def closeSession (sink : CommandSink S) (controller : ControllerId) :
    ControllerCloseResult × CommandSink S :=
  let (retired, next) := sink.retire controller
  if retired then (.closed, next.unlist controller) else (.unknownControllerId, next)

/-- Register an issued id; a refused exchange takes its presentation back out. -/
def register (sink : CommandSink S) (controller : ControllerId)
    (controllerKind displayName : List UInt8) : Except CommandSinkError ControllerId × CommandSink S :=
  let (registration, directory) :=
    sink.controllerDirectory.registerController controller controllerKind displayName
  if registration ≠ .registered then
    (.error ⟨.controllerDirectoryFull, "command_sink.controller_directory",
      "the controller directory refused ControllerId " ++ toString controller.value ++ ": " ++
        registration.name⟩, sink)
  else
    let (exchanged, mailbox) := sink.mailbox.registerController controller
    if exchanged then (.ok controller, { sink with controllerDirectory := directory, mailbox := mailbox })
    else
      (.error ⟨.controllerDirectoryFull, "command_sink.tuning_exchange",
        "the bounded tuning exchange refused controller registration"⟩,
        { sink with controllerDirectory := (directory.close controller).2 })

/-- An id is consumed even when its registration is refused. -/
def openSession (sink : CommandSink S) (controllerKind displayName : List UInt8) :
    Except CommandSinkError ControllerId × CommandSink S :=
  if !ControllerDirectory.isValidControllerKind controllerKind then
    (.error ⟨.controllerKindRejected, "command_sink.controller_kind",
      "a controller kind must be non-empty, at most " ++ toString maximumControllerKindLength ++
        " bytes, and free of control characters"⟩, sink)
  else if !ControllerDirectory.isValidDisplayName displayName then
    (.error ⟨.displayNameRejected, "command_sink.display_name",
      "a display name must be at most " ++ toString maximumDisplayNameLength ++
        " bytes and free of control characters"⟩, sink)
  else if within : sink.nextControllerId ≤ maximumControllerId then
    { sink with
      nextControllerId := sink.nextControllerId + 1
      issuable := Nat.le_succ_of_le sink.issuable }.register
        ⟨sink.nextControllerId, sink.issuable, within⟩ controllerKind displayName
  else
    (.error ⟨.controllerIdExhausted, "command_sink.controller_id",
      "the monotonic ControllerId space is exhausted after " ++ toString maximumControllerId ++
        " sessions"⟩, sink)

/-- What opening a session changes: at most one registration and listing, of the issued id. -/
structure Opens (sink next : CommandSink S) : Prop where
  mailbox : next.mailbox = sink.mailbox ∨ ∃ controller : ControllerId,
    controller.value = sink.nextControllerId ∧ sink.nextControllerId < next.nextControllerId ∧
      next.mailbox = (sink.mailbox.registerController controller).2
  entityIdAllocator : next.entityIdAllocator = sink.entityIdAllocator
  issues : sink.nextControllerId ≤ next.nextControllerId
  lists : ∀ other, next.controllerDirectory.contains other = true →
    (other.value = sink.nextControllerId ∧ sink.nextControllerId < next.nextControllerId) ∨
      sink.controllerDirectory.contains other = true

theorem openSession_opens (sink : CommandSink S) (controllerKind displayName : List UInt8) :
    sink.Opens (sink.openSession controllerKind displayName).2 := by
  have unchanged : sink.Opens sink := ⟨.inl rfl, rfl, Nat.le_refl _, fun _ listed => .inr listed⟩
  unfold openSession
  split
  · exact unchanged
  · split
    · exact unchanged
    · split
      · next within =>
        have issues : sink.nextControllerId < sink.nextControllerId + 1 := Nat.lt_succ_self _
        have burned : sink.Opens { sink with
            nextControllerId := sink.nextControllerId + 1
            issuable := Nat.le_succ_of_le sink.issuable } :=
          ⟨.inl rfl, rfl, Nat.le_of_lt issues, fun _ listed => .inr listed⟩
        unfold register
        dsimp only
        split
        · exact burned
        · split
          · refine ⟨.inr ⟨_, rfl, issues, rfl⟩, rfl, Nat.le_of_lt issues, fun other listed => ?_⟩
            obtain same | listed := ControllerDirectory.contains_registerController listed
            · exact .inl ⟨congrArg Identity.value same, issues⟩
            · exact .inr listed
          · refine ⟨.inl rfl, rfl, Nat.le_of_lt issues, fun other listed => ?_⟩
            rw [ControllerDirectory.contains_close, Bool.and_eq_true, decide_eq_true_eq] at listed
            exact .inr ((ControllerDirectory.contains_registerController listed.2).resolve_left listed.1)
      · exact unchanged

theorem openSession_issued {sink next : CommandSink S} {controllerKind displayName : List UInt8}
    {controller : ControllerId} (opened : sink.openSession controllerKind displayName = (.ok controller, next)) :
    controller.value = sink.nextControllerId ∧ next.nextControllerId = sink.nextControllerId + 1 := by
  unfold openSession at opened
  split at opened
  · cases opened
  · split at opened
    · cases opened
    · split at opened
      · unfold register at opened
        dsimp only at opened
        split at opened
        · cases opened
        · split at opened
          · cases opened
            exact ⟨rfl, rfl⟩
          · cases opened
      · cases opened

@[simp] theorem closeSession_nextControllerId (sink : CommandSink S) (controller : ControllerId) :
    (sink.closeSession controller).2.nextControllerId = sink.nextControllerId := by
  unfold closeSession
  dsimp only
  split
  · rfl
  · rfl

theorem submit_join (sink : CommandSink S) (join : JoinCommand) (now : Int) :
    ∃ result next, sink.submit join.controller (.join join) now = .ok (result, next) ∧
      next.nextControllerId = sink.nextControllerId := by
  have verdict : ∃ result, sink.precheck join.controller (.join join) = .ok result := by
    unfold precheck
    split
    · exact ⟨_, rfl⟩
    · split
      · exact ⟨_, rfl⟩
      · unfold validateCommandValues
        dsimp only
        split
        · exact ⟨_, rfl⟩
        · split
          · exact ⟨_, rfl⟩
          · exact ⟨_, rfl⟩
  obtain ⟨result, judged⟩ := verdict
  unfold submit
  rw [judged]
  by_cases accepted : result = .accepted
  · subst accepted
    exact ⟨_, _, rfl, rfl⟩
  · refine ⟨result, sink, ?_, rfl⟩
    change (if result = .accepted then _ else _) = _
    rw [if_neg accepted]
    rfl

end CommandSink

end BlobRoyale.Runtime
