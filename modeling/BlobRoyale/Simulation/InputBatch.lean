import Mathlib.Data.Prod.Lex
import BlobRoyale.Library.LastWriter
import BlobRoyale.Simulation.Identity
import BlobRoyale.Simulation.MatchState

/-!
# Input batches

One tick's commands after validation and canonicalization: ascending in application rank and
addressed identity, the last submission of each kept. A batch carries both facts, so phase 0 never
sees an unordered or ill-formed command.
-/

namespace BlobRoyale.Simulation

variable {S : Type} [Scalar S]

def commandPosition (submissionIndex : Nat) : String :=
  " (submitted command " ++ toString submissionIndex ++ ")"

def withinDirectionComponentRange (component : S) : Bool :=
  Scalar.abs component ≤ maximumThrustDirectionComponentMagnitude

def validateDirectionRange (direction : Vector2 S) (entity : EntityId) (context kindName : String)
    (submissionIndex : Nat) : Validated Unit :=
  if withinDirectionComponentRange direction.x && withinDirectionComponentRange direction.y then
    .ok ()
  else
    reject .inputBatchThrustDirectionOutOfRange context
      (kindName ++ " direction (" ++ Scalar.toText direction.x ++ ", " ++
        Scalar.toText direction.y ++ ") for EntityId " ++ toString entity.value ++
        " has a component outside [-1, 1]" ++ commandPosition submissionIndex)

def validateInputGeneration (inputGeneration : Option TickSequence) (context : String)
    (submissionIndex : Nat) : Validated Unit :=
  if inputGeneration = some .zero then
    reject .inputBatchInputGenerationZero context
      ("a present input generation must be positive" ++ commandPosition submissionIndex)
  else .ok ()

def validateDespawnTarget (despawn : DespawnCommand) (reservation : EntityIdReservation)
    (submissionIndex : Nat) : Validated Unit :=
  if reservation.contains despawn.entity then
    reject .inputBatchSpawnAndDespawnConflict "input_batch.commands.despawn.entity"
      ("despawn of EntityId " ++ toString despawn.entity.value ++
        " names an id inside this tick's reservation of " ++ toString reservation.count ++
        " ids from EntityId " ++ toString reservation.first.value ++
        ", so it both spawns and despawns in one batch" ++ commandPosition submissionIndex)
  else .ok ()

def validateSeatIndex (seatIndex : Nat) (context kindName : String) (submissionIndex : Nat) :
    Validated Unit :=
  if seatIndex < maximumLobbySeatCount then
    .ok ()
  else
    reject .inputBatchSeatIndexOutOfRange context
      (kindName ++ " names seat index " ++ toString seatIndex ++ ", which is at or above the " ++
        toString maximumLobbySeatCount ++ " seats any lobby may declare" ++
        commandPosition submissionIndex)

def validateSeatCount (seatCount submissionIndex : Nat) : Validated Unit :=
  if minimumSeatCount ≤ seatCount ∧ seatCount ≤ maximumSeatCount then
    .ok ()
  else
    reject .inputBatchSeatCountOutOfRange "input_batch.commands.set_seat_count.seat_count"
      ("a lobby of " ++ toString seatCount ++ " seats is outside [" ++ toString minimumSeatCount ++
        ", " ++ toString maximumSeatCount ++ "]" ++ commandPosition submissionIndex)

def validateJoinDeclaration (join : JoinCommand) (submissionIndex : Nat) : Validated Unit :=
  match join.expectedNpc with
  | none => .ok ()
  | some expected =>
      if join.seatIndex.isSome && expected.isValid then
        .ok ()
      else
        reject .inputBatchJoinDeclarationInvalid "input_batch.commands.join.expected_npc"
          ("an expected NPC declaration requires a seat index and valid names" ++
            commandPosition submissionIndex)

def validateTuningRequest (tuning : SetMovementTuningCommand S) (submissionIndex : Nat) :
    Validated Unit :=
  if tuning.tuningRequestId = 0 ∨ maximumProtocolSafeInteger < tuning.tuningRequestId then
    reject .inputBatchTuningRequestIdOutOfRange
      "input_batch.commands.set_movement_tuning.tuning_request_id"
      ("request ID must be in [1, protocol-safe maximum]" ++ commandPosition submissionIndex)
  else if maximumProtocolSafeInteger < tuning.expectedRevision then
    reject .inputBatchTuningRevisionOutOfRange
      "input_batch.commands.set_movement_tuning.expected_revision"
      ("expected revision must be protocol-safe" ++ commandPosition submissionIndex)
  else .ok ()

/-- The kind-specific part of `validate_command`. -/
def validateCommandValue (command : Command S) (reservation : EntityIdReservation)
    (submissionIndex : Nat) : Validated Unit :=
  match command with
  | .thrust thrust => do
      validateDirectionRange thrust.direction thrust.entity "input_batch.commands.thrust.direction"
        CommandKind.thrust.name submissionIndex
      validateInputGeneration thrust.inputGeneration "input_batch.commands.thrust.input_generation"
        submissionIndex
  | .shield shield =>
      validateInputGeneration shield.inputGeneration "input_batch.commands.shield.input_generation"
        submissionIndex
  | .charge charge => do
      validateDirectionRange charge.direction charge.entity "input_batch.commands.charge.direction"
        CommandKind.charge.name submissionIndex
      validateInputGeneration charge.inputGeneration "input_batch.commands.charge.input_generation"
        submissionIndex
  | .rotateVelocity rotation =>
      validateInputGeneration rotation.inputGeneration
        "input_batch.commands.rotate_velocity.input_generation" submissionIndex
  | .despawn despawn => validateDespawnTarget despawn reservation submissionIndex
  | .seatNpc seatNpc =>
      validateSeatIndex seatNpc.seatIndex "input_batch.commands.seat_npc.seat_index"
        CommandKind.seatNpc.name submissionIndex
  | .clearSeat clearSeat =>
      validateSeatIndex clearSeat.seatIndex "input_batch.commands.clear_seat.seat_index"
        CommandKind.clearSeat.name submissionIndex
  | .setSeatCount seatCount => validateSeatCount seatCount.seatCount submissionIndex
  | .join join => do
      validateJoinDeclaration join submissionIndex
      match join.seatIndex with
      | none => .ok ()
      | some seatIndex =>
          validateSeatIndex seatIndex "input_batch.commands.join.seat_index" CommandKind.join.name
            submissionIndex
  | .setMovementTuning tuning => validateTuningRequest tuning submissionIndex
  | .spawn _ | .startMatch _ | .leave _ => .ok ()

def validateCommand (command : Command S) (acceptedKinds : CommandKindMask)
    (reservation : EntityIdReservation) (submissionIndex : Nat) : Validated Unit :=
  if acceptedKinds.contains command.kind then
    validateCommandValue command reservation submissionIndex
  else
    reject .inputBatchCommandKindNotAccepted "input_batch.commands.kind"
      ("command kind " ++ command.kind.name ++ " is absent from the mode's accepted command kinds" ++
        commandPosition submissionIndex)

/-- The value rules a batch enforces on one command, whatever position it was submitted at. -/
def Command.WellFormed (reservation : EntityIdReservation) : Command S → Prop
  | thrust command =>
      (withinDirectionComponentRange command.direction.x = true ∧
        withinDirectionComponentRange command.direction.y = true) ∧
        command.inputGeneration ≠ some .zero
  | charge command =>
      (withinDirectionComponentRange command.direction.x = true ∧
        withinDirectionComponentRange command.direction.y = true) ∧
        command.inputGeneration ≠ some .zero
  | shield command => command.inputGeneration ≠ some .zero
  | rotateVelocity command => command.inputGeneration ≠ some .zero
  | despawn command => reservation.contains command.entity = false
  | seatNpc command => command.seatIndex < maximumLobbySeatCount
  | clearSeat command => command.seatIndex < maximumLobbySeatCount
  | setSeatCount command =>
      minimumSeatCount ≤ command.seatCount ∧ command.seatCount ≤ maximumSeatCount
  | join command =>
      (∀ expected, command.expectedNpc = some expected →
        command.seatIndex.isSome = true ∧ expected.isValid = true) ∧
        ∀ index, command.seatIndex = some index → index < maximumLobbySeatCount
  | setMovementTuning command =>
      command.tuningRequestId ≠ 0 ∧ command.tuningRequestId ≤ maximumProtocolSafeInteger ∧
        command.expectedRevision ≤ maximumProtocolSafeInteger
  | spawn _ | startMatch _ | leave _ => True

theorem validateCommandValue_eq_ok {command : Command S} {reservation : EntityIdReservation}
    {submissionIndex : Nat} :
    validateCommandValue command reservation submissionIndex = .ok () ↔
      command.WellFormed reservation := by
  cases command with
  | thrust command | charge command =>
      simp only [validateCommandValue, Command.WellFormed, bind_eq_ok, validateDirectionRange,
        validateInputGeneration, ← Bool.and_eq_true]
      split <;> split <;> simp_all [reject]
  | shield command | rotateVelocity command =>
      simp only [validateCommandValue, Command.WellFormed, validateInputGeneration]
      split <;> simp_all [reject]
  | despawn command =>
      simp only [validateCommandValue, Command.WellFormed, validateDespawnTarget]
      split <;> simp_all [reject]
  | seatNpc command | clearSeat command =>
      simp only [validateCommandValue, Command.WellFormed, validateSeatIndex]
      split <;> simp_all [reject]
  | setSeatCount command =>
      simp only [validateCommandValue, Command.WellFormed, validateSeatCount]
      split <;> simp_all [reject]
  | join command =>
      simp only [validateCommandValue, Command.WellFormed, bind_eq_ok, validateJoinDeclaration,
        validateSeatIndex]
      cases command.expectedNpc <;> cases command.seatIndex <;> simp [reject]
  | setMovementTuning command =>
      simp only [validateCommandValue, Command.WellFormed, validateTuningRequest, reject]
      split
      · next outside =>
          simp only [reduceCtorEq, false_iff]
          omega
      · split
        · simp only [reduceCtorEq, false_iff]
          omega
        · simp only [true_iff]
          omega
  | spawn command | startMatch command | leave command =>
      simp only [validateCommandValue, Command.WellFormed]

theorem validateCommand_eq_ok {command : Command S} {acceptedKinds : CommandKindMask}
    {reservation : EntityIdReservation} {submissionIndex : Nat} :
    validateCommand command acceptedKinds reservation submissionIndex = .ok () ↔
      acceptedKinds.contains command.kind = true ∧ command.WellFormed reservation := by
  unfold validateCommand
  split
  · next accepted => simp only [validateCommandValue_eq_ok, accepted, true_and]
  · next refused => simp only [reject, reduceCtorEq, refused, false_and, Bool.false_eq_true]

/-- Validation in submission order, from `submissionIndex` on. -/
def validateCommands (acceptedKinds : CommandKindMask) (reservation : EntityIdReservation) :
    List (Command S) → Nat → Validated Unit
  | [], _ => .ok ()
  | command :: rest, submissionIndex => do
      validateCommand command acceptedKinds reservation submissionIndex
      validateCommands acceptedKinds reservation rest (submissionIndex + 1)

theorem validateCommands_eq_ok {commands : List (Command S)} {acceptedKinds : CommandKindMask}
    {reservation : EntityIdReservation} {submissionIndex : Nat} :
    validateCommands acceptedKinds reservation commands submissionIndex = .ok () ↔
      ∀ command ∈ commands,
        acceptedKinds.contains command.kind = true ∧ command.WellFormed reservation := by
  induction commands generalizing submissionIndex with
  | nil => simp [validateCommands]
  | cons command rest ih =>
      simp only [validateCommands, bind_eq_ok, List.forall_mem_cons, ih, exists_and_right]
      rw [← @validateCommand_eq_ok S _ command acceptedKinds reservation submissionIndex]
      exact and_congr_left' ⟨fun ⟨_, valid⟩ => valid, fun valid => ⟨(), valid⟩⟩

structure OrderedCommand (S : Type) [Scalar S] where
  applicationRank : Nat
  addressedIdentity : Nat
  submissionIndex : Nat
  command : Command S

namespace OrderedCommand

def of (command : Command S) (submissionIndex : Nat) : OrderedCommand S :=
  ⟨command.kind.applicationRank, command.addressedIdentity.orderingKey, submissionIndex, command⟩

/-- Rank, then identity, then submission index. -/
def sortKey (ordered : OrderedCommand S) : Nat ×ₗ Nat ×ₗ Nat :=
  toLex (ordered.applicationRank, toLex (ordered.addressedIdentity, ordered.submissionIndex))

/-- What one run of the sorted commands shares. -/
def runKey (ordered : OrderedCommand S) : Nat ×ₗ Nat :=
  toLex (ordered.applicationRank, ordered.addressedIdentity)

theorem chronological_of_le {first second : OrderedCommand S} (le : first.sortKey ≤ second.sortKey)
    (distinct : first.submissionIndex ≠ second.submissionIndex) :
    first.runKey < second.runKey ∨
      (first.runKey = second.runKey ∧ first.submissionIndex < second.submissionIndex) := by
  simp only [sortKey, runKey, Prod.Lex.toLex_le_toLex, Prod.Lex.toLex_lt_toLex] at le ⊢
  simp only [EmbeddingLike.apply_eq_iff_eq, Prod.mk.injEq]
  omega

end OrderedCommand

def Command.position (command : Command S) : Nat ×ₗ Nat :=
  toLex (command.kind.applicationRank, command.addressedIdentity.orderingKey)

theorem Command.position_eq_iff {first second : Command S} :
    first.position = second.position ↔ first.slot = second.slot := by
  simp only [position, slot, EmbeddingLike.apply_eq_iff_eq, Prod.mk.injEq,
    CommandKind.applicationRank_injective.eq_iff]

def orderedCommands (commands : List (Command S)) : List (OrderedCommand S) :=
  commands.zipIdx.map fun submitted => .of submitted.1 submitted.2

def sortedCommands (commands : List (Command S)) : List (OrderedCommand S) :=
  (orderedCommands commands).insertionSort fun left right => left.sortKey ≤ right.sortKey

/-- Sort, then keep the last command of each run of one rank and identity. -/
def canonicalCommands (commands : List (Command S)) : List (Command S) :=
  (LastWriter.lastOfRuns OrderedCommand.runKey (sortedCommands commands)).map (·.command)

theorem mem_sortedCommands {commands : List (Command S)} {ordered : OrderedCommand S} :
    ordered ∈ sortedCommands commands ↔
      ∃ command index, commands[index]? = some command ∧ ordered = .of command index := by
  rw [sortedCommands, (List.perm_insertionSort _ _).mem_iff]
  simp only [orderedCommands, List.mem_map, Prod.exists, List.mem_zipIdx_iff_getElem?, eq_comm]

theorem sortedCommands_chronological (commands : List (Command S)) :
    LastWriter.Chronological OrderedCommand.runKey OrderedCommand.submissionIndex
      (sortedCommands commands) := by
  have sorted := List.pairwise_insertionSort (fun left right : OrderedCommand S =>
    left.sortKey ≤ right.sortKey) (orderedCommands commands)
  have indices : (sortedCommands commands).Pairwise fun left right =>
      left.submissionIndex ≠ right.submissionIndex := by
    refine (List.perm_insertionSort _ _).symm.pairwise ?_ fun h => h.symm
    rw [orderedCommands, List.pairwise_map]
    exact List.pairwise_iff_getElem.mpr fun first second _ _ before => by
      simpa [OrderedCommand.of] using Nat.ne_of_lt before
  exact (sorted.and indices).imp fun ⟨le, distinct⟩ => OrderedCommand.chronological_of_le le distinct

theorem canonicalCommands_ascending (commands : List (Command S)) :
    (canonicalCommands commands).Pairwise fun first second => first.position < second.position := by
  have ascending := LastWriter.lastOfRuns_ascending (sortedCommands_chronological commands)
  have source : ∀ kept ∈ LastWriter.lastOfRuns OrderedCommand.runKey (sortedCommands commands),
      kept.runKey = kept.command.position := by
    intro kept member
    have sorted := ((LastWriter.mem_lastOfRuns (sortedCommands_chronological commands)).mp member).1
    obtain ⟨command, index, -, rfl⟩ := mem_sortedCommands.mp sorted
    rfl
  rw [canonicalCommands, List.pairwise_map]
  exact ascending.imp_of_mem fun first second less => by
    simpa only [source _ first, source _ second] using less

/-- A command survives canonicalization exactly when it is the newest of its kind and identity. -/
theorem mem_canonicalCommands {commands : List (Command S)} {command : Command S} :
    command ∈ canonicalCommands commands ↔
      LastWriter.latest Command.slot command.slot commands = some command := by
  rw [LastWriter.latest_eq_some_iff_getElem?]
  rw [canonicalCommands, List.mem_map]
  constructor
  · rintro ⟨ordered, kept, rfl⟩
    obtain ⟨member, newest⟩ :=
      (LastWriter.mem_lastOfRuns (sortedCommands_chronological commands)).mp kept
    obtain ⟨command, index, found, rfl⟩ := mem_sortedCommands.mp member
    refine ⟨index, found, rfl, fun later other foundLater keyed => ?_⟩
    exact newest (.of other later) (mem_sortedCommands.mpr ⟨other, later, foundLater, rfl⟩)
      (Command.position_eq_iff.mpr keyed)
  · rintro ⟨index, found, -, newest⟩
    refine ⟨.of command index, ?_, rfl⟩
    rw [LastWriter.mem_lastOfRuns (sortedCommands_chronological commands)]
    refine ⟨mem_sortedCommands.mpr ⟨command, index, found, rfl⟩, fun ordered member keyed => ?_⟩
    obtain ⟨other, later, foundLater, rfl⟩ := mem_sortedCommands.mp member
    exact newest later other foundLater (Command.position_eq_iff.mp keyed)

theorem mem_of_mem_canonicalCommands {commands : List (Command S)} {command : Command S}
    (member : command ∈ canonicalCommands commands) : command ∈ commands :=
  LastWriter.mem_of_latest (mem_canonicalCommands.mp member)

theorem canonicalCommands_congr {first second : List (Command S)}
    (newest : ∀ slot, LastWriter.latest Command.slot slot first =
      LastWriter.latest Command.slot slot second) :
    canonicalCommands first = canonicalCommands second :=
  LastWriter.eq_of_ascending (canonicalCommands_ascending first) (canonicalCommands_ascending second)
    fun command => by rw [mem_canonicalCommands, mem_canonicalCommands, newest]

structure InputBatch (S : Type) [Scalar S] where
  commands : List (Command S)
  entityIdReservation : EntityIdReservation
  ascending : commands.Pairwise fun first second => first.position < second.position
  wellFormed : ∀ command ∈ commands, command.WellFormed entityIdReservation

namespace InputBatch

@[ext] theorem ext_fields {first second : InputBatch S} (commands : first.commands = second.commands)
    (reservation : first.entityIdReservation = second.entityIdReservation) : first = second := by
  cases first
  cases second
  cases commands
  cases reservation
  rfl

def empty : InputBatch S := ⟨[], .none, .nil, by simp⟩

def create (commands : List (Command S)) (acceptedKinds : CommandKindMask)
    (reservation : EntityIdReservation) : Validated (InputBatch S) :=
  if commands.length ≤ maximumInputBatchCommandCount then
    match valid : validateCommands acceptedKinds reservation commands 0 with
    | .error refusal => .error refusal
    | .ok () => .ok
        ⟨canonicalCommands commands, reservation, canonicalCommands_ascending commands,
          fun command member =>
            (validateCommands_eq_ok.mp valid command (mem_of_mem_canonicalCommands member)).2⟩
  else
    reject .inputBatchCommandLimitExceeded "input_batch.commands"
      ("submitted command count " ++ toString commands.length ++ " exceeds the accepted limit " ++
        toString maximumInputBatchCommandCount)

theorem create_eq_ok {commands : List (Command S)} {acceptedKinds : CommandKindMask}
    {reservation : EntityIdReservation} {batch : InputBatch S} :
    create commands acceptedKinds reservation = .ok batch ↔
      commands.length ≤ maximumInputBatchCommandCount ∧
        (∀ command ∈ commands,
          acceptedKinds.contains command.kind = true ∧ command.WellFormed reservation) ∧
        batch.commands = canonicalCommands commands ∧ batch.entityIdReservation = reservation := by
  unfold create
  split
  · next within =>
      split
      · next refusal refused =>
          have invalid : ¬ validateCommands acceptedKinds reservation commands 0 = .ok () := by
            simp [refused]
          rw [validateCommands_eq_ok] at invalid
          simp only [reduceCtorEq, invalid, false_and, and_false]
      · next valid =>
          constructor
          · rintro ⟨⟩
            exact ⟨within, validateCommands_eq_ok.mp valid, rfl, rfl⟩
          · rintro ⟨-, -, sameCommands, sameReservation⟩
            exact congrArg _ (InputBatch.ext_fields sameCommands.symm sameReservation.symm)
  · next excess => simp only [reject, reduceCtorEq, excess, false_and]

theorem exists_create_eq_ok {commands : List (Command S)} {acceptedKinds : CommandKindMask}
    {reservation : EntityIdReservation} :
    (∃ batch, create commands acceptedKinds reservation = .ok batch) ↔
      commands.length ≤ maximumInputBatchCommandCount ∧
        ∀ command ∈ commands,
          acceptedKinds.contains command.kind = true ∧ command.WellFormed reservation := by
  simp only [create_eq_ok]
  constructor
  · rintro ⟨batch, within, valid, -⟩
    exact ⟨within, valid⟩
  · rintro ⟨within, valid⟩
    exact ⟨⟨canonicalCommands commands, reservation, canonicalCommands_ascending commands,
      fun command member => (valid command (mem_of_mem_canonicalCommands member)).2⟩,
      within, valid, rfl, rfl⟩

/-- The tuning commands of a batch, in batch order. -/
def tuningCommands (batch : InputBatch S) : List (SetMovementTuningCommand S) :=
  batch.commands.filterMap fun
    | .setMovementTuning tuning => some tuning
    | _ => none

end InputBatch

end BlobRoyale.Simulation
