import Mathlib.Data.UInt
import BlobRoyale.Simulation.InputBatch

/-!
# The bounded command mailbox

Sessions submit, the worker drains. Every operation holds one mutex, so an operation is one
function of the mailbox; wall-clock readings are arguments in nanoseconds. Counters wrap at 64
bits as the source's do.
-/

namespace BlobRoyale.Runtime

open BlobRoyale.Simulation

def maximumMailboxCommandCount : Nat := 2048
def maximumControllerDirectoryEntryCount : Nat := maximumEntityCount
def movementTuningMinimumIntervalMilliseconds : Nat := 500
def nanosecondsPerMillisecond : Int := 1000000

inductive CommandSubmissionResult where
  | accepted
  | superseded
  | rejectedSessionNotOpen
  | rejectedForeignController
  | rejectedUnacceptedKind
  | rejectedThrustDirectionOutOfRange
  | rejectedUnissuedEntityId
  | droppedMailboxFull
  | rejectedSeatIndexOutOfRange
  | rejectedSeatCountOutOfRange
  | rejectedTuningRequestIdReused
  | rejectedTuningRequestInFlight
  | rejectedTuningRequestIdOutOfRange
  | rejectedTuningRevisionOutOfRange
  | rejectedTuningRateLimited
  | rejectedThrustInputGenerationOutOfRange
  | rejectedNpcDeclarationUnknown
  | rejectedJoinDeclarationInvalid
  | rejectedShieldInputGenerationOutOfRange
  | rejectedChargeDirectionOutOfRange
  | rejectedChargeInputGenerationOutOfRange
  | rejectedRotationInputGenerationOutOfRange
  deriving DecidableEq, Repr

/-- `is_entity_lifecycle_command`: losing one changes whether an entity exists. -/
def isEntityLifecycleCommand : CommandKind → Bool
  | .spawn | .despawn | .leave | .join => true
  | .thrust | .setSeatCount | .clearSeat | .seatNpc | .startMatch | .setMovementTuning | .shield
  | .charge | .rotateVelocity => false

inductive MovementTuningAdmissionStatus where
  | rateLimited
  | mailboxFull
  | mailboxEvicted
  deriving DecidableEq, Repr

structure MovementTuningAdmissionRefusal where
  controller : ControllerId
  tuningRequestId : Nat
  status : MovementTuningAdmissionStatus
  retryAfterMilliseconds : Option Nat
  deriving DecidableEq

inductive MovementTuningResult where
  | decision (made : MovementTuningDecision)
  | refusal (refused : MovementTuningAdmissionRefusal)
  deriving DecidableEq

namespace MovementTuningResult

def tuningRequestId : MovementTuningResult → Nat
  | decision made => made.tuningRequestId
  | refusal refused => refused.tuningRequestId

end MovementTuningResult

/-- One registered controller's correlated request. -/
structure TuningExchange where
  controller : ControllerId
  requestHighWater : Nat
  nextEligibleAt : Option Int
  requestId : Option Nat
  result : Option MovementTuningResult
  deriving DecidableEq

def TuningExchange.registered (controller : ControllerId) : TuningExchange :=
  ⟨controller, 0, none, none, none⟩

/-- The stored counters of `CommandMailbox::Statistics`. -/
structure MailboxCounters where
  submittedCommandCount : UInt64 := 0
  acceptedCommandCount : UInt64 := 0
  supersededCommandCount : UInt64 := 0
  droppedCommandCount : UInt64 := 0
  droppedEntityLifecycleCommandCount : UInt64 := 0
  rejectedUnacceptedKindCount : UInt64 := 0
  drainCount : UInt64 := 0
  drainedCommandCount : UInt64 := 0
  rejectedTuningCommandCount : UInt64 := 0
  rateLimitedTuningCommandCount : UInt64 := 0
  deriving DecidableEq

/-- What `statistics()` reports: the counters and the sizes observed under the same lock. -/
structure MailboxStatistics extends MailboxCounters where
  pendingCommandCount : Nat
  openTuningExchangeCount : Nat
  unresolvedTuningExchangeCount : Nat

structure CommandMailbox (S : Type) [Scalar S] where
  acceptedKinds : CommandKindMask
  pending : List (Command S)
  tuningExchanges : List TuningExchange
  counters : MailboxCounters
  deriving DecidableEq

namespace TuningExchange

def raised (requestId : Nat) (exchange : TuningExchange) : TuningExchange :=
  { exchange with requestHighWater := requestId }

def admitted (requestId : Nat) (eligibleAt : Int) (exchange : TuningExchange) : TuningExchange :=
  { exchange with requestId := some requestId, nextEligibleAt := some eligibleAt }

def refused (requestId : Nat) (result : MovementTuningResult) (exchange : TuningExchange) :
    TuningExchange :=
  { exchange with requestId := some requestId, result := some result }

def answered (result : MovementTuningResult) (exchange : TuningExchange) : TuningExchange :=
  { exchange with result := some result }

/-- Answer the outstanding request a result names, once. -/
def recorded (result : MovementTuningResult) (exchange : TuningExchange) : TuningExchange :=
  if exchange.requestId = some result.tuningRequestId ∧ exchange.result = none then
    exchange.answered result
  else exchange

def claimed (exchange : TuningExchange) : TuningExchange :=
  { exchange with result := none, requestId := none }

def update (controller : ControllerId) (change : TuningExchange → TuningExchange) :
    List TuningExchange → List TuningExchange
  | [] => []
  | exchange :: rest =>
      if exchange.controller = controller then change exchange :: rest
      else exchange :: update controller change rest

def find (controller : ControllerId) (exchanges : List TuningExchange) : Option TuningExchange :=
  exchanges.find? fun exchange => exchange.controller = controller

end TuningExchange

namespace CommandMailbox

variable {S : Type} [Scalar S]

def create (acceptedKinds : CommandKindMask) : CommandMailbox S := ⟨acceptedKinds, [], [], {}⟩

def statistics (mailbox : CommandMailbox S) : MailboxStatistics where
  toMailboxCounters := mailbox.counters
  pendingCommandCount := mailbox.pending.length
  openTuningExchangeCount := mailbox.tuningExchanges.length
  unresolvedTuningExchangeCount := mailbox.tuningExchanges.countP fun exchange =>
    exchange.requestId.isSome

/-- The slot holding a kind and ordering key, or the pending count. -/
def findPendingSlot (mailbox : CommandMailbox S) (kind : CommandKind) (orderingKey : Nat) : Nat :=
  mailbox.pending.findIdx fun command =>
    decide (command.kind = kind) && command.addressedIdentity.orderingKey == orderingKey

/-- The oldest slot holding no lifecycle command, or the pending count. -/
def findEvictableSlot (mailbox : CommandMailbox S) : Nat :=
  mailbox.pending.findIdx fun command => !isEntityLifecycleCommand command.kind

def findExchange (mailbox : CommandMailbox S) (controller : ControllerId) : Option TuningExchange :=
  TuningExchange.find controller mailbox.tuningExchanges

def updateExchange (mailbox : CommandMailbox S) (controller : ControllerId)
    (change : TuningExchange → TuningExchange) : CommandMailbox S :=
  { mailbox with tuningExchanges := TuningExchange.update controller change mailbox.tuningExchanges }

def recordTuningEviction (mailbox : CommandMailbox S) (command : Command S) : CommandMailbox S :=
  match command with
  | .setMovementTuning tuning =>
      mailbox.updateExchange tuning.controller
        (.recorded (.refusal ⟨tuning.controller, tuning.tuningRequestId, .mailboxEvicted, none⟩))
  | _ => mailbox

/-- `submit_locked`, for a command already counted as submitted. -/
def submitLocked (mailbox : CommandMailbox S) (command : Command S) :
    CommandSubmissionResult × CommandMailbox S :=
  let counters := mailbox.counters
  if mailbox.acceptedKinds.contains command.kind then
    let existingSlot :=
      mailbox.findPendingSlot command.kind command.addressedIdentity.orderingKey
    if existingSlot ≠ mailbox.pending.length then
      (.superseded, { mailbox with
        pending := mailbox.pending.set existingSlot command
        counters := { counters with
          acceptedCommandCount := counters.acceptedCommandCount + 1
          supersededCommandCount := counters.supersededCommandCount + 1 } })
    else if mailbox.pending.length < maximumMailboxCommandCount then
      (.accepted, { mailbox with
        pending := mailbox.pending ++ [command]
        counters := { counters with acceptedCommandCount := counters.acceptedCommandCount + 1 } })
    else if isEntityLifecycleCommand command.kind then
      let evictableSlot := mailbox.findEvictableSlot
      match mailbox.pending[evictableSlot]? with
      | some victim =>
          (.accepted, { mailbox.recordTuningEviction victim with
            pending := mailbox.pending.eraseIdx evictableSlot ++ [command]
            counters := { counters with
              acceptedCommandCount := counters.acceptedCommandCount + 1
              droppedCommandCount := counters.droppedCommandCount + 1 } })
      | none =>
          (.droppedMailboxFull, { mailbox with
            counters := { counters with
              droppedCommandCount := counters.droppedCommandCount + 1
              droppedEntityLifecycleCommandCount :=
                counters.droppedEntityLifecycleCommandCount + 1 } })
    else
      (.droppedMailboxFull, { mailbox with
        counters := { counters with droppedCommandCount := counters.droppedCommandCount + 1 } })
  else
    (.rejectedUnacceptedKind, { mailbox with
      counters := { counters with
        rejectedUnacceptedKindCount := counters.rejectedUnacceptedKindCount + 1 } })

def countSubmitted (mailbox : CommandMailbox S) : CommandMailbox S :=
  { mailbox with
    counters := { mailbox.counters with
      submittedCommandCount := mailbox.counters.submittedCommandCount + 1 } }

def countRejectedTuning (mailbox : CommandMailbox S) : CommandMailbox S :=
  { mailbox with
    counters := { mailbox.counters with
      rejectedTuningCommandCount := mailbox.counters.rejectedTuningCommandCount + 1 } }

/-- `clamp(ceil_ms(next_eligible_at - now), 1, minimum interval)`. -/
def retryAfterMilliseconds (nextEligibleAt now : Int) : Nat :=
  let remaining := -((now - nextEligibleAt) / nanosecondsPerMillisecond)
  min (max remaining.toNat 1) movementTuningMinimumIntervalMilliseconds

def isRateLimited (exchange : TuningExchange) (now : Int) : Option Int :=
  exchange.nextEligibleAt.filter fun nextEligibleAt => now < nextEligibleAt

/-- `submit_tuning` past its identity checks, for an idle exchange. -/
def admitTuning (mailbox : CommandMailbox S) (command : SetMovementTuningCommand S)
    (exchange : TuningExchange) (now : Int) : CommandSubmissionResult × CommandMailbox S :=
  match isRateLimited exchange now with
  | some nextEligibleAt =>
      let limited := mailbox.updateExchange command.controller
        (.refused command.tuningRequestId (.refusal ⟨command.controller, command.tuningRequestId,
          .rateLimited, some (retryAfterMilliseconds nextEligibleAt now)⟩))
      (.rejectedTuningRateLimited, { limited with
        counters := { limited.counters with
          rateLimitedTuningCommandCount := limited.counters.rateLimitedTuningCommandCount + 1 } })
  | none =>
      let admitted := mailbox.updateExchange command.controller
        (.admitted command.tuningRequestId
          (now + movementTuningMinimumIntervalMilliseconds * nanosecondsPerMillisecond))
      let (result, inserted) := admitted.submitLocked (.setMovementTuning command)
      if result = .droppedMailboxFull then
        (result, inserted.updateExchange command.controller
          (.answered (.refusal ⟨command.controller, command.tuningRequestId, .mailboxFull, none⟩)))
      else
        (result, inserted)

def submitTuning (mailbox : CommandMailbox S) (command : SetMovementTuningCommand S) (now : Int) :
    CommandSubmissionResult × CommandMailbox S :=
  let submitted := mailbox.countSubmitted
  if submitted.acceptedKinds.contains .setMovementTuning then
    match submitted.findExchange command.controller with
    | none => (.rejectedSessionNotOpen, submitted.countRejectedTuning)
    | some exchange =>
        if command.tuningRequestId = 0 ∨ maximumProtocolSafeInteger < command.tuningRequestId then
          (.rejectedTuningRequestIdOutOfRange, submitted.countRejectedTuning)
        else if maximumProtocolSafeInteger < command.expectedRevision then
          (.rejectedTuningRevisionOutOfRange, submitted.countRejectedTuning)
        else if command.tuningRequestId ≤ exchange.requestHighWater then
          (.rejectedTuningRequestIdReused, submitted.countRejectedTuning)
        else
          let raised := submitted.updateExchange command.controller (.raised command.tuningRequestId)
          if exchange.requestId.isSome then
            (.rejectedTuningRequestInFlight, raised.countRejectedTuning)
          else
            raised.admitTuning command exchange now
  else
    (.rejectedUnacceptedKind, { submitted with
      counters := { submitted.counters with
        rejectedUnacceptedKindCount := submitted.counters.rejectedUnacceptedKindCount + 1 } })

/-- `submit`; `now` is the steady clock a tuning command is rate limited by. -/
def submit (mailbox : CommandMailbox S) (command : Command S) (now : Int) :
    CommandSubmissionResult × CommandMailbox S :=
  match command with
  | .setMovementTuning tuning => mailbox.submitTuning tuning now
  | _ => mailbox.countSubmitted.submitLocked command

def drain (mailbox : CommandMailbox S) : List (Command S) × CommandMailbox S :=
  (mailbox.pending, { mailbox with
    pending := []
    counters := { mailbox.counters with
      drainCount := mailbox.counters.drainCount + 1
      drainedCommandCount :=
        mailbox.counters.drainedCommandCount + UInt64.ofNat mailbox.pending.length } })

def registerController (mailbox : CommandMailbox S) (controller : ControllerId) :
    Bool × CommandMailbox S :=
  if (mailbox.findExchange controller).isSome ||
      mailbox.tuningExchanges.length == maximumControllerDirectoryEntryCount then
    (false, mailbox)
  else
    (true, { mailbox with
      tuningExchanges := mailbox.tuningExchanges ++ [.registered controller] })

/-- The result of inserting the Leave is discarded. -/
def retireController (mailbox : CommandMailbox S) (controller : ControllerId) :
    Bool × CommandMailbox S :=
  if (mailbox.findExchange controller).isSome then
    let erased := { mailbox with
      tuningExchanges := mailbox.tuningExchanges.eraseP fun exchange =>
        exchange.controller = controller }
    (true, (erased.countSubmitted.submitLocked (.leave ⟨controller⟩)).2)
  else
    (false, mailbox)

def completeTuningDecisions (mailbox : CommandMailbox S) (decisions : List MovementTuningDecision) :
    CommandMailbox S :=
  decisions.foldl (fun mailbox decision =>
    mailbox.updateExchange decision.controller (.recorded (.decision decision))) mailbox

/-- A decision is withheld until a published snapshot covers the tick that made it. -/
def claimTuningResult (mailbox : CommandMailbox S) (controller : ControllerId)
    (coveringSnapshotTick : TickSequence) : Option MovementTuningResult × CommandMailbox S :=
  match (mailbox.findExchange controller).bind (·.result) with
  | none => (none, mailbox)
  | some result =>
      let claimed := (some result, mailbox.updateExchange controller .claimed)
      match result with
      | .decision decision =>
          if coveringSnapshotTick.value < decision.decisionTick.value then (none, mailbox)
          else claimed
      | .refusal _ => claimed

end CommandMailbox

end BlobRoyale.Runtime
