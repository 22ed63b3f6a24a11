import BlobRoyale.Protocol.CommandDecoding
import BlobRoyale.Runtime.CommandMailbox
import BlobRoyale.Server.SnapshotDeliveryState

/-!
# One WebSocket session

A session after its handshake: its callbacks on one strand, the operations it has outstanding, and the
calls it makes on its room, the egress budget, the socket and the server. What those calls answer is
part of the callback's input.
-/

namespace BlobRoyale.Server

open BlobRoyale.Simulation BlobRoyale.Protocol BlobRoyale.Runtime

def sessionSpawnRequestRetryTicks : Nat := simulationTicksPerSecond / 10
def sessionSeatRequestRetryTicks : Nat := sessionSpawnRequestRetryTicks

/-- `kWebSocketIdlePingInterval`, fifteen seconds. -/
def webSocketIdlePingInterval : Int := 15000000000

inductive CloseIntent where
  | normal
  | serverShutdown
  | peerTimeout
  | protocolError
  | invalidUtf8
  | controlRateExceeded
  | clientMessageTooLarge
  | commandRateExceeded
  | commandMalformed
  | commandKindRejected
  | commandPayloadInvalid
  | internalFailure
  | slowConsumer
  | serviceNotReady
  | lobbyFull
  | tuningRequestInFlight
  | tuningRequestIdReused
  deriving DecidableEq, Repr

namespace CloseIntent

/-- `close_code_for`. -/
def code : CloseIntent → Nat
  | normal => 1000
  | serverShutdown | peerTimeout => 1001
  | protocolError => 1002
  | invalidUtf8 => 1007
  | controlRateExceeded | commandRateExceeded | commandMalformed | commandKindRejected
  | commandPayloadInvalid | tuningRequestInFlight | tuningRequestIdReused => 1008
  | clientMessageTooLarge => 1009
  | internalFailure => 1011
  | slowConsumer | serviceNotReady | lobbyFull => 1013

/-- `close_reason_for`. -/
def reason : CloseIntent → String
  | normal => "normal"
  | serverShutdown => "server_shutdown"
  | peerTimeout => "peer_timeout"
  | protocolError => "protocol_error"
  | invalidUtf8 => "invalid_utf8"
  | controlRateExceeded => "control_rate_exceeded"
  | clientMessageTooLarge => "client_message_too_large"
  | commandRateExceeded => "command_rate_exceeded"
  | commandMalformed => "command_malformed"
  | commandKindRejected => "command_kind_rejected"
  | commandPayloadInvalid => "command_payload_invalid"
  | tuningRequestInFlight => "tuning_request_in_flight"
  | tuningRequestIdReused => "tuning_request_id_reused"
  | internalFailure => "internal_failure"
  | slowConsumer => "slow_consumer"
  | serviceNotReady => "service_not_ready"
  | lobbyFull => "lobby_full"

def ofRejection : CommandDecodeRejection → CloseIntent
  | .messageTooLarge => clientMessageTooLarge
  | .kindRejected => commandKindRejected
  | .payloadInvalid => commandPayloadInvalid
  | .malformed => commandMalformed

end CloseIntent

section Operations

/-- What a session may have outstanding: waits of its four timers, operations of its socket, and the
handlers it or the server posted. -/
inductive SessionOperation where
  | presentationWait
  | writeDeadlineWait
  | idleWait
  | pongWait
  | clientRead
  | welcomeWrite
  | snapshotWrite
  | ping
  | close
  | controlRateClose
  | serverFailure
  deriving DecidableEq, Repr

/-- A wait of a timer, which is aborted only when the timer was cancelled or rearmed. -/
def SessionOperation.isTimerWait : SessionOperation → Bool
  | presentationWait | writeDeadlineWait | idleWait | pongWait => true
  | clientRead | welcomeWrite | snapshotWrite | ping | close | controlRateClose | serverFailure => false

structure OutstandingOperation where
  operation : SessionOperation
  cancelled : Bool
  deriving DecidableEq, Repr

inductive Completion where
  | succeeded
  | failed
  | aborted
  deriving DecidableEq, Repr

inductive SessionStopMode where
  | graceful
  | immediate
  deriving DecidableEq, Repr

end Operations

variable {S : Type} [Scalar S]

/-- What a session does to what it does not own. -/
inductive SessionCall (S : Type) [Scalar S] where
  | countSessionIn
  | countSessionOut
  | closeSession (controller : ControllerId)
  | submit (command : Command S)
  | tryReserve (now : Int) (answer : Except EgressFault (Option SnapshotEgressLease))
  | cancelWaiter
  | commitEncodedBytes (lease : SnapshotEgressLease) (byteCount : Nat)
      (answer : Except EgressFault SnapshotEgressLease)
  | releaseLease (lease : SnapshotEgressLease)
  | writeWelcome (entity : EntityId)
  | writeSnapshot (messageSequence tick : Nat)
  | ping
  | requestClose (intent : CloseIntent)
  | close (code : Nat) (reason : String)
  | closeSocket
  | releaseAdmission
  | unregister
  | fail
  | escape (error : GameServerError)

structure SessionWebSocketSession (S : Type) [Scalar S] where
  sessionId : ClientId
  registered : Bool
  delivery : SnapshotDeliveryState S
  lastReceivedFrameAt : Int
  activeEgressLease : Option SnapshotEgressLease
  requestedCloseIntent : Option CloseIntent
  controller : Option ControllerId
  currentEntity : Option EntityId
  lastSpawnRequestTick : Option TickSequence
  lastSeatRequestTick : Option TickSequence
  controlWriteActive : Bool
  welcomeWriteActive : Bool
  welcomeDelivered : Bool
  snapshotWriteOperationActive : Bool
  idleWaitActive : Bool
  waitingForPong : Bool
  closeRequested : Bool
  closeStarted : Bool
  leftMatch : Bool
  finished : Bool
  outstanding : List OutstandingOperation
  transcript : List (SessionCall S)

namespace SessionWebSocketSession

/-- A registered session whose handshake has just completed. -/
def handshaken (sessionId : ClientId) (openedAt : Int) : SessionWebSocketSession S where
  sessionId := sessionId
  registered := true
  delivery := .initial
  lastReceivedFrameAt := openedAt
  activeEgressLease := none
  requestedCloseIntent := none
  controller := none
  currentEntity := none
  lastSpawnRequestTick := none
  lastSeatRequestTick := none
  controlWriteActive := false
  welcomeWriteActive := false
  welcomeDelivered := false
  snapshotWriteOperationActive := false
  idleWaitActive := false
  waitingForPong := false
  closeRequested := false
  closeStarted := false
  leftMatch := false
  finished := false
  outstanding := []
  transcript := []

variable (session : SessionWebSocketSession S)

section Primitives

def call (made : SessionCall S) : SessionWebSocketSession S :=
  { session with transcript := session.transcript ++ [made] }

def start (operation : SessionOperation) : SessionWebSocketSession S :=
  { session with outstanding := session.outstanding ++ [⟨operation, false⟩] }

def cancelWait (operation : SessionOperation) : SessionWebSocketSession S :=
  { session with outstanding := session.outstanding.map fun pending =>
      if pending.operation = operation then { pending with cancelled := true } else pending }

/-- `expires_at` and `async_wait`. -/
def armWait (operation : SessionOperation) : SessionWebSocketSession S :=
  (session.cancelWait operation).start operation

def dataWriteActive : Bool := session.welcomeWriteActive || session.delivery.writeActive

/-- `cancel_waiter` behind its guard. -/
def cancelWaiterIfRegistered : SessionWebSocketSession S :=
  if session.registered then session.call .cancelWaiter else session

def releaseActivePayload : SessionWebSocketSession S :=
  match session.activeEgressLease with
  | none => session
  | some lease => { session.call (.releaseLease lease) with activeEgressLease := none }

end Primitives

section Closing

def leaveMatch : SessionWebSocketSession S :=
  if session.leftMatch then session
  else
    match session.controller with
    | none => session
    | some controller =>
        ({ session with leftMatch := true }.call .countSessionOut).call (.closeSession controller)

def cancelTimers : SessionWebSocketSession S :=
  (((session.cancelWait .presentationWait).cancelWait .writeDeadlineWait).cancelWait .idleWait).cancelWait .pongWait

def discardDelivery : SessionWebSocketSession S := { session with delivery := session.delivery.discard }

def releaseIdlePayload : SessionWebSocketSession S :=
  if session.snapshotWriteOperationActive then session else session.releaseActivePayload

def unregister : SessionWebSocketSession S :=
  if session.registered then { session.call .unregister with registered := false } else session

def finish : SessionWebSocketSession S :=
  if session.finished then session
  else
    let departed := leaveMatch { session with finished := true }
    let discarded := (departed.cancelTimers.call .closeSocket).discardDelivery
    (discarded.cancelWaiterIfRegistered.releaseIdlePayload.call .releaseAdmission).unregister

def beginClose : Except GameServerError (SessionWebSocketSession S) :=
  if session.finished || session.closeStarted || session.dataWriteActive || session.controlWriteActive then
    .ok session
  else
    match session.requestedCloseIntent with
    | none => .error ⟨.sessionInvariantFailed, "session.close", "close began without a requested close intent"⟩
    | some intent =>
        .ok (({ session with closeStarted := true }.call (.close intent.code intent.reason)).start .close)

/-- `fail` of the server, which stops every session at once from a posted handler. -/
def failServer : SessionWebSocketSession S := (session.call .fail).start .serverFailure

def markCloseRequested (intent : CloseIntent) : SessionWebSocketSession S :=
  { session.call (.requestClose intent) with closeRequested := true }

/-- The intent of a close, under which nothing pending is kept and no timer but a write's runs on. -/
def intendClose (intent : CloseIntent) : SessionWebSocketSession S :=
  let discarded := { session with
    requestedCloseIntent := some intent
    delivery := session.delivery.discardPending }
  ((discarded.cancelWait .presentationWait).cancelWait .idleWait).cancelWait .pongWait

/-- A close that begins at once where nothing is being written. -/
def beginIdleClose : SessionWebSocketSession S :=
  if session.dataWriteActive || session.controlWriteActive then session
  else
    match session.beginClose with
    | .ok closing => closing
    | .error _ => session.failServer.finish

def requestClose (intent : CloseIntent) : SessionWebSocketSession S :=
  if session.finished || session.closeRequested then session
  else
    (((session.markCloseRequested intent).cancelWaiterIfRegistered.intendClose intent).leaveMatch).beginIdleClose

def reportSessionFailure : SessionWebSocketSession S := (session.requestClose .internalFailure).failServer

/-- `begin_close` outside a guard: what it throws leaves the handler. -/
def beginCloseUnguarded : SessionWebSocketSession S :=
  match session.beginClose with
  | .ok closing => closing
  | .error failure => session.call (.escape failure)

def requestStop : SessionStopMode → SessionWebSocketSession S
  | .immediate => (session.call .closeSocket).finish
  | .graceful => session.requestClose .serverShutdown

end Closing

section Seating

def observeOwnEntity (snapshot : WorldSnapshot S) : SessionWebSocketSession S :=
  match session.controller with
  | none => session
  | some controller =>
      match snapshot.findControlledBody controller with
      | some entity => { session with currentEntity := some entity, lastSpawnRequestTick := none }
      | none => { session with currentEntity := none }

/-- Whether a request made at an earlier tick is still in flight. -/
def inFlight (requested : Option TickSequence) (observed : TickSequence) (retryTicks : Nat) : Bool :=
  requested.any fun tick => observed.value < tick.value + retryTicks

def requestBodyIfAbsent (observed : TickSequence) : SessionWebSocketSession S :=
  match session.controller with
  | none => session
  | some controller =>
      if session.currentEntity.isSome || inFlight session.lastSpawnRequestTick observed sessionSpawnRequestRetryTicks
      then session
      else { session with lastSpawnRequestTick := some observed }.call (.submit (.spawn ⟨controller⟩))

/-- Whether a seat is this controller's, as a person's or as a declared bot's. -/
def holdsSeat (controller : ControllerId) (seat : Seat) : Bool := seat.occupant = some controller

def requestSeatIfAbsent (snapshot : WorldSnapshot S) : SessionWebSocketSession S :=
  match session.controller with
  | none => session
  | some controller =>
      let seats := snapshot.matchState.seats
      if seats.seatCount = 0 then session
      else if seats.seats.any (holdsSeat controller) then { session with lastSeatRequestTick := none }
      else if (seats.firstJoinableSeat snapshot.matchState.phase).isNone then session.requestClose .lobbyFull
      else if inFlight session.lastSeatRequestTick snapshot.tickSequence sessionSeatRequestRetryTicks then session
      else { session with lastSeatRequestTick := some snapshot.tickSequence }.call
        (.submit (.join ⟨controller, none, none⟩))

end Seating

section Presentation

/-- What a presentation slot meets: the published snapshot, if any, and what its calls answer. No byte
count stands for a claim or an encoding that threw. -/
structure PresentationInput (S : Type) [Scalar S] where
  now : Int
  published : Option (WorldSnapshot S)
  reservation : Except EgressFault (Option SnapshotEgressLease)
  encodedByteCount : Option Nat
  commit : Except EgressFault SnapshotEgressLease
  initiates : Bool

/-- How the guarded part of a slot ends. -/
inductive SlotProgress (S : Type) [Scalar S] where
  | proceeds (session : SessionWebSocketSession S)
  | returned (session : SessionWebSocketSession S)
  | threw (session : SessionWebSocketSession S)

def schedulePresentationSlot : SessionWebSocketSession S :=
  if session.finished || session.closeRequested then session else session.armWait .presentationWait

/-- `active_egress_lease_.emplace`, which releases a lease it replaces. -/
def holdLease (lease : SnapshotEgressLease) : SessionWebSocketSession S :=
  { session.releaseActivePayload with activeEgressLease := some lease }

/-- The encoding, its commit and the deadline both kinds of data write begin with. -/
def commitEncoding (input : PresentationInput S) (lease : SnapshotEgressLease) : SlotProgress S :=
  let held := session.holdLease lease
  match input.encodedByteCount with
  | none => .threw held
  | some byteCount =>
      let committed := held.call (.commitEncodedBytes lease byteCount input.commit)
      match input.commit with
      | .error _ => .threw committed
      | .ok settled => .proceeds ({ committed with activeEgressLease := some settled }.armWait .writeDeadlineWait)

def startWelcomeWrite (input : PresentationInput S) (entity : EntityId) (lease : SnapshotEgressLease) :
    SlotProgress S :=
  match session.commitEncoding input lease with
  | .proceeds armed =>
      if input.initiates then
        .proceeds (({ armed with
          welcomeWriteActive := true
          snapshotWriteOperationActive := true }.call (.writeWelcome entity)).start .welcomeWrite)
      else .threw { armed with welcomeWriteActive := false, snapshotWriteOperationActive := false }
  | refused => refused

/-- The welcome already spent message sequence one. -/
def welcomeMessageSequence : Nat := 1

def startSnapshotWrite (input : PresentationInput S) (delivered : SnapshotDelivery S)
    (lease : SnapshotEgressLease) : SlotProgress S :=
  match session.controller with
  | none => .threw (session.holdLease lease)
  | some _ =>
      match session.commitEncoding input lease with
      | .proceeds armed =>
          if input.initiates then
            .proceeds (({ armed with snapshotWriteOperationActive := true }.call
              (.writeSnapshot (delivered.messageSequence + welcomeMessageSequence)
                delivered.snapshot.tickSequence.value)).start .snapshotWrite)
          else .threw { armed with snapshotWriteOperationActive := false }
      | refused => refused

def presentWelcome (input : PresentationInput S) : SlotProgress S :=
  match session.currentEntity with
  | none => .proceeds session
  | some entity =>
      if session.dataWriteActive then .proceeds session
      else
        let asked := session.call (.tryReserve input.now input.reservation)
        match input.reservation with
        | .error _ => .threw asked
        | .ok none => .proceeds asked
        | .ok (some lease) => asked.startWelcomeWrite input entity lease

def presentSnapshot (input : PresentationInput S) (latest : WorldSnapshot S) : SlotProgress S :=
  match session.delivery.observe latest with
  | .error _ => .threw session
  | .ok observed =>
      let noticed := { session with delivery := observed }
      if noticed.delivery.readyToWrite then
        let asked := noticed.call (.tryReserve input.now input.reservation)
        match input.reservation with
        | .error _ => .threw asked
        | .ok none => .proceeds asked
        | .ok (some lease) =>
            match asked.delivery.beginActiveWrite with
            | (.ok (some delivered), begun) =>
                startSnapshotWrite { asked with delivery := begun } input delivered lease
            | (_, begun) => .threw ({ asked with delivery := begun }.call (.releaseLease lease))
      else .proceeds noticed

/-- What a slot presents once the room has published. -/
def present (input : PresentationInput S) (latest : WorldSnapshot S) : SlotProgress S :=
  if session.controlWriteActive then .proceeds session
  else
    let seated := ((session.observeOwnEntity latest).requestBodyIfAbsent latest.tickSequence).requestSeatIfAbsent
      latest
    if seated.closeRequested then .returned seated
    else if seated.welcomeDelivered then seated.presentSnapshot input latest
    else seated.presentWelcome input

def presentationSlot (completion : Completion) (input : PresentationInput S) : SessionWebSocketSession S :=
  if completion = .aborted || session.finished || session.closeRequested then session
  else if completion = .failed then session.finish
  else
    match input.published with
    | none => session.requestClose .serviceNotReady
    | some latest =>
        match session.present input latest with
        | .proceeds presented => presented.schedulePresentationSlot
        | .returned presented => presented
        | .threw presented => presented.reportSessionFailure

end Presentation

section Completions

def welcomeWritten (completion : Completion) : SessionWebSocketSession S :=
  let landed := releaseActivePayload (cancelWait
    { session with welcomeWriteActive := false, snapshotWriteOperationActive := false } .writeDeadlineWait)
  if landed.finished then landed
  else if completion ≠ .succeeded then landed.finish
  else
    let delivered := { landed with welcomeDelivered := true }
    if delivered.closeRequested then delivered.beginCloseUnguarded else delivered

def snapshotWritten (completion : Completion) : SessionWebSocketSession S :=
  let landed := releaseActivePayload (cancelWait { session with snapshotWriteOperationActive := false }
    .writeDeadlineWait)
  if landed.finished then landed
  else if completion ≠ .succeeded then landed.finish
  else
    match landed.delivery.completeActiveWrite with
    | .error _ => landed.reportSessionFailure
    | .ok completed =>
        let delivered := { landed with delivery := completed }
        if delivered.closeRequested then delivered.beginCloseUnguarded else delivered

def dataWriteTimedOut (completion : Completion) : SessionWebSocketSession S :=
  if completion = .aborted || session.finished then session
  else finish ({ session with requestedCloseIntent := some .slowConsumer }.call .closeSocket)

def armIdleWait : SessionWebSocketSession S :=
  armWait { session with idleWaitActive := true } .idleWait

def scheduleIdleCheck : SessionWebSocketSession S :=
  if session.finished || session.closeRequested || session.idleWaitActive then session else session.armIdleWait

def idleCheck (completion : Completion) (now : Int) : SessionWebSocketSession S :=
  let checked := { session with idleWaitActive := false }
  if completion = .aborted || checked.finished || checked.closeRequested then checked
  else if completion = .failed then checked.finish
  else if now < checked.lastReceivedFrameAt + webSocketIdlePingInterval then checked.armIdleWait
  else if checked.dataWriteActive || checked.controlWriteActive then checked.armIdleWait
  else ((({ checked with controlWriteActive := true }.call .cancelWaiter).call .ping).start .ping)

def pingWritten (completion : Completion) : SessionWebSocketSession S :=
  let landed := { session with controlWriteActive := false }
  if landed.finished then landed
  else if completion ≠ .succeeded then landed.finish
  else if landed.closeRequested then landed.beginCloseUnguarded
  else armWait { landed with waitingForPong := true } .pongWait

def pongTimedOut (completion : Completion) : SessionWebSocketSession S :=
  if completion = .aborted || session.finished || !session.waitingForPong then session
  else session.requestClose .peerTimeout

/-- `observe_control_frame` of a pong or another control frame. -/
def observeControlFrame (pong : Bool) (now : Int) (rateAdmits : Bool) : SessionWebSocketSession S :=
  if session.finished then session
  else
    let received := { session with lastReceivedFrameAt := now }
    let answered := if pong && received.waitingForPong then
      cancelWait { received with waitingForPong := false } .pongWait else received
    let limited := if rateAdmits then answered else answered.start .controlRateClose
    limited.scheduleIdleCheck

end Completions

section ClientFrames

/-- What the rate policy, the decoder and the sink answer to one frame. -/
structure FrameAdmission (S : Type) [Scalar S] where
  rateAdmits : Bool
  decoded : CommandDecodeResult S
  submitted : CommandSubmissionResult

inductive FrameRead (S : Type) [Scalar S] where
  | closedByPeer
  | messageTooBig
  | badFramePayload
  | failed
  | received (now : Int) (admission : FrameAdmission S)

def readClientFrame : SessionWebSocketSession S :=
  if session.finished || session.closeRequested then session else session.start .clientRead

def submitClientCommand (command : Command S) (submitted : CommandSubmissionResult) : SessionWebSocketSession S :=
  if session.controller.isNone || (command.addressedIdentity.entity.isSome && session.currentEntity.isNone) then
    session
  else
    let asked := session.call (.submit command)
    match submitted with
    | .rejectedTuningRequestIdReused => asked.requestClose .tuningRequestIdReused
    | .rejectedTuningRequestInFlight => asked.requestClose .tuningRequestInFlight
    | _ => asked

def admitClientCommand (admission : FrameAdmission S) : SessionWebSocketSession S :=
  if !admission.rateAdmits then session.requestClose .commandRateExceeded
  else
    match admission.decoded with
    | .error rejection => session.requestClose (.ofRejection rejection)
    | .ok command => session.submitClientCommand command admission.submitted

def clientFrameRead : FrameRead S → SessionWebSocketSession S
  | .closedByPeer => session.finish
  | .messageTooBig => session.requestClose .clientMessageTooLarge
  | .badFramePayload => session.requestClose .invalidUtf8
  | .failed => session.requestClose .protocolError
  | .received now admission =>
      ((scheduleIdleCheck { session with lastReceivedFrameAt := now }).admitClientCommand admission).readClientFrame

end ClientFrames

section Accepting

/-- What opening the match session answered. -/
inductive JoinOutcome where
  | opened (controller : ControllerId)
  | refused
  | failed
  deriving DecidableEq

/-- `accepted`, after a handshake that succeeded. -/
def accepted : JoinOutcome → SessionWebSocketSession S
  | .refused => session.requestClose .serviceNotReady
  | .failed => session.reportSessionFailure
  | .opened controller =>
      ({ session with controller := some controller }.call
        .countSessionIn).readClientFrame.scheduleIdleCheck.schedulePresentationSlot

end Accepting

section Events

inductive SessionEvent (S : Type) [Scalar S] where
  | presentationSlot (completion : Completion) (input : PresentationInput S)
  | welcomeWritten (completion : Completion)
  | snapshotWritten (completion : Completion)
  | dataWriteTimedOut (completion : Completion)
  | idleCheck (completion : Completion) (now : Int)
  | pingWritten (completion : Completion)
  | pongTimedOut (completion : Completion)
  | clientFrameRead (frame : FrameRead S)
  | closed (completion : Completion)
  | controlRateClose
  | serverFailure
  | controlFrame (pong : Bool) (now : Int) (rateAdmits : Bool)
  | requestStop (mode : SessionStopMode)

def SessionEvent.completes : SessionEvent S → Option (SessionOperation × Completion)
  | presentationSlot completion _ => some (.presentationWait, completion)
  | welcomeWritten completion => some (.welcomeWrite, completion)
  | snapshotWritten completion => some (.snapshotWrite, completion)
  | dataWriteTimedOut completion => some (.writeDeadlineWait, completion)
  | idleCheck completion _ => some (.idleWait, completion)
  | pingWritten completion => some (.ping, completion)
  | pongTimedOut completion => some (.pongWait, completion)
  | clientFrameRead _ => some (.clientRead, .succeeded)
  | closed completion => some (.close, completion)
  | controlRateClose => some (.controlRateClose, .succeeded)
  | serverFailure => some (.serverFailure, .succeeded)
  | controlFrame .. | requestStop _ => none

def perform : SessionEvent S → SessionWebSocketSession S
  | .presentationSlot completion input => session.presentationSlot completion input
  | .welcomeWritten completion => session.welcomeWritten completion
  | .snapshotWritten completion => session.snapshotWritten completion
  | .dataWriteTimedOut completion => session.dataWriteTimedOut completion
  | .idleCheck completion now => session.idleCheck completion now
  | .pingWritten completion => session.pingWritten completion
  | .pongTimedOut completion => session.pongTimedOut completion
  | .clientFrameRead frame => session.clientFrameRead frame
  | .closed _ => session.finish
  | .controlRateClose => session.requestClose .controlRateExceeded
  | .serverFailure => session.requestStop .immediate
  | .controlFrame pong now rateAdmits => session.observeControlFrame pong now rateAdmits
  | .requestStop mode => session.requestStop mode

/-- The session once a pending operation has completed. -/
def completed (pending : OutstandingOperation) : SessionWebSocketSession S :=
  { session with outstanding := session.outstanding.erase pending }

/-- One callback: it completes an operation that is outstanding, or comes from outside. -/
inductive Step (session : SessionWebSocketSession S) : SessionEvent S → SessionWebSocketSession S → Prop
  | completes (event : SessionEvent S) (pending : OutstandingOperation) (completion : Completion)
      (member : pending ∈ session.outstanding) (ends : event.completes = some (pending.operation, completion))
      (abortable : completion = .aborted → pending.operation.isTimerWait = true → pending.cancelled = true) :
      Step session event ((session.completed pending).perform event)
  | outside (event : SessionEvent S) (spontaneous : event.completes = none) :
      Step session event (session.perform event)

end Events

end SessionWebSocketSession

end BlobRoyale.Server
