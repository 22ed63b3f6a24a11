import Mathlib.Data.Nat.Notation

/-!
# The browser's session

The client's transport for one session at a time. Every callback may re-enter it, so a call runs only as far
as its next callback and leaves what follows on a stack, to go on once the callback returns or throws. The
schemas, and the close codes a WebSocket refuses, are parameters.
-/

namespace BlobRoyale.Frontend

section Messages

structure SessionMovementTuning (Number : Type) where
  accelerationWorldUnitsPerSecondSquared : Number
  normalTopSpeedWorldUnitsPerSecond : Number
  chargeSpeedFraction : Number
  lethalSpawnRatePerSecond : Number
  nonlethalSpawnRatePerSecond : Number
  deriving DecidableEq

structure SetMovementTuningPayload (Number : Type) extends SessionMovementTuning Number where
  tuningRequestId : Nat
  expectedRevision : Nat
  deriving DecidableEq

inductive SessionTuningStatus where
  | applied
  | superseded
  | staleRevision
  | unsupportedTuning
  | notSeated
  | revisionExhausted
  | rateLimited
  | mailboxFull
  | mailboxEvicted
  deriving DecidableEq, Repr

structure SessionTuningResult where
  tuningRequestId : Nat
  status : SessionTuningStatus
  revision : Option Nat
  decisionTick : Option Nat
  deriving DecidableEq

structure SessionMovementState (Number : Type) where
  revision : Nat
  effectiveTick : Nat
  current : SessionMovementTuning Number

structure SessionSnapshot (Number : Type) where
  messageSequence : Nat
  requestId : String
  tickSequence : Nat
  movement : SessionMovementState Number
  tuningResult : Option SessionTuningResult

/-- A welcome, with the terrain and the NPC catalogue it grants. -/
structure SessionWelcome (Authority : Type) where
  messageSequence : Nat
  requestId : String
  authority : Authority
  acceptedCommandKinds : List String

structure SessionSequenceState (Authority : Type) where
  messageSequence : Nat
  requestId : String
  tickSequence : Option Nat
  authority : Authority

inductive SessionCommand (Number : Type) where
  | setMovementTuning (payload : SetMovementTuningPayload Number)
  | other (kind payload : String)

def SessionCommand.kind {Number : Type} : SessionCommand Number → String
  | setMovementTuning _ => "set_movement_tuning"
  | other kind _ => kind

/-- What a page knows of its tuning exchange. A resolved state is a frozen object, compared by identity,
which its number carries. -/
inductive MovementTuningExchangeState (Number : Type) where
  | idle
  | pending (request : SetMovementTuningPayload Number)
  | resolved (object : Nat) (request : SetMovementTuningPayload Number) (result : SessionTuningResult)
  | unknown (request : SetMovementTuningPayload Number)
  deriving DecidableEq

end Messages

section Errors

inductive SimulationApiErrorCode where
  | sessionFrameTooLarge
  | sessionVersionUnsupported
  | sessionKindUnsupported
  | sessionFrameInvalid
  | sessionInvariantViolation
  | socketSubprotocolInvalid
  | socketTransportFailed
  | socketConnectTimedOut
  | other
  deriving DecidableEq, Repr

/-- `sessionCloseIntentFor`. -/
def SimulationApiErrorCode.closeIntent : SimulationApiErrorCode → Nat × String
  | sessionFrameTooLarge => (1009, "session_frame_too_large")
  | sessionVersionUnsupported => (1003, "client_version_unsupported")
  | sessionKindUnsupported => (1003, "client_kind_unsupported")
  | sessionFrameInvalid | sessionInvariantViolation | socketSubprotocolInvalid | socketTransportFailed
  | socketConnectTimedOut | other => (1002, "protocol_error")

def isRetryableCloseCode (closeCode : Nat) : Bool := [1001, 1006, 1011, 1012, 1013].contains closeCode

structure SimulationDisconnection where
  code : Option Nat
  error : Option SimulationApiErrorCode
  opened : Bool
  reason : String
  retryable : Bool
  wasClean : Bool
  deriving DecidableEq, Repr

end Errors

variable {Number Authority Frame : Type}

/-- What a session rests on: the validation of frames and commands, and the close codes its socket refuses
with an exception. -/
structure SessionProtocol (Number Authority Frame : Type) where
  validateSessionWelcomeMessage : Frame → Except SimulationApiErrorCode (SessionWelcome Authority)
  validateSessionSnapshotMessage :
    Frame → SessionSequenceState Authority → Except SimulationApiErrorCode (SessionSnapshot Number)
  validateSessionCommand : SessionCommand Number → Authority → Bool
  refusesClose : Nat → Bool

/-- A browser's `WebSocket.close` throws for every code but 1000 and those from 3000 to 4999. -/
def webSocketRefusesClose (code : Nat) : Bool := code ≠ 1000 && !(3000 ≤ code && code ≤ 4999)

def maxSafeInteger : Nat := 9007199254740991

def validateSessionTuningResult [DecidableEq Number] (snapshot : SessionSnapshot Number)
    (pending : Option (SetMovementTuningPayload Number)) :
    Except SimulationApiErrorCode (Option SessionTuningResult) :=
  match snapshot.tuningResult with
  | none => .ok none
  | some result =>
      match pending with
      | none => .error .sessionInvariantViolation
      | some request =>
          if result.tuningRequestId ≠ request.tuningRequestId then .error .sessionInvariantViolation
          else if result.status = .applied then
            if maxSafeInteger ≤ request.expectedRevision ∨ result.revision ≠ some (request.expectedRevision + 1) then
              .error .sessionInvariantViolation
            else if some snapshot.movement.revision = result.revision ∧
                (some snapshot.movement.effectiveTick ≠ result.decisionTick ∨
                  snapshot.movement.current ≠ request.toSessionMovementTuning) then
              .error .sessionInvariantViolation
            else .ok (some result)
          else .ok (some result)

/-- The socket a session holds, with what its handlers capture. -/
structure SessionSocket where
  identity : Nat
  callbacks : Nat
  opened : Bool
  deriving DecidableEq

structure SimulationApi (Number Authority : Type) where
  movementTuningState : MovementTuningExchangeState Number
  tuningRequestHighWater : Nat
  sessionCallbacks : Option Nat
  acceptedCommandKinds : Option (List String)
  disposed : Bool
  sequenceState : Option (SessionSequenceState Authority)
  socket : Option SessionSocket
  socketConnectTimeout : Option Nat
  /-- The next socket and the next resolved state to be allocated. -/
  nextSocket : Nat
  nextObject : Nat

inductive SessionCallback (Number Authority : Type) where
  | connected
  | disconnected (disconnection : SimulationDisconnection)
  | failure (error : SimulationApiErrorCode)
  | snapshot (snapshot : SessionSnapshot Number)
  | welcome (welcome : SessionWelcome Authority)
  | movementTuningState (state : MovementTuningExchangeState Number)

/-- What a call goes on with once its callback has returned. -/
inductive Continuation (Number : Type) where
  | requested (socket : Nat) (command : SessionCommand Number)
  | snapshotShown (socket : SessionSocket) (resolved : Option (MovementTuningExchangeState Number))
  | frameEnded (socket : SessionSocket)
  | failing (callbacks : Nat) (error : SimulationApiErrorCode)
  | disconnecting (callbacks : Option Nat) (disconnection : SimulationDisconnection)
  | ended

inductive SessionEntry (Number Authority : Type) where
  | opened (socket : Nat)
  | released (socket : Nat)
  | requested (socket id : Nat)
  | resolved (socket id : Nat) (result : SessionTuningResult)
  | unknown (socket id : Nat)
  | fired (callbacks : Nat) (callback : SessionCallback Number Authority)

/-- The session, the calls its callbacks interrupt, and what has happened. -/
structure ClientState (Number Authority : Type) where
  api : SimulationApi Number Authority
  stack : List (Continuation Number)
  log : List (SessionEntry Number Authority)

namespace ClientState

def initial : ClientState Number Authority where
  api := {
    movementTuningState := .idle
    tuningRequestHighWater := 0
    sessionCallbacks := none
    acceptedCommandKinds := none
    disposed := false
    sequenceState := none
    socket := none
    socketConnectTimeout := none
    nextSocket := 0
    nextObject := 0 }
  stack := []
  log := []

variable (protocol : SessionProtocol Number Authority Frame) (state : ClientState Number Authority)

/-- What a step meets at its socket: whether it is still connecting or open, and whether a send throws. -/
structure SocketInput where
  closable : Bool
  sendThrows : Bool

section Releasing

def record (entry : SessionEntry Number Authority) : ClientState Number Authority :=
  { state with log := state.log ++ [entry] }

/-- A callback is called, and its call goes on behind it. -/
def fire (callbacks : Nat) (callback : SessionCallback Number Authority) (following : Continuation Number) :
    ClientState Number Authority :=
  { state with stack := following :: state.stack }.record (.fired callbacks callback)

/-- What follows a release once a page knows its outcome. -/
def conclude : Continuation Number → ClientState Number Authority
  | .failing callbacks error => state.fire callbacks (.failure error) .ended
  | .disconnecting (some callbacks) disconnection => state.fire callbacks (.disconnected disconnection) .ended
  | .disconnecting none _ | .requested .. | .snapshotShown .. | .frameEnded _ | .ended => state

def markPendingTuningUnknown (socket : Nat) (callbacks : Option Nat) (following : Continuation Number) :
    ClientState Number Authority :=
  match state.api.movementTuningState with
  | .pending request =>
      let marked := { state with api := { state.api with movementTuningState := .unknown request } }.record
        (.unknown socket request.tuningRequestId)
      match callbacks with
      | some callbacks => marked.fire callbacks (.movementTuningState (.unknown request)) following
      | none => marked.conclude following
  | .idle | .resolved .. | .unknown _ => state.conclude following

def dropSocket (socket : Nat) : ClientState Number Authority :=
  { state with api := { state.api with
      socketConnectTimeout := none
      socket := none
      acceptedCommandKinds := none
      sequenceState := none
      sessionCallbacks := none } }.record (.released socket)

/-- A close that throws leaves the call at once. -/
def releaseSocket (socket code : Nat) (input : SocketInput) (following : Continuation Number) :
    ClientState Number Authority :=
  if state.api.socket.map SessionSocket.identity = some socket then
    let dropped := state.dropSocket socket
    if input.closable && protocol.refusesClose code then dropped
    else dropped.markPendingTuningUnknown socket state.api.sessionCallbacks following
  else state.conclude following

end Releasing

section Frames

/-- The handler's answer to a frame it cannot take, or to a callback that threw. -/
def failFrame (socket : SessionSocket) (error : SimulationApiErrorCode) (input : SocketInput) :
    ClientState Number Authority :=
  state.releaseSocket protocol socket.identity error.closeIntent.1 input (.failing socket.callbacks error)

def pendingRequest : MovementTuningExchangeState Number → Option (SetMovementTuningPayload Number)
  | .pending request => some request
  | .idle | .resolved .. | .unknown _ => none

def receiveWelcome (socket : SessionSocket) (welcome : SessionWelcome Authority) : ClientState Number Authority :=
  { state with api := { state.api with
      sequenceState := some ⟨welcome.messageSequence, welcome.requestId, none, welcome.authority⟩
      acceptedCommandKinds := some welcome.acceptedCommandKinds } }.fire socket.callbacks (.welcome welcome)
        (.frameEnded socket)

def resolve (socket : Nat) (request : SetMovementTuningPayload Number) (result : SessionTuningResult) :
    ClientState Number Authority :=
  { state with api := { state.api with
      movementTuningState := .resolved state.api.nextObject request result
      nextObject := state.api.nextObject + 1 } }.record (.resolved socket request.tuningRequestId result)

def advanceSequence (sequence : SessionSequenceState Authority) (snapshot : SessionSnapshot Number) :
    ClientState Number Authority :=
  { state with api := { state.api with
      sequenceState := some ⟨snapshot.messageSequence, snapshot.requestId, some snapshot.tickSequence,
        sequence.authority⟩ } }

def receiveSnapshot (socket : SessionSocket) (sequence : SessionSequenceState Authority)
    (snapshot : SessionSnapshot Number) (result : Option SessionTuningResult) : ClientState Number Authority :=
  let advanced := state.advanceSequence sequence snapshot
  match result, pendingRequest state.api.movementTuningState with
  | some result, some request =>
      let resolved := advanced.resolve socket.identity request result
      resolved.fire socket.callbacks (.snapshot snapshot)
        (.snapshotShown socket (some resolved.api.movementTuningState))
  | _, _ => advanced.fire socket.callbacks (.snapshot snapshot) (.snapshotShown socket none)

variable [DecidableEq Number]

def handleSessionFrame (socket : SessionSocket) (frame : Frame) (input : SocketInput) :
    ClientState Number Authority :=
  match state.api.sequenceState with
  | none =>
      match protocol.validateSessionWelcomeMessage frame with
      | .error error => state.failFrame protocol socket error input
      | .ok welcome => state.receiveWelcome socket welcome
  | some sequence =>
      match protocol.validateSessionSnapshotMessage frame sequence with
      | .error error => state.failFrame protocol socket error input
      | .ok snapshot =>
          match validateSessionTuningResult snapshot (pendingRequest state.api.movementTuningState) with
          | .error error => state.failFrame protocol socket error input
          | .ok result => state.receiveSnapshot socket sequence snapshot result

/-- What follows `onSnapshot`: the resolution is published where nothing has overtaken it. -/
def publishResolved (socket : SessionSocket) (resolved : Option (MovementTuningExchangeState Number)) :
    ClientState Number Authority :=
  match resolved with
  | none => state
  | some resolved =>
      if state.api.movementTuningState = resolved ∧ state.api.sessionCallbacks = some socket.callbacks then
        state.fire socket.callbacks (.movementTuningState resolved) (.frameEnded socket)
      else state

end Frames

section Commands

def lostInTransport : SimulationDisconnection :=
  ⟨none, some .socketTransportFailed, true, "transport_failure", true, false⟩

/-- The send itself, behind which a socket may deliver at once. -/
def send (socket : Nat) (command : SessionCommand Number) (input : SocketInput) : ClientState Number Authority :=
  if input.sendThrows then
    match command with
    | .setMovementTuning _ =>
        state.releaseSocket protocol socket 4000 input (.disconnecting state.api.sessionCallbacks lostInTransport)
    | .other .. => state
  else { state with stack := .ended :: state.stack }

def requestTuning (socket : Nat) (payload : SetMovementTuningPayload Number) : ClientState Number Authority :=
  { state with api := { state.api with
      tuningRequestHighWater := payload.tuningRequestId
      movementTuningState := .pending payload } }.record (.requested socket payload.tuningRequestId)

def sendTuning (socket : Nat) (payload : SetMovementTuningPayload Number) (input : SocketInput) :
    ClientState Number Authority :=
  if (pendingRequest state.api.movementTuningState).isSome ||
      decide (payload.tuningRequestId ≤ state.api.tuningRequestHighWater) then state
  else
    let requested := state.requestTuning socket payload
    match state.api.sessionCallbacks with
    | some callbacks => requested.fire callbacks (.movementTuningState (.pending payload))
        (.requested socket (.setMovementTuning payload))
    | none => requested.send protocol socket (.setMovementTuning payload) input

def sendCommand (command : SessionCommand Number) (socketOpen : Bool) (input : SocketInput) :
    ClientState Number Authority :=
  match state.api.socket, state.api.sequenceState, state.api.acceptedCommandKinds with
  | some socket, some sequence, some kinds =>
      if state.api.disposed || !socketOpen || !kinds.contains command.kind ||
          !protocol.validateSessionCommand command sequence.authority then state
      else
        match command with
        | .setMovementTuning payload => state.sendTuning protocol socket.identity payload input
        | .other .. => state.send protocol socket.identity command input
  | _, _, _ => state

end Commands

section Operations

inductive SocketEvent (Frame : Type) where
  | open (subprotocolMatches : Bool)
  | message (frame : Frame)
  | error
  | close (code : Nat) (reason : String) (wasClean : Bool)
  | connectTimeout

/-- What a page, or its socket, asks of the session. Opening is admissible with the loaded configuration, a
lobby the grammar admits and a socket that can be built. -/
inductive Operation (Number Frame : Type) where
  | openSession (callbacks : Nat) (admissible : Bool)
  | sendCommand (command : SessionCommand Number) (socketOpen : Bool)
  | dispose
  | event (socket : Nat) (event : SocketEvent Frame)

def openSession (callbacks : Nat) (admissible : Bool) : ClientState Number Authority :=
  if state.api.disposed || state.api.socket.isSome || !admissible then state
  else
    { state with api := { state.api with
        socket := some ⟨state.api.nextSocket, callbacks, false⟩
        sessionCallbacks := some callbacks
        movementTuningState := .idle
        tuningRequestHighWater := 0
        sequenceState := none
        acceptedCommandKinds := none
        socketConnectTimeout := some state.api.nextSocket
        nextSocket := state.api.nextSocket + 1 } }.record (.opened state.api.nextSocket)

def dispose (input : SocketInput) : ClientState Number Authority :=
  if state.api.disposed then state
  else
    let disposed := { state with api := { state.api with disposed := true } }
    match state.api.socket with
    | none => disposed
    | some socket => disposed.releaseSocket protocol socket.identity 1000 input .ended

def onOpen (socket : SessionSocket) (subprotocolMatches : Bool) (input : SocketInput) :
    ClientState Number Authority :=
  if subprotocolMatches then
    { state with api := { state.api with
        socketConnectTimeout := none
        socket := some { socket with opened := true } } }.fire socket.callbacks .connected .ended
  else
    state.releaseSocket protocol socket.identity 1002 input (.failing socket.callbacks .socketSubprotocolInvalid)

def onError (socket : SessionSocket) (input : SocketInput) : ClientState Number Authority :=
  state.releaseSocket protocol socket.identity 4000 input (.disconnecting (some socket.callbacks)
    ⟨none, some .socketTransportFailed, socket.opened, "transport_failure", true, false⟩)

def onClose (socket : SessionSocket) (code : Nat) (reason : String) (wasClean : Bool) :
    ClientState Number Authority :=
  (state.dropSocket socket.identity).markPendingTuningUnknown socket.identity (some socket.callbacks)
    (.disconnecting (some socket.callbacks)
      ⟨some code, none, socket.opened, reason, isRetryableCloseCode code, wasClean⟩)

def onConnectTimeout (socket : SessionSocket) (input : SocketInput) : ClientState Number Authority :=
  if state.api.socketConnectTimeout = some socket.identity then
    state.releaseSocket protocol socket.identity 4000 input (.disconnecting (some socket.callbacks)
      ⟨none, some .socketConnectTimedOut, false, "connect_timeout", true, false⟩)
  else state

variable [DecidableEq Number]

/-- A handler runs only for the socket its session holds. -/
def receive (identity : Nat) (event : SocketEvent Frame) (input : SocketInput) : ClientState Number Authority :=
  match state.api.socket with
  | none => state
  | some socket =>
      if socket.identity ≠ identity then state
      else
        match event with
        | .open subprotocolMatches => state.onOpen protocol socket subprotocolMatches input
        | .message frame => state.handleSessionFrame protocol socket frame input
        | .error => state.onError protocol socket input
        | .close code reason wasClean => state.onClose socket code reason wasClean
        | .connectTimeout => state.onConnectTimeout protocol socket input

def invoke (operation : Operation Number Frame) (input : SocketInput) : ClientState Number Authority :=
  match operation with
  | .openSession callbacks admissible => state.openSession callbacks admissible
  | .sendCommand command socketOpen => state.sendCommand protocol command socketOpen input
  | .dispose => state.dispose protocol input
  | .event socket event => state.receive protocol socket event input

/-- The rest of a call whose callback has returned. -/
def resume (continuation : Continuation Number) (input : SocketInput) : ClientState Number Authority :=
  match continuation with
  | .requested socket command =>
      if state.api.socket.map SessionSocket.identity = some socket then state.send protocol socket command input
      else state
  | .snapshotShown socket resolved => state.publishResolved socket resolved
  | .frameEnded _ | .ended => state
  | .failing .. | .disconnecting .. => state.conclude continuation

/-- The rest of a call whose callback has thrown: only a frame's handler catches. -/
def rethrow (continuation : Continuation Number) (error : SimulationApiErrorCode) (input : SocketInput) :
    ClientState Number Authority :=
  match continuation with
  | .snapshotShown socket _ | .frameEnded socket => state.failFrame protocol socket error input
  | .requested .. | .failing .. | .disconnecting .. | .ended => state

inductive ClientAction (Number Frame : Type) where
  | invoke (operation : Operation Number Frame) (input : SocketInput)
  | returns (input : SocketInput)
  | throws (error : SimulationApiErrorCode) (input : SocketInput)

/-- One step: a call from outside or from inside the innermost callback, or the end of that callback. -/
def perform (action : ClientAction Number Frame) : ClientState Number Authority :=
  match action with
  | .invoke operation input => state.invoke protocol operation input
  | .returns input =>
      match state.stack with
      | [] => state
      | continuation :: stack => resume protocol { state with stack := stack } continuation input
  | .throws error input =>
      match state.stack with
      | [] => state
      | continuation :: stack => rethrow protocol { state with stack := stack } continuation error input

def Step (before : ClientState Number Authority) (action : ClientAction Number Frame)
    (after : ClientState Number Authority) : Prop := after = before.perform protocol action

end Operations

end ClientState

end BlobRoyale.Frontend
