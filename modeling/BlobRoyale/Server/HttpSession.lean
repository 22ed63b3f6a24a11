import BlobRoyale.Server.SessionWebSocketSession

/-!
# One HTTP connection

An HTTP/1.1 connection until it closes or becomes a WebSocket: its callbacks on one strand, the operations
it has outstanding, and the calls it makes. What the socket, the parser and the router answer is part of the
callback's input.
-/

namespace BlobRoyale.Server

def pipelinedResponseMaximumCount : Nat := 8
def requestsPerConnectionMaximumCount : Nat := 100

inductive HttpHeaderPreflightStatus where
  | needsMoreData
  | ready
  | obsoleteLineFolding
  | headerTooLarge
  deriving DecidableEq, Repr

inductive GameApiUpgradeRoute where
  | snapshotsV1
  | sessionV3
  deriving DecidableEq, Repr

structure GameApiHttpResponse (Content : Type) where
  content : Content
  keepAlive : Bool

abbrev WebSocketAdmissionLease := Nat

/-- What the router grants an upgrade, beside its lease. -/
structure GameApiUpgrade where
  requestId : String
  upgradeRoute : GameApiUpgradeRoute
  peerIdentity : String
  lobbyId : Nat
  deriving DecidableEq, Repr

inductive GameApiRouteResult (Content : Type) where
  | httpResponse (response : GameApiHttpResponse Content)
  | websocketUpgrade (upgrade : GameApiUpgrade) (lease : WebSocketAdmissionLease)
  | closeWithoutResponse

/-- What a connection may have outstanding: its first read behind a dispatch, the reads of a request, and
the write of a response. -/
inductive HttpOperation (Content : Type) where
  | start
  | rawRead
  | headerRead
  | write (response : GameApiHttpResponse Content)

/-- What a connection does to what it does not own. -/
inductive HttpCall (Request Content : Type) where
  | beginRequest
  | readSome
  | readHeader
  | route (request : Request)
  | enqueue (response : GameApiHttpResponse Content)
  | writeResponse (response : GameApiHttpResponse Content)
  | completeResponse (response : GameApiHttpResponse Content)
  | takeLease (lease : WebSocketAdmissionLease)
  | beginUpgrade (request : Request) (upgrade : GameApiUpgrade)
  | handLease (lease : WebSocketAdmissionLease)
  | releaseLease (lease : WebSocketAdmissionLease)
  | closeSocket
  | releaseTcpLease
  | unregister
  | fail
  | overflow
  | undefined

structure HttpSession (Request Content : Type) where
  registered : Bool
  tcpLease : Bool
  parser : Bool
  responseQueue : List (GameApiHttpResponse Content)
  pendingUpgrade : Option (Request × GameApiUpgrade)
  pendingWebsocketLease : Option WebSocketAdmissionLease
  parsedRequestCount : Nat
  readActive : Bool
  writeActive : Bool
  finished : Bool
  /-- `stopping` of the server. -/
  stopping : Bool
  /-- Whether the event loop still dispatches handlers. -/
  dispatching : Bool
  outstanding : List (HttpOperation Content)
  transcript : List (HttpCall Request Content)

namespace HttpSession

variable {Request Content : Type}

/-- A connection that `run` has registered. -/
def admitted (stopping : Bool) : HttpSession Request Content where
  registered := true
  tcpLease := true
  parser := false
  responseQueue := []
  pendingUpgrade := none
  pendingWebsocketLease := none
  parsedRequestCount := 0
  readActive := false
  writeActive := false
  finished := false
  stopping := stopping
  dispatching := true
  outstanding := [.start]
  transcript := []

variable (session : HttpSession Request Content)

section Closing

def call (made : HttpCall Request Content) : HttpSession Request Content :=
  { session with transcript := session.transcript ++ [made] }

def start (operation : HttpOperation Content) : HttpSession Request Content :=
  { session with outstanding := session.outstanding ++ [operation] }

def releasePendingLease : HttpSession Request Content :=
  match session.pendingWebsocketLease with
  | none => session
  | some lease => { session with pendingWebsocketLease := none }.call (.releaseLease lease)

def releaseTcpLease : HttpSession Request Content :=
  if session.tcpLease then { session with tcpLease := false }.call .releaseTcpLease else session

def unregister : HttpSession Request Content :=
  if session.registered then { session with registered := false }.call .unregister else session

def finish : HttpSession Request Content :=
  if session.finished then session
  else (releasePendingLease { session with finished := true }).call .closeSocket |>.releaseTcpLease.unregister

def requestStop : SessionStopMode → HttpSession Request Content
  | .immediate => session.finish
  | .graceful => if session.finished then session else session.call .closeSocket

/-- The end of the last handler that owned the connection. -/
def destroy : HttpSession Request Content := session.releasePendingLease.releaseTcpLease

end Closing

section Reading

/-- What the buffered bytes show, and the room they leave. -/
structure HeaderInspection where
  status : HttpHeaderPreflightStatus
  remainingCapacity : Nat

def parsePreflightedHeader : HttpSession Request Content := (session.call .readHeader).start .headerRead

def preflightHeader (inspection : HeaderInspection) : HttpSession Request Content :=
  match inspection.status with
  | .ready => session.parsePreflightedHeader
  | .obsoleteLineFolding | .headerTooLarge => finish { session with readActive := false }
  | .needsMoreData =>
      if inspection.remainingCapacity = 0 then finish { session with readActive := false }
      else (session.call .readSome).start .rawRead

def readNextRequest (inspection : HeaderInspection) : HttpSession Request Content :=
  if session.finished || session.readActive || session.pendingUpgrade.isSome || session.stopping ||
      decide (pipelinedResponseMaximumCount ≤ session.responseQueue.length) then session
  else preflightHeader ({ session with parser := true, readActive := true }.call .beginRequest) inspection

def rawHeaderBytesRead (completion : Completion) (inspection : HeaderInspection) : HttpSession Request Content :=
  if completion = .succeeded then session.preflightHeader inspection
  else finish { session with readActive := false }

end Reading

section Writing

def writeNextResponse : HttpSession Request Content :=
  if session.finished || session.writeActive then session
  else
    match session.responseQueue with
    | [] => session
    | response :: _ => ({ session with writeActive := true }.call (.writeResponse response)).start (.write response)

/-- A response behind the queue, or the session that threw. -/
def enqueueResponse (response : GameApiHttpResponse Content) :
    Except (HttpSession Request Content) (HttpSession Request Content) :=
  if pipelinedResponseMaximumCount ≤ session.responseQueue.length then .error (session.call .overflow)
  else
    let queued := { session with responseQueue := session.responseQueue ++ [response] }.call (.enqueue response)
    .ok (if queued.writeActive then queued else queued.writeNextResponse)

end Writing

section Upgrading

/-- How the construction of a WebSocket session and its start go. -/
inductive UpgradeOutcome where
  | constructionThrew
  | runThrew
  | ran
  deriving DecidableEq

def beginWebsocketUpgrade (request : Request) (upgrade : GameApiUpgrade) (lease : WebSocketAdmissionLease)
    (outcome : UpgradeOutcome) : HttpSession Request Content :=
  let begun := session.call (.beginUpgrade request upgrade)
  match outcome with
  | .constructionThrew => ((begun.call (.releaseLease lease)).call .fail).finish
  | .runThrew => ((handOver begun lease).call .fail).finish
  | .ran => handOver begun lease
where
  handOver (begun : HttpSession Request Content) (lease : WebSocketAdmissionLease) : HttpSession Request Content :=
    { ({ begun with tcpLease := false }.call (.handLease lease)).unregister with finished := true }

end Upgrading

section Routing

/-- What a callback that may route a request, read the next one or upgrade meets. No result stands for a
router that threw. -/
structure HttpInput (Request Content : Type) where
  request : Request
  carriesForbiddenBody : Bool
  result : Option (GameApiRouteResult Content)
  inspection : HeaderInspection
  upgrading : UpgradeOutcome

/-- The response as it is sent: it closes the connection behind a body, or behind the last request allowed. -/
def limitResponse (input : HttpInput Request Content) (response : GameApiHttpResponse Content) :
    GameApiHttpResponse Content :=
  if input.carriesForbiddenBody || decide (requestsPerConnectionMaximumCount ≤ session.parsedRequestCount) then
    { response with keepAlive := false }
  else response

def respond (input : HttpInput Request Content) (response : GameApiHttpResponse Content) :
    Except (HttpSession Request Content) (HttpSession Request Content) :=
  match session.enqueueResponse response with
  | .error thrown => .error thrown
  | .ok queued => .ok (if response.keepAlive then queued.readNextRequest input.inspection else queued)

def upgradeOrWait (input : HttpInput Request Content) (upgrade : GameApiUpgrade)
    (lease : WebSocketAdmissionLease) : HttpSession Request Content :=
  let admitted := session.call (.takeLease lease)
  if admitted.responseQueue.isEmpty && !admitted.writeActive then
    admitted.beginWebsocketUpgrade input.request upgrade lease input.upgrading
  else
    { admitted.releasePendingLease with
      pendingUpgrade := some (input.request, upgrade)
      pendingWebsocketLease := some lease }

/-- The parsed request, released from its parser and routed. -/
def releaseRequest (request : Request) : HttpSession Request Content :=
  { session with
    parsedRequestCount := session.parsedRequestCount + 1
    parser := false }.call (.route request)

def routeRequest (input : HttpInput Request Content) :
    Except (HttpSession Request Content) (HttpSession Request Content) :=
  if session.parser then
    let parsed := session.releaseRequest input.request
    match input.result with
    | none => .error parsed
    | some .closeWithoutResponse => .ok parsed.finish
    | some (.websocketUpgrade upgrade lease) => .ok (parsed.upgradeOrWait input upgrade lease)
    | some (.httpResponse response) => parsed.respond input (parsed.limitResponse input response)
  else .ok (session.call .undefined)

/-- `route_request` behind its guard. -/
def routeGuarded (input : HttpInput Request Content) : HttpSession Request Content :=
  match session.routeRequest input with
  | .ok routed => routed
  | .error thrown => (thrown.call .fail).finish

def headerRead (completion : Completion) (input : HttpInput Request Content) : HttpSession Request Content :=
  let landed := { session with readActive := false }
  if completion = .succeeded then landed.routeGuarded input else landed.finish

/-- What follows the last queued response: a pending upgrade, or the next request. -/
def drained (input : HttpInput Request Content) : HttpSession Request Content :=
  match session.pendingUpgrade with
  | none => session.readNextRequest input.inspection
  | some (request, upgrade) =>
      match session.pendingWebsocketLease with
      | none => session.call .undefined
      | some lease =>
          beginWebsocketUpgrade { session with pendingUpgrade := none, pendingWebsocketLease := none } request
            upgrade lease input.upgrading

/-- A write that succeeded: its response leaves the queue. -/
def responseSent (response : GameApiHttpResponse Content) (input : HttpInput Request Content) :
    HttpSession Request Content :=
  match session.responseQueue with
  | [] => session.call .undefined
  | _ :: rest =>
      let written := { session with responseQueue := rest }.call (.completeResponse response)
      if !response.keepAlive then written.finish
      else if rest.isEmpty then written.drained input
      else written.writeNextResponse

def responseWritten (response : GameApiHttpResponse Content) (completion : Completion)
    (input : HttpInput Request Content) : HttpSession Request Content :=
  let landed := { session with writeActive := false }
  if completion = .succeeded then landed.responseSent response input else landed.finish

end Routing

section Events

inductive HttpEvent (Request Content : Type) where
  | start (inspection : HeaderInspection)
  | rawHeaderBytesRead (completion : Completion) (inspection : HeaderInspection)
  | headerRead (completion : Completion) (input : HttpInput Request Content)
  | responseWritten (response : GameApiHttpResponse Content) (completion : Completion)
      (input : HttpInput Request Content)

def HttpEvent.completes : HttpEvent Request Content → HttpOperation Content
  | start _ => .start
  | rawHeaderBytesRead .. => .rawRead
  | headerRead .. => .headerRead
  | responseWritten response .. => .write response

def perform : HttpEvent Request Content → HttpSession Request Content
  | .start inspection => session.readNextRequest inspection
  | .rawHeaderBytesRead completion inspection => session.rawHeaderBytesRead completion inspection
  | .headerRead completion input => session.headerRead completion input
  | .responseWritten response completion input => session.responseWritten response completion input

/-- The server's stop of every session: graceful once, or at once before its event loop ends. -/
def stop : SessionStopMode → HttpSession Request Content
  | .graceful => if session.stopping then session else requestStop { session with stopping := true } .graceful
  | .immediate => requestStop { session with stopping := true, dispatching := false } .immediate

/-- A connection nothing outstanding owns is destroyed. -/
def settle : HttpSession Request Content := if session.outstanding.isEmpty then session.destroy else session

inductive HttpAction (Request Content : Type) where
  | callback (event : HttpEvent Request Content)
  | stop (mode : SessionStopMode)

/-- One callback that completes an outstanding operation, or a stop of the server. -/
inductive Step (session : HttpSession Request Content) : HttpAction Request Content →
    HttpSession Request Content → Prop
  | completes (before after : List (HttpOperation Content)) (event : HttpEvent Request Content)
      (dispatching : session.dispatching = true)
      (pending : session.outstanding = before ++ event.completes :: after) :
      Step session (.callback event)
        ({ session with outstanding := before ++ after : HttpSession Request Content }.perform event).settle
  | stops (mode : SessionStopMode) (dispatching : session.dispatching = true) (alive : session.outstanding ≠ []) :
      Step session (.stop mode) (session.stop mode).settle

end Events

end HttpSession

end BlobRoyale.Server
