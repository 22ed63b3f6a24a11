import Mathlib.Data.String.Basic
import BlobRoyale.Library.SortedStore
import BlobRoyale.Server.SnapshotEgressBudget
import BlobRoyale.Simulation.Scalar

/-!
# The peer traffic policy

The event loop's ledger of connections and request tokens per peer. A request creates its peer,
evicting the oldest peer without connections from a full table; a lease releases through the stored
principal. Address parsing is a parameter, as is rounding a double up.
-/

namespace BlobRoyale.Server

open BlobRoyale.Simulation

def concurrentTcpConnectionMaximumCount : Nat := 128
def concurrentWebSocketPerPeerMaximumCount : Nat := 8
def trackedPeerMaximumCount : Nat := 128
def maximumRetryAfterMilliseconds : Nat := 60000

/-- `kPeerRateStateIdleRetention`, ten minutes. -/
def peerRateStateIdleRetention : Int := 600000000000

inductive AdmissionDenial where
  | none
  | rateLimit
  | connectionLimit
  deriving DecidableEq, Repr

structure AdmissionResult where
  allowed : Bool
  denial : AdmissionDenial
  retryAfterMs : Nat
  connectionLimit : Nat
  deriving DecidableEq, Repr

def AdmissionResult.accepted : AdmissionResult := ⟨true, .none, 0, 0⟩

def AdmissionResult.connectionLimited (limit : Nat) : AdmissionResult :=
  ⟨false, .connectionLimit, 1000, limit⟩

/-- What the platform answers: whether an address parses to a loopback one, and `std::ceil`. -/
structure PeerPlatform (S : Type) where
  isLoopbackAddress : String → Bool
  ceil : S → Nat

def loopbackAccountingPrincipal : String := "@loopback"

variable {S : Type}

def PeerPlatform.accountingPrincipal (platform : PeerPlatform S) (peerAddress : String) : String :=
  if platform.isLoopbackAddress peerAddress then loopbackAccountingPrincipal else peerAddress

def retryAfterMilliseconds [Scalar S] (platform : PeerPlatform S) (missingTokens refillPerSecond : S) : Nat :=
  max 1 (min maximumRetryAfterMilliseconds
    (platform.ceil (missingTokens / refillPerSecond * ((1000 : Nat) : S))))

structure TokenBucket (S : Type) where
  availableTokens : S
  capacity : S
  refillPerSecond : S
  lastRefill : Int

def TokenBucket.consume [Scalar S] (platform : PeerPlatform S) (bucket : TokenBucket S) (now : Int) :
    AdmissionResult × TokenBucket S :=
  let refilled :=
    if bucket.lastRefill < now then
      let elapsedSeconds : S := ((now - bucket.lastRefill).toNat : S) / ((nanosecondsPerSecond : Nat) : S)
      { bucket with
        availableTokens := min bucket.capacity
          (bucket.availableTokens + elapsedSeconds * bucket.refillPerSecond)
        lastRefill := now }
    else bucket
  if 1 ≤ refilled.availableTokens then
    (.accepted, { refilled with availableTokens := refilled.availableTokens - 1 })
  else
    (⟨false, .rateLimit,
      retryAfterMilliseconds platform (1 - refilled.availableTokens) refilled.refillPerSecond, 0⟩, refilled)

inductive LeaseKind where
  | tcp
  | websocket
  deriving DecidableEq, Repr

structure PeerState (S : Type) where
  httpRequests : TokenBucket S
  websocketUpgrades : TokenBucket S
  activeTcpConnections : Nat
  activeWebsockets : Nat
  lastActivity : Int

namespace PeerState

def create [Scalar S] (now : Int) : PeerState S where
  httpRequests := ⟨((20 : Nat) : S), ((20 : Nat) : S), ((2 : Nat) : S), now⟩
  websocketUpgrades := ⟨((4 : Nat) : S), ((4 : Nat) : S), ((2 : Nat) : S) / ((10 : Nat) : S), now⟩
  activeTcpConnections := 0
  activeWebsockets := 0
  lastActivity := now

def active (state : PeerState S) : LeaseKind → Nat
  | .tcp => state.activeTcpConnections
  | .websocket => state.activeWebsockets

def setActive (state : PeerState S) (kind : LeaseKind) (count : Nat) : PeerState S :=
  match kind with
  | .tcp => { state with activeTcpConnections := count }
  | .websocket => { state with activeWebsockets := count }

def inactive (state : PeerState S) : Bool :=
  state.activeTcpConnections = 0 && state.activeWebsockets = 0

end PeerState

structure PeerTrafficPolicy (S : Type) where
  peers : SortedStore String (PeerState S)
  activeTcpConnectionCount : Nat
  activeWebsocketCount : Nat

namespace PeerTrafficPolicy

def create : PeerTrafficPolicy S := ⟨.empty, 0, 0⟩

def activeCount (policy : PeerTrafficPolicy S) : LeaseKind → Nat
  | .tcp => policy.activeTcpConnectionCount
  | .websocket => policy.activeWebsocketCount

def setActiveCount (policy : PeerTrafficPolicy S) (kind : LeaseKind) (count : Nat) : PeerTrafficPolicy S :=
  match kind with
  | .tcp => { policy with activeTcpConnectionCount := count }
  | .websocket => { policy with activeWebsocketCount := count }

section Table

/-- One pass of the loop of `oldest_inactive_peer`. -/
def olderInactive (candidate : Option (String × PeerState S)) (entry : String × PeerState S) :
    Option (String × PeerState S) :=
  if !entry.2.inactive then candidate
  else
    match candidate with
    | none => some entry
    | some oldest =>
        if entry.2.lastActivity < oldest.2.lastActivity ∨
            entry.2.lastActivity = oldest.2.lastActivity ∧ entry.1 < oldest.1 then some entry
        else some oldest

def oldestInactivePeer (peers : SortedStore String (PeerState S)) : Option String :=
  (peers.entries.foldl olderInactive none).map Prod.fst

/-- The table with the principal's entry in it, found or created; none when no peer can go. -/
def findOrAdmitPeer [Scalar S] (peers : SortedStore String (PeerState S)) (principal : String) (now : Int) :
    Option (PeerState S × SortedStore String (PeerState S)) :=
  match peers.find principal with
  | some existing =>
      let touched := { existing with lastActivity := now }
      some (touched, peers.insertOrAssign principal touched)
  | none =>
      let fresh : PeerState S := .create now
      if trackedPeerMaximumCount ≤ peers.entries.length then
        match oldestInactivePeer peers with
        | none => none
        | some eviction => some (fresh, (peers.erase eviction).insertOrAssign principal fresh)
      else some (fresh, peers.insertOrAssign principal fresh)

def pruneIdle (policy : PeerTrafficPolicy S) (now : Int) : PeerTrafficPolicy S :=
  { policy with peers := policy.peers.filter fun _ state =>
      !(state.inactive && decide (state.lastActivity ≤ now) &&
        decide (peerRateStateIdleRetention ≤ now - state.lastActivity)) }

end Table

def take (policy : PeerTrafficPolicy S) (kind : LeaseKind) (principal : String) (state : PeerState S) :
    PeerTrafficPolicy S :=
  { policy with
    peers := policy.peers.insertOrAssign principal (state.setActive kind (state.active kind + 1)) }
    |>.setActiveCount kind (policy.activeCount kind + 1)

variable (platform : PeerPlatform S)

/-- The reservation's admission, with the principal its lease stores. -/
def reserveTcpConnection [Scalar S] (policy : PeerTrafficPolicy S) (peerAddress : String) (now : Int) :
    (AdmissionResult × Option String) × PeerTrafficPolicy S :=
  let pruned := policy.pruneIdle now
  if concurrentTcpConnectionMaximumCount ≤ pruned.activeTcpConnectionCount then
    ((.connectionLimited concurrentTcpConnectionMaximumCount, none), pruned)
  else
    let principal := platform.accountingPrincipal peerAddress
    match findOrAdmitPeer pruned.peers principal now with
    | none => ((.connectionLimited trackedPeerMaximumCount, none), pruned)
    | some (state, peers) =>
        ((.accepted, some principal), { pruned with peers := peers }.take .tcp principal state)

def reserveWebsocket [Scalar S] (policy : PeerTrafficPolicy S) (peerAddress : String) (now : Int) :
    (AdmissionResult × Option String) × PeerTrafficPolicy S :=
  let pruned := policy.pruneIdle now
  let principal := platform.accountingPrincipal peerAddress
  match findOrAdmitPeer pruned.peers principal now with
  | none => ((.connectionLimited trackedPeerMaximumCount, none), pruned)
  | some (state, peers) =>
      let tracked := { pruned with peers := peers }
      if concurrentWebSocketMaximumCount ≤ tracked.activeWebsocketCount then
        ((.connectionLimited concurrentWebSocketMaximumCount, none), tracked)
      else if concurrentWebSocketPerPeerMaximumCount ≤ state.activeWebsockets then
        ((.connectionLimited concurrentWebSocketPerPeerMaximumCount, none), tracked)
      else ((.accepted, some principal), tracked.take .websocket principal state)

/-- The body `close_tcp_connection` and `close_websocket` share. -/
def close (kind : LeaseKind) (policy : PeerTrafficPolicy S) (peerAddress : String) (now : Int) :
    PeerTrafficPolicy S :=
  let principal := platform.accountingPrincipal peerAddress
  match policy.peers.find principal with
  | none => policy
  | some existing =>
      let state := { existing with lastActivity := now }
      if 0 < state.active kind then
        { policy with
          peers := policy.peers.insertOrAssign principal (state.setActive kind (state.active kind - 1)) }
          |>.setActiveCount kind (policy.activeCount kind - 1)
      else { policy with peers := policy.peers.insertOrAssign principal state }

def closeTcpConnection : PeerTrafficPolicy S → String → Int → PeerTrafficPolicy S := close platform .tcp

def closeWebsocket : PeerTrafficPolicy S → String → Int → PeerTrafficPolicy S := close platform .websocket

def consumeHttpRequest [Scalar S] (policy : PeerTrafficPolicy S) (peerAddress : String) (now : Int) :
    AdmissionResult × PeerTrafficPolicy S :=
  let pruned := policy.pruneIdle now
  let principal := platform.accountingPrincipal peerAddress
  match findOrAdmitPeer pruned.peers principal now with
  | none => (.connectionLimited trackedPeerMaximumCount, pruned)
  | some (state, peers) =>
      let (result, bucket) := state.httpRequests.consume platform now
      (result, { pruned with peers := peers.insertOrAssign principal { state with httpRequests := bucket } })

def consumeWebsocketUpgrade [Scalar S] (policy : PeerTrafficPolicy S) (peerAddress : String) (now : Int) :
    AdmissionResult × PeerTrafficPolicy S :=
  let pruned := policy.pruneIdle now
  let principal := platform.accountingPrincipal peerAddress
  match findOrAdmitPeer pruned.peers principal now with
  | none => (.connectionLimited trackedPeerMaximumCount, pruned)
  | some (state, peers) =>
      let (result, bucket) := state.websocketUpgrades.consume platform now
      (result, { pruned with
        peers := peers.insertOrAssign principal { state with websocketUpgrades := bucket } })

end PeerTrafficPolicy

end BlobRoyale.Server
