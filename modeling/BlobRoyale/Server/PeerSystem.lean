import BlobRoyale.Server.PeerTrafficPolicy

/-!
# The peer table

Pruning, evicting and creating peers never touch a connection count: the table is read through
`countOf`, which is zero for an untracked principal.
-/

namespace BlobRoyale.Server.PeerTrafficPolicy

open BlobRoyale.Simulation

variable {S : Type} {peers next : SortedStore String (PeerState S)} {principal : String}

theorem inactive_iff {state : PeerState S} :
    state.inactive = true ↔ ∀ kind, state.active kind = 0 := by
  constructor
  · intro idle kind
    simp only [PeerState.inactive, Bool.and_eq_true, decide_eq_true_eq] at idle
    cases kind with
    | tcp => exact idle.1
    | websocket => exact idle.2
  · intro zero
    simp only [PeerState.inactive, Bool.and_eq_true, decide_eq_true_eq]
    exact ⟨zero .tcp, zero .websocket⟩

/-- The connections of a kind the table counts for a principal. -/
def countOf (peers : SortedStore String (PeerState S)) (kind : LeaseKind) (principal : String) : Nat :=
  ((peers.find principal).map fun state => state.active kind).getD 0

theorem countOf_find {state : PeerState S} (found : peers.find principal = some state) (kind : LeaseKind) :
    countOf peers kind principal = state.active kind := by
  rw [countOf, found]
  rfl

theorem countOf_insertOrAssign (peers : SortedStore String (PeerState S)) (principal other : String)
    (state : PeerState S) (kind : LeaseKind) :
    countOf (peers.insertOrAssign principal state) kind other =
      if other = principal then state.active kind else countOf peers kind other := by
  unfold countOf
  rw [SortedStore.find_insertOrAssign]
  split
  · rfl
  · rfl

/-- A table that counts the same connections and is no longer than the cap. -/
structure SameCounts (peers next : SortedStore String (PeerState S)) : Prop where
  counts : ∀ kind principal, countOf next kind principal = countOf peers kind principal
  tracked : peers.entries.length ≤ trackedPeerMaximumCount → next.entries.length ≤ trackedPeerMaximumCount

theorem sameCounts_filter (test : String → PeerState S → Bool)
    (idle : ∀ principal state, test principal state = false → state.inactive = true) :
    SameCounts peers (peers.filter test) := by
  constructor
  · intro kind principal
    unfold countOf
    rw [SortedStore.find_filter]
    cases found : peers.find principal with
    | none => rfl
    | some state =>
      cases kept : test principal state with
      | true => simp [Option.filter, kept]
      | false => simp [Option.filter, kept, inactive_iff.mp (idle principal state kept) kind]
  · exact le_trans (SortedStore.length_filter_le test peers)

theorem pruneIdle_sameCounts (policy : PeerTrafficPolicy S) (now : Int) :
    SameCounts policy.peers (policy.pruneIdle now).peers := by
  simp only [pruneIdle]
  refine sameCounts_filter _ fun _ state removed => ?_
  simp only [Bool.not_eq_false', Bool.and_eq_true] at removed
  exact removed.1.1

theorem olderInactive_fold {entries : List (String × PeerState S)}
    {candidate : Option (String × PeerState S)} {oldest : String × PeerState S}
    (folded : entries.foldl olderInactive candidate = some oldest) :
    candidate = some oldest ∨ oldest ∈ entries ∧ oldest.2.inactive = true := by
  induction entries generalizing candidate with
  | nil => exact .inl folded
  | cons entry rest ih =>
    obtain earlier | ⟨member, idle⟩ := ih folded
    · unfold olderInactive at earlier
      split at earlier
      · exact .inl earlier
      · next idle =>
        simp only [Bool.not_eq_true, Bool.not_eq_false'] at idle
        have taken : some entry = some oldest → oldest ∈ entry :: rest ∧ oldest.2.inactive = true := by
          rintro ⟨⟩
          exact ⟨List.mem_cons_self, idle⟩
        split at earlier
        · exact .inr (taken earlier)
        · split at earlier
          · exact .inr (taken earlier)
          · exact .inl earlier
    · exact .inr ⟨List.mem_cons_of_mem _ member, idle⟩

theorem oldestInactivePeer_idle {eviction : String} (oldest : oldestInactivePeer peers = some eviction) :
    eviction ∈ peers.keys ∧ ∀ kind, countOf peers kind eviction = 0 := by
  obtain ⟨entry, folded, rfl⟩ := Option.map_eq_some_iff.mp oldest
  obtain impossible | ⟨member, idle⟩ := olderInactive_fold folded
  · cases impossible
  · refine ⟨List.mem_map_of_mem member, fun kind => ?_⟩
    rw [countOf_find (SortedStore.find_eq_some_iff.mpr member)]
    exact inactive_iff.mp idle kind

variable [Scalar S]

theorem findOrAdmitPeer_sameCounts {state : PeerState S} {now : Int}
    (found : findOrAdmitPeer peers principal now = some (state, next)) :
    SameCounts peers next ∧ next.find principal = some state := by
  unfold findOrAdmitPeer at found
  split at found
  · next existing stored =>
    cases found
    refine ⟨⟨fun kind other => ?_, fun bounded => ?_⟩, ?_⟩
    · rw [countOf_insertOrAssign]
      split
      · next same =>
        rw [same, countOf_find stored]
        cases kind with
        | tcp => rfl
        | websocket => rfl
      · rfl
    · have present : principal ∈ peers.keys := SortedStore.mem_keys_iff.mpr (by rw [stored]; rfl)
      rw [SortedStore.length_insertOrAssign, if_pos present]
      exact bounded
    · rw [SortedStore.find_insertOrAssign, if_pos rfl]
  · next absent =>
    have fresh : ∀ kind, (PeerState.create now : PeerState S).active kind = 0 := by
      intro kind
      cases kind with
      | tcp => rfl
      | websocket => rfl
    have uncounted : ∀ kind, countOf peers kind principal = 0 := by
      intro kind
      rw [countOf, absent]
      rfl
    dsimp only at found
    split at found
    · split at found
      · cases found
      · next eviction oldest =>
        cases found
        obtain ⟨stored, idle⟩ := oldestInactivePeer_idle oldest
        refine ⟨⟨fun kind other => ?_, fun bounded => ?_⟩, ?_⟩
        · rw [countOf_insertOrAssign]
          split
          · next same => rw [same, fresh, uncounted]
          · unfold countOf
            rw [SortedStore.find_erase]
            split
            · next same => exact (same ▸ idle kind).symm
            · rfl
        · have shorter := SortedStore.length_erase_lt stored
          rw [SortedStore.length_insertOrAssign]
          split
          · omega
          · omega
        · rw [SortedStore.find_insertOrAssign, if_pos rfl]
    · next room =>
      cases found
      refine ⟨⟨fun kind other => ?_, fun _ => ?_⟩, ?_⟩
      · rw [countOf_insertOrAssign]
        split
        · next same => rw [same, fresh, uncounted]
        · rfl
      · rw [SortedStore.length_insertOrAssign]
        split
        · omega
        · omega
      · rw [SortedStore.find_insertOrAssign, if_pos rfl]

end BlobRoyale.Server.PeerTrafficPolicy

/-!
# The peer policy under its leases

The policy with every lease object taken from it, the calls connections make on both, and the exact
accounting those calls keep.
-/

namespace BlobRoyale.Server

open BlobRoyale.Simulation LeaseSlots PeerTrafficPolicy

variable {S : Type}

/-- The policy and its lease objects, each holding the principal it stores. -/
structure PeerSystem (S : Type) where
  policy : PeerTrafficPolicy S
  leases : LeaseKind → List (Option String)

inductive PeerAction where
  | reserve (kind : LeaseKind) (peerAddress : String) (now : Int)
  | consumeHttpRequest (peerAddress : String) (now : Int)
  | consumeWebsocketUpgrade (peerAddress : String) (now : Int)
  | pruneIdle (now : Int)
  | moveConstruct (kind : LeaseKind) (source : Nat)
  | moveAssign (kind : LeaseKind) (target source : Nat) (now : Int)
  | release (kind : LeaseKind) (slot : Nat) (now : Int)

namespace PeerSystem

def create : PeerSystem S := ⟨.create, fun _ => []⟩

variable (platform : PeerPlatform S)

/-- `release` of a lease object, at the steady clock's reading `now`. -/
def releaseSlot (system : PeerSystem S) (kind : LeaseKind) (slot : Nat) (now : Int) : PeerSystem S :=
  match at? (system.leases kind) slot with
  | none => system
  | some principal =>
      ⟨match kind with
        | .tcp => closeTcpConnection platform system.policy principal now
        | .websocket => closeWebsocket platform system.policy principal now,
      Function.update system.leases kind ((system.leases kind).set slot none)⟩

def reserve [Scalar S] (policy : PeerTrafficPolicy S) : LeaseKind → String → Int →
    (AdmissionResult × Option String) × PeerTrafficPolicy S
  | .tcp => reserveTcpConnection platform policy
  | .websocket => reserveWebsocket platform policy

def perform [Scalar S] (system : PeerSystem S) : PeerAction → PeerSystem S
  | .reserve kind peerAddress now =>
      let ((_, lease), policy) := reserve platform system.policy kind peerAddress now
      match lease with
      | none => { system with policy := policy }
      | some principal =>
          ⟨policy, Function.update system.leases kind (system.leases kind ++ [some principal])⟩
  | .consumeHttpRequest peerAddress now =>
      { system with policy := (consumeHttpRequest platform system.policy peerAddress now).2 }
  | .consumeWebsocketUpgrade peerAddress now =>
      { system with policy := (consumeWebsocketUpgrade platform system.policy peerAddress now).2 }
  | .pruneIdle now => { system with policy := system.policy.pruneIdle now }
  | .moveConstruct kind source =>
      { system with
        leases := Function.update system.leases kind (LeaseSlots.moveConstruct (system.leases kind) source) }
  | .moveAssign kind target source now =>
      if target = source then system
      else
        let released := system.releaseSlot platform kind target now
        { released with
          leases := Function.update released.leases kind (moveInto (released.leases kind) target source) }
  | .release kind slot now => system.releaseSlot platform kind slot now

def Permits (system : PeerSystem S) : PeerAction → Prop
  | .moveAssign kind target source _ =>
      target < (system.leases kind).length ∧ source < (system.leases kind).length
  | .reserve _ _ _ | .consumeHttpRequest _ _ | .consumeWebsocketUpgrade _ _ | .pruneIdle _
  | .moveConstruct _ _ | .release _ _ _ => True

def Step [Scalar S] (system : PeerSystem S) (action : PeerAction) (next : PeerSystem S) : Prop :=
  system.Permits action ∧ next = system.perform platform action

/-- Every count is the live leases it counts, and every cap holds. -/
structure Exact (policy : PeerTrafficPolicy S) (leases : LeaseKind → List (Option String)) : Prop where
  counts : ∀ kind principal, countOf policy.peers kind principal = (held (leases kind)).count principal
  totals : ∀ kind, policy.activeCount kind = (held (leases kind)).length
  principals : ∀ kind, ∀ principal ∈ held (leases kind), platform.accountingPrincipal principal = principal
  tcpCap : policy.activeTcpConnectionCount ≤ concurrentTcpConnectionMaximumCount
  websocketCap : policy.activeWebsocketCount ≤ concurrentWebSocketMaximumCount
  peerCap : ∀ principal, countOf policy.peers .websocket principal ≤ concurrentWebSocketPerPeerMaximumCount
  tracked : policy.peers.entries.length ≤ trackedPeerMaximumCount

variable {platform} {policy next : PeerTrafficPolicy S} {leases : LeaseKind → List (Option String)}

theorem create_exact : Exact platform (create : PeerSystem S).policy (create : PeerSystem S).leases := by
  refine ⟨fun _ _ => rfl, fun kind => ?_, fun _ _ member => absurd member List.not_mem_nil,
    Nat.zero_le _, Nat.zero_le _, fun _ => Nat.zero_le _, Nat.zero_le _⟩
  cases kind with
  | tcp => rfl
  | websocket => rfl

theorem Exact.sameCounts (exact : Exact platform policy leases) {peers : SortedStore String (PeerState S)}
    (same : SameCounts policy.peers peers) : Exact platform { policy with peers := peers } leases where
  counts kind principal := (same.counts kind principal).trans (exact.counts kind principal)
  totals kind := by
    cases kind with
    | tcp => exact exact.totals .tcp
    | websocket => exact exact.totals .websocket
  principals := exact.principals
  tcpCap := exact.tcpCap
  websocketCap := exact.websocketCap
  peerCap principal := by
    rw [same.counts]
    exact exact.peerCap principal
  tracked := same.tracked exact.tracked

theorem Exact.moved (exact : Exact platform policy leases) {kind : LeaseKind} {slots : List (Option String)}
    (moved : (held slots).Perm (held (leases kind))) :
    Exact platform policy (Function.update leases kind slots) where
  counts other principal := by
    by_cases same : other = kind
    · subst same
      rw [Function.update_self, moved.count_eq]
      exact exact.counts other principal
    · rw [Function.update_of_ne same]
      exact exact.counts other principal
  totals other := by
    by_cases same : other = kind
    · subst same
      rw [Function.update_self, moved.length_eq]
      exact exact.totals other
    · rw [Function.update_of_ne same]
      exact exact.totals other
  principals other principal member := by
    by_cases same : other = kind
    · subst same
      rw [Function.update_self] at member
      exact exact.principals other principal (moved.mem_iff.mp member)
    · rw [Function.update_of_ne same] at member
      exact exact.principals other principal member
  tcpCap := exact.tcpCap
  websocketCap := exact.websocketCap
  peerCap := exact.peerCap
  tracked := exact.tracked

end PeerSystem

end BlobRoyale.Server
