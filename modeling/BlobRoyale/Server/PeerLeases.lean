import BlobRoyale.Server.PeerSystem
import BlobRoyale.Library.Transition

/-!
# What a call preserves of the peer accounting

Taking a slot and releasing a live lease move every count by one lease; each call keeps the
accounting exact.
-/

namespace BlobRoyale.Server.PeerSystem

open BlobRoyale.Simulation LeaseSlots PeerTrafficPolicy

variable {S : Type} {platform : PeerPlatform S} {policy next : PeerTrafficPolicy S}
  {leases : LeaseKind → List (Option String)}

section Leases

variable {kind : LeaseKind} {principal : String} {state : PeerState S} {slot : Nat}

theorem active_setActive (state : PeerState S) (kind other : LeaseKind) (count : Nat) :
    (state.setActive kind count).active other = if other = kind then count else state.active other := by
  cases kind <;> cases other <;> rfl

@[simp] theorem peers_setActiveCount (policy : PeerTrafficPolicy S) (kind : LeaseKind) (count : Nat) :
    (policy.setActiveCount kind count).peers = policy.peers := by
  cases kind <;> rfl

theorem activeCount_setActiveCount (policy : PeerTrafficPolicy S) (kind other : LeaseKind) (count : Nat) :
    (policy.setActiveCount kind count).activeCount other =
      if other = kind then count else policy.activeCount other := by
  cases kind <;> cases other <;> rfl

theorem activeCount_peers (policy : PeerTrafficPolicy S) (peers : SortedStore String (PeerState S))
    (kind : LeaseKind) : ({ policy with peers := peers } : PeerTrafficPolicy S).activeCount kind =
      policy.activeCount kind := by
  cases kind <;> rfl

/-- Whether one more lease of a kind stays under its caps. -/
def Room (policy : PeerTrafficPolicy S) (state : PeerState S) : LeaseKind → Prop
  | .tcp => policy.activeTcpConnectionCount < concurrentTcpConnectionMaximumCount
  | .websocket => policy.activeWebsocketCount < concurrentWebSocketMaximumCount ∧
      state.activeWebsockets < concurrentWebSocketPerPeerMaximumCount

theorem Exact.take (exact : Exact platform policy leases) (kind : LeaseKind)
    (found : policy.peers.find principal = some state) (settled : platform.accountingPrincipal principal = principal) (room : Room policy state kind) :
    Exact platform (policy.take kind principal state)
      (Function.update leases kind (leases kind ++ [some principal])) := by
  have counted : ∀ other name, countOf (policy.take kind principal state).peers other name =
      countOf policy.peers other name + if other = kind ∧ name = principal then 1 else 0 := by
    intro other name
    rw [PeerTrafficPolicy.take, peers_setActiveCount, countOf_insertOrAssign]
    by_cases same : name = principal
    · rw [if_pos same, active_setActive, same, countOf_find found]
      by_cases kinds : other = kind
      · simp [kinds]
      · simp [kinds]
    · simp [same]
  have totalled : ∀ other, (policy.take kind principal state).activeCount other =
      policy.activeCount other + if other = kind then 1 else 0 := by
    intro other
    rw [PeerTrafficPolicy.take, activeCount_setActiveCount]
    split
    · next same => rw [same]
    · rw [activeCount_peers, Nat.add_zero]
  constructor
  · intro other name
    rw [counted, exact.counts]
    by_cases kinds : other = kind
    · subst kinds
      rw [Function.update_self, held_concat, Option.toList_some, List.count_append, List.count_singleton]
      by_cases same : name = principal
      · simp [same]
      · simp [same, Ne.symm same]
    · simp [kinds]
  · intro other
    rw [totalled, exact.totals]
    by_cases kinds : other = kind
    · subst kinds
      simp
    · simp [kinds]
  · intro other name member
    by_cases kinds : other = kind
    · subst kinds
      rw [Function.update_self, held_concat] at member
      obtain earlier | new := List.mem_append.mp member
      · exact exact.principals other name earlier
      · cases Option.mem_toList.mp new
        exact settled
    · rw [Function.update_of_ne kinds] at member
      exact exact.principals other name member
  · have total := totalled .tcp
    have cap := exact.tcpCap
    simp only [activeCount] at total
    rw [total]
    cases kind with
    | tcp => exact room
    | websocket => exact cap
  · have total := totalled .websocket
    have cap := exact.websocketCap
    simp only [activeCount] at total
    rw [total]
    cases kind with
    | tcp => exact cap
    | websocket => exact room.1
  · intro name
    rw [counted]
    have cap := exact.peerCap name
    split
    · next same =>
      obtain ⟨kinds, names⟩ := same
      subst kinds
      rw [names, countOf_find found]
      exact room.2
    · exact cap
  · rw [PeerTrafficPolicy.take, peers_setActiveCount, SortedStore.length_insertOrAssign, if_pos]
    · exact exact.tracked
    · exact SortedStore.mem_keys_iff.mpr (by rw [found]; rfl)

theorem Exact.live (exact : Exact platform policy leases) (live : principal ∈ held (leases kind)) :
    0 < countOf policy.peers kind principal ∧ 0 < policy.activeCount kind ∧
      ∃ state, policy.peers.find principal = some state := by
  have counted : 0 < countOf policy.peers kind principal := by
    rw [exact.counts]
    exact List.count_pos_iff.mpr live
  refine ⟨counted, ?_, ?_⟩
  · rw [exact.totals]
    exact List.length_pos_of_mem live
  · cases found : policy.peers.find principal with
    | none =>
      rw [countOf, found] at counted
      cases counted
    | some state => exact ⟨state, rfl⟩

theorem Exact.close (exact : Exact platform policy leases) (holds : at? (leases kind) slot = some principal)
    (now : Int) :
    Exact platform (PeerTrafficPolicy.close platform kind policy principal now)
      (Function.update leases kind ((leases kind).set slot none)) := by
  have live := mem_held_of_at? holds
  obtain ⟨counted, totalled, existing, found⟩ := exact.live live
  have settled := exact.principals kind principal live
  have vacated := held_vacate holds
  rw [countOf_find found] at counted
  have result : PeerTrafficPolicy.close platform kind policy principal now =
      ({ policy with
        peers := policy.peers.insertOrAssign principal
          (({ existing with lastActivity := now } : PeerState S).setActive kind (existing.active kind - 1)) } :
        PeerTrafficPolicy S).setActiveCount kind (policy.activeCount kind - 1) := by
    have same : ({ existing with lastActivity := now } : PeerState S).active kind = existing.active kind := by
      cases kind <;> rfl
    simp only [PeerTrafficPolicy.close, settled, found, same, if_pos counted]
  have recounted : ∀ other name, countOf (PeerTrafficPolicy.close platform kind policy principal now).peers
      other name + (if other = kind ∧ name = principal then 1 else 0) = countOf policy.peers other name := by
    intro other name
    rw [result, peers_setActiveCount, countOf_insertOrAssign]
    by_cases same : name = principal
    · rw [if_pos same, active_setActive, same, countOf_find found]
      by_cases kinds : other = kind
      · subst kinds
        simp only [if_true, and_self]
        omega
      · rw [if_neg kinds, if_neg (fun both => kinds both.1)]
        cases other <;> rfl
    · simp [same]
  have retotalled : ∀ other, (PeerTrafficPolicy.close platform kind policy principal now).activeCount other +
      (if other = kind then 1 else 0) = policy.activeCount other := by
    intro other
    rw [result, activeCount_setActiveCount]
    split
    · next same =>
      subst same
      omega
    · rw [activeCount_peers, Nat.add_zero]
  constructor
  · intro other name
    have before := recounted other name
    rw [exact.counts] at before
    by_cases kinds : other = kind
    · subst kinds
      have counts := vacated.count_eq name
      rw [List.count_cons] at counts
      rw [Function.update_self]
      by_cases same : name = principal
      · subst same
        simp at counts before
        omega
      · have other' : principal ≠ name := Ne.symm same
        simp [same, other'] at counts before
        omega
    · rw [Function.update_of_ne kinds]
      simpa [kinds] using before
  · intro other
    have before := retotalled other
    rw [exact.totals] at before
    by_cases kinds : other = kind
    · subst kinds
      have lengths := vacated.length_eq
      rw [List.length_cons] at lengths
      rw [Function.update_self]
      simp only [if_true] at before
      omega
    · rw [Function.update_of_ne kinds]
      simpa [kinds] using before
  · intro other name member
    by_cases kinds : other = kind
    · subst kinds
      rw [Function.update_self] at member
      exact exact.principals other name (vacated.mem_iff.mp (List.mem_cons_of_mem _ member))
    · rw [Function.update_of_ne kinds] at member
      exact exact.principals other name member
  · have before := retotalled .tcp
    have cap := exact.tcpCap
    simp only [activeCount] at before
    omega
  · have before := retotalled .websocket
    have cap := exact.websocketCap
    simp only [activeCount] at before
    omega
  · intro name
    have before := recounted .websocket name
    have cap := exact.peerCap name
    omega
  · rw [result, peers_setActiveCount, SortedStore.length_insertOrAssign, if_pos]
    · exact exact.tracked
    · exact SortedStore.mem_keys_iff.mpr (by rw [found]; rfl)

end Leases

theorem accountingPrincipal_idem (unparsable : platform.isLoopbackAddress loopbackAccountingPrincipal = false)
    (peerAddress : String) :
    platform.accountingPrincipal (platform.accountingPrincipal peerAddress) =
      platform.accountingPrincipal peerAddress := by
  unfold PeerPlatform.accountingPrincipal
  cases loopback : platform.isLoopbackAddress peerAddress with
  | true => simp [unparsable]
  | false => simp [loopback]

section Calls

variable [Scalar S] {system : PeerSystem S}

theorem Exact.tracks (exact : Exact platform policy leases) (now : Int) {principal : String}
    {state : PeerState S} {peers : SortedStore String (PeerState S)}
    (found : findOrAdmitPeer (policy.pruneIdle now).peers principal now = some (state, peers)) :
    Exact platform { policy with peers := peers } leases ∧ peers.find principal = some state := by
  obtain ⟨same, tracked⟩ := findOrAdmitPeer_sameCounts found
  exact ⟨(exact.sameCounts (pruneIdle_sameCounts policy now)).sameCounts same, tracked⟩

theorem Exact.reserve (exact : Exact platform policy leases)
    (unparsable : platform.isLoopbackAddress loopbackAccountingPrincipal = false)
    (kind : LeaseKind) (peerAddress : String) (now : Int) :
    (∃ result next, PeerSystem.reserve platform policy kind peerAddress now = ((result, none), next) ∧
      Exact platform next leases) ∨
    ∃ result next, PeerSystem.reserve platform policy kind peerAddress now =
        ((result, some (platform.accountingPrincipal peerAddress)), next) ∧
      Exact platform next
        (Function.update leases kind (leases kind ++ [some (platform.accountingPrincipal peerAddress)])) := by
  have pruned := exact.sameCounts (pruneIdle_sameCounts policy now)
  have settled := accountingPrincipal_idem unparsable peerAddress
  cases kind with
  | tcp =>
    unfold PeerSystem.reserve reserveTcpConnection
    dsimp only
    split
    · exact .inl ⟨_, _, rfl, pruned⟩
    · next room =>
      split
      · exact .inl ⟨_, _, rfl, pruned⟩
      · next state peers found =>
        obtain ⟨tracking, tracked⟩ := exact.tracks now found
        exact .inr ⟨_, _, rfl, tracking.take .tcp tracked settled (Nat.lt_of_not_le room)⟩
  | websocket =>
    unfold PeerSystem.reserve reserveWebsocket
    dsimp only
    split
    · exact .inl ⟨_, _, rfl, pruned⟩
    · next state peers found =>
      obtain ⟨tracking, tracked⟩ := exact.tracks now found
      split
      · exact .inl ⟨_, _, rfl, tracking⟩
      · next room =>
        split
        · exact .inl ⟨_, _, rfl, tracking⟩
        · next peerRoom =>
          exact .inr ⟨_, _, rfl, tracking.take .websocket tracked settled
            ⟨Nat.lt_of_not_le room, Nat.lt_of_not_le peerRoom⟩⟩

omit [Scalar S] in
theorem Exact.spend (exact : Exact platform policy leases) {principal : String} {state spent : PeerState S}
    (found : policy.peers.find principal = some state) (same : ∀ kind, spent.active kind = state.active kind) :
    Exact platform { policy with peers := policy.peers.insertOrAssign principal spent } leases := by
  refine exact.sameCounts ⟨fun kind name => ?_, fun bounded => ?_⟩
  · rw [countOf_insertOrAssign]
    split
    · next names => rw [names, countOf_find found, same]
    · rfl
  · rw [SortedStore.length_insertOrAssign, if_pos]
    · exact bounded
    · exact SortedStore.mem_keys_iff.mpr (by rw [found]; rfl)

theorem Exact.consume (exact : Exact platform policy leases) (peerAddress : String) (now : Int) :
    Exact platform (consumeHttpRequest platform policy peerAddress now).2 leases ∧
      Exact platform (consumeWebsocketUpgrade platform policy peerAddress now).2 leases := by
  have pruned := exact.sameCounts (pruneIdle_sameCounts policy now)
  constructor
  · unfold consumeHttpRequest
    dsimp only
    split
    · exact pruned
    · next state peers found =>
      obtain ⟨tracking, tracked⟩ := exact.tracks now found
      exact tracking.spend tracked fun kind => by cases kind <;> rfl
  · unfold consumeWebsocketUpgrade
    dsimp only
    split
    · exact pruned
    · next state peers found =>
      obtain ⟨tracking, tracked⟩ := exact.tracks now found
      exact tracking.spend tracked fun kind => by cases kind <;> rfl

omit [Scalar S] in
theorem Exact.releaseSlot (exact : Exact platform system.policy system.leases) (kind : LeaseKind)
    (slot : Nat) (now : Int) :
    Exact platform (system.releaseSlot platform kind slot now).policy
        (system.releaseSlot platform kind slot now).leases ∧
      (slot < (system.leases kind).length →
        at? ((system.releaseSlot platform kind slot now).leases kind) slot = none) ∧
      ((system.releaseSlot platform kind slot now).leases kind).length = (system.leases kind).length := by
  unfold PeerSystem.releaseSlot
  split
  · next vacant => exact ⟨exact, fun _ => vacant, rfl⟩
  · next principal holds =>
    refine ⟨?_, fun within => ?_, ?_⟩
    · cases kind with
      | tcp => exact exact.close holds now
      | websocket => exact exact.close holds now
    · dsimp only
      rw [Function.update_self, at?_set _ within, if_pos rfl]
    · dsimp only
      rw [Function.update_self, List.length_set]

theorem Exact.perform (exact : Exact platform system.policy system.leases)
    (unparsable : platform.isLoopbackAddress loopbackAccountingPrincipal = false)
    {action : PeerAction} (permitted : system.Permits action) :
    Exact platform (system.perform platform action).policy (system.perform platform action).leases := by
  cases action with
  | reserve kind peerAddress now =>
    obtain ⟨_, _, result, exact⟩ | ⟨_, _, result, exact⟩ := exact.reserve unparsable kind peerAddress now
    · simp only [PeerSystem.perform, result]
      exact exact
    · simp only [PeerSystem.perform, result]
      exact exact
  | consumeHttpRequest peerAddress now => exact (exact.consume peerAddress now).1
  | consumeWebsocketUpgrade peerAddress now => exact (exact.consume peerAddress now).2
  | pruneIdle now => exact exact.sameCounts (pruneIdle_sameCounts system.policy now)
  | moveConstruct kind source => exact exact.moved (held_moveConstruct (system.leases kind) source)
  | moveAssign kind target source now =>
    by_cases same : target = source
    · simp only [PeerSystem.perform, if_pos same]
      exact exact
    · simp only [PeerSystem.perform, if_neg same]
      obtain ⟨released, vacant, length⟩ := exact.releaseSlot kind target now
      exact released.moved (held_moveInto (length ▸ permitted.1) (length ▸ permitted.2) same
        (vacant permitted.1))
  | release kind slot now => exact (exact.releaseSlot kind slot now).1

end Calls

end BlobRoyale.Server.PeerSystem

/-!
# Peer accounting

Over every run of the policy's calls, global and per-peer counts are the live leases of each kind; a
peer with a live lease stays tracked, so its release finds it.
-/

namespace BlobRoyale.Server.PeerSystem

open BlobRoyale.Simulation LeaseSlots PeerTrafficPolicy Transition

section Runs

variable {S : Type} {platform : PeerPlatform S} {policy : PeerTrafficPolicy S}
  {leases : LeaseKind → List (Option String)}

theorem sum_indicator (keys : List String) (name : String) :
    (keys.map fun key => if name == key then 1 else 0).sum = keys.count name := by
  induction keys with
  | nil => rfl
  | cons key rest ih => rw [List.map_cons, List.sum_cons, List.count_cons, ih, Nat.add_comm, BEq.comm]

theorem sum_counts {keys names : List String} (distinct : keys.Nodup) (included : names ⊆ keys) :
    (keys.map fun key => names.count key).sum = names.length := by
  induction names with
  | nil => simp
  | cons name rest ih =>
    have once : keys.count name = 1 :=
      List.count_eq_one_of_mem distinct (included List.mem_cons_self)
    have split : (keys.map fun key => (name :: rest).count key).sum =
        (keys.map fun key => rest.count key).sum + (keys.map fun key => if name == key then 1 else 0).sum := by
      rw [← List.sum_map_add]
      simp only [List.count_cons]
    rw [split, sum_indicator, once, ih fun _ member => included (List.mem_cons_of_mem _ member)]
    rfl

theorem Exact.sum_active (exact : Exact platform policy leases) (kind : LeaseKind) :
    (policy.peers.entries.map fun entry => entry.2.active kind).sum = policy.activeCount kind := by
  have perPeer : (policy.peers.entries.map fun entry => entry.2.active kind) =
      policy.peers.keys.map fun key => (held (leases kind)).count key := by
    rw [SortedStore.keys, List.map_map]
    refine List.map_congr_left fun entry member => ?_
    have counted := exact.counts kind entry.1
    rw [countOf_find (SortedStore.find_eq_some_iff.mpr member)] at counted
    exact counted
  have included : held (leases kind) ⊆ policy.peers.keys := by
    intro principal live
    obtain ⟨state, found⟩ := (exact.live live).2.2
    exact SortedStore.mem_keys_iff.mpr (by rw [found]; rfl)
  rw [perPeer, sum_counts policy.peers.keys_nodup included, exact.totals]

/-- What the policy knows of its live leases, and what releasing one of them finds. -/
structure Accounted (platform : PeerPlatform S) (system : PeerSystem S) : Prop where
  totals : ∀ kind, system.policy.activeCount kind = (held (system.leases kind)).length
  sums : ∀ kind, (system.policy.peers.entries.map fun entry => entry.2.active kind).sum =
    system.policy.activeCount kind
  counts : ∀ kind principal, countOf system.policy.peers kind principal =
    (held (system.leases kind)).count principal
  tcpCap : system.policy.activeCount .tcp ≤ concurrentTcpConnectionMaximumCount
  websocketCap : system.policy.activeCount .websocket ≤ concurrentWebSocketMaximumCount
  peerCap : ∀ principal, countOf system.policy.peers .websocket principal ≤
    concurrentWebSocketPerPeerMaximumCount
  tracked : system.policy.peers.entries.length ≤ trackedPeerMaximumCount
  /-- The release of a live lease re-derives its principal, finds it, and underflows no counter. -/
  releasable : ∀ kind, ∀ principal ∈ held (system.leases kind),
    platform.accountingPrincipal principal = principal ∧
      (∃ state, system.policy.peers.find principal = some state ∧ 0 < state.active kind) ∧
      0 < system.policy.activeCount kind

theorem Exact.accounted {system : PeerSystem S} (exact : Exact platform system.policy system.leases) :
    system.Accounted platform where
  totals := exact.totals
  sums := exact.sum_active
  counts := exact.counts
  tcpCap := exact.tcpCap
  websocketCap := exact.websocketCap
  peerCap := exact.peerCap
  tracked := exact.tracked
  releasable kind principal live := by
    obtain ⟨counted, totalled, state, found⟩ := exact.live live
    rw [countOf_find found] at counted
    exact ⟨exact.principals kind principal live, ⟨state, found, counted⟩, totalled⟩

theorem close_tracks {policy : PeerTrafficPolicy S} {kind : LeaseKind} {closed name : String} {now : Int}
    (tracked : (policy.peers.find name).isSome = true) :
    ((PeerTrafficPolicy.close platform kind policy closed now).peers.find name).isSome = true := by
  have assigned : ∀ (peers : SortedStore String (PeerState S)) (principal : String) (state : PeerState S),
      (peers.find name).isSome = true → ((peers.insertOrAssign principal state).find name).isSome = true := by
    intro peers principal state kept
    rw [SortedStore.find_insertOrAssign]
    split
    · rfl
    · exact kept
  unfold PeerTrafficPolicy.close
  dsimp only
  split
  · exact tracked
  · split
    · rw [peers_setActiveCount]
      exact assigned _ _ _ tracked
    · exact assigned _ _ _ tracked

theorem releaseSlot_tracks {system : PeerSystem S} {kind : LeaseKind} {slot : Nat} {name : String} {now : Int}
    (tracked : (system.policy.peers.find name).isSome = true) :
    ((system.releaseSlot platform kind slot now).policy.peers.find name).isSome = true := by
  unfold PeerSystem.releaseSlot
  split
  · exact tracked
  · cases kind with
    | tcp => exact close_tracks tracked
    | websocket => exact close_tracks tracked

theorem mem_held_update {leases : LeaseKind → List (Option String)} {kind other : LeaseKind}
    {slots : List (Option String)} {principal : String}
    (grows : principal ∈ held (leases kind) → principal ∈ held slots)
    (live : principal ∈ held (leases other)) :
    principal ∈ held (Function.update leases kind slots other) := by
  by_cases same : other = kind
  · subst same
    rw [Function.update_self]
    exact grows live
  · rw [Function.update_of_ne same]
    exact live

variable [Scalar S]

theorem Exact.keeps_live {system : PeerSystem S} (exact : Exact platform system.policy system.leases)
    (unparsable : platform.isLoopbackAddress loopbackAccountingPrincipal = false)
    {action : PeerAction} (permitted : system.Permits action) {kind : LeaseKind} {principal : String}
    (live : principal ∈ held (system.leases kind)) :
    ((system.perform platform action).policy.peers.find principal).isSome = true := by
  have tracked : ∀ {policy : PeerTrafficPolicy S} {leases : LeaseKind → List (Option String)},
      Exact platform policy leases → principal ∈ held (leases kind) →
      (policy.peers.find principal).isSome = true := by
    intro policy leases exact live
    obtain ⟨state, found⟩ := (exact.live live).2.2
    rw [found]
    rfl
  have after := exact.perform unparsable permitted
  cases action with
  | reserve reserved peerAddress now =>
    refine tracked after ?_
    obtain ⟨_, _, result, _⟩ | ⟨_, _, result, _⟩ := exact.reserve unparsable reserved peerAddress now
    · simp only [PeerSystem.perform, result]
      exact live
    · simp only [PeerSystem.perform, result]
      refine mem_held_update (fun member => ?_) live
      rw [held_concat]
      exact List.mem_append_left _ member
  | consumeHttpRequest peerAddress now => exact tracked after live
  | consumeWebsocketUpgrade peerAddress now => exact tracked after live
  | pruneIdle now => exact tracked after live
  | moveConstruct moved source =>
    refine tracked after (mem_held_update (fun member => ?_) live)
    exact (held_moveConstruct (system.leases moved) source).mem_iff.mpr member
  | moveAssign assigned target source now =>
    by_cases same : target = source
    · simp only [PeerSystem.perform, if_pos same]
      exact tracked exact live
    · simp only [PeerSystem.perform, if_neg same]
      exact releaseSlot_tracks (tracked exact live)
  | release released slot now => exact releaseSlot_tracks (tracked exact live)

/-- The lease a granted reservation creates, and the one principal of every loopback address. -/
theorem reserve_leases {system : PeerSystem S} (exact : Exact platform system.policy system.leases)
    (unparsable : platform.isLoopbackAddress loopbackAccountingPrincipal = false)
    (kind : LeaseKind) (peerAddress : String) (now : Int) :
    (system.perform platform (.reserve kind peerAddress now)).leases = system.leases ∨
      (system.perform platform (.reserve kind peerAddress now)).leases =
        Function.update system.leases kind
          (system.leases kind ++ [some (platform.accountingPrincipal peerAddress)]) := by
  obtain ⟨_, _, result, _⟩ | ⟨_, _, result, _⟩ := exact.reserve unparsable kind peerAddress now
  · exact .inl (by simp only [PeerSystem.perform, result])
  · exact .inr (by simp only [PeerSystem.perform, result])

variable {length : Nat}

/-- Over every run, the counts are the live leases and the caps hold; a peer with a live lease is
kept; and a loopback address reserves and releases under the one loopback principal. -/
theorem peer_accounting (unparsable : platform.isLoopbackAddress loopbackAccountingPrincipal = false)
    (run : Run (Step (S := S) platform) length) (start : run.state 0 = create) :
    (∀ position, position ≤ length → (run.state position).Accounted platform) ∧
    (∀ position, position < length → ∀ kind principal, principal ∈ held ((run.state position).leases kind) →
      ∃ state, (run.state (position + 1)).policy.peers.find principal = some state) ∧
    (∀ position, position < length → ∀ kind peerAddress now,
      run.label position = .reserve kind peerAddress now →
      (run.state (position + 1)).leases = (run.state position).leases ∨
        (run.state (position + 1)).leases = Function.update (run.state position).leases kind
          ((run.state position).leases kind ++ [some (platform.accountingPrincipal peerAddress)])) ∧
    ∀ peerAddress, platform.isLoopbackAddress peerAddress = true →
      platform.accountingPrincipal peerAddress = loopbackAccountingPrincipal ∧
        platform.accountingPrincipal loopbackAccountingPrincipal = loopbackAccountingPrincipal := by
  have reached : ∀ position, position ≤ length →
      Exact platform (run.state position).policy (run.state position).leases := by
    refine run.invariant (P := fun system => Exact platform system.policy system.leases) ?_ ?_
    · rw [start]
      exact create_exact
    · intro system action next exact step
      obtain ⟨permitted, result⟩ := step
      rw [result]
      exact exact.perform unparsable permitted
  refine ⟨?_, ?_, ?_, ?_⟩
  · intro position within
    exact (reached position within).accounted
  · intro position within kind principal live
    obtain ⟨permitted, result⟩ := run.steps position within
    rw [result]
    exact Option.isSome_iff_exists.mp
      ((reached position (Nat.le_of_lt within)).keeps_live unparsable permitted live)
  · intro position within kind peerAddress now label
    obtain ⟨_, result⟩ := run.steps position within
    rw [label] at result
    rw [result]
    exact reserve_leases (reached position (Nat.le_of_lt within)) unparsable kind peerAddress now
  · intro peerAddress loopback
    constructor
    · rw [PeerPlatform.accountingPrincipal, if_pos loopback]
    · rw [PeerPlatform.accountingPrincipal, unparsable]
      rfl

end Runs

section Reservation

/-- A parser that knows the two common loopback literals, and exact rounding up. -/
def literalPlatform : PeerPlatform ℚ where
  isLoopbackAddress address := address = "127.0.0.1" || address = "::1"
  ceil value := (Rat.ceil value).toNat

def loopbackReservation : Run (Step literalPlatform) 1 :=
  have reserves : Step literalPlatform PeerSystem.create (.reserve .websocket "::1" 0)
      (PeerSystem.create.perform literalPlatform (.reserve .websocket "::1" 0)) := ⟨trivial, rfl⟩
  .single reserves

theorem peer_accounting_loopback : (loopbackReservation.state 1).Accounted literalPlatform :=
  (peer_accounting (by decide) loopbackReservation rfl).1 1 (Nat.le_refl 1)

end Reservation

end BlobRoyale.Server.PeerSystem
