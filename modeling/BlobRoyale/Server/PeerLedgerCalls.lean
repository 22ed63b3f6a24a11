import BlobRoyale.Server.PeerLeases
import BlobRoyale.Server.PeerLedger

/-!
# The policy's calls on the ledger

A call of the policy that evicts no peer answers as the ledger's call does and leaves the table of the
ledger it leaves, whichever idle peers were pruned before it.
-/

namespace BlobRoyale.Server

open BlobRoyale.Simulation RefillLevel PeerTrafficPolicy

variable {platform : PeerPlatform ℝ} {prune : PeerTrafficPolicy ℝ → Int → PeerTrafficPolicy ℝ}
  {policy : PeerTrafficPolicy ℝ} {peers next : SortedStore String (PeerState ℝ)} {state : PeerState ℝ}
  {principal : String} {now : Int}

noncomputable def ledgerOf (policy : PeerTrafficPolicy ℝ) (now : Int) : PeerLedger :=
  ⟨levelsOf policy.peers now, policy.activeCount⟩

section Changes

theorem levelsAt_setActive (state : PeerState ℝ) (kind : LeaseKind) (count : Nat) :
    (state.setActive kind count).levelsAt now = ⟨Function.update state.active kind count, (state.levelsAt now).tokens⟩ := by
  refine congrArg₂ PeerLevels.mk (funext fun other => ?_) (funext fun other => ?_)
  · rw [PeerSystem.active_setActive, Function.update_apply]
  · cases kind <;> cases other <;> rfl

theorem StateKeeps.setActive (keeps : StateKeeps state now) (kind : LeaseKind) (count : Nat) :
    StateKeeps (state.setActive kind count) now := by
  obtain ⟨buckets, past⟩ := keeps
  cases kind <;> exact ⟨fun other => by cases other <;> [exact buckets .httpRequest; exact buckets .websocketUpgrade], past⟩

theorem ledgerOf_count (levels : levelsOf policy.peers now principal = state.levelsAt now) (kind : LeaseKind)
    (own all : Nat) :
    ledgerOf ({ policy with peers := policy.peers.insertOrAssign principal (state.setActive kind own) }.setActiveCount
      kind all) now = (ledgerOf policy now).count kind principal own all := by
  refine congrArg₂ PeerLedger.mk ?_ (funext fun other => ?_)
  · rw [PeerSystem.peers_setActiveCount, levelsOf_insertOrAssign, levelsAt_setActive, ledgerOf]
    dsimp only
    rw [levels]
    rfl
  · rw [PeerSystem.activeCount_setActiveCount, PeerSystem.activeCount_peers, ledgerOf, Function.update_apply]

theorem levelsAt_setBucket (state : PeerState ℝ) (kind : TokenKind) (bucket : TokenBucket ℝ) :
    (state.setBucket kind bucket).levelsAt now =
      ⟨state.active, Function.update (state.levelsAt now).tokens kind (bucket.levelAt now)⟩ := by
  refine congrArg₂ PeerLevels.mk (funext fun other => ?_) (funext fun other => ?_)
  · cases kind <;> cases other <;> rfl
  · rw [Function.update_apply]
    cases kind <;> cases other <;> rfl

theorem ledgerOf_setBucket (levels : levelsOf policy.peers now principal = state.levelsAt now) (kind : TokenKind)
    (bucket : TokenBucket ℝ) :
    ledgerOf { policy with peers := policy.peers.insertOrAssign principal (state.setBucket kind bucket) } now =
      (ledgerOf policy now).setTokens kind principal (bucket.levelAt now) := by
  refine congrArg₂ PeerLedger.mk ?_ (funext fun other => ?_)
  · rw [levelsOf_insertOrAssign, levelsAt_setBucket, ledgerOf]
    dsimp only
    rw [levels]
    rfl
  · rw [PeerSystem.activeCount_peers, ledgerOf]

theorem StateKeeps.setBucket (keeps : StateKeeps state now) (current : state.lastActivity = now) (kind : TokenKind)
    {bucket : TokenBucket ℝ} (kept : BucketKeeps kind bucket now) : StateKeeps (state.setBucket kind bucket) now := by
  obtain ⟨buckets, past⟩ := keeps
  rw [← current] at kept
  cases kind with
  | httpRequest => exact ⟨fun other => by cases other <;> [exact kept; exact buckets .websocketUpgrade], past⟩
  | websocketUpgrade => exact ⟨fun other => by cases other <;> [exact buckets .httpRequest; exact kept], past⟩

end Changes

section Admission

/-- The table has the principal, or room for it. -/
def Spared (peers : SortedStore String (PeerState ℝ)) (principal : String) : Prop :=
  principal ∈ peers.keys ∨ peers.entries.length < trackedPeerMaximumCount

/-- Admitting the principal would evict another. -/
def EvictsFor (peers : SortedStore String (PeerState ℝ)) (principal : String) : Prop :=
  ¬ Spared peers principal ∧ (oldestInactivePeer peers).isSome = true

/-- What admitting a principal without an eviction leaves. -/
structure Admits (peers next : SortedStore String (PeerState ℝ)) (principal : String) (state : PeerState ℝ)
    (now : Int) : Prop where
  kept : StateKeeps state now
  current : state.lastActivity = now
  keeps : TableKeeps next now
  levels : levelsOf next now = levelsOf peers now
  own : levelsOf next now principal = state.levelsAt now
  tracks : ∀ other, other ∈ next.keys ↔ other = principal ∨ other ∈ peers.keys

theorem mem_keys_insertOrAssign (other : String) :
    other ∈ (peers.insertOrAssign principal state).keys ↔ other = principal ∨ other ∈ peers.keys := by
  rw [SortedStore.mem_keys_iff, SortedStore.find_insertOrAssign, SortedStore.mem_keys_iff]
  by_cases same : other = principal
  · simp [same]
  · simp [same]

theorem findOrAdmitPeer_spared (keeps : TableKeeps peers now) (spared : Spared peers principal) :
    ∃ state next, findOrAdmitPeer peers principal now = some (state, next) ∧ Admits peers next principal state now := by
  unfold findOrAdmitPeer
  cases found : peers.find principal with
  | some existing =>
    have kept := (keeps principal existing found).touch
    have levels : levelsOf (peers.insertOrAssign principal { existing with lastActivity := now }) now =
        levelsOf peers now := by
      rw [levelsOf_insertOrAssign, touch_levels, ← levelsOf_found found, Function.update_eq_self]
    refine ⟨_, _, rfl, kept, rfl, keeps.insertOrAssign kept, levels, ?_, mem_keys_insertOrAssign⟩
    rw [levels, levelsOf_found found, touch_levels]
  | none =>
    have room : ¬ trackedPeerMaximumCount ≤ peers.entries.length := by
      obtain tracked | room := spared
      · rw [SortedStore.mem_keys_iff, found] at tracked
        cases tracked
      · omega
    have kept := create_keeps now
    have untracked : levelsOf peers now principal = .full := by
      rw [levelsOf, found]
      rfl
    have levels : levelsOf (peers.insertOrAssign principal (PeerState.create now)) now = levelsOf peers now := by
      rw [levelsOf_insertOrAssign, levelsAt_create, ← untracked, Function.update_eq_self]
    dsimp only
    rw [if_neg room]
    refine ⟨_, _, rfl, kept, rfl, keeps.insertOrAssign kept, levels, ?_, mem_keys_insertOrAssign⟩
    rw [levels, untracked, levelsAt_create]

theorem findOrAdmitPeer_full (full : ¬ Spared peers principal) (kept : ¬ EvictsFor peers principal) :
    findOrAdmitPeer peers principal now = none := by
  obtain ⟨absent, long⟩ := not_or.mp full
  have found := SortedStore.find_eq_none_iff.mpr absent
  have oldest : oldestInactivePeer peers = none := by
    rw [← Option.not_isSome_iff_eq_none]
    exact fun some => kept ⟨full, some⟩
  rw [findOrAdmitPeer, found]
  dsimp only
  rw [if_pos (Nat.not_lt.mp long), oldest]

end Admission

section Calls

variable {call : PeerCall}

def PeerCall.behind {S : Type} (prune : PeerTrafficPolicy S → Int → PeerTrafficPolicy S) (policy : PeerTrafficPolicy S) :
    PeerCall → PeerTrafficPolicy S
  | .reserve _ _ now | .consume _ _ now => prune policy now
  | .release .. => policy

def PeerCall.admits {S : Type} (platform : PeerPlatform S) (policy : PeerTrafficPolicy S) : PeerCall → Option String
  | .reserve .tcp address _ =>
      if concurrentTcpConnectionMaximumCount ≤ policy.activeTcpConnectionCount then none
      else some (platform.accountingPrincipal address)
  | .reserve .websocket address _ | .consume _ address _ => some (platform.accountingPrincipal address)
  | .release .. => none

/-- What a call of the policy does, done to the ledger. -/
structure Follows (platform : PeerPlatform ℝ) (policy : PeerTrafficPolicy ℝ) (call : PeerCall)
    (outcome : PeerAnswer × PeerTrafficPolicy ℝ) : Prop where
  keeps : TableKeeps outcome.2.peers call.now
  performs : (outcome.1, ledgerOf outcome.2 call.now) = (ledgerOf policy call.now).perform platform call
  tracks : ∀ other, other ∈ outcome.2.peers.keys ↔
    other ∈ call.admits platform policy ∨ other ∈ policy.peers.keys

theorem Prunes.behind_keeps (prunes : Prunes prune) (keeps : TableKeeps policy.peers call.now) :
    TableKeeps (call.behind prune policy).peers call.now := by
  cases call with
  | reserve kind address now => exact prunes.keeps policy now keeps
  | release kind address now => exact keeps
  | consume kind address now => exact prunes.keeps policy now keeps

theorem Prunes.ledgerOf_behind (prunes : Prunes prune) (keeps : TableKeeps policy.peers call.now) :
    ledgerOf (call.behind prune policy) call.now = ledgerOf policy call.now := by
  have pruned : ∀ now, TableKeeps policy.peers now → ledgerOf (prune policy now) now = ledgerOf policy now :=
    fun now keeps => congrArg₂ PeerLedger.mk (prunes.levels policy now keeps) (prunes.activeCount policy now)
  cases call with
  | reserve kind address now => exact pruned now keeps
  | release kind address now => rfl
  | consume kind address now => exact pruned now keeps

theorem Admits.take (admits : Admits policy.peers next principal state now) (kind : LeaseKind) :
    TableKeeps (({ policy with peers := next } : PeerTrafficPolicy ℝ).take kind principal state).peers now ∧
      ledgerOf (({ policy with peers := next } : PeerTrafficPolicy ℝ).take kind principal state) now =
        (ledgerOf policy now).count kind principal (((ledgerOf policy now).peers principal).active kind + 1)
          ((ledgerOf policy now).activeCount kind + 1) ∧
      ∀ other, other ∈ (({ policy with peers := next } : PeerTrafficPolicy ℝ).take kind principal state).peers.keys ↔
        other = principal ∨ other ∈ policy.peers.keys := by
  have own : ((ledgerOf policy now).peers principal).active = state.active :=
    congrArg PeerLevels.active ((congrFun admits.levels principal).symm.trans admits.own)
  have ledgers : ledgerOf { policy with peers := next } now = ledgerOf policy now :=
    congrArg₂ PeerLedger.mk admits.levels (funext fun kind => by rw [PeerSystem.activeCount_peers])
  refine ⟨?_, ?_, fun other => ?_⟩
  · rw [PeerTrafficPolicy.take, PeerSystem.peers_setActiveCount]
    exact admits.keeps.insertOrAssign (admits.kept.setActive kind _)
  · rw [PeerTrafficPolicy.take, PeerSystem.activeCount_peers, own]
    rw [← ledgers]
    exact ledgerOf_count admits.own kind (state.active kind + 1) (policy.activeCount kind + 1)
  · rw [PeerTrafficPolicy.take, PeerSystem.peers_setActiveCount, mem_keys_insertOrAssign, admits.tracks]
    constructor
    · rintro (own | own | tracked)
      · exact .inl own
      · exact .inl own
      · exact .inr tracked
    · exact .inr

theorem Admits.reserve (admits : Admits policy.peers next principal state now) (kind : LeaseKind) {address : String}
    (names : platform.accountingPrincipal address = principal)
    (below : (ledgerOf policy now).limit principal kind = none) :
    Follows platform policy (.reserve kind address now)
      (some (.accepted, some principal), ({ policy with peers := next } : PeerTrafficPolicy ℝ).take kind principal state) := by
  obtain ⟨keeps, ledgers, tracks⟩ := admits.take kind
  refine ⟨keeps, ?_, fun other => ?_⟩
  · dsimp only [PeerLedger.perform, PeerCall.now]
    rw [names, below]
    exact congrArg (Prod.mk _) ledgers
  · rw [tracks, ← names]
    cases kind with
    | tcp =>
      have room : ¬ concurrentTcpConnectionMaximumCount ≤ policy.activeTcpConnectionCount := by
        intro full
        exact absurd ((if_pos full).symm.trans below) (Option.some_ne_none _)
      rw [PeerCall.admits, if_neg room, Option.mem_some, eq_comm]
    | websocket => rw [PeerCall.admits, Option.mem_some, eq_comm]

theorem Admits.refused (admits : Admits policy.peers next principal state now) {address : String} {limit : Nat}
    (names : platform.accountingPrincipal address = principal)
    (reached : (ledgerOf policy now).limit principal .websocket = some limit) :
    Follows platform policy (.reserve .websocket address now)
      (some (.connectionLimited limit, none), { policy with peers := next }) := by
  refine ⟨admits.keeps, ?_, fun other => ?_⟩
  · dsimp only [PeerLedger.perform, PeerCall.now]
    rw [names, reached]
    exact congrArg (Prod.mk _) (congrArg₂ PeerLedger.mk admits.levels (funext fun kind => by
      rw [PeerSystem.activeCount_peers]))
  · rw [PeerCall.admits, names, Option.mem_some, admits.tracks, eq_comm]

theorem reserve_tcp_follows (prunes : Prunes prune) (keeps : TableKeeps policy.peers now) {address : String}
    (spared : ∀ principal ∈ PeerCall.admits platform (prune policy now) (.reserve .tcp address now),
      Spared (prune policy now).peers principal) :
    Follows platform (prune policy now) (.reserve .tcp address now)
      (perform platform prune policy (.reserve .tcp address now)) := by
  have pruned := prunes.keeps policy now keeps
  unfold PeerTrafficPolicy.perform reserveBehind
  dsimp only
  split
  · next full =>
    refine ⟨pruned, ?_, fun other => ?_⟩
    · have reached : (ledgerOf (prune policy now) now).limit (platform.accountingPrincipal address) .tcp =
          some concurrentTcpConnectionMaximumCount := if_pos full
      dsimp only [PeerLedger.perform, PeerCall.now]
      rw [reached]
    · simp [PeerCall.admits, full]
  · next room =>
    rw [PeerCall.admits, if_neg room] at spared
    obtain ⟨state, next, found, admits⟩ := findOrAdmitPeer_spared pruned (spared _ rfl)
    rw [found]
    exact admits.reserve .tcp rfl (if_neg room)

theorem reserve_websocket_follows (prunes : Prunes prune) (keeps : TableKeeps policy.peers now) {address : String}
    (spared : Spared (prune policy now).peers (platform.accountingPrincipal address)) :
    Follows platform (prune policy now) (.reserve .websocket address now)
      (perform platform prune policy (.reserve .websocket address now)) := by
  have pruned := prunes.keeps policy now keeps
  obtain ⟨state, next, found, admits⟩ := findOrAdmitPeer_spared pruned spared
  have own : ((ledgerOf (prune policy now) now).peers (platform.accountingPrincipal address)).active .websocket =
      state.activeWebsockets :=
    congrFun (congrArg PeerLevels.active ((congrFun admits.levels _).symm.trans admits.own)) LeaseKind.websocket
  unfold PeerTrafficPolicy.perform reserveBehind
  dsimp only
  rw [found]
  dsimp only
  split
  · next full => exact admits.refused rfl (if_pos full)
  · next room =>
    split
    · next full =>
      exact admits.refused rfl ((if_neg room).trans (if_pos (own ▸ full)))
    · next below =>
      exact admits.reserve .websocket rfl ((if_neg room).trans (if_neg (own ▸ below)))

theorem consume_follows (prunes : Prunes prune) (keeps : TableKeeps policy.peers now) {kind : TokenKind}
    {address : String} (spared : Spared (prune policy now).peers (platform.accountingPrincipal address)) :
    Follows platform (prune policy now) (.consume kind address now)
      (perform platform prune policy (.consume kind address now)) := by
  have pruned := prunes.keeps policy now keeps
  obtain ⟨state, next, found, admits⟩ := findOrAdmitPeer_spared pruned spared
  have own : ((ledgerOf (prune policy now) now).peers (platform.accountingPrincipal address)).tokens kind =
      (state.bucket kind).levelAt now :=
    congrFun (congrArg PeerLevels.tokens ((congrFun admits.levels _).symm.trans admits.own)) kind
  obtain ⟨answers, kept, leaves⟩ := @BucketKeeps.consume platform _ _ _ (admits.kept.bucketAt kind)
  unfold PeerTrafficPolicy.perform consumeBehind
  dsimp only
  rw [found]
  dsimp only
  refine ⟨admits.keeps.insertOrAssign (admits.kept.setBucket admits.current kind kept), ?_, fun other => ?_⟩
  · have ledgers : ledgerOf { prune policy now with peers := next } now = ledgerOf (prune policy now) now :=
      congrArg₂ PeerLedger.mk admits.levels (funext fun kind => by rw [PeerSystem.activeCount_peers])
    dsimp only [PeerLedger.perform, PeerCall.now]
    rw [own, answers, ← leaves, ← ledgers]
    exact congrArg (Prod.mk _) (@ledgerOf_setBucket { prune policy now with peers := next } _ _ _ admits.own kind _)
  · rw [PeerCall.admits, Option.mem_some, mem_keys_insertOrAssign, admits.tracks, eq_comm]
    constructor
    · rintro (own | own | tracked)
      · exact .inl own
      · exact .inl own
      · exact .inr tracked
    · rintro (own | tracked)
      · exact .inl own
      · exact .inr (.inr tracked)

theorem release_follows (keeps : TableKeeps policy.peers now) {kind : LeaseKind} {address : String} :
    Follows platform policy (.release kind address now) (perform platform prune policy (.release kind address now)) := by
  have active : ((ledgerOf policy now).peers (platform.accountingPrincipal address)).active kind =
      PeerTrafficPolicy.countOf policy.peers kind (platform.accountingPrincipal address) := by
    dsimp only [ledgerOf, levelsOf, countOf]
    cases policy.peers.find (platform.accountingPrincipal address) with
    | none => rfl
    | some state => rfl
  unfold PeerTrafficPolicy.perform close
  dsimp only
  cases found : policy.peers.find (platform.accountingPrincipal address) with
  | none =>
    refine ⟨keeps, ?_, fun other => ?_⟩
    · dsimp only [PeerLedger.perform, PeerCall.now]
      rw [active, countOf, found]
      rfl
    · simp [PeerCall.admits]
  | some existing =>
    have kept := (keeps _ existing found).touch
    have levels : levelsOf policy.peers now (platform.accountingPrincipal address) =
        PeerState.levelsAt { existing with lastActivity := now } now := by
      rw [levelsOf_found found, touch_levels]
    have present : platform.accountingPrincipal address ∈ policy.peers.keys :=
      SortedStore.mem_keys_iff.mpr (by rw [found]; rfl)
    have tracks : ∀ (state : PeerState ℝ) other,
        other ∈ (policy.peers.insertOrAssign (platform.accountingPrincipal address) state).keys ↔
          other ∈ PeerCall.admits platform policy (.release kind address now) ∨ other ∈ policy.peers.keys := by
      intro state other
      rw [mem_keys_insertOrAssign]
      constructor
      · rintro (own | tracked)
        · exact .inr (own ▸ present)
        · exact .inr tracked
      · rintro (none | tracked)
        · cases none
        · exact .inr tracked
    have same : PeerState.active { existing with lastActivity := now } kind = existing.active kind := by
      cases kind <;> rfl
    dsimp only
    rw [countOf_find found] at active
    split
    · next held =>
      refine ⟨?_, ?_, fun other => ?_⟩
      · dsimp only
        rw [PeerSystem.peers_setActiveCount]
        exact keeps.insertOrAssign (kept.setActive kind _)
      · dsimp only [PeerLedger.perform, PeerCall.now]
        rw [active, if_pos (same ▸ held), same]
        exact congrArg (Prod.mk _) (ledgerOf_count levels kind _ _)
      · dsimp only
        rw [PeerSystem.peers_setActiveCount, tracks]
    · next idle =>
      refine ⟨keeps.insertOrAssign kept, ?_, tracks _⟩
      dsimp only [PeerLedger.perform, PeerCall.now]
      rw [active, if_neg (same ▸ idle)]
      refine congrArg (Prod.mk _) (congrArg₂ PeerLedger.mk ?_ (funext fun kind => PeerSystem.activeCount_peers ..))
      rw [levelsOf_insertOrAssign, ← levels, Function.update_eq_self]

theorem perform_follows (prunes : Prunes prune) (keeps : TableKeeps policy.peers call.now)
    (spared : ∀ principal ∈ call.admits platform (call.behind prune policy),
      Spared (call.behind prune policy).peers principal) :
    Follows platform (call.behind prune policy) call (perform platform prune policy call) := by
  cases call with
  | reserve kind address now =>
    cases kind with
    | tcp => exact reserve_tcp_follows prunes keeps spared
    | websocket => exact reserve_websocket_follows prunes keeps (spared _ rfl)
  | release kind address now => exact release_follows keeps
  | consume kind address now => exact consume_follows prunes keeps (spared _ rfl)

theorem perform_full (admitted : principal ∈ call.admits platform (call.behind prune policy))
    (full : ¬ Spared (call.behind prune policy).peers principal)
    (kept : ¬ EvictsFor (call.behind prune policy).peers principal) :
    perform platform prune policy call =
      (some (.connectionLimited trackedPeerMaximumCount, none), call.behind prune policy) := by
  cases call with
  | reserve kind address now =>
    cases kind with
    | tcp =>
      rw [PeerCall.admits] at admitted
      split at admitted
      · cases admitted
      · next room =>
        cases admitted
        unfold PeerTrafficPolicy.perform reserveBehind
        dsimp only [PeerCall.behind] at room full kept ⊢
        rw [if_neg room, findOrAdmitPeer_full full kept]
    | websocket =>
      cases admitted
      unfold PeerTrafficPolicy.perform reserveBehind
      dsimp only [PeerCall.behind] at full kept ⊢
      rw [findOrAdmitPeer_full full kept]
  | release kind address now => cases admitted
  | consume kind address now =>
    cases admitted
    unfold PeerTrafficPolicy.perform consumeBehind
    dsimp only [PeerCall.behind] at full kept ⊢
    rw [findOrAdmitPeer_full full kept]

end Calls

end BlobRoyale.Server
