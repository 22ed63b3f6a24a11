import BlobRoyale.Library.RefillLevel
import BlobRoyale.Motion.ExactMotion
import BlobRoyale.Server.PeerSystem

/-!
# The ledger behind the peer table

What the traffic policy answers for: every principal's connections and token levels, whether the table
tracks it or not. An untracked principal stands for a full one. The policy's calls, with any pruning, are
compared with the ledger's in exact arithmetic.
-/

namespace BlobRoyale.Server

open BlobRoyale.Simulation RefillLevel

inductive TokenKind where
  | httpRequest
  | websocketUpgrade
  deriving DecidableEq, Repr

namespace TokenKind

noncomputable def capacity : TokenKind → ℝ
  | httpRequest => ((20 : Nat) : ℝ)
  | websocketUpgrade => ((4 : Nat) : ℝ)

noncomputable def refillPerSecond : TokenKind → ℝ
  | httpRequest => ((2 : Nat) : ℝ)
  | websocketUpgrade => ((2 : Nat) : ℝ) / ((10 : Nat) : ℝ)

end TokenKind

/-- A call of the policy, at the steady clock's reading `now`. -/
inductive PeerCall where
  | reserve (kind : LeaseKind) (peerAddress : String) (now : Int)
  | release (kind : LeaseKind) (principal : String) (now : Int)
  | consume (kind : TokenKind) (peerAddress : String) (now : Int)

def PeerCall.now : PeerCall → Int
  | reserve _ _ now | release _ _ now | consume _ _ now => now

/-- What a call returns: an admission, with the principal of the lease that comes with it. -/
abbrev PeerAnswer := Option (AdmissionResult × Option String)

namespace PeerState

def bucket {S : Type} (state : PeerState S) : TokenKind → TokenBucket S
  | .httpRequest => state.httpRequests
  | .websocketUpgrade => state.websocketUpgrades

def setBucket {S : Type} (state : PeerState S) (kind : TokenKind) (bucket : TokenBucket S) : PeerState S :=
  match kind with
  | .httpRequest => { state with httpRequests := bucket }
  | .websocketUpgrade => { state with websocketUpgrades := bucket }

end PeerState

namespace PeerTrafficPolicy

section Calls

variable {S : Type} [Scalar S] (platform : PeerPlatform S)
  (prune : PeerTrafficPolicy S → Int → PeerTrafficPolicy S)

/-- `prune_idle` replaced by a no-op. -/
def keepIdle (policy : PeerTrafficPolicy S) (_now : Int) : PeerTrafficPolicy S := policy

/-- `reserve_tcp_connection` and `reserve_websocket`, behind a pruning. -/
def reserveBehind (policy : PeerTrafficPolicy S) (kind : LeaseKind) (peerAddress : String) (now : Int) :
    (AdmissionResult × Option String) × PeerTrafficPolicy S :=
  let pruned := prune policy now
  let principal := platform.accountingPrincipal peerAddress
  match kind with
  | .tcp =>
      if concurrentTcpConnectionMaximumCount ≤ pruned.activeTcpConnectionCount then
        ((.connectionLimited concurrentTcpConnectionMaximumCount, none), pruned)
      else
        match findOrAdmitPeer pruned.peers principal now with
        | none => ((.connectionLimited trackedPeerMaximumCount, none), pruned)
        | some (state, peers) =>
            ((.accepted, some principal), { pruned with peers := peers }.take .tcp principal state)
  | .websocket =>
      match findOrAdmitPeer pruned.peers principal now with
      | none => ((.connectionLimited trackedPeerMaximumCount, none), pruned)
      | some (state, peers) =>
          let tracked := { pruned with peers := peers }
          if concurrentWebSocketMaximumCount ≤ tracked.activeWebsocketCount then
            ((.connectionLimited concurrentWebSocketMaximumCount, none), tracked)
          else if concurrentWebSocketPerPeerMaximumCount ≤ state.activeWebsockets then
            ((.connectionLimited concurrentWebSocketPerPeerMaximumCount, none), tracked)
          else ((.accepted, some principal), tracked.take .websocket principal state)

/-- `consume_http_request` and `consume_websocket_upgrade`, behind a pruning. -/
def consumeBehind (policy : PeerTrafficPolicy S) (kind : TokenKind) (peerAddress : String) (now : Int) :
    AdmissionResult × PeerTrafficPolicy S :=
  let pruned := prune policy now
  let principal := platform.accountingPrincipal peerAddress
  match findOrAdmitPeer pruned.peers principal now with
  | none => (.connectionLimited trackedPeerMaximumCount, pruned)
  | some (state, peers) =>
      let (result, bucket) := (state.bucket kind).consume platform now
      (result, { pruned with peers := peers.insertOrAssign principal (state.setBucket kind bucket) })

def perform (policy : PeerTrafficPolicy S) : PeerCall → PeerAnswer × PeerTrafficPolicy S
  | .reserve kind peerAddress now =>
      let (answer, next) := reserveBehind platform prune policy kind peerAddress now
      (some answer, next)
  | .release kind principal now => (none, close platform kind policy principal now)
  | .consume kind peerAddress now =>
      let (result, next) := consumeBehind platform prune policy kind peerAddress now
      (some (result, none), next)

/-- The answers of calls made one after another, and the policy they leave. -/
def run (policy : PeerTrafficPolicy S) : List PeerCall → List PeerAnswer × PeerTrafficPolicy S
  | [] => ([], policy)
  | call :: rest =>
      let (answer, next) := perform platform prune policy call
      let (answers, last) := run next rest
      (answer :: answers, last)

end Calls

end PeerTrafficPolicy

/-- A principal's connections and token levels. -/
structure PeerLevels where
  active : LeaseKind → Nat
  tokens : TokenKind → ℝ

/-- The principals' levels, and the connections of all. -/
structure PeerLedger where
  peers : String → PeerLevels
  activeCount : LeaseKind → Nat

namespace PeerLevels

/-- A principal without connections, its buckets full. -/
noncomputable def full : PeerLevels := ⟨fun _ => 0, TokenKind.capacity⟩

noncomputable def advance (levels : PeerLevels) (elapsed : ℝ) : PeerLevels :=
  ⟨levels.active, fun kind => refilled kind.capacity kind.refillPerSecond (levels.tokens kind) elapsed⟩

end PeerLevels

namespace PeerLedger

noncomputable def empty : PeerLedger := ⟨fun _ => .full, fun _ => 0⟩

noncomputable def advance (ledger : PeerLedger) (elapsed : ℝ) : PeerLedger :=
  { ledger with peers := fun principal => (ledger.peers principal).advance elapsed }

def limit (ledger : PeerLedger) (principal : String) : LeaseKind → Option Nat
  | .tcp =>
      if concurrentTcpConnectionMaximumCount ≤ ledger.activeCount .tcp then
        some concurrentTcpConnectionMaximumCount
      else none
  | .websocket =>
      if concurrentWebSocketMaximumCount ≤ ledger.activeCount .websocket then some concurrentWebSocketMaximumCount
      else if concurrentWebSocketPerPeerMaximumCount ≤ (ledger.peers principal).active .websocket then
        some concurrentWebSocketPerPeerMaximumCount
      else none

/-- The principal's connections and all connections of a kind, set. -/
def count (ledger : PeerLedger) (kind : LeaseKind) (principal : String) (own all : Nat) : PeerLedger where
  peers := Function.update ledger.peers principal
    ⟨Function.update (ledger.peers principal).active kind own, (ledger.peers principal).tokens⟩
  activeCount := Function.update ledger.activeCount kind all

noncomputable def spend (platform : PeerPlatform ℝ) (kind : TokenKind) (level : ℝ) : AdmissionResult × ℝ :=
  if 1 ≤ level then (.accepted, level - 1)
  else (⟨false, .rateLimit, retryAfterMilliseconds platform (1 - level) kind.refillPerSecond, 0⟩, level)

noncomputable def setTokens (ledger : PeerLedger) (kind : TokenKind) (principal : String) (level : ℝ) : PeerLedger :=
  { ledger with
    peers := Function.update ledger.peers principal
      ⟨(ledger.peers principal).active, Function.update (ledger.peers principal).tokens kind level⟩ }

variable (platform : PeerPlatform ℝ)

noncomputable def perform (ledger : PeerLedger) : PeerCall → PeerAnswer × PeerLedger
  | .reserve kind peerAddress _ =>
      let principal := platform.accountingPrincipal peerAddress
      match ledger.limit principal kind with
      | some limit => (some (.connectionLimited limit, none), ledger)
      | none => (some (.accepted, some principal), ledger.count kind principal
          ((ledger.peers principal).active kind + 1) (ledger.activeCount kind + 1))
  | .release kind address _ =>
      let principal := platform.accountingPrincipal address
      if 0 < (ledger.peers principal).active kind then
        (none, ledger.count kind principal ((ledger.peers principal).active kind - 1) (ledger.activeCount kind - 1))
      else (none, ledger)
  | .consume kind peerAddress _ =>
      let principal := platform.accountingPrincipal peerAddress
      let (result, level) := spend platform kind ((ledger.peers principal).tokens kind)
      (some (result, none), ledger.setTokens kind principal level)

end PeerLedger

end BlobRoyale.Server

/-!
# The peer table keeps the ledger

A kept table stands for a ledger of levels at any later time. Pruning forgets full principals alone, and
finding or creating a peer, spending a token and taking or releasing a slot do to the ledger what the
ledger's own calls do.
-/

namespace BlobRoyale.Server

open BlobRoyale.Simulation RefillLevel

noncomputable def seconds (elapsed : Int) : ℝ := (elapsed : ℝ) / 1000000000

theorem seconds_add (first second : Int) : seconds (first + second) = seconds first + seconds second := by
  rw [seconds, Int.cast_add, add_div, seconds, seconds]

theorem seconds_nonneg {elapsed : Int} (forward : 0 ≤ elapsed) : 0 ≤ seconds elapsed :=
  div_nonneg (Int.cast_nonneg forward) (by norm_num)

namespace TokenKind

theorem capacity_nonneg (kind : TokenKind) : 0 ≤ kind.capacity := by
  cases kind <;> norm_num [capacity]

theorem refillPerSecond_nonneg (kind : TokenKind) : 0 ≤ kind.refillPerSecond := by
  cases kind <;> norm_num [refillPerSecond]

theorem retention_refills (kind : TokenKind) : kind.capacity ≤ seconds peerRateStateIdleRetention * kind.refillPerSecond := by
  cases kind <;> norm_num [capacity, refillPerSecond, seconds, peerRateStateIdleRetention]

end TokenKind

section Buckets

variable {platform : PeerPlatform ℝ} {kind : TokenKind} {bucket : TokenBucket ℝ} {now later : Int}

noncomputable def TokenBucket.levelAt (bucket : TokenBucket ℝ) (now : Int) : ℝ :=
  refilled bucket.capacity bucket.refillPerSecond bucket.availableTokens (seconds (now - bucket.lastRefill))

/-- A bucket of a kind as the policy leaves it at a time. -/
structure BucketKeeps (kind : TokenKind) (bucket : TokenBucket ℝ) (now : Int) : Prop where
  capacity : bucket.capacity = kind.capacity
  rate : bucket.refillPerSecond = kind.refillPerSecond
  nonneg : 0 ≤ bucket.availableTokens
  within : bucket.availableTokens ≤ kind.capacity
  past : bucket.lastRefill ≤ now

theorem BucketKeeps.mono (keeps : BucketKeeps kind bucket now) (forward : now ≤ later) :
    BucketKeeps kind bucket later := { keeps with past := keeps.past.trans forward }

theorem BucketKeeps.level_advance (keeps : BucketKeeps kind bucket now) (forward : now ≤ later) :
    bucket.levelAt later =
      refilled kind.capacity kind.refillPerSecond (bucket.levelAt now) (seconds (later - now)) := by
  rw [TokenBucket.levelAt, TokenBucket.levelAt, keeps.capacity, keeps.rate,
    refilled_refilled kind.refillPerSecond_nonneg (seconds_nonneg (by omega)), ← seconds_add]
  congr 2
  omega

theorem BucketKeeps.level_nonneg (keeps : BucketKeeps kind bucket now) : 0 ≤ bucket.levelAt now := by
  rw [TokenBucket.levelAt, keeps.capacity, keeps.rate]
  have forward : 0 ≤ now - bucket.lastRefill := by
    have past := keeps.past
    omega
  exact refilled_nonneg kind.capacity_nonneg keeps.nonneg kind.refillPerSecond_nonneg (seconds_nonneg forward)

theorem BucketKeeps.level_le (keeps : BucketKeeps kind bucket now) : bucket.levelAt now ≤ kind.capacity := by
  rw [TokenBucket.levelAt, keeps.capacity]
  exact refilled_le

theorem BucketKeeps.level_full (keeps : BucketKeeps kind bucket now)
    (idle : peerRateStateIdleRetention ≤ later - now) : bucket.levelAt later = kind.capacity := by
  rw [TokenBucket.levelAt, keeps.capacity, keeps.rate]
  refine refilled_full ?_
  have elapsed : seconds peerRateStateIdleRetention ≤ seconds (later - bucket.lastRefill) := by
    have past := keeps.past
    have cast : (peerRateStateIdleRetention : ℝ) ≤ ((later - bucket.lastRefill : Int) : ℝ) := by
      exact_mod_cast le_trans idle (by omega)
    exact div_le_div_of_nonneg_right cast (by norm_num)
  calc kind.capacity ≤ seconds peerRateStateIdleRetention * kind.refillPerSecond := kind.retention_refills
    _ ≤ seconds (later - bucket.lastRefill) * kind.refillPerSecond :=
        mul_le_mul_of_nonneg_right elapsed kind.refillPerSecond_nonneg
    _ ≤ bucket.availableTokens + seconds (later - bucket.lastRefill) * kind.refillPerSecond :=
        le_add_of_nonneg_left keeps.nonneg

noncomputable def TokenBucket.settledAt (bucket : TokenBucket ℝ) (now : Int) : TokenBucket ℝ :=
  { bucket with availableTokens := bucket.levelAt now, lastRefill := now }

theorem BucketKeeps.consume_eq (keeps : BucketKeeps kind bucket now) :
    bucket.consume platform now =
      if 1 ≤ bucket.levelAt now then
        (.accepted, { bucket.settledAt now with availableTokens := bucket.levelAt now - 1 })
      else (⟨false, .rateLimit, retryAfterMilliseconds platform (1 - bucket.levelAt now) kind.refillPerSecond, 0⟩,
        bucket.settledAt now) := by
  have settled : (if bucket.lastRefill < now then
      { bucket with
        availableTokens := min bucket.capacity (bucket.availableTokens +
          (((now - bucket.lastRefill).toNat : Nat) : ℝ) / ((nanosecondsPerSecond : Nat) : ℝ) *
            bucket.refillPerSecond)
        lastRefill := now }
      else bucket) = bucket.settledAt now := by
    split
    · next refills =>
      have elapsed : (((now - bucket.lastRefill).toNat : Nat) : ℝ) = ((now - bucket.lastRefill : Int) : ℝ) := by
        exact_mod_cast Int.toNat_of_nonneg (show 0 ≤ now - bucket.lastRefill by omega)
      have rate : ((nanosecondsPerSecond : Nat) : ℝ) = 1000000000 := by norm_num [nanosecondsPerSecond]
      rw [elapsed, rate]
      rfl
    · next current =>
      have same : bucket.lastRefill = now := by
        have past := keeps.past
        omega
      have level : bucket.levelAt now = bucket.availableTokens := by
        rw [TokenBucket.levelAt, same, sub_self, seconds, Int.cast_zero, zero_div]
        exact refilled_zero (keeps.capacity ▸ keeps.within)
      rw [TokenBucket.settledAt, level, ← same]
  rw [← keeps.rate]
  unfold TokenBucket.consume
  dsimp only
  rw [settled]
  rfl

theorem levelAt_settled {tokens : ℝ} (capacity : bucket.capacity = kind.capacity) (within : tokens ≤ kind.capacity) :
    TokenBucket.levelAt { bucket with availableTokens := tokens, lastRefill := now } now = tokens := by
  rw [TokenBucket.levelAt, sub_self, seconds, Int.cast_zero, zero_div]
  exact refilled_zero (capacity ▸ within)

theorem BucketKeeps.consume (keeps : BucketKeeps kind bucket now) :
    (bucket.consume platform now).1 = (PeerLedger.spend platform kind (bucket.levelAt now)).1 ∧
      BucketKeeps kind (bucket.consume platform now).2 now ∧
      (bucket.consume platform now).2.levelAt now = (PeerLedger.spend platform kind (bucket.levelAt now)).2 := by
  rw [keeps.consume_eq, PeerLedger.spend]
  split
  · next full =>
    have within : bucket.levelAt now - 1 ≤ kind.capacity := by linarith [keeps.level_le]
    refine ⟨rfl, ⟨keeps.capacity, keeps.rate, by linarith, within, le_rfl⟩, levelAt_settled keeps.capacity within⟩
  · refine ⟨rfl, ⟨keeps.capacity, keeps.rate, keeps.level_nonneg, keeps.level_le, le_rfl⟩, ?_⟩
    exact levelAt_settled keeps.capacity keeps.level_le

end Buckets

section Tables

variable {peers next : SortedStore String (PeerState ℝ)} {state : PeerState ℝ} {principal : String} {now later : Int}

noncomputable def PeerState.levelsAt (state : PeerState ℝ) (now : Int) : PeerLevels :=
  ⟨state.active, fun kind => (state.bucket kind).levelAt now⟩

/-- A peer as the policy leaves it: no bucket was refilled after its last activity. -/
structure StateKeeps (state : PeerState ℝ) (now : Int) : Prop where
  buckets : ∀ kind, BucketKeeps kind (state.bucket kind) state.lastActivity
  past : state.lastActivity ≤ now

def TableKeeps (peers : SortedStore String (PeerState ℝ)) (now : Int) : Prop :=
  ∀ principal state, peers.find principal = some state → StateKeeps state now

noncomputable def levelsOf (peers : SortedStore String (PeerState ℝ)) (now : Int) (principal : String) : PeerLevels :=
  ((peers.find principal).map fun state => state.levelsAt now).getD .full

theorem StateKeeps.mono (keeps : StateKeeps state now) (forward : now ≤ later) : StateKeeps state later :=
  { keeps with past := keeps.past.trans forward }

theorem TableKeeps.mono (keeps : TableKeeps peers now) (forward : now ≤ later) : TableKeeps peers later :=
  fun principal state found => (keeps principal state found).mono forward

theorem StateKeeps.bucketAt (keeps : StateKeeps state now) (kind : TokenKind) :
    BucketKeeps kind (state.bucket kind) now := (keeps.buckets kind).mono keeps.past

theorem TableKeeps.levelsOf_advance (keeps : TableKeeps peers now) (forward : now ≤ later) (principal : String) :
    levelsOf peers later principal = (levelsOf peers now principal).advance (seconds (later - now)) := by
  unfold levelsOf
  cases found : peers.find principal with
  | none =>
    have elapsed := seconds_nonneg (sub_nonneg.mpr forward)
    refine congrArg (PeerLevels.mk _) (funext fun kind => (refilled_full ?_).symm)
    exact le_add_of_nonneg_right (mul_nonneg elapsed kind.refillPerSecond_nonneg)
  | some state =>
    have kept := keeps principal state found
    exact congrArg (PeerLevels.mk _) (funext fun kind => (kept.bucketAt kind).level_advance forward)

theorem levelsOf_found (found : peers.find principal = some state) :
    levelsOf peers now principal = state.levelsAt now := by
  rw [levelsOf, found]
  rfl

theorem levelsOf_insertOrAssign (state : PeerState ℝ) :
    levelsOf (peers.insertOrAssign principal state) now =
      Function.update (levelsOf peers now) principal (state.levelsAt now) := by
  funext other
  rw [levelsOf, SortedStore.find_insertOrAssign]
  by_cases same : other = principal
  · rw [same, if_pos rfl, Function.update_self]
    rfl
  · rw [if_neg same, Function.update_of_ne same, levelsOf]

theorem TableKeeps.insertOrAssign (keeps : TableKeeps peers now) (kept : StateKeeps state now) :
    TableKeeps (peers.insertOrAssign principal state) now := by
  intro other stored found
  rw [SortedStore.find_insertOrAssign] at found
  split at found
  · cases found
    exact kept
  · exact keeps other stored found

theorem create_keeps (now : Int) : StateKeeps (PeerState.create now) now := by
  refine ⟨fun kind => ?_, le_rfl⟩
  cases kind <;> constructor <;>
    norm_num [PeerState.bucket, PeerState.create, TokenKind.capacity, TokenKind.refillPerSecond]

theorem levelsAt_create (now : Int) : (PeerState.create now).levelsAt now = .full := by
  have inactive : (PeerState.create now : PeerState ℝ).active = fun _ => 0 := by
    funext kind
    cases kind <;> rfl
  refine congrArg₂ PeerLevels.mk inactive (funext fun kind => ?_)
  have kept := (create_keeps now).bucketAt kind
  have elapsed : now - ((PeerState.create now : PeerState ℝ).bucket kind).lastRefill = 0 := by
    cases kind <;> exact sub_self now
  have tokens : ((PeerState.create now : PeerState ℝ).bucket kind).availableTokens = kind.capacity := by
    cases kind <;> norm_num [PeerState.bucket, PeerState.create, TokenKind.capacity]
  rw [TokenBucket.levelAt, elapsed, seconds, Int.cast_zero, zero_div, refilled_zero (kept.capacity ▸ kept.within),
    tokens]

theorem touch_levels (state : PeerState ℝ) (now : Int) :
    PeerState.levelsAt { state with lastActivity := now } now = state.levelsAt now := by
  refine congrArg₂ PeerLevels.mk (funext fun kind => ?_) (funext fun kind => ?_)
  · cases kind <;> rfl
  · cases kind <;> rfl

theorem StateKeeps.touch (keeps : StateKeeps state now) : StateKeeps { state with lastActivity := now } now := by
  refine ⟨fun kind => ?_, le_rfl⟩
  have kept := keeps.bucketAt kind
  cases kind <;> exact kept

/-- A pruning that forgets full principals alone. -/
structure Prunes (prune : PeerTrafficPolicy ℝ → Int → PeerTrafficPolicy ℝ) : Prop where
  activeCount : ∀ policy now, (prune policy now).activeCount = policy.activeCount
  keeps : ∀ policy now, TableKeeps policy.peers now → TableKeeps (prune policy now).peers now
  levels : ∀ policy now, TableKeeps policy.peers now → levelsOf (prune policy now).peers now = levelsOf policy.peers now
  tracks : ∀ policy now, (prune policy now).peers.keys ⊆ policy.peers.keys
  shorter : ∀ policy now, (prune policy now).peers.entries.length ≤ policy.peers.entries.length

theorem prunes_keepIdle : Prunes PeerTrafficPolicy.keepIdle :=
  ⟨fun _ _ => rfl, fun _ _ keeps => keeps, fun _ _ _ => rfl, fun _ _ => List.Subset.refl _, fun _ _ => le_rfl⟩

theorem prunes_pruneIdle : Prunes PeerTrafficPolicy.pruneIdle where
  activeCount policy now := by
    funext kind
    cases kind <;> rfl
  keeps policy now keeps principal state found := by
    rw [PeerTrafficPolicy.pruneIdle, SortedStore.find_filter, Option.filter_eq_some_iff] at found
    exact keeps principal state found.1
  levels policy now keeps := by
    funext principal
    rw [levelsOf, levelsOf, PeerTrafficPolicy.pruneIdle, SortedStore.find_filter]
    cases found : policy.peers.find principal with
    | none => rfl
    | some state =>
      have kept := keeps principal state found
      rw [Option.filter_some]
      by_cases idles : (state.inactive && decide (state.lastActivity ≤ now) &&
          decide (peerRateStateIdleRetention ≤ now - state.lastActivity)) = true
      · rw [idles]
        simp only [Bool.and_eq_true, decide_eq_true_eq] at idles
        obtain ⟨⟨inactive, -⟩, idle⟩ := idles
        refine congrArg₂ PeerLevels.mk (funext fun kind => ?_) (funext fun kind => ?_)
        · exact (PeerTrafficPolicy.inactive_iff.mp inactive kind).symm
        · exact ((kept.buckets kind).level_full idle).symm
      · rw [Bool.not_eq_true] at idles
        rw [idles]
        rfl
  tracks policy now principal tracked := by
    rw [SortedStore.mem_keys_iff, PeerTrafficPolicy.pruneIdle, SortedStore.find_filter] at tracked
    rw [SortedStore.mem_keys_iff]
    cases found : policy.peers.find principal with
    | none =>
      rw [found] at tracked
      exact tracked
    | some state => rfl
  shorter policy now := SortedStore.length_filter_le _ _

end Tables

end BlobRoyale.Server
