import BlobRoyale.Server.PeerLedgerCalls

/-!
# Idle pruning changes no answer

A run that prunes its idle peers and one that keeps them stand for one ledger and answer alike while the
second never fills its table. In a run without evictions a principal's grants are paid by its bucket.
-/

namespace BlobRoyale.Server

open BlobRoyale.Simulation PeerTrafficPolicy

variable {platform : PeerPlatform ℝ} {prune : PeerTrafficPolicy ℝ → Int → PeerTrafficPolicy ℝ}
  {policy unpruned : PeerTrafficPolicy ℝ} {call : PeerCall} {calls : List PeerCall} {now later : Int}

def EvictionFree (platform : PeerPlatform ℝ) (prune : PeerTrafficPolicy ℝ → Int → PeerTrafficPolicy ℝ)
    (policy : PeerTrafficPolicy ℝ) : List PeerCall → Prop
  | [] => True
  | call :: rest =>
      (∀ principal ∈ call.admits platform (call.behind prune policy),
        ¬ EvictsFor (call.behind prune policy).peers principal) ∧
      EvictionFree platform prune (perform platform prune policy call).2 rest

/-- The table of an unpruned run stays below its maximum. -/
def StaysBelow (platform : PeerPlatform ℝ) (policy : PeerTrafficPolicy ℝ) (calls : List PeerCall) : Prop :=
  ∀ taken, taken <+: calls →
    (run platform keepIdle policy taken).2.peers.entries.length < trackedPeerMaximumCount

/-- The answered call grants the principal a token of the kind within an interval. -/
def Grants {S : Type} (platform : PeerPlatform S) (kind : TokenKind) (principal : String) (first last : Int) :
    PeerCall × PeerAnswer → Bool
  | (.consume other address now, answer) =>
      other = kind && platform.accountingPrincipal address = principal && first ≤ now && now ≤ last &&
        answer.any fun result => result.1.allowed
  | _ => false

def grantCount {S : Type} [Scalar S] (platform : PeerPlatform S)
    (prune : PeerTrafficPolicy S → Int → PeerTrafficPolicy S) (policy : PeerTrafficPolicy S) (calls : List PeerCall) (kind : TokenKind) (principal : String)
    (first last : Int) : Nat :=
  (calls.zip (run platform prune policy calls).1).countP (Grants platform kind principal first last)

section TwoRuns

/-- A pruned and an unpruned policy that stand for one ledger. -/
structure Alike (pruned unpruned : PeerTrafficPolicy ℝ) (now : Int) : Prop where
  keeps : TableKeeps pruned.peers now
  unprunedKeeps : TableKeeps unpruned.peers now
  ledgers : ledgerOf pruned now = ledgerOf unpruned now
  tracks : pruned.peers.keys ⊆ unpruned.peers.keys

theorem ledgerOf_advance (keeps : TableKeeps policy.peers now) (forward : now ≤ later) :
    ledgerOf policy later = (ledgerOf policy now).advance (seconds (later - now)) :=
  congrArg₂ PeerLedger.mk (funext (keeps.levelsOf_advance forward)) rfl

theorem Alike.mono (alike : Alike policy unpruned now) (forward : now ≤ later) : Alike policy unpruned later := by
  obtain ⟨keeps, unprunedKeeps, ledgers, tracks⟩ := alike
  refine ⟨keeps.mono forward, unprunedKeeps.mono forward, ?_, tracks⟩
  rw [ledgerOf_advance keeps forward, ledgers, ← ledgerOf_advance unprunedKeeps forward]

theorem length_le_of_tracks {pruned unpruned : SortedStore String (PeerState ℝ)}
    (tracks : pruned.keys ⊆ unpruned.keys) : pruned.entries.length ≤ unpruned.entries.length := by
  have within := (SortedStore.keys_nodup pruned).subperm tracks
  have lengths := within.length_le
  rwa [SortedStore.keys, SortedStore.keys, List.length_map, List.length_map] at lengths

theorem admits_congr (same : policy.activeTcpConnectionCount = unpruned.activeTcpConnectionCount) (call : PeerCall) :
    call.admits platform policy = call.admits platform unpruned := by
  cases call with
  | reserve kind address now =>
    cases kind with
    | tcp => rw [PeerCall.admits, same, PeerCall.admits]
    | websocket => rfl
  | release kind address now => rfl
  | consume kind address now => rfl

theorem Prunes.behind_tracks (prunes : Prunes prune) (policy : PeerTrafficPolicy ℝ) (call : PeerCall) :
    (call.behind prune policy).peers.keys ⊆ policy.peers.keys := by
  cases call with
  | reserve kind address now => exact prunes.tracks policy now
  | release kind address now => exact List.Subset.refl _
  | consume kind address now => exact prunes.tracks policy now

theorem behind_keepIdle (policy : PeerTrafficPolicy ℝ) (call : PeerCall) : call.behind keepIdle policy = policy := by
  cases call <;> rfl

theorem Alike.perform (alike : Alike policy unpruned call.now)
    (below : unpruned.peers.entries.length < trackedPeerMaximumCount) :
    (perform platform pruneIdle policy call).1 = (perform platform keepIdle unpruned call).1 ∧
      Alike (perform platform pruneIdle policy call).2 (perform platform keepIdle unpruned call).2 call.now := by
  obtain ⟨keeps, unprunedKeeps, ledgers, tracks⟩ := alike
  have behindTracks := List.Subset.trans (prunes_pruneIdle.behind_tracks policy call) tracks
  have short : (call.behind pruneIdle policy).peers.entries.length < trackedPeerMaximumCount :=
    (length_le_of_tracks behindTracks).trans_lt below
  have ledger := (prunes_pruneIdle.ledgerOf_behind keeps).trans ledgers
  have follows : Follows platform (call.behind pruneIdle policy) call
      (PeerTrafficPolicy.perform platform pruneIdle policy call) :=
    perform_follows prunes_pruneIdle keeps fun _ _ => .inr short
  have unprunedFollows : Follows platform (call.behind keepIdle unpruned) call
      (PeerTrafficPolicy.perform platform keepIdle unpruned call) :=
    perform_follows prunes_keepIdle unprunedKeeps fun _ _ => .inr (by rw [behind_keepIdle]; exact below)
  rw [behind_keepIdle] at unprunedFollows
  have performed := follows.performs.trans ((congrArg (fun ledger => ledger.perform platform call) ledger).trans
    unprunedFollows.performs.symm)
  obtain ⟨answers, leaves⟩ := Prod.mk.inj performed
  refine ⟨answers, follows.keeps, unprunedFollows.keeps, leaves, fun other tracked => ?_⟩
  have active : (call.behind pruneIdle policy).activeTcpConnectionCount = unpruned.activeTcpConnectionCount :=
    congrFun (congrArg PeerLedger.activeCount ledger) LeaseKind.tcp
  rw [unprunedFollows.tracks, ← admits_congr active]
  obtain admitted | behind := (follows.tracks other).mp tracked
  · exact .inl admitted
  · exact .inr (behindTracks behind)

theorem Alike.run (alike : Alike policy unpruned now) (ascending : calls.Pairwise (·.now ≤ ·.now))
    (forward : ∀ call ∈ calls, now ≤ call.now) (below : StaysBelow platform unpruned calls) :
    (run platform pruneIdle policy calls).1 = (run platform keepIdle unpruned calls).1 := by
  induction calls generalizing policy unpruned now with
  | nil => rfl
  | cons call rest ih =>
    obtain ⟨first, ascending⟩ := List.pairwise_cons.mp ascending
    have current := alike.mono (forward call List.mem_cons_self)
    obtain ⟨answers, next⟩ := current.perform (below [] List.nil_prefix)
    have rests := ih next ascending first fun taken within =>
      below (call :: taken) (List.cons_prefix_cons.mpr ⟨rfl, within⟩)
    rw [PeerTrafficPolicy.run, PeerTrafficPolicy.run]
    dsimp only
    rw [answers, rests]

end TwoRuns

section Grants

variable {kind : TokenKind} {principal : String} {first last : Int}

noncomputable def tokensAt (policy : PeerTrafficPolicy ℝ) (kind : TokenKind) (principal : String) (now : Int) : ℝ :=
  ((ledgerOf policy now).peers principal).tokens kind

theorem grants_refused (limit : Nat) (lease : Option String) :
    Grants platform kind principal first last (call, some (.connectionLimited limit, lease)) = false := by
  cases call with
  | reserve _ _ _ => rfl
  | release _ _ _ => rfl
  | consume other address now => exact Bool.and_false _

theorem tokens_count (ledger : PeerLedger) (slot : LeaseKind) (own : String) (count all : Nat) :
    ((ledger.count slot own count all).peers principal).tokens kind = (ledger.peers principal).tokens kind := by
  rw [PeerLedger.count]
  dsimp only
  rw [Function.update_apply]
  split
  · next same => rw [same]
  · rfl

theorem PeerLedger.perform_pays (ledger : PeerLedger) (call : PeerCall) :
    ((ledger.perform platform call).2.peers principal).tokens kind +
        (if Grants platform kind principal first last (call, (ledger.perform platform call).1) then 1 else 0) ≤
      (ledger.peers principal).tokens kind := by
  cases call with
  | reserve slot address now =>
    rw [PeerLedger.perform]
    split
    · exact (add_zero _).le
    · exact (add_zero _).le.trans (tokens_count ..).le
  | release slot address now =>
    rw [PeerLedger.perform]
    split
    · exact (add_zero _).le.trans (tokens_count ..).le
    · exact (add_zero _).le
  | consume other address now =>
    rw [PeerLedger.perform]
    dsimp only [PeerLedger.setTokens]
    rw [Function.update_apply]
    by_cases own : principal = platform.accountingPrincipal address
    · by_cases same : kind = other
      · subst own same
        rw [if_pos rfl]
        dsimp only
        rw [Function.update_self, PeerLedger.spend]
        split
        · split <;> linarith
        · simp [Grants]
      · rw [if_pos own, if_neg (by simp [Grants, Ne.symm same])]
        dsimp only
        rw [Function.update_of_ne same, ← own, add_zero]
    · rw [if_neg own, if_neg (by simp [Grants, Ne.symm own]), add_zero]

theorem perform_pays (prunes : Prunes prune) (keeps : TableKeeps policy.peers call.now)
    (kept : ∀ principal ∈ call.admits platform (call.behind prune policy),
      ¬ EvictsFor (call.behind prune policy).peers principal) :
    TableKeeps (perform platform prune policy call).2.peers call.now ∧
      tokensAt (perform platform prune policy call).2 kind principal call.now +
          (if Grants platform kind principal first last (call, (perform platform prune policy call).1) then 1 else 0) ≤
        tokensAt policy kind principal call.now := by
  have ledger := prunes.ledgerOf_behind keeps
  by_cases spared : ∀ principal ∈ call.admits platform (call.behind prune policy),
      Spared (call.behind prune policy).peers principal
  · have follows : Follows platform (call.behind prune policy) call (perform platform prune policy call) :=
      perform_follows prunes keeps spared
    obtain ⟨answers, leaves⟩ := Prod.mk.inj follows.performs
    refine ⟨follows.keeps, ?_⟩
    rw [tokensAt, tokensAt, answers, leaves, ledger]
    exact PeerLedger.perform_pays ..
  · obtain ⟨admitted, member, full⟩ : ∃ admitted ∈ call.admits platform (call.behind prune policy),
        ¬ Spared (call.behind prune policy).peers admitted := by
      by_contra none
      exact spared fun principal member => by_contra fun full => none ⟨principal, member, full⟩
    rw [perform_full member full (kept admitted member), grants_refused]
    refine ⟨prunes.behind_keeps keeps, ?_⟩
    rw [tokensAt, tokensAt, ledger]
    exact (add_zero _).le

theorem grants_within {answer : PeerAnswer}
    (grants : Grants platform kind principal first last (call, answer) = true) : first ≤ call.now ∧ call.now ≤ last := by
  cases call with
  | reserve _ _ _ => cases grants
  | release _ _ _ => cases grants
  | consume other address now =>
    simp only [Grants, Bool.and_eq_true, decide_eq_true_eq] at grants
    exact ⟨grants.1.1.2, grants.1.2⟩

theorem grantCount_cons (call : PeerCall) (rest : List PeerCall) :
    grantCount platform prune policy (call :: rest) kind principal first last =
      grantCount platform prune (perform platform prune policy call).2 rest kind principal first last +
        if Grants platform kind principal first last (call, (perform platform prune policy call).1) then 1 else 0 := by
  rw [grantCount, PeerTrafficPolicy.run]
  dsimp only
  rw [List.zip_cons_cons, List.countP_cons]
  rfl

theorem grantCount_eq_zero (past : ∀ call ∈ calls, last < call.now) :
    grantCount platform prune policy calls kind principal first last = 0 := by
  refine List.countP_eq_zero.mpr fun answered member grants => ?_
  have within : answered.1.now ≤ last := (grants_within grants).2
  have later := past answered.1 (List.of_mem_zip (Prod.mk.eta (p := answered) ▸ member)).1
  omega

theorem tokensAt_mono (keeps : TableKeeps policy.peers now) (forward : now ≤ later) :
    tokensAt policy kind principal later ≤
      tokensAt policy kind principal now + kind.refillPerSecond * seconds (later - now) := by
  rw [tokensAt, ledgerOf_advance keeps forward, mul_comm]
  exact RefillLevel.refilled_le_add

theorem tokensAt_within (keeps : TableKeeps policy.peers now) :
    0 ≤ tokensAt policy kind principal now ∧ tokensAt policy kind principal now ≤ kind.capacity := by
  dsimp only [tokensAt, ledgerOf]
  cases found : policy.peers.find principal with
  | none =>
    rw [levelsOf, found]
    exact ⟨kind.capacity_nonneg, le_rfl⟩
  | some state =>
    have kept := (keeps principal state found).bucketAt kind
    rw [levelsOf_found found]
    exact ⟨kept.level_nonneg, kept.level_le⟩

theorem grantCount_le (prunes : Prunes prune) (keeps : TableKeeps policy.peers now)
    (ascending : calls.Pairwise (·.now ≤ ·.now)) (forward : ∀ call ∈ calls, now ≤ call.now) (reaches : now ≤ last)
    (free : EvictionFree platform prune policy calls) :
    (grantCount platform prune policy calls kind principal first last : ℝ) ≤
      tokensAt policy kind principal now + kind.refillPerSecond * seconds (last - now) := by
  induction calls generalizing policy now with
  | nil =>
    rw [grantCount_eq_zero (fun call member => absurd member List.not_mem_nil), Nat.cast_zero]
    exact add_nonneg (tokensAt_within keeps).1
      (mul_nonneg kind.refillPerSecond_nonneg (seconds_nonneg (sub_nonneg.mpr reaches)))
  | cons call rest ih =>
    obtain ⟨later, ascending⟩ := List.pairwise_cons.mp ascending
    have elapsed := forward call List.mem_cons_self
    have risen : tokensAt policy kind principal call.now ≤ _ := tokensAt_mono keeps elapsed
    by_cases within : call.now ≤ last
    · obtain ⟨kept, paid⟩ := @perform_pays _ _ _ _ kind principal first last prunes (keeps.mono elapsed) free.1
      have rests := ih kept ascending later within free.2
      have split : seconds (last - now) = seconds (call.now - now) + seconds (last - call.now) := by
        rw [← seconds_add]
        congr 1
        omega
      rw [grantCount_cons, split, mul_add]
      push_cast
      linarith
    · have past : ∀ other ∈ call :: rest, last < other.now := by
        intro other member
        obtain same | member := List.mem_cons.mp member
        · rw [same]
          omega
        · have := later other member
          omega
      rw [grantCount_eq_zero past, Nat.cast_zero]
      exact add_nonneg (tokensAt_within keeps).1
        (mul_nonneg kind.refillPerSecond_nonneg (seconds_nonneg (sub_nonneg.mpr reaches)))

theorem grantCount_le_capacity (prunes : Prunes prune) (keeps : TableKeeps policy.peers now)
    (ascending : calls.Pairwise (·.now ≤ ·.now)) (forward : ∀ call ∈ calls, now ≤ call.now) (ordered : first ≤ last)
    (free : EvictionFree platform prune policy calls) (before : now ≤ first) :
    (grantCount platform prune policy calls kind principal first last : ℝ) ≤
      kind.capacity + kind.refillPerSecond * seconds (last - first) := by
  induction calls generalizing policy now with
  | nil =>
    rw [grantCount_eq_zero (fun call member => absurd member List.not_mem_nil), Nat.cast_zero]
    exact add_nonneg kind.capacity_nonneg
      (mul_nonneg kind.refillPerSecond_nonneg (seconds_nonneg (sub_nonneg.mpr ordered)))
  | cons call rest ih =>
    obtain ⟨later, tail⟩ := List.pairwise_cons.mp ascending
    by_cases early : call.now < first
    · obtain ⟨kept, -⟩ := @perform_pays _ _ _ _ kind principal first last prunes
        (keeps.mono (forward call List.mem_cons_self)) free.1
      have outside : ¬ Grants platform kind principal first last (call, (perform platform prune policy call).1) = true :=
        fun grants => absurd (grants_within grants).1 (not_le.mpr early)
      rw [grantCount_cons, if_neg outside, add_zero]
      exact ih kept tail later free.2 early.le
    · have following : ∀ other ∈ call :: rest, first ≤ other.now := by
        intro other member
        obtain same | member := List.mem_cons.mp member
        · rw [same]
          omega
        · have := later other member
          omega
      have kept := keeps.mono before
      have within : tokensAt policy kind principal first ≤ kind.capacity := (tokensAt_within kept).2
      refine (grantCount_le prunes kept ascending following ordered free).trans ?_
      linarith

end Grants

theorem create_tableKeeps (now : Int) : TableKeeps (create : PeerTrafficPolicy ℝ).peers now := by
  intro principal state found
  cases found

theorem exists_start (ascending : calls.Pairwise (·.now ≤ ·.now)) (bound : Int) :
    ∃ start, start ≤ bound ∧ ∀ call ∈ calls, start ≤ call.now := by
  cases calls with
  | nil => exact ⟨bound, le_rfl, fun call member => absurd member List.not_mem_nil⟩
  | cons call rest =>
    refine ⟨min bound call.now, min_le_left .., fun other member => ?_⟩
    obtain same | member := List.mem_cons.mp member
    · exact same ▸ min_le_right ..
    · exact (min_le_right ..).trans ((List.pairwise_cons.mp ascending).1 other member)

/-- Pruning changes no answer of a run whose table never fills, and a run without evictions grants a
principal at most its bucket and its refill in any interval. -/
theorem idle_pruning_exact (platform : PeerPlatform ℝ) (calls : List PeerCall)
    (ascending : calls.Pairwise (·.now ≤ ·.now)) :
    (StaysBelow platform create calls →
      (run platform pruneIdle create calls).1 = (run platform keepIdle create calls).1) ∧
    (EvictionFree platform pruneIdle create calls →
      ∀ kind principal first last, first ≤ last →
        (grantCount platform pruneIdle create calls kind principal first last : ℝ) ≤
          kind.capacity + kind.refillPerSecond * seconds (last - first)) := by
  constructor
  · intro below
    obtain ⟨start, -, forward⟩ := exists_start ascending 0
    have alike : Alike create create start :=
      ⟨create_tableKeeps start, create_tableKeeps start, rfl, List.Subset.refl _⟩
    exact alike.run ascending forward below
  · intro free kind principal first last ordered
    obtain ⟨start, before, forward⟩ := exists_start ascending first
    exact grantCount_le_capacity prunes_pruneIdle (create_tableKeeps start) ascending forward ordered free before

/-- A platform without loopback peers, rounding exactly. -/
noncomputable def remotePlatform : PeerPlatform ℝ := ⟨fun _ => false, fun level => ⌈level⌉₊⟩

/-- One request of a new peer. -/
theorem idle_pruning_exact_request :
    (run remotePlatform pruneIdle create [PeerCall.consume .httpRequest "10.0.0.1" 0]).1 =
        (run remotePlatform keepIdle create [PeerCall.consume .httpRequest "10.0.0.1" 0]).1 ∧
      (grantCount remotePlatform pruneIdle create
        [PeerCall.consume .httpRequest "10.0.0.1" 0] .httpRequest "10.0.0.1" 0 0 : ℝ) ≤
          TokenKind.capacity .httpRequest + TokenKind.refillPerSecond .httpRequest * seconds (0 - 0) := by
  have exact' := idle_pruning_exact remotePlatform [PeerCall.consume .httpRequest "10.0.0.1" 0] (List.pairwise_singleton ..)
  refine ⟨exact'.1 fun taken within => ?_, exact'.2 ⟨fun principal _ evicts => ?_, trivial⟩ .httpRequest _ 0 0 le_rfl⟩
  · obtain rfl | rfl : taken = [] ∨ taken = [PeerCall.consume .httpRequest "10.0.0.1" 0] := by
      obtain none | ⟨rest, same, within⟩ := List.prefix_cons_iff.mp within
      · exact .inl none
      · rw [List.prefix_nil.mp within] at same
        exact .inr same
    · decide
    · rw [PeerTrafficPolicy.run]
      decide
  · exact evicts.1 (.inr (by decide))

end BlobRoyale.Server
