import BlobRoyale.Server.EgressSystem
import BlobRoyale.Server.EgressWaiters
import BlobRoyale.Library.Transition

/-!
# What a call preserves of the egress budget

The accounts, the waiting queue and the rate bound of the ledger, kept by every call a session may
make; no call terminates or overflows the queue.
-/

namespace BlobRoyale.Server

open LeaseSlots SnapshotEgressBudget

namespace EgressSystem

/-- Waiting clients are unretired, and there are at most as many as sessions. -/
structure Waiting (budget : SnapshotEgressBudget) (clients : List ClientId) : Prop where
  orderly : budget.Orderly
  unretired : ∀ client ∈ budget.queue, client ∈ clients
  bounded : clients.length ≤ concurrentWebSocketMaximumCount

/-- The rate bound in terms of the ledger's own clock. -/
structure Rated (system : EgressSystem) : Prop where
  metered : system.budget.Metered
  clock : system.budget.lastRefill ≤ system.latest
  credited : system.creditedByteCount ≤ system.refundedByteCount
  balance : nanosecondsPerSecond * ((system.reservedByteCount : Int) - system.creditedByteCount) +
      system.budget.potential ≤
    nanosecondsPerSecond * snapshotEgressTokenBucketCapacityByteCount -
      snapshotEgressRefillByteCountPerSecond * system.createdAt

structure Sound (system : EgressSystem) : Prop where
  accounts : Accounts system.budget.activeByteCount system.budget.activeLeaseCount system.leases
  waiting : Waiting system.budget system.clients
  rated : system.Rated

def queueEvent : EgressAction → EgressOutcome → WaitQueue.Event ClientId
  | .tryReserve client _, .granted => .serve client
  | .tryReserve client _, .denied => .wait client
  | .cancelWaiter client, _ | .retire client, _ => .leave client
  | _, _ => .other

def Benign (outcome : EgressOutcome) : Prop :=
  outcome ≠ .faulted .terminated ∧ outcome ≠ .faulted waitersOverflow

variable {system : EgressSystem}

theorem create_sound (createdAt : Int) : (create createdAt).Sound where
  accounts := ⟨rfl, rfl, fun _ member => absurd member List.not_mem_nil, Nat.zero_le _, Nat.zero_le _⟩
  waiting := ⟨⟨Nat.zero_le _, List.nodup_nil⟩, fun _ member => absurd member List.not_mem_nil, Nat.zero_le _⟩
  rated := {
    metered := ⟨Nat.le_refl _, by exact Nat.zero_lt_succ _⟩
    clock := Int.le_refl _
    credited := Nat.le_refl _
    balance := by
      simp only [create, SnapshotEgressBudget.create, potential]
      omega }

theorem Sound.requeue (sound : system.Sound) {event : WaitQueue.Event ClientId} {budget : SnapshotEgressBudget}
    {clients : List ClientId} (requeued : system.budget.Requeues event budget)
    (unretired : ∀ client ∈ budget.queue, client ∈ clients)
    (bounded : clients.length ≤ concurrentWebSocketMaximumCount) :
    ({ system with budget := budget, clients := clients } : EgressSystem).Sound := by
  obtain ⟨accounts, waiting, ⟨metered, clock, credited, balance⟩⟩ := sound
  obtain ⟨elsewhere, queue, orderly⟩ := requeued
  refine ⟨?_, ⟨orderly, unretired, bounded⟩, ⟨?_, ?_, credited, ?_⟩⟩
  · rw [elsewhere]
    exact accounts
  · rw [elsewhere]
    exact ⟨metered.tokens, metered.fraction⟩
  · rw [elsewhere]
    exact clock
  · rw [elsewhere]
    exact balance

/-- A ledger call on a lease object: the actives settle, and the bucket gains at most what returns. -/
structure Settles (before after : SnapshotEgressBudget) (leases : List (Option SnapshotEgressLease))
    (returned : Nat) : Prop where
  accounts : Accounts after.activeByteCount after.activeLeaseCount leases
  waiters : after.waiters = before.waiters
  waiterCount : after.waiterCount = before.waiterCount
  lastRefill : after.lastRefill = before.lastRefill
  fraction : after.refillFractionNumerator = before.refillFractionNumerator
  metered : after.Metered
  grows : before.availableTokenByteCount ≤ after.availableTokenByteCount
  bounded : after.availableTokenByteCount ≤ before.availableTokenByteCount + returned

theorem Sound.settle (sound : system.Sound) {budget : SnapshotEgressBudget} {returned : Nat}
    {leases : List (Option SnapshotEgressLease)} (settles : Settles system.budget budget leases returned) :
    ({ system.refunded budget returned with leases := leases } : EgressSystem).Sound := by
  obtain ⟨_, ⟨orderly, unretired, sessions⟩, ⟨_, clock, credited, balance⟩⟩ := sound
  obtain ⟨accounts, waiters, waiterCount, lastRefill, fraction, metered, grows, bounded⟩ := settles
  have queue := queue_congr waiters waiterCount
  refine ⟨accounts, ⟨⟨waiterCount ▸ orderly.bounded, ?_⟩, ?_, sessions⟩, ⟨metered, ?_, ?_, ?_⟩⟩
  · exact queue.symm ▸ orderly.distinct
  · exact fun client member => unretired client (queue ▸ member)
  · exact lastRefill.symm ▸ clock
  · simp only [refunded]
    omega
  · simp only [refunded, potential, lastRefill, fraction, nanoseconds_eq, capacity_eq, rate_eq] at *
    omega

theorem Sound.refill (sound : system.Sound) (now : Int) :
    ({ system with
      budget := system.budget.refill now
      latest := max system.latest now } : EgressSystem).Sound := by
  obtain ⟨accounts, ⟨orderly, unretired, sessions⟩, ⟨metered, clock, credited, balance⟩⟩ := sound
  obtain ⟨bytes, count, waiters, waiterCount⟩ := refill_sameAdmissions system.budget now
  obtain ⟨refilled, drained, later⟩ := metered.refill now
  have queue := queue_congr waiters waiterCount
  refine ⟨?_, ⟨⟨waiterCount ▸ orderly.bounded, ?_⟩, ?_, sessions⟩, ⟨refilled, ?_, credited, ?_⟩⟩
  · dsimp only
    rw [bytes, count]
    exact accounts
  · exact queue.symm ▸ orderly.distinct
  · exact fun client member => unretired client (queue ▸ member)
  · exact le_trans later (max_le_max clock (le_refl now))
  · dsimp only
    omega

theorem Sound.grant (sound : system.Sound) (available : system.budget.exhausted = false) {reservation : Nat}
    (whole : reservation = snapshotEgressReservationByteCount) :
    ({ system with
      budget := system.budget.charge reservation
      leases := system.leases ++ [some ⟨reservation, false⟩]
      reservedByteCount := system.reservedByteCount + reservation } : EgressSystem).Sound := by
  obtain ⟨accounts, ⟨orderly, unretired, sessions⟩, ⟨metered, clock, credited, balance⟩⟩ := sound
  simp only [exhausted, ← whole, Bool.or_eq_false_iff, decide_eq_false_iff_not, Nat.not_lt,
    Nat.not_le] at available
  obtain ⟨⟨tokens, bytes⟩, count⟩ := available
  have room : system.budget.activeByteCount + reservation ≤ snapshotEgressActiveMaximumByteCount := by
    rw [activeMaximum_eq] at *
    rw [reservation_eq] at whole
    omega
  refine ⟨accounts.grant whole room count, ⟨⟨orderly.bounded, orderly.distinct⟩, unretired, sessions⟩,
    ⟨⟨le_trans (Nat.sub_le _ _) metered.tokens, metered.fraction⟩, clock, credited, ?_⟩⟩
  simp only [charge, potential, nanoseconds_eq, capacity_eq, rate_eq] at *
  omega

theorem cancel_spec (sound : system.Sound) (client : ClientId) :
    ∃ budget, system.cancel client = (.done, { system with budget := budget }) ∧
      system.budget.Requeues (.leave client) budget := by
  obtain ⟨budget, cancelled, requeued⟩ := cancelWaiter_spec sound.waiting.orderly client
  exact ⟨budget, by simp only [cancel, cancelled], requeued⟩

theorem Waiting.room {budget : SnapshotEgressBudget} {clients : List ClientId} {client : ClientId}
    (waiting : Waiting budget clients) (unretired : client ∈ clients) (absent : client ∉ budget.queue) :
    budget.waiterCount < concurrentWebSocketMaximumCount := by
  have distinct : (client :: budget.queue).Nodup := List.nodup_cons.mpr ⟨absent, waiting.orderly.distinct⟩
  have included : (client :: budget.queue) ⊆ clients := by
    intro other member
    obtain same | queued := List.mem_cons.mp member
    · exact same.symm ▸ unretired
    · exact waiting.unretired other queued
  have fits := (List.subperm_of_subset distinct included).length_le
  rw [List.length_cons, waiting.orderly.length_queue] at fits
  exact Nat.lt_of_lt_of_le fits waiting.bounded

theorem reserveRefilled_spec {budget : SnapshotEgressBudget} {clients : List ClientId} {client : ClientId}
    (waiting : Waiting budget clients) (unretired : client ∈ clients) :
    (∃ next, budget.reserveRefilled client = (.ok none, next) ∧ budget.Requeues (.wait client) next) ∨
    ∃ next reservation, reservation = snapshotEgressReservationByteCount ∧
      budget.reserveRefilled client = (.ok (some ⟨reservation, false⟩), next.charge reservation) ∧
      budget.exhausted = false ∧ budget.Requeues (.serve client) next := by
  obtain ⟨queued, enqueued, requeued⟩ := enqueueWaiter_spec waiting.orderly (waiting.room unretired)
  have denied : budget.deny client = (.ok none, queued) := by simp only [deny, enqueued]
  unfold reserveRefilled
  split
  · exact .inl ⟨queued, denied, requeued⟩
  · next front =>
    split
    · exact .inl ⟨queued, denied, requeued⟩
    · next available =>
      rw [Bool.not_eq_true] at available
      refine .inr ?_
      split
      · next nonempty =>
        have first : budget.waiterAt 0 = client := by
          by_contra other
          exact front ⟨nonempty, other⟩
        obtain ⟨next, removed, served⟩ := removeFront_spec waiting.orderly nonempty first
        exact ⟨next, _, rfl, by simp only [removed], available, served⟩
      · next empty =>
        have none : budget.queue = [] := by
          rw [queue, Nat.eq_zero_of_not_pos empty, List.take_zero]
        refine ⟨budget, _, rfl, rfl, available, rfl, ?_, waiting.orderly⟩
        rw [none]
        exact .serveDirect client

/-- What a call does to a sound system: it stays sound, nothing terminates, and the queue moves. -/
structure Performs (system : EgressSystem) (action : EgressAction) : Prop where
  sound : (system.perform action).2.Sound
  benign : Benign (system.perform action).1
  queue : WaitQueue.Step system.budget.queue (queueEvent action (system.perform action).1)
    (system.perform action).2.budget.queue
  createdAt : (system.perform action).2.createdAt = system.createdAt

theorem benign_done : Benign .done := ⟨by decide, by decide⟩
theorem benign_granted : Benign .granted := ⟨by decide, by decide⟩
theorem benign_denied : Benign .denied := ⟨by decide, by decide⟩

theorem performs_tryReserve (sound : system.Sound) {client : ClientId} (unretired : client ∈ system.clients)
    (now : Int) : system.Performs (.tryReserve client now) := by
  by_cases unregistered : client = 0
  · have result : system.perform (.tryReserve client now) =
        (.faulted unregisteredClient, { system with latest := max system.latest now }) := by
      simp only [perform, tryReserve, if_pos unregistered]
    obtain ⟨accounts, waiting, ⟨metered, clock, credited, balance⟩⟩ := sound
    constructor
    · rw [result]
      exact ⟨accounts, waiting, ⟨metered, le_trans clock (le_max_left _ _), credited, balance⟩⟩
    · have benign : Benign (.faulted unregisteredClient) := ⟨by decide, by decide⟩
      rw [result]
      exact benign
    · rw [result]
      exact .other
    · rw [result]
  · have refilled := sound.refill now
    have same : (system.budget.refill now).queue = system.budget.queue := by
      obtain ⟨_, _, waiters, waiterCount⟩ := refill_sameAdmissions system.budget now
      exact queue_congr waiters waiterCount
    have stays : ∀ {event : WaitQueue.Event ClientId} {next : SnapshotEgressBudget},
        (event = .wait client ∨ event = .serve client) → (system.budget.refill now).Requeues event next →
        ∀ other ∈ next.queue, other ∈ system.clients := by
      intro event next asks requeued other member
      obtain earlier | waits := requeued.queue.mem_before member
      · exact refilled.waiting.unretired other earlier
      · obtain asks | asks := asks
        · rw [asks] at waits
          cases waits
          exact unretired
        · rw [asks] at waits
          cases waits
    obtain ⟨next, reserved, requeued⟩ | ⟨next, reservation, whole, reserved, available, requeued⟩ :=
      reserveRefilled_spec refilled.waiting unretired
    · have result : system.perform (.tryReserve client now) =
          (.denied, { system with budget := next, latest := max system.latest now }) := by
        simp only [perform, tryReserve, if_neg unregistered, reserved]
      constructor
      · rw [result]
        exact refilled.requeue requeued (stays (.inl rfl) requeued) sound.waiting.bounded
      · rw [result]
        exact benign_denied
      · rw [result]
        exact same ▸ requeued.queue
      · rw [result]
    · have result : system.perform (.tryReserve client now) =
          (.granted, { system with
            budget := next.charge reservation
            latest := max system.latest now
            leases := system.leases ++ [some ⟨reservation, false⟩]
            reservedByteCount := system.reservedByteCount + reservation }) := by
        simp only [perform, tryReserve, if_neg unregistered, reserved]
      have requeuedSound := refilled.requeue requeued (stays (.inr rfl) requeued) sound.waiting.bounded
      have stillAvailable : next.exhausted = false := by
        rw [requeued.elsewhere]
        exact available
      constructor
      · rw [result]
        exact requeuedSound.grant stillAvailable whole
      · rw [result]
        exact benign_granted
      · rw [result]
        exact same ▸ requeued.queue
      · rw [result]

theorem performs_cancel (sound : system.Sound) (client : ClientId) :
    system.Performs (.cancelWaiter client) ∧ system.Performs (.retire client) := by
  obtain ⟨budget, cancelled, requeued⟩ := cancel_spec sound client
  have stays : ∀ other ∈ budget.queue, other ∈ system.clients := by
    intro other member
    obtain earlier | waits := requeued.queue.mem_before member
    · exact sound.waiting.unretired other earlier
    · cases waits
  have remains : ∀ other ∈ budget.queue, other ∈ system.clients.erase client := by
    intro other member
    have left : other ≠ client := by
      intro same
      have moved := requeued.queue
      have distinct := sound.waiting.orderly.distinct
      generalize budget.queue = after at moved member
      generalize system.budget.queue = before at moved distinct
      cases moved with
      | leave => exact (distinct.mem_erase_iff.mp member).1 same
    exact (List.mem_erase_of_ne left).mpr (stays other member)
  constructor
  · constructor
    · simp only [perform, cancelled]
      exact sound.requeue requeued stays sound.waiting.bounded
    · simp only [perform, cancelled]
      exact benign_done
    · simp only [perform, cancelled]
      exact requeued.queue
    · simp only [perform, cancelled]
  · constructor
    · simp only [perform, cancelled]
      exact sound.requeue requeued remains
        (le_trans (List.length_erase_le ..) sound.waiting.bounded)
    · simp only [perform, cancelled]
      exact benign_done
    · simp only [perform, cancelled]
      exact requeued.queue
    · simp only [perform, cancelled]

theorem release_settles (sound : system.Sound) (slot : Nat) :
    ∃ budget, system.budget.release (at? system.leases slot) = .ok budget ∧
      Settles system.budget budget (system.leases.set slot none)
        (returnedByteCount (at? system.leases slot)) := by
  have metered := sound.rated.metered
  obtain vacant | ⟨lease, _, holds⟩ := at?_eq_none_or system.leases slot
  · have unchanged : (held (system.leases.set slot none)).Perm (held system.leases) := by
      by_cases within : slot < system.leases.length
      · have traded := held_set within none
        rw [vacant] at traded
        exact traded
      · rw [List.set_eq_of_length_le (Nat.le_of_not_lt within)]
    rw [vacant]
    exact ⟨system.budget, rfl, sound.accounts.perm unchanged, rfl, rfl, rfl, rfl, metered, Nat.le_refl _,
      Nat.le_add_right _ _⟩
  · obtain ⟨positive, bounded, _⟩ := sound.accounts.owned lease (mem_held_of_at? holds)
    obtain ⟨covered, counted⟩ := sound.accounts.covers holds
    have vacated := sound.accounts.vacate holds
    have kept : ¬(lease.ownedByteCount = 0 ∨ system.budget.activeByteCount < lease.ownedByteCount ∨
        system.budget.activeLeaseCount = 0) := by omega
    rw [holds]
    refine ⟨_, by rw [release, releaseOwned, if_neg kept], ?_⟩
    rw [returnedByteCount]
    split
    · exact ⟨vacated, rfl, rfl, rfl, rfl, ⟨metered.tokens, metered.fraction⟩, Nat.le_refl _,
        Nat.le_add_right _ _⟩
    · obtain ⟨refunded, grows, credited⟩ := metered.refund bounded
      exact ⟨vacated, rfl, rfl, rfl, rfl, ⟨refunded.tokens, refunded.fraction⟩, grows, credited⟩

theorem releaseSlot_spec (sound : system.Sound) (slot : Nat) :
    ∃ next, system.releaseSlot slot = (.done, next) ∧ next.Sound ∧
      next.budget.queue = system.budget.queue ∧ next.createdAt = system.createdAt ∧
      next.leases = system.leases.set slot none := by
  obtain ⟨budget, released, settles⟩ := release_settles sound slot
  refine ⟨_, by simp only [releaseSlot, released], sound.settle settles, ?_, rfl, rfl⟩
  exact queue_congr settles.waiters settles.waiterCount

theorem performs_release (sound : system.Sound) (slot : Nat) : system.Performs (.release slot) := by
  obtain ⟨next, released, nextSound, queue, createdAt, _⟩ := releaseSlot_spec sound slot
  constructor
  · rw [perform, released]
    exact nextSound
  · rw [perform, released]
    exact benign_done
  · rw [perform, released, queue]
    exact .other
  · rw [perform, released]
    exact createdAt

theorem Sound.moved (sound : system.Sound) {leases : List (Option SnapshotEgressLease)}
    (moved : (held leases).Perm (held system.leases)) :
    ({ system with leases := leases } : EgressSystem).Sound := by
  obtain ⟨accounts, waiting, ⟨metered, clock, credited, balance⟩⟩ := sound
  exact ⟨accounts.perm moved, waiting, ⟨metered, clock, credited, balance⟩⟩

theorem performs_moveConstruct (sound : system.Sound) (source : Nat) :
    system.Performs (.moveConstruct source) where
  sound := sound.moved (held_moveConstruct system.leases source)
  benign := benign_done
  queue := .other
  createdAt := rfl

theorem performs_moveAssign (sound : system.Sound) {target source : Nat}
    (targetWithin : target < system.leases.length) (sourceWithin : source < system.leases.length) :
    system.Performs (.moveAssign target source) := by
  by_cases same : target = source
  · have result : system.perform (.moveAssign target source) = (.done, system) := by
      simp only [perform, if_pos same]
    constructor
    · rw [result]
      exact sound
    · rw [result]
      exact benign_done
    · rw [result]
      exact .other
    · rw [result]
  · obtain ⟨next, released, nextSound, queue, createdAt, leases⟩ := releaseSlot_spec sound target
    have result : system.perform (.moveAssign target source) =
        (.done, { next with leases := moveInto next.leases target source }) := by
      simp only [perform, if_neg same, released]
    have vacant : at? next.leases target = none := by
      rw [leases, at?_set _ targetWithin, if_pos rfl]
    have moved : (held (moveInto next.leases target source)).Perm (held next.leases) :=
      held_moveInto (by rwa [leases, List.length_set]) (by rwa [leases, List.length_set]) same vacant
    constructor
    · rw [result]
      exact nextSound.moved moved
    · rw [result]
      exact benign_done
    · rw [result]
      exact queue.symm ▸ .other
    · rw [result]
      exact createdAt

theorem commit_settles (sound : system.Sound) (slot encodedByteCount : Nat) :
    (∃ error, error ≠ waitersOverflow ∧ error ≠ .terminated ∧
      system.budget.commitEncodedBytes (at? system.leases slot) encodedByteCount = .error error) ∨
    ∃ committed budget, system.budget.commitEncodedBytes (at? system.leases slot) encodedByteCount =
        .ok (committed, budget) ∧
      Settles system.budget budget (system.leases.set slot (some committed))
        (unusedByteCount encodedByteCount (at? system.leases slot)) := by
  obtain vacant | ⟨lease, _, holds⟩ := at?_eq_none_or system.leases slot
  · rw [vacant]
    exact .inl ⟨_, by decide, by decide, rfl⟩
  · rw [holds]
    cases committed : lease.committed with
    | true =>
      refine .inl ⟨commitEncodedBytes.inactiveCommit, by decide, by decide, ?_⟩
      simp only [commitEncodedBytes, committed, if_true]
    | false =>
      by_cases refused : lease.ownedByteCount ≠ snapshotEgressReservationByteCount ∨ encodedByteCount = 0 ∨
          lease.ownedByteCount < encodedByteCount ∨ system.budget.activeByteCount < lease.ownedByteCount
      · refine .inl ⟨.thrown ⟨.sessionInvariantFailed, "snapshot_egress.encoded_bytes",
          "encoded payload violates its global egress reservation"⟩, by decide, by decide, ?_⟩
        simp only [commitEncodedBytes, committed, Bool.false_eq_true, if_false, commitEncoding,
          if_pos refused]
      · have within : encodedByteCount ≤ lease.ownedByteCount := by omega
        have bounded : lease.ownedByteCount - encodedByteCount ≤ snapshotEgressReservationByteCount :=
          le_trans (Nat.sub_le _ _) (sound.accounts.owned lease (mem_held_of_at? holds)).2.1
        obtain ⟨metered, grows, credited⟩ := sound.rated.metered.refund bounded
        have accepted : system.budget.commitEncodedBytes (some lease) encodedByteCount =
            .ok (⟨encodedByteCount, true⟩, { system.budget with
              activeByteCount := system.budget.activeByteCount -
                (lease.ownedByteCount - encodedByteCount) }.refund (lease.ownedByteCount - encodedByteCount)) := by
          simp only [commitEncodedBytes, committed, Bool.false_eq_true, if_false, commitEncoding,
            if_neg refused]
        exact .inr ⟨_, _, accepted, sound.accounts.commit holds (by omega) within,
          rfl, rfl, rfl, rfl, ⟨metered.tokens, metered.fraction⟩, grows, credited⟩

theorem performs_commit (sound : system.Sound) (slot encodedByteCount : Nat) :
    system.Performs (.commitEncodedBytes slot encodedByteCount) := by
  obtain ⟨error, overflow, terminated, refused⟩ | ⟨committed, budget, accepted, settles⟩ :=
    commit_settles sound slot encodedByteCount
  · have result : system.perform (.commitEncodedBytes slot encodedByteCount) = (.faulted error, system) := by
      simp only [perform, refused]
    constructor
    · rw [result]
      exact sound
    · rw [result]
      exact ⟨fun same => terminated (EgressOutcome.faulted.inj same),
        fun same => overflow (EgressOutcome.faulted.inj same)⟩
    · rw [result]
      exact .other
    · rw [result]
  · have result : system.perform (.commitEncodedBytes slot encodedByteCount) = (.done,
        { system.refunded budget (unusedByteCount encodedByteCount (at? system.leases slot)) with
          leases := system.leases.set slot (some committed) }) := by
      simp only [perform, accepted]
    have queue := queue_congr settles.waiters settles.waiterCount
    constructor
    · rw [result]
      exact sound.settle settles
    · rw [result]
      exact benign_done
    · rw [result]
      exact queue.symm ▸ .other
    · rw [result]
      rfl

theorem performs (sound : system.Sound) {action : EgressAction} (permitted : system.Permits action) :
    system.Performs action := by
  cases action with
  | connect client =>
    obtain ⟨accounts, ⟨orderly, unretired, _⟩, ⟨metered, clock, credited, balance⟩⟩ := sound
    exact ⟨⟨accounts, ⟨orderly, fun other queued => List.mem_cons_of_mem _ (unretired other queued),
      permitted.2⟩, ⟨metered, clock, credited, balance⟩⟩, benign_done, .other, rfl⟩
  | tryReserve client now => exact performs_tryReserve sound permitted now
  | cancelWaiter client => exact (performs_cancel sound client).1
  | retire client => exact (performs_cancel sound client).2
  | commitEncodedBytes slot encodedByteCount => exact performs_commit sound slot encodedByteCount
  | moveConstruct source => exact performs_moveConstruct sound source
  | moveAssign target source => exact performs_moveAssign sound permitted.1 permitted.2
  | release slot => exact performs_release sound slot

end EgressSystem

end BlobRoyale.Server

/-!
# Conservation of the egress budget

Over every run of session calls, each byte in flight is owned by one active lease, what was reserved
and not refunded stays under the bucket's capacity plus its refill rate, lost fractions included, and
the waiting sessions are served in arrival order.
-/

namespace BlobRoyale.Server.EgressSystem

open LeaseSlots SnapshotEgressBudget Transition

/-- The ledger agrees with its leases, and stays under its caps and its rate. -/
structure Conserved (createdAt : Int) (system : EgressSystem) : Prop where
  activeBytes : system.budget.activeByteCount =
    ((held system.leases).map SnapshotEgressLease.ownedByteCount).sum
  activeLeases : system.budget.activeLeaseCount = (held system.leases).length
  activeBound : system.budget.activeByteCount ≤ snapshotEgressActiveMaximumByteCount
  tokenBound : system.budget.availableTokenByteCount ≤ snapshotEgressTokenBucketCapacityByteCount
  distinct : system.budget.queue.Nodup
  products : ∀ now, ∀ value ∈ system.budget.refillIntermediates now, value ≤ 2 ^ 64 - 1
  rate : nanosecondsPerSecond * ((system.reservedByteCount : Int) - system.refundedByteCount) +
      nanosecondsPerSecond * system.budget.availableTokenByteCount + system.budget.refillFractionNumerator ≤
    nanosecondsPerSecond * snapshotEgressTokenBucketCapacityByteCount +
      snapshotEgressRefillByteCountPerSecond * (system.latest - createdAt)
  /-- The same counting only what a refund put back into the bucket. -/
  creditedRate : nanosecondsPerSecond * ((system.reservedByteCount : Int) - system.creditedByteCount) +
      nanosecondsPerSecond * system.budget.availableTokenByteCount + system.budget.refillFractionNumerator ≤
    nanosecondsPerSecond * snapshotEgressTokenBucketCapacityByteCount +
      snapshotEgressRefillByteCountPerSecond * (system.latest - createdAt)

theorem Sound.conserved {system : EgressSystem} (sound : system.Sound) : system.Conserved system.createdAt := by
  obtain ⟨accounts, ⟨orderly, _, _⟩, ⟨metered, clock, credited, balance⟩⟩ := sound
  refine ⟨accounts.bytes, accounts.count, accounts.bytesBound, metered.tokens, orderly.distinct,
    metered.refillIntermediates, ?_, ?_⟩
  · simp only [potential, nanoseconds_eq, capacity_eq, rate_eq] at *
    omega
  · simp only [potential, nanoseconds_eq, capacity_eq, rate_eq] at *
    omega

def Grants (system : EgressSystem) (action : EgressAction) (client : ClientId) : Prop :=
  (system.perform action).1 = .granted ∧ ∃ now, action = .tryReserve client now

theorem queueEvent_serve {action : EgressAction} {outcome : EgressOutcome} {client : ClientId}
    (serves : queueEvent action outcome = .serve client) :
    outcome = .granted ∧ ∃ now, action = .tryReserve client now := by
  cases action with
  | tryReserve other now =>
    cases outcome with
    | granted =>
      cases serves
      exact ⟨rfl, now, rfl⟩
    | denied => cases serves
    | done => cases serves
    | faulted _ => cases serves
  | connect _ | cancelWaiter _ | retire _ | commitEncodedBytes _ _ | moveConstruct _ | moveAssign _ _
  | release _ => cases serves

theorem queueEvent_leave {action : EgressAction} {outcome : EgressOutcome} {client : ClientId}
    (leaves : queueEvent action outcome = .leave client) :
    action = .cancelWaiter client ∨ action = .retire client := by
  cases action with
  | tryReserve _ _ => cases outcome <;> cases leaves
  | cancelWaiter _ =>
    cases leaves
    exact .inl rfl
  | retire _ =>
    cases leaves
    exact .inr rfl
  | connect _ | commitEncodedBytes _ _ | moveConstruct _ | moveAssign _ _ | release _ => cases leaves

section Runs

variable {createdAt : Int} {length : Nat}

theorem run_sound (run : Run Step length) (start : run.state 0 = create createdAt) :
    ∀ position, position ≤ length →
      (run.state position).Sound ∧ (run.state position).createdAt = createdAt := by
  refine run.invariant (P := fun system => system.Sound ∧ system.createdAt = createdAt) ?_ ?_
  · rw [start]
    exact ⟨create_sound createdAt, rfl⟩
  · intro system action next holds step
    obtain ⟨permitted, result⟩ := step
    have performed := performs holds.1 permitted
    rw [result]
    exact ⟨performed.sound, performed.createdAt.trans holds.2⟩

def waitRun (run : Run Step length) (start : run.state 0 = create createdAt) :
    Run (@WaitQueue.Step ClientId _) length where
  state position := (run.state position).budget.queue
  label position := queueEvent (run.label position) ((run.state position).perform (run.label position)).1
  steps position within := by
    obtain ⟨permitted, result⟩ := run.steps position within
    have sound := (run_sound run start position (Nat.le_of_lt within)).1
    rw [result]
    exact (performs sound permitted).queue

/-- Every call keeps the ledger conserved and terminates nothing; a denied client waits at the back,
a granted one came from the front, and nobody overtakes whoever waited earlier. -/
theorem egress_budget_conservation (run : Run Step length) (start : run.state 0 = create createdAt) :
    (∀ position, position ≤ length → (run.state position).Conserved createdAt) ∧
    (∀ position, position < length →
      Benign ((run.state position).perform (run.label position)).1 ∧
      WaitQueue.Step (run.state position).budget.queue
        (queueEvent (run.label position) ((run.state position).perform (run.label position)).1)
        (run.state (position + 1)).budget.queue) ∧
    ∀ first last ahead behind, first ≤ last → last < length →
      WaitQueue.Precedes ahead behind (run.state first).budget.queue →
      (run.state last).Grants (run.label last) behind →
      ∃ position, first ≤ position ∧ position < last ∧
        ((run.state position).Grants (run.label position) ahead ∨
          run.label position = .cancelWaiter ahead ∨ run.label position = .retire ahead) := by
  have reached := run_sound run start
  refine ⟨?_, ?_, ?_⟩
  · intro position within
    obtain ⟨sound, createdAt⟩ := reached position within
    exact createdAt ▸ sound.conserved
  · intro position within
    obtain ⟨permitted, result⟩ := run.steps position within
    have performed := performs (reached position (Nat.le_of_lt within)).1 permitted
    rw [result]
    exact ⟨performed.benign, performed.queue⟩
  · intro first last ahead behind ordered within precedes grants
    obtain ⟨outcome, now, action⟩ := grants
    have served : (waitRun run start).label last = .serve behind := by
      change queueEvent (run.label last) ((run.state last).perform (run.label last)).1 = .serve behind
      rw [outcome, action]
      rfl
    have distinct : ((waitRun run start).state 0).Nodup :=
      (reached 0 (Nat.zero_le _)).1.waiting.orderly.distinct
    obtain ⟨position, lower, upper, serves | leaves⟩ :=
      WaitQueue.served_in_order (waitRun run start) distinct ordered within precedes served
    · exact ⟨position, lower, upper, .inl (queueEvent_serve serves)⟩
    · exact ⟨position, lower, upper, .inr (queueEvent_leave leaves)⟩

/-- A session connects, reserves, commits 100 bytes and releases. -/
def oneDelivery : Nat → EgressAction
  | 0 => .connect 7
  | 1 => .tryReserve 7 5
  | 2 => .commitEncodedBytes 0 100
  | _ => .release 0

def oneDeliveryRun : Run Step 4 where
  state := trajectory (fun system action => (system.perform action).2) (create 0) oneDelivery
  label := oneDelivery
  steps position within := by
    refine ⟨?_, rfl⟩
    obtain first | second | third | fourth : position = 0 ∨ position = 1 ∨ position = 2 ∨ position = 3 := by
      omega
    · subst first
      exact ⟨List.not_mem_nil, Nat.zero_lt_succ _⟩
    · subst second
      exact List.mem_cons_self
    · subst third
      trivial
    · subst fourth
      trivial

theorem egress_budget_conservation_delivery : (oneDeliveryRun.state 4).Conserved 0 :=
  (egress_budget_conservation oneDeliveryRun rfl).1 4 (Nat.le_refl 4)

end Runs

end BlobRoyale.Server.EgressSystem
