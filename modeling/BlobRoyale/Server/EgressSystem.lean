import Mathlib.Algebra.Order.Ring.Int
import BlobRoyale.Server.SnapshotEgressBudget

/-!
# The bucket and the accounts of the egress budget

The byte bucket never gives out more than its rate, and none of its products leaves `size_t`. The
bytes and leases in flight are totals over the active lease objects.
-/

namespace BlobRoyale.Server

open LeaseSlots

namespace SnapshotEgressBudget

variable {budget : SnapshotEgressBudget}

/-- The bucket's own bounds: its tokens under capacity, its carried fraction under one byte. -/
structure Metered (budget : SnapshotEgressBudget) : Prop where
  tokens : budget.availableTokenByteCount ≤ snapshotEgressTokenBucketCapacityByteCount
  fraction : budget.refillFractionNumerator < nanosecondsPerSecond

/-- What the bucket could still give out, counted back to time zero, in byte nanoseconds. -/
def potential (budget : SnapshotEgressBudget) : Int :=
  nanosecondsPerSecond * budget.availableTokenByteCount + budget.refillFractionNumerator -
    snapshotEgressRefillByteCountPerSecond * budget.lastRefill

theorem capacity_eq : snapshotEgressTokenBucketCapacityByteCount = 16777216 := rfl
theorem rate_eq : snapshotEgressRefillByteCountPerSecond = 67108864 := rfl
theorem nanoseconds_eq : nanosecondsPerSecond = 1000000000 := rfl
theorem reservation_eq : snapshotEgressReservationByteCount = 2097152 := rfl
theorem activeMaximum_eq : snapshotEgressActiveMaximumByteCount = 16777216 := rfl

theorem Metered.missingByteCount (metered : budget.Metered) :
    budget.missingByteCount = 16777216 - budget.availableTokenByteCount := by
  have tokens := metered.tokens
  simp only [SnapshotEgressBudget.missingByteCount, sizeT, capacity_eq] at *
  omega

theorem Metered.nanosecondsToFull (metered : budget.Metered) :
    budget.nanosecondsToFull =
      ((16777216 - budget.availableTokenByteCount) * 1000000000 + 67108863) / 67108864 := by
  have tokens := metered.tokens
  simp only [SnapshotEgressBudget.nanosecondsToFull, fullNumerator, sizeT, metered.missingByteCount,
    capacity_eq, rate_eq, nanoseconds_eq] at *
  omega

theorem Metered.refillNumerator (metered : budget.Metered) {elapsed : Nat}
    (short : elapsed < budget.nanosecondsToFull) :
    budget.refillNumerator elapsed = elapsed * 67108864 + budget.refillFractionNumerator ∧
      budget.refillNumerator elapsed < 9223372036854775808 := by
  have fraction := metered.fraction
  have same : budget.refillNumerator elapsed = elapsed * 67108864 + budget.refillFractionNumerator := rfl
  rw [metered.nanosecondsToFull] at short
  rw [nanoseconds_eq] at fraction
  refine ⟨same, ?_⟩
  rw [same]
  omega

/-- No product of a refill, and no sum over one, leaves `size_t`. -/
theorem Metered.refillIntermediates (metered : budget.Metered) (now : Int) :
    ∀ value ∈ budget.refillIntermediates now, value ≤ 2 ^ 64 - 1 := by
  have tokens := metered.tokens
  intro value member
  unfold SnapshotEgressBudget.refillIntermediates at member
  split at member
  · exact absurd member List.not_mem_nil
  · dsimp only at member
    obtain early | late := List.mem_append.mp member
    · simp only [metered.missingByteCount, rate_eq, nanoseconds_eq, capacity_eq, List.mem_cons,
        List.not_mem_nil, or_false] at early tokens
      omega
    · split at late
      · exact absurd late List.not_mem_nil
      · next short =>
        obtain ⟨same, bounded⟩ := metered.refillNumerator (Nat.lt_of_not_le short)
        have product : (now - budget.lastRefill).toNat * 67108864 ≤
            budget.refillNumerator (now - budget.lastRefill).toNat := by omega
        simp only [sizeT, rate_eq, nanoseconds_eq, capacity_eq, List.mem_cons, List.not_mem_nil,
          or_false] at late tokens
        omega

/-- A refill touches the bucket only, never gives out more than the rate, and keeps the fraction. -/
theorem Metered.refill (metered : budget.Metered) (now : Int) :
    (budget.refill now).Metered ∧ (budget.refill now).potential ≤ budget.potential ∧
      (budget.refill now).lastRefill ≤ max budget.lastRefill now := by
  have tokens := metered.tokens
  have fraction := metered.fraction
  unfold SnapshotEgressBudget.refill
  split
  · split
    · next later =>
      refine ⟨⟨tokens, by rw [nanoseconds_eq]; exact Nat.zero_lt_succ _⟩, ?_, le_max_right _ _⟩
      simp only [potential, rate_eq, nanoseconds_eq]
      omega
    · exact ⟨metered, le_refl _, le_max_left _ _⟩
  · dsimp only
    split
    · exact ⟨metered, le_refl _, le_max_left _ _⟩
    · split
      · next full =>
        refine ⟨⟨le_refl _, by rw [nanoseconds_eq]; exact Nat.zero_lt_succ _⟩, ?_, le_max_right _ _⟩
        rw [metered.nanosecondsToFull] at full
        simp only [potential, rate_eq, nanoseconds_eq, capacity_eq] at *
        omega
      · next short =>
        obtain ⟨same, bounded⟩ := metered.refillNumerator (Nat.lt_of_not_le short)
        have fits : sizeT (budget.refillNumerator (now - budget.lastRefill).toNat) =
            budget.refillNumerator (now - budget.lastRefill).toNat := Nat.mod_eq_of_lt (by omega)
        refine ⟨⟨min_le_left _ _, Nat.mod_lt _ (by rw [nanoseconds_eq]; exact Nat.zero_lt_succ _)⟩,
          ?_, le_max_right _ _⟩
        rw [fits]
        simp only [potential, sizeT, rate_eq, nanoseconds_eq, capacity_eq] at *
        omega

/-- What neither the bucket nor its clock is. -/
structure SameAdmissions (budget next : SnapshotEgressBudget) : Prop where
  activeByteCount : next.activeByteCount = budget.activeByteCount
  activeLeaseCount : next.activeLeaseCount = budget.activeLeaseCount
  waiters : next.waiters = budget.waiters
  waiterCount : next.waiterCount = budget.waiterCount

theorem refill_sameAdmissions (budget : SnapshotEgressBudget) (now : Int) :
    budget.SameAdmissions (budget.refill now) := by
  unfold SnapshotEgressBudget.refill
  split
  · split
    · exact ⟨rfl, rfl, rfl, rfl⟩
    · exact ⟨rfl, rfl, rfl, rfl⟩
  · dsimp only
    split
    · exact ⟨rfl, rfl, rfl, rfl⟩
    · split
      · exact ⟨rfl, rfl, rfl, rfl⟩
      · exact ⟨rfl, rfl, rfl, rfl⟩

/-- A refund of at most one reservation credits the bucket what fits under its capacity. -/
theorem Metered.refund (metered : budget.Metered) {byteCount : Nat}
    (bounded : byteCount ≤ snapshotEgressReservationByteCount) :
    (budget.refund byteCount).Metered ∧
      budget.availableTokenByteCount ≤ (budget.refund byteCount).availableTokenByteCount ∧
      (budget.refund byteCount).availableTokenByteCount ≤ budget.availableTokenByteCount + byteCount := by
  have tokens := metered.tokens
  have sum : sizeT (budget.availableTokenByteCount + byteCount) = budget.availableTokenByteCount + byteCount := by
    rw [capacity_eq] at tokens
    rw [reservation_eq] at bounded
    exact Nat.mod_eq_of_lt (by omega)
  simp only [SnapshotEgressBudget.refund, sum]
  exact ⟨⟨min_le_left _ _, metered.fraction⟩, le_min tokens (Nat.le_add_right _ _), min_le_right _ _⟩

end SnapshotEgressBudget

section Accounts

open SnapshotEgressBudget (reservation_eq)

/-- The bytes and leases in flight are those the active lease objects own. -/
structure Accounts (activeByteCount activeLeaseCount : Nat) (leases : List (Option SnapshotEgressLease)) :
    Prop where
  bytes : activeByteCount = ((held leases).map SnapshotEgressLease.ownedByteCount).sum
  count : activeLeaseCount = (held leases).length
  owned : ∀ lease ∈ held leases, 0 < lease.ownedByteCount ∧
    lease.ownedByteCount ≤ snapshotEgressReservationByteCount ∧
    (lease.committed = false → lease.ownedByteCount = snapshotEgressReservationByteCount)
  bytesBound : activeByteCount ≤ snapshotEgressActiveMaximumByteCount
  countBound : activeLeaseCount ≤ concurrentWebSocketMaximumCount

variable {activeByteCount activeLeaseCount slot : Nat} {leases next : List (Option SnapshotEgressLease)}
  {lease : SnapshotEgressLease}

theorem Accounts.perm (accounts : Accounts activeByteCount activeLeaseCount leases)
    (moved : (held next).Perm (held leases)) : Accounts activeByteCount activeLeaseCount next where
  bytes := accounts.bytes.trans (moved.map _).sum_eq.symm
  count := accounts.count.trans moved.length_eq.symm
  owned := fun lease member => accounts.owned lease (moved.mem_iff.mp member)
  bytesBound := accounts.bytesBound
  countBound := accounts.countBound

theorem Accounts.grant (accounts : Accounts activeByteCount activeLeaseCount leases) {reservation : Nat}
    (whole : reservation = snapshotEgressReservationByteCount)
    (bytes : activeByteCount + reservation ≤ snapshotEgressActiveMaximumByteCount)
    (count : activeLeaseCount < concurrentWebSocketMaximumCount) :
    Accounts (activeByteCount + reservation) (activeLeaseCount + 1)
      (leases ++ [some ⟨reservation, false⟩]) where
  bytes := by simp [accounts.bytes]
  count := by simp [accounts.count]
  owned := by
    intro lease member
    rw [held_concat] at member
    obtain earlier | new := List.mem_append.mp member
    · exact accounts.owned lease earlier
    · cases Option.mem_toList.mp new
      rw [whole]
      exact ⟨by rw [reservation_eq]; exact Nat.zero_lt_succ _, le_refl _, fun _ => rfl⟩
  bytesBound := bytes
  countBound := count

theorem Accounts.covers (accounts : Accounts activeByteCount activeLeaseCount leases)
    (holds : at? leases slot = some lease) :
    lease.ownedByteCount ≤ activeByteCount ∧ 0 < activeLeaseCount := by
  have vacated := held_vacate holds
  have bytes := (vacated.map SnapshotEgressLease.ownedByteCount).sum_eq
  have count := vacated.length_eq
  rw [List.map_cons, List.sum_cons, ← accounts.bytes] at bytes
  rw [List.length_cons, ← accounts.count] at count
  omega

theorem Accounts.vacate (accounts : Accounts activeByteCount activeLeaseCount leases)
    (holds : at? leases slot = some lease) :
    Accounts (activeByteCount - lease.ownedByteCount) (activeLeaseCount - 1) (leases.set slot none) := by
  have vacated := held_vacate holds
  have bytes := (vacated.map SnapshotEgressLease.ownedByteCount).sum_eq
  have count := vacated.length_eq
  rw [List.map_cons, List.sum_cons, ← accounts.bytes] at bytes
  rw [List.length_cons, ← accounts.count] at count
  have bytesBound := accounts.bytesBound
  have countBound := accounts.countBound
  exact ⟨by omega, by omega,
    fun other member => accounts.owned other (vacated.mem_iff.mp (List.mem_cons_of_mem _ member)),
    by omega, by omega⟩

theorem Accounts.commit (accounts : Accounts activeByteCount activeLeaseCount leases) {encodedByteCount : Nat}
    (holds : at? leases slot = some lease) (positive : 0 < encodedByteCount)
    (within : encodedByteCount ≤ lease.ownedByteCount) :
    Accounts (activeByteCount - (lease.ownedByteCount - encodedByteCount)) activeLeaseCount
      (leases.set slot (some ⟨encodedByteCount, true⟩)) := by
  have replaced := held_replace holds ⟨encodedByteCount, true⟩
  have bytes := (replaced.map SnapshotEgressLease.ownedByteCount).sum_eq
  have count := replaced.length_eq
  rw [List.map_cons, List.map_cons, List.sum_cons, List.sum_cons, ← accounts.bytes] at bytes
  rw [List.length_cons, List.length_cons, ← accounts.count] at count
  have bytesBound := accounts.bytesBound
  have covered := (accounts.covers holds).1
  have reserved := (accounts.owned lease (mem_held_of_at? holds)).2.1
  refine ⟨by simp only at bytes; omega, by omega, ?_, by omega, accounts.countBound⟩
  intro other member
  obtain new | earlier := List.mem_cons.mp (replaced.mem_iff.mp (List.mem_cons_of_mem _ member))
  · subst new
    refine ⟨positive, le_trans within reserved, ?_⟩
    intro impossible
    cases impossible
  · exact accounts.owned other earlier

end Accounts

end BlobRoyale.Server

/-!
# The egress budget under its sessions

The ledger with every lease object taken from it, and the calls sessions make on both at arbitrary
time points.
-/

namespace BlobRoyale.Server

open LeaseSlots

/-- The ledger, its lease objects and the unretired clients, with the time presented last and the
bytes reserved, refunded, and credited to the bucket by a refund so far. -/
structure EgressSystem where
  budget : SnapshotEgressBudget
  leases : List (Option SnapshotEgressLease)
  clients : List ClientId
  createdAt : Int
  latest : Int
  reservedByteCount : Nat
  refundedByteCount : Nat
  creditedByteCount : Nat

inductive EgressAction where
  | connect (client : ClientId)
  | tryReserve (client : ClientId) (now : Int)
  | cancelWaiter (client : ClientId)
  | retire (client : ClientId)
  | commitEncodedBytes (slot encodedByteCount : Nat)
  | moveConstruct (source : Nat)
  | moveAssign (target source : Nat)
  | release (slot : Nat)

inductive EgressOutcome where
  | done
  | granted
  | denied
  | faulted (fault : EgressFault)
  deriving DecidableEq, Repr

namespace EgressSystem

def create (createdAt : Int) : EgressSystem where
  budget := .create createdAt
  leases := []
  clients := []
  createdAt := createdAt
  latest := createdAt
  reservedByteCount := 0
  refundedByteCount := 0
  creditedByteCount := 0

def refunded (system : EgressSystem) (budget : SnapshotEgressBudget) (byteCount : Nat) : EgressSystem :=
  { system with
    budget := budget
    refundedByteCount := system.refundedByteCount + byteCount
    creditedByteCount := system.creditedByteCount +
      (budget.availableTokenByteCount - system.budget.availableTokenByteCount) }

/-- What releasing a lease object returns to the bucket. -/
def returnedByteCount : Option SnapshotEgressLease → Nat
  | some lease => if lease.committed then 0 else lease.ownedByteCount
  | none => 0

/-- What committing an encoding leaves unused of a lease object. -/
def unusedByteCount (encodedByteCount : Nat) : Option SnapshotEgressLease → Nat
  | some lease => lease.ownedByteCount - encodedByteCount
  | none => 0

def releaseSlot (system : EgressSystem) (slot : Nat) : EgressOutcome × EgressSystem :=
  let lease := at? system.leases slot
  match system.budget.release lease with
  | .error fault => (.faulted fault, system)
  | .ok budget => (.done, { system.refunded budget (returnedByteCount lease) with
      leases := system.leases.set slot none })

def cancel (system : EgressSystem) (client : ClientId) : EgressOutcome × EgressSystem :=
  match system.budget.cancelWaiter client with
  | .error fault => (.faulted fault, system)
  | .ok budget => (.done, { system with budget := budget })

def perform (system : EgressSystem) : EgressAction → EgressOutcome × EgressSystem
  | .connect client => (.done, { system with clients := client :: system.clients })
  | .tryReserve client now =>
      let presented := { system with latest := max system.latest now }
      match system.budget.tryReserve client now with
      | (.error fault, budget) => (.faulted fault, { presented with budget := budget })
      | (.ok none, budget) => (.denied, { presented with budget := budget })
      | (.ok (some lease), budget) => (.granted, { presented with
          budget := budget
          leases := system.leases ++ [some lease]
          reservedByteCount := system.reservedByteCount + lease.ownedByteCount })
  | .cancelWaiter client => system.cancel client
  | .retire client =>
      let (outcome, next) := system.cancel client
      (outcome, { next with clients := next.clients.erase client })
  | .commitEncodedBytes slot encodedByteCount =>
      let lease := at? system.leases slot
      match system.budget.commitEncodedBytes lease encodedByteCount with
      | .error fault => (.faulted fault, system)
      | .ok (committed, budget) =>
          (.done, { system.refunded budget (unusedByteCount encodedByteCount lease) with
            leases := system.leases.set slot (some committed) })
  | .moveConstruct source => (.done, { system with leases := moveConstruct system.leases source })
  | .moveAssign target source =>
      if target = source then (.done, system)
      else
        let (outcome, released) := system.releaseSlot target
        (outcome, { released with leases := moveInto released.leases target source })
  | .release slot => system.releaseSlot slot

/-- What the sessions of the event loop may call: a new client stays within the session bound, only
an unretired client asks for a reservation, and an assignment is between existing objects. -/
def Permits (system : EgressSystem) : EgressAction → Prop
  | .connect client =>
      client ∉ system.clients ∧ system.clients.length < concurrentWebSocketMaximumCount
  | .tryReserve client _ => client ∈ system.clients
  | .moveAssign target source => target < system.leases.length ∧ source < system.leases.length
  | .cancelWaiter _ | .retire _ | .commitEncodedBytes _ _ | .moveConstruct _ | .release _ => True

def Step (system : EgressSystem) (action : EgressAction) (next : EgressSystem) : Prop :=
  system.Permits action ∧ next = (system.perform action).2

end EgressSystem

end BlobRoyale.Server
