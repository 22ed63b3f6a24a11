import Mathlib.Data.Nat.Notation
import BlobRoyale.Library.LeaseSlots

/-!
# The snapshot egress budget

The event loop's ledger of encoded payloads: a byte bucket that refills with a carried fraction, a
cap on the bytes in flight, and a queue of sessions waiting for a reservation in a fixed array.
`size_t` results that nothing bounds beforehand are taken modulo `2^64`; time points count
nanoseconds.
-/

namespace BlobRoyale.Server

def nanosecondsPerSecond : Nat := 1000000000
def concurrentWebSocketMaximumCount : Nat := 32
def snapshotFrameMaximumByteCount : Nat := 2097152
def snapshotEgressReservationByteCount : Nat := snapshotFrameMaximumByteCount
def snapshotEgressActiveMaximumByteCount : Nat := 8 * snapshotEgressReservationByteCount
def snapshotEgressTokenBucketCapacityByteCount : Nat := snapshotEgressActiveMaximumByteCount
def snapshotEgressRefillByteCountPerSecond : Nat := 32 * snapshotEgressReservationByteCount

abbrev ClientId := Nat

/-- A `size_t` result. -/
def sizeT (value : Nat) : Nat := value % 2 ^ 64

inductive GameServerErrorCode where
  | sessionInvariantFailed
  deriving DecidableEq, Repr

structure GameServerError where
  code : GameServerErrorCode
  context : String
  detail : String
  deriving DecidableEq, Repr

/-- How a call on the ledger fails: an exception, or `std::terminate`. -/
inductive EgressFault where
  | thrown (error : GameServerError)
  | terminated
  deriving DecidableEq, Repr

/-- What an active lease holds. -/
structure SnapshotEgressLease where
  ownedByteCount : Nat
  committed : Bool
  deriving DecidableEq, Repr

structure SnapshotEgressBudget where
  lastRefill : Int
  availableTokenByteCount : Nat
  refillFractionNumerator : Nat
  activeByteCount : Nat
  activeLeaseCount : Nat
  waiters : Vector ClientId concurrentWebSocketMaximumCount
  waiterCount : Nat
  deriving DecidableEq

namespace SnapshotEgressBudget

def create (createdAt : Int) : SnapshotEgressBudget where
  lastRefill := createdAt
  availableTokenByteCount := snapshotEgressTokenBucketCapacityByteCount
  refillFractionNumerator := 0
  activeByteCount := 0
  activeLeaseCount := 0
  waiters := .replicate _ 0
  waiterCount := 0

section Refill

/-- `missing`. -/
def missingByteCount (budget : SnapshotEgressBudget) : Nat :=
  sizeT (snapshotEgressTokenBucketCapacityByteCount + 2 ^ 64 - budget.availableTokenByteCount)

/-- The numerator of `nanoseconds_to_full`, before it wraps. -/
def fullNumerator (budget : SnapshotEgressBudget) : Nat :=
  budget.missingByteCount * nanosecondsPerSecond + snapshotEgressRefillByteCountPerSecond - 1

def nanosecondsToFull (budget : SnapshotEgressBudget) : Nat :=
  sizeT budget.fullNumerator / snapshotEgressRefillByteCountPerSecond

/-- `numerator`, before it wraps. -/
def refillNumerator (budget : SnapshotEgressBudget) (elapsed : Nat) : Nat :=
  elapsed * snapshotEgressRefillByteCountPerSecond + budget.refillFractionNumerator

def refill (budget : SnapshotEgressBudget) (now : Int) : SnapshotEgressBudget :=
  if now ≤ budget.lastRefill ∨
      budget.availableTokenByteCount = snapshotEgressTokenBucketCapacityByteCount then
    if budget.lastRefill < now then { budget with lastRefill := now, refillFractionNumerator := 0 }
    else budget
  else
    let elapsed := now - budget.lastRefill
    if elapsed ≤ 0 then budget
    else if budget.nanosecondsToFull ≤ elapsed.toNat then
      { budget with
        availableTokenByteCount := snapshotEgressTokenBucketCapacityByteCount
        refillFractionNumerator := 0
        lastRefill := now }
    else
      let numerator := sizeT (budget.refillNumerator elapsed.toNat)
      { budget with
        availableTokenByteCount := min snapshotEgressTokenBucketCapacityByteCount
          (sizeT (budget.availableTokenByteCount + numerator / nanosecondsPerSecond))
        refillFractionNumerator := numerator % nanosecondsPerSecond
        lastRefill := now }

/-- The products `refill` evaluates, with the sums taken over them. -/
def refillIntermediates (budget : SnapshotEgressBudget) (now : Int) : List Nat :=
  if now ≤ budget.lastRefill ∨
      budget.availableTokenByteCount = snapshotEgressTokenBucketCapacityByteCount then []
  else
    let elapsed := (now - budget.lastRefill).toNat
    [budget.missingByteCount * nanosecondsPerSecond,
      budget.missingByteCount * nanosecondsPerSecond + snapshotEgressRefillByteCountPerSecond] ++
    if budget.nanosecondsToFull ≤ elapsed then []
    else
      [elapsed * snapshotEgressRefillByteCountPerSecond, budget.refillNumerator elapsed,
        budget.availableTokenByteCount +
          sizeT (budget.refillNumerator elapsed) / nanosecondsPerSecond]

end Refill

section Waiters

def waiterAt (budget : SnapshotEgressBudget) (index : Nat) : ClientId := budget.waiters[index]?.getD 0

def waitersOverflow : EgressFault :=
  .thrown ⟨.sessionInvariantFailed, "snapshot_egress.waiters",
    "waiter count exceeded the WebSocket session bound"⟩

def findWaiter (budget : SnapshotEgressBudget) (client : ClientId) : Option Nat :=
  (List.range budget.waiterCount).find? fun index => budget.waiterAt index = client

def enqueueWaiter (budget : SnapshotEgressBudget) (client : ClientId) :
    Except EgressFault SnapshotEgressBudget :=
  if (budget.findWaiter client).isSome then .ok budget
  else if budget.waiterCount = concurrentWebSocketMaximumCount then .error waitersOverflow
  else .ok { budget with
    waiters := budget.waiters.setIfInBounds budget.waiterCount client
    waiterCount := budget.waiterCount + 1 }

def shiftWaiter (waiters : Vector ClientId concurrentWebSocketMaximumCount) (shifted : Nat) :
    Vector ClientId concurrentWebSocketMaximumCount :=
  waiters.setIfInBounds (shifted - 1) (waiters[shifted]?.getD 0)

def removeWaiterAt (budget : SnapshotEgressBudget) (index : Nat) :
    Except EgressFault SnapshotEgressBudget :=
  if budget.waiterCount ≤ index then .error .terminated
  else
    let shifted := (List.range' (index + 1) (budget.waiterCount - (index + 1))).foldl shiftWaiter
      budget.waiters
    .ok { budget with
      waiters := shifted.setIfInBounds (budget.waiterCount - 1) 0
      waiterCount := budget.waiterCount - 1 }

def cancelWaiter (budget : SnapshotEgressBudget) (client : ClientId) :
    Except EgressFault SnapshotEgressBudget :=
  match budget.findWaiter client with
  | some index => budget.removeWaiterAt index
  | none => .ok budget

end Waiters

section Reservation

def deny (budget : SnapshotEgressBudget) (client : ClientId) :
    Except EgressFault (Option SnapshotEgressLease) × SnapshotEgressBudget :=
  match budget.enqueueWaiter client with
  | .error fault => (.error fault, budget)
  | .ok next => (.ok none, next)

/-- Whether the bucket, the active bytes or the active leases refuse a reservation. -/
def exhausted (budget : SnapshotEgressBudget) : Bool :=
  budget.availableTokenByteCount < snapshotEgressReservationByteCount ||
    snapshotEgressActiveMaximumByteCount - snapshotEgressReservationByteCount < budget.activeByteCount ||
    concurrentWebSocketMaximumCount ≤ budget.activeLeaseCount

def charge (budget : SnapshotEgressBudget) (reservation : Nat) : SnapshotEgressBudget :=
  { budget with
    availableTokenByteCount := budget.availableTokenByteCount - reservation
    activeByteCount := budget.activeByteCount + reservation
    activeLeaseCount := budget.activeLeaseCount + 1 }

/-- `try_reserve` after the refill. -/
def reserveRefilled (budget : SnapshotEgressBudget) (client : ClientId) :
    Except EgressFault (Option SnapshotEgressLease) × SnapshotEgressBudget :=
  if 0 < budget.waiterCount ∧ budget.waiterAt 0 ≠ client then budget.deny client
  else if budget.exhausted then budget.deny client
  else if 0 < budget.waiterCount then
    match budget.removeWaiterAt 0 with
    | .error fault => (.error fault, budget)
    | .ok served => (.ok (some ⟨snapshotEgressReservationByteCount, false⟩),
        served.charge snapshotEgressReservationByteCount)
  else (.ok (some ⟨snapshotEgressReservationByteCount, false⟩),
    budget.charge snapshotEgressReservationByteCount)

def unregisteredClient : EgressFault :=
  .thrown ⟨.sessionInvariantFailed, "snapshot_egress.client_id",
    "egress admission requires a registered session identity"⟩

def tryReserve (budget : SnapshotEgressBudget) (client : ClientId) (now : Int) :
    Except EgressFault (Option SnapshotEgressLease) × SnapshotEgressBudget :=
  if client = 0 then (.error unregisteredClient, budget)
  else (budget.refill now).reserveRefilled client

end Reservation

section Lease

/-- The refund both a commit and an uncommitted release make. -/
def refund (budget : SnapshotEgressBudget) (byteCount : Nat) : SnapshotEgressBudget :=
  { budget with
    availableTokenByteCount := min snapshotEgressTokenBucketCapacityByteCount
      (sizeT (budget.availableTokenByteCount + byteCount)) }

def commitEncoding (budget : SnapshotEgressBudget) (reservedByteCount encodedByteCount : Nat) :
    Except EgressFault SnapshotEgressBudget :=
  if reservedByteCount ≠ snapshotEgressReservationByteCount ∨ encodedByteCount = 0 ∨
      reservedByteCount < encodedByteCount ∨ budget.activeByteCount < reservedByteCount then
    .error (.thrown ⟨.sessionInvariantFailed, "snapshot_egress.encoded_bytes",
      "encoded payload violates its global egress reservation"⟩)
  else
    .ok ({ budget with
      activeByteCount := budget.activeByteCount - (reservedByteCount - encodedByteCount) }.refund
        (reservedByteCount - encodedByteCount))

/-- `commit_encoded_bytes` of a lease object, which holds nothing once inactive. -/
def commitEncodedBytes (budget : SnapshotEgressBudget) (lease : Option SnapshotEgressLease)
    (encodedByteCount : Nat) : Except EgressFault (SnapshotEgressLease × SnapshotEgressBudget) :=
  match lease with
  | none => .error inactiveCommit
  | some held =>
      if held.committed then .error inactiveCommit
      else
        match budget.commitEncoding held.ownedByteCount encodedByteCount with
        | .error fault => .error fault
        | .ok committed => .ok (⟨encodedByteCount, true⟩, committed)
where
  inactiveCommit : EgressFault := .thrown ⟨.sessionInvariantFailed, "snapshot_egress.commit",
    "egress reservation must be active and uncommitted"⟩

def releaseOwned (budget : SnapshotEgressBudget) (lease : SnapshotEgressLease) :
    Except EgressFault SnapshotEgressBudget :=
  if lease.ownedByteCount = 0 ∨ budget.activeByteCount < lease.ownedByteCount ∨
      budget.activeLeaseCount = 0 then .error .terminated
  else
    let released := { budget with
      activeByteCount := budget.activeByteCount - lease.ownedByteCount
      activeLeaseCount := budget.activeLeaseCount - 1 }
    .ok (if lease.committed then released else released.refund lease.ownedByteCount)

/-- `release` of a lease object. -/
def release (budget : SnapshotEgressBudget) (lease : Option SnapshotEgressLease) :
    Except EgressFault SnapshotEgressBudget :=
  match lease with
  | none => .ok budget
  | some held => budget.releaseOwned held

end Lease

end SnapshotEgressBudget

end BlobRoyale.Server
