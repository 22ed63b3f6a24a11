import BlobRoyale.Server.EgressSystem
import BlobRoyale.Server.EgressWaiters
import BlobRoyale.Server.SessionWebSocketSession

/-!
# The egress calls of a session

A session's calls answered by the budget itself, and what they do to the queue: only a client's own calls
make it wait or stop waiting.
-/

namespace BlobRoyale.Server

open BlobRoyale.Simulation SnapshotEgressBudget

variable {S : Type} [Scalar S]

namespace SessionCall

/-- Whether a client waits after a call of its own. -/
def waits (waiting : Bool) : SessionCall S → Bool
  | tryReserve _ (.ok none) => true
  | tryReserve _ (.ok (some _)) => false
  | cancelWaiter => false
  | tryReserve _ (.error _) | countSessionIn | countSessionOut | closeSession _ | submit _ | commitEncodedBytes ..
  | releaseLease _ | writeWelcome _ | writeSnapshot .. | ping | requestClose _ | close .. | closeSocket
  | releaseAdmission | unregister | fail | escape _ => waiting

def onBudget : SessionCall S → Bool
  | tryReserve .. | cancelWaiter | commitEncodedBytes .. | releaseLease _ => true
  | countSessionIn | countSessionOut | closeSession _ | submit _ | writeWelcome _ | writeSnapshot .. | ping
  | requestClose _ | close .. | closeSocket | releaseAdmission | unregister | fail | escape _ => false

/-- A client's call, as the budget answers it. -/
inductive Answers (client : ClientId) : SessionCall S → SnapshotEgressBudget → SnapshotEgressBudget → Prop
  | reserved {budget next : SnapshotEgressBudget} {now : Int} {answer : Except EgressFault (Option SnapshotEgressLease)}
      (reserves : budget.tryReserve client now = (answer, next)) : Answers client (.tryReserve now answer) budget next
  | cancelled {budget next : SnapshotEgressBudget} (cancels : budget.cancelWaiter client = .ok next) :
      Answers client .cancelWaiter budget next
  | committed {budget next : SnapshotEgressBudget} {lease settled : SnapshotEgressLease} {byteCount : Nat}
      (commits : budget.commitEncodedBytes (some lease) byteCount = .ok (settled, next)) :
      Answers client (.commitEncodedBytes lease byteCount (.ok settled)) budget next
  | uncommitted {budget : SnapshotEgressBudget} {lease : SnapshotEgressLease} {byteCount : Nat} {fault : EgressFault}
      (faults : budget.commitEncodedBytes (some lease) byteCount = .error fault) :
      Answers client (.commitEncodedBytes lease byteCount (.error fault)) budget budget
  | released {budget next : SnapshotEgressBudget} {lease : SnapshotEgressLease}
      (releases : budget.release (some lease) = .ok next) : Answers client (.releaseLease lease) budget next
  | elsewhere {budget : SnapshotEgressBudget} {call : SessionCall S} (silent : call.onBudget = false) :
      Answers client call budget budget

/-- The calls of one callback, answered in order. -/
inductive Replays (client : ClientId) : List (SessionCall S) → SnapshotEgressBudget → SnapshotEgressBudget → Prop
  | nil {budget : SnapshotEgressBudget} : Replays client [] budget budget
  | cons {call : SessionCall S} {calls : List (SessionCall S)} {budget middle next : SnapshotEgressBudget}
      (answers : call.Answers client budget middle) (replays : Replays client calls middle next) :
      Replays client (call :: calls) budget next

end SessionCall

namespace SnapshotEgressBudget

variable {budget next : SnapshotEgressBudget} {client : ClientId}

/-- A client's membership after a call of its own, with everyone else's kept. -/
structure Moves (client : ClientId) (waiting : Bool) (budget next : SnapshotEgressBudget) : Prop where
  orderly : next.Orderly
  own : client ∈ next.queue ↔ waiting = true
  others : ∀ other, other ≠ client → (other ∈ next.queue ↔ other ∈ budget.queue)

theorem Requeues.moves {event : WaitQueue.Event ClientId} (requeues : budget.Requeues event next)
    (about : event.client = some client) {waiting : Bool} (own : client ∈ next.queue ↔ waiting = true) :
    Moves client waiting budget next := by
  refine ⟨requeues.orderly, own, fun other different => requeues.queue.mem_iff_of_ne ?_⟩
  rw [about]
  exact fun same => different (Option.some.inj same).symm

theorem Requeues.waits (requeues : budget.Requeues (.wait client) next) : Moves client true budget next :=
  requeues.moves rfl (iff_of_true requeues.queue.mem_of_wait rfl)

theorem Requeues.serves (orderly : budget.Orderly) (requeues : budget.Requeues (.serve client) next) :
    Moves client false budget next :=
  requeues.moves rfl (iff_of_false (requeues.queue.not_mem_of_serve orderly.distinct) Bool.false_ne_true)

theorem Requeues.leaves (orderly : budget.Orderly) (requeues : budget.Requeues (.leave client) next) :
    Moves client false budget next :=
  requeues.moves rfl (iff_of_false (requeues.queue.not_mem_of_leave orderly.distinct) Bool.false_ne_true)

theorem Orderly.stays (orderly : budget.Orderly) {waiting : Bool} (own : client ∈ budget.queue ↔ waiting = true)
    (waiters : next.waiters = budget.waiters) (count : next.waiterCount = budget.waiterCount) :
    Moves client waiting budget next := by
  have same := queue_congr waiters count
  refine ⟨⟨?_, ?_⟩, ?_, ?_⟩
  · rw [count]
    exact orderly.bounded
  · rw [same]
    exact orderly.distinct
  · rw [same]
    exact own
  · intro other _
    rw [same]

theorem deny_cases (orderly : budget.Orderly) (client : ClientId) :
    (∃ next, budget.deny client = (.ok none, next) ∧ budget.Requeues (.wait client) next) ∨
      ∃ fault, budget.deny client = (.error fault, budget) := by
  by_cases room : client ∉ budget.queue → budget.waiterCount < concurrentWebSocketMaximumCount
  · obtain ⟨next, enqueued, requeues⟩ := enqueueWaiter_spec orderly room
    exact .inl ⟨next, by simp only [deny, enqueued], requeues⟩
  · obtain ⟨absent, full⟩ := Classical.not_imp.mp room
    have missing : ¬(budget.findWaiter client).isSome = true := fun found =>
      absent ((findWaiter_isSome_iff orderly).mp found)
    have last : budget.waiterCount = concurrentWebSocketMaximumCount :=
      le_antisymm orderly.bounded (not_lt.mp full)
    refine .inr ⟨waitersOverflow, ?_⟩
    simp only [deny, enqueueWaiter, missing, last, if_true, if_false, Bool.false_eq_true]

theorem Moves.of_queue {middle : SnapshotEgressBudget} {waiting : Bool} (moves : Moves client waiting middle next)
    (same : middle.queue = budget.queue) : Moves client waiting budget next :=
  ⟨moves.orderly, moves.own, fun other different => (moves.others other different).trans (by rw [same])⟩

theorem Moves.charge {waiting : Bool} (moves : Moves client waiting budget next) (reservation : Nat) :
    Moves client waiting budget (next.charge reservation) :=
  ⟨⟨moves.orderly.bounded, moves.orderly.distinct⟩, moves.own, moves.others⟩

theorem reserveRefilled_moves (orderly : budget.Orderly)
    {answer : Except EgressFault (Option SnapshotEgressLease)} {waiting : Bool}
    (own : client ∈ budget.queue ↔ waiting = true) (reserves : budget.reserveRefilled client = (answer, next)) :
    (answer = .ok none ∧ Moves client true budget next) ∨
      (∃ lease, answer = .ok (some lease) ∧ Moves client false budget next) ∨
      ∃ fault, answer = .error fault ∧ Moves client waiting budget next := by
  have denied : ∀ reply after, budget.deny client = (reply, after) → (reply = .ok none ∧ Moves client true budget after) ∨
      (∃ lease, reply = .ok (some lease) ∧ Moves client false budget after) ∨
      ∃ fault, reply = .error fault ∧ Moves client waiting budget after := by
    intro reply after denies
    obtain ⟨queued, denies', requeues⟩ | ⟨fault, denies'⟩ := deny_cases orderly client
    · cases denies'.symm.trans denies
      exact .inl ⟨rfl, requeues.waits⟩
    · cases denies'.symm.trans denies
      exact .inr (.inr ⟨fault, rfl, orderly.stays own rfl rfl⟩)
  unfold reserveRefilled at reserves
  split at reserves
  · exact denied _ _ reserves
  · next front =>
    split at reserves
    · exact denied _ _ reserves
    · split at reserves
      · next nonempty =>
        have first : budget.waiterAt 0 = client := by
          by_contra other
          exact front ⟨nonempty, other⟩
        obtain ⟨served, removed, requeues⟩ := removeFront_spec orderly nonempty first
        rw [removed] at reserves
        cases reserves
        exact .inr (.inl ⟨_, rfl, (requeues.serves orderly).charge _⟩)
      · next empty =>
        cases reserves
        have nobody : budget.queue = [] := by
          rw [queue, Nat.eq_zero_of_not_pos empty, List.take_zero]
        have absent : client ∈ budget.queue ↔ false = true := by
          rw [nobody]
          exact iff_of_false List.not_mem_nil Bool.false_ne_true
        have stays : Moves client false budget budget := orderly.stays absent rfl rfl
        exact .inr (.inl ⟨_, rfl, stays.charge _⟩)

theorem tryReserve_moves (orderly : budget.Orderly) {now : Int}
    {answer : Except EgressFault (Option SnapshotEgressLease)} {waiting : Bool}
    (own : client ∈ budget.queue ↔ waiting = true) (reserves : budget.tryReserve client now = (answer, next)) :
    Moves client (SessionCall.waits waiting (.tryReserve now answer : SessionCall S)) budget next := by
  unfold tryReserve at reserves
  split at reserves
  · cases reserves
    exact orderly.stays own rfl rfl
  · have refilled := refill_sameAdmissions budget now
    have same : (budget.refill now).queue = budget.queue := queue_congr refilled.waiters refilled.waiterCount
    have ready : (budget.refill now).Orderly :=
      ⟨refilled.waiterCount ▸ orderly.bounded, same.symm ▸ orderly.distinct⟩
    obtain ⟨rfl, moves⟩ | ⟨lease, rfl, moves⟩ | ⟨fault, rfl, moves⟩ :=
      reserveRefilled_moves ready (same.symm ▸ own) reserves
    · exact moves.of_queue same
    · exact moves.of_queue same
    · exact moves.of_queue same

theorem commitEncodedBytes_waiters {lease settled : SnapshotEgressLease} {byteCount : Nat}
    (commits : budget.commitEncodedBytes (some lease) byteCount = .ok (settled, next)) :
    next.waiters = budget.waiters ∧ next.waiterCount = budget.waiterCount := by
  simp only [commitEncodedBytes, commitEncoding] at commits
  split at commits
  · cases commits
  · split at commits
    · cases commits
    · next encoded =>
      split at encoded
      · cases encoded
      · cases encoded
        cases commits
        exact ⟨rfl, rfl⟩

theorem release_waiters {lease : SnapshotEgressLease} (releases : budget.release (some lease) = .ok next) :
    next.waiters = budget.waiters ∧ next.waiterCount = budget.waiterCount := by
  simp only [release, releaseOwned] at releases
  split at releases
  · cases releases
  · cases releases
    split <;> exact ⟨rfl, rfl⟩

end SnapshotEgressBudget

namespace SessionCall

variable {budget next : SnapshotEgressBudget} {client : ClientId}

theorem Answers.moves (orderly : budget.Orderly) {call : SessionCall S} {waiting : Bool}
    (own : client ∈ budget.queue ↔ waiting = true) (answers : call.Answers client budget next) :
    Moves client (call.waits waiting) budget next := by
  cases answers with
  | reserved reserves => exact tryReserve_moves orderly own reserves
  | cancelled cancels =>
    obtain ⟨left, cancelled, requeues⟩ := cancelWaiter_spec orderly client
    cases cancelled.symm.trans cancels
    exact requeues.leaves orderly
  | committed commits =>
    obtain ⟨waiters, count⟩ := commitEncodedBytes_waiters commits
    exact orderly.stays own waiters count
  | uncommitted _ => exact orderly.stays own rfl rfl
  | released releases =>
    obtain ⟨waiters, count⟩ := release_waiters releases
    exact orderly.stays own waiters count
  | elsewhere silent =>
    have same : call.waits waiting = waiting := by
      cases call with
      | tryReserve | cancelWaiter => cases silent
      | _ => rfl
    exact same.symm ▸ orderly.stays own rfl rfl

theorem Replays.moves (orderly : budget.Orderly) {calls : List (SessionCall S)} {waiting : Bool}
    (own : client ∈ budget.queue ↔ waiting = true) (replays : Replays client calls budget next) :
    Moves client (calls.foldl waits waiting) budget next := by
  induction replays generalizing waiting with
  | nil => exact orderly.stays own rfl rfl
  | cons answers _ ih =>
    have first := answers.moves orderly own
    have rest := ih first.orderly first.own
    exact ⟨rest.orderly, rest.own, fun other different =>
      (rest.others other different).trans (first.others other different)⟩

end SessionCall

end BlobRoyale.Server
