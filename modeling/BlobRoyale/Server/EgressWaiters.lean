import Mathlib.Data.List.Nodup
import BlobRoyale.Library.WaitQueue
import BlobRoyale.Server.SnapshotEgressBudget

/-!
# The waiting sessions of the egress budget

The fixed array and its count hold a queue: its first `waiterCount` entries. Enqueuing appends an
absent client, and the shifting loop removes exactly one position.
-/

namespace BlobRoyale.Server.SnapshotEgressBudget

open WaitQueue

variable {budget next : SnapshotEgressBudget} {client : ClientId}

def queue (budget : SnapshotEgressBudget) : List ClientId :=
  budget.waiters.toList.take budget.waiterCount

/-- The count stays inside the array, and no client waits twice. -/
structure Orderly (budget : SnapshotEgressBudget) : Prop where
  bounded : budget.waiterCount ≤ concurrentWebSocketMaximumCount
  distinct : budget.queue.Nodup

theorem getElem?_queue (budget : SnapshotEgressBudget) (index : Nat) :
    budget.queue[index]? = if index < budget.waiterCount then budget.waiters[index]? else none := by
  rw [queue, List.getElem?_take, Vector.getElem?_toList]

theorem queue_congr (waiters : next.waiters = budget.waiters) (count : next.waiterCount = budget.waiterCount) :
    next.queue = budget.queue := by
  rw [queue, queue, waiters, count]

theorem Orderly.length_queue (orderly : budget.Orderly) : budget.queue.length = budget.waiterCount := by
  rw [queue, List.length_take, Vector.length_toList, Nat.min_eq_left orderly.bounded]

theorem Orderly.getElem?_eq_waiterAt (orderly : budget.Orderly) {index : Nat}
    (within : index < budget.waiterCount) : budget.queue[index]? = some (budget.waiterAt index) := by
  have inside : index < concurrentWebSocketMaximumCount := Nat.lt_of_lt_of_le within orderly.bounded
  rw [getElem?_queue, if_pos within, waiterAt, Vector.getElem?_eq_getElem inside]
  rfl

theorem Orderly.findWaiter_eq_none (orderly : budget.Orderly) (missing : budget.findWaiter client = none) :
    client ∉ budget.queue := by
  intro waiting
  obtain ⟨index, found⟩ := List.mem_iff_getElem?.mp waiting
  have within : index < budget.waiterCount := by
    by_contra beyond
    rw [getElem?_queue, if_neg beyond] at found
    cases found
  rw [orderly.getElem?_eq_waiterAt within] at found
  have skipped := List.find?_eq_none.mp missing index (List.mem_range.mpr within)
  exact skipped (decide_eq_true (Option.some.inj found))

theorem Orderly.findWaiter_eq_some (orderly : budget.Orderly) {index : Nat}
    (found : budget.findWaiter client = some index) :
    index < budget.waiterCount ∧ budget.queue[index]? = some client := by
  have within := List.mem_range.mp (List.mem_of_find?_eq_some found)
  have same : budget.waiterAt index = client := by simpa using List.find?_some found
  exact ⟨within, (orderly.getElem?_eq_waiterAt within).trans (congrArg some same)⟩

theorem findWaiter_isSome_iff (orderly : budget.Orderly) :
    (budget.findWaiter client).isSome ↔ client ∈ budget.queue := by
  constructor
  · intro found
    obtain ⟨index, found⟩ := Option.isSome_iff_exists.mp found
    exact List.mem_of_getElem? (orderly.findWaiter_eq_some found).2
  · intro waiting
    by_contra missing
    rw [Option.not_isSome_iff_eq_none] at missing
    exact orderly.findWaiter_eq_none missing waiting

/-- A change of the queue alone. -/
structure Requeues (budget : SnapshotEgressBudget) (event : Event ClientId) (next : SnapshotEgressBudget) :
    Prop where
  elsewhere : next = { budget with waiters := next.waiters, waiterCount := next.waiterCount }
  queue : Step budget.queue event next.queue
  orderly : next.Orderly

theorem Orderly.requeues (orderly : budget.Orderly) {event : Event ClientId}
    (elsewhere : next = { budget with waiters := next.waiters, waiterCount := next.waiterCount })
    (queue : Step budget.queue event next.queue)
    (bounded : next.waiterCount ≤ concurrentWebSocketMaximumCount) : budget.Requeues event next :=
  ⟨elsewhere, queue, bounded, queue.nodup orderly.distinct⟩

section Enqueue

theorem queue_enqueued (orderly : budget.Orderly) (room : budget.waiterCount < concurrentWebSocketMaximumCount) :
    ({ budget with
      waiters := budget.waiters.setIfInBounds budget.waiterCount client
      waiterCount := budget.waiterCount + 1 } : SnapshotEgressBudget).queue =
      budget.queue ++ [client] := by
  apply List.ext_getElem?
  intro index
  rw [getElem?_queue]
  dsimp only
  rw [Vector.getElem?_setIfInBounds, List.getElem?_append, orderly.length_queue]
  by_cases last : index = budget.waiterCount
  · subst last
    simp [room]
  · by_cases within : index < budget.waiterCount
    · rw [if_pos (by omega), if_neg (Ne.symm last), if_pos within, getElem?_queue, if_pos within]
    · rw [if_neg (by omega), if_neg within, List.getElem?_eq_none]
      rw [List.length_singleton]
      omega

theorem enqueueWaiter_spec (orderly : budget.Orderly)
    (room : client ∉ budget.queue → budget.waiterCount < concurrentWebSocketMaximumCount) :
    ∃ next, budget.enqueueWaiter client = .ok next ∧ budget.Requeues (.wait client) next := by
  unfold enqueueWaiter
  split
  · next found =>
    have waiting := (findWaiter_isSome_iff orderly).mp found
    exact ⟨budget, rfl, rfl, .keep client waiting, orderly⟩
  · next missing =>
    have absent : client ∉ budget.queue := fun waiting =>
      missing ((findWaiter_isSome_iff orderly).mpr waiting)
    have spare := room absent
    rw [if_neg (Nat.ne_of_lt spare)]
    refine ⟨_, rfl, orderly.requeues rfl ?_ spare⟩
    rw [queue_enqueued orderly spare]
    exact .join client absent

end Enqueue

section Remove

theorem getElem?_shifted (waiters : Vector ClientId concurrentWebSocketMaximumCount) {first : Nat}
    (passes : Nat) (within : first + passes < concurrentWebSocketMaximumCount) (index : Nat) :
    ((List.range' (first + 1) passes).foldl shiftWaiter waiters)[index]? =
      if first ≤ index ∧ index < first + passes then waiters[index + 1]? else waiters[index]? := by
  induction passes generalizing index with
  | zero =>
    rw [if_neg (by omega)]
    rfl
  | succ passes ih =>
    have earlier : first + passes < concurrentWebSocketMaximumCount := by omega
    rw [List.range'_1_concat, List.foldl_append, List.foldl_cons, List.foldl_nil, shiftWaiter,
      Vector.getElem?_setIfInBounds, ih earlier, ih earlier]
    have source : first + 1 + passes < concurrentWebSocketMaximumCount := by omega
    have moved : first + 1 + passes - 1 = first + passes := by omega
    rw [moved, if_neg (show ¬(first ≤ first + 1 + passes ∧ first + 1 + passes < first + passes) by omega),
      Vector.getElem?_eq_getElem source]
    by_cases target : first + passes = index
    · subst target
      rw [if_pos rfl, if_pos earlier, if_pos (by omega),
        Vector.getElem?_eq_getElem (show first + passes + 1 < concurrentWebSocketMaximumCount by omega)]
      simp only [Option.getD_some]
      congr 2
      omega
    · rw [if_neg target]
      by_cases inside : first ≤ index ∧ index < first + passes
      · rw [if_pos inside, if_pos (by omega)]
      · rw [if_neg inside, if_neg (by omega)]

theorem removeWaiterAt_spec (orderly : budget.Orderly) {index : Nat} (within : index < budget.waiterCount) :
    ∃ next, budget.removeWaiterAt index = .ok next ∧
      next = { budget with waiters := next.waiters, waiterCount := next.waiterCount } ∧
      next.queue = budget.queue.eraseIdx index ∧ next.waiterCount ≤ concurrentWebSocketMaximumCount := by
  have bounded := orderly.bounded
  unfold removeWaiterAt
  rw [if_neg (Nat.not_le_of_lt within)]
  refine ⟨_, rfl, rfl, ?_, le_trans (Nat.sub_le _ _) bounded⟩
  apply List.ext_getElem?
  intro position
  rw [getElem?_queue, List.getElem?_eraseIdx]
  dsimp only
  by_cases remains : position < budget.waiterCount - 1
  · rw [if_pos remains, Vector.getElem?_setIfInBounds, if_neg (by omega),
      getElem?_shifted _ _ (by omega)]
    by_cases before : position < index
    · rw [if_pos before, if_neg (by omega), getElem?_queue, if_pos (by omega)]
    · rw [if_neg before, if_pos (by omega), getElem?_queue, if_pos (by omega)]
  · rw [if_neg remains]
    by_cases before : position < index
    · omega
    · rw [if_neg before, getElem?_queue, if_neg (by omega)]

theorem removeFront_spec (orderly : budget.Orderly) (waiting : 0 < budget.waiterCount)
    (front : budget.waiterAt 0 = client) :
    ∃ next, budget.removeWaiterAt 0 = .ok next ∧ budget.Requeues (.serve client) next := by
  obtain ⟨next, removed, elsewhere, erased, bounded⟩ := removeWaiterAt_spec orderly waiting
  have first := orderly.getElem?_eq_waiterAt waiting
  rw [front] at first
  refine ⟨next, removed, orderly.requeues elsewhere ?_ bounded⟩
  rw [erased]
  cases entries : budget.queue with
  | nil =>
    rw [entries] at first
    cases first
  | cons head rest =>
    rw [entries] at first
    cases first
    exact .serveNext client

theorem cancelWaiter_spec (orderly : budget.Orderly) (client : ClientId) :
    ∃ next, budget.cancelWaiter client = .ok next ∧ budget.Requeues (.leave client) next := by
  unfold cancelWaiter
  cases found : budget.findWaiter client with
  | none =>
    have stays : Step budget.queue (.leave client) (budget.queue.erase client) := .leave client
    rw [List.erase_of_not_mem (orderly.findWaiter_eq_none found)] at stays
    exact ⟨budget, rfl, rfl, stays, orderly⟩
  | some index =>
    obtain ⟨within, stored⟩ := orderly.findWaiter_eq_some found
    obtain ⟨next, removed, elsewhere, erased, bounded⟩ := removeWaiterAt_spec orderly within
    obtain ⟨inside, same⟩ := List.getElem?_eq_some_iff.mp stored
    refine ⟨next, removed, orderly.requeues elsewhere ?_ bounded⟩
    rw [erased, ← orderly.distinct.erase_getElem index inside, same]
    exact .leave client

end Remove

end BlobRoyale.Server.SnapshotEgressBudget
