import BlobRoyale.Server.SnapshotEgressBudget
import BlobRoyale.Simulation.GameWorld

/-!
# Snapshot delivery

One active write and one replaceable pending snapshot. Ticks ascend from the last delivered through the
active to the pending one, and each write takes the next message sequence.
-/

namespace BlobRoyale.Server

open BlobRoyale.Simulation

variable {S : Type} [Scalar S]

structure SnapshotDelivery (S : Type) [Scalar S] where
  snapshot : WorldSnapshot S
  messageSequence : Nat

structure SnapshotDeliveryState (S : Type) [Scalar S] where
  activeSnapshot : Option (WorldSnapshot S)
  pendingSnapshot : Option (WorldSnapshot S)
  lastDeliveredTick : Option Nat
  messageSequence : Nat

namespace SnapshotDeliveryState

def initial : SnapshotDeliveryState S := ⟨none, none, none, 0⟩

def retainedTick : Option (WorldSnapshot S) → Nat
  | none => 0
  | some snapshot => snapshot.tickSequence.value

def isNewerThanRetained (state : SnapshotDeliveryState S) (tick : Nat) : Bool :=
  max (max (state.lastDeliveredTick.getD 0) (retainedTick state.activeSnapshot))
    (retainedTick state.pendingSnapshot) < tick

def writeActive (state : SnapshotDeliveryState S) : Bool := state.activeSnapshot.isSome

def readyToWrite (state : SnapshotDeliveryState S) : Bool :=
  state.activeSnapshot.isNone && state.pendingSnapshot.isSome

/-- Retain the latest snapshot as pending where it is newer than what is retained. -/
def observe (state : SnapshotDeliveryState S) (latest : WorldSnapshot S) :
    Except GameServerError (SnapshotDeliveryState S) :=
  let latestTick := latest.tickSequence.value
  if latestTick = 0 ∨ maximumProtocolSafeInteger < latestTick then
    .error ⟨.sessionInvariantFailed, "snapshot_delivery.tick_sequence",
      "publication exposed an invalid committed tick"⟩
  else if state.writeActive then
    .ok (if state.isNewerThanRetained latestTick then { state with pendingSnapshot := some latest } else state)
  else
    match state.pendingSnapshot with
    | some pending =>
        .ok (if pending.tickSequence.value < latestTick then { state with pendingSnapshot := some latest }
          else state)
    | none =>
        .ok (if state.isNewerThanRetained latestTick then { state with pendingSnapshot := some latest } else state)

/-- The pending snapshot becomes active, also where its sequence number is exhausted. -/
def beginActiveWrite (state : SnapshotDeliveryState S) :
    Except GameServerError (Option (SnapshotDelivery S)) × SnapshotDeliveryState S :=
  if state.activeSnapshot.isSome then (.ok none, state)
  else
    match state.pendingSnapshot with
    | none => (.ok none, state)
    | some pending =>
        let moved := { state with activeSnapshot := some pending, pendingSnapshot := none }
        if state.messageSequence = maximumProtocolSafeInteger then
          (.error ⟨.sessionInvariantFailed, "snapshot_delivery.message_sequence",
            "per-connection message sequence exhausted"⟩, moved)
        else
          (.ok (some ⟨pending, state.messageSequence + 1⟩),
            { moved with messageSequence := state.messageSequence + 1 })

def completeActiveWrite (state : SnapshotDeliveryState S) : Except GameServerError (SnapshotDeliveryState S) :=
  match state.activeSnapshot with
  | none => .error ⟨.sessionInvariantFailed, "snapshot_delivery.active_write",
      "write completion occurred without an active snapshot"⟩
  | some active =>
      .ok { state with lastDeliveredTick := some active.tickSequence.value, activeSnapshot := none }

def discard (state : SnapshotDeliveryState S) : SnapshotDeliveryState S :=
  { state with activeSnapshot := none, pendingSnapshot := none }

def discardPending (state : SnapshotDeliveryState S) : SnapshotDeliveryState S :=
  { state with pendingSnapshot := none }

section Ordered

variable {state next : SnapshotDeliveryState S}

/-- Retained ticks ascend. -/
structure Ordered (state : SnapshotDeliveryState S) : Prop where
  active : ∀ active, state.activeSnapshot = some active →
    state.lastDeliveredTick.getD 0 < active.tickSequence.value
  pending : ∀ pending, state.pendingSnapshot = some pending →
    state.lastDeliveredTick.getD 0 < pending.tickSequence.value
  ahead : ∀ active pending, state.activeSnapshot = some active → state.pendingSnapshot = some pending →
    active.tickSequence.value < pending.tickSequence.value

theorem initial_ordered : (initial : SnapshotDeliveryState S).Ordered := by
  constructor <;> intros <;> contradiction

theorem observe_cases {latest : WorldSnapshot S} (observed : state.observe latest = .ok next) :
    next = state ∨ (next = { state with pendingSnapshot := some latest } ∧
      ((∃ pending, state.activeSnapshot = none ∧ state.pendingSnapshot = some pending ∧
        pending.tickSequence.value < latest.tickSequence.value) ∨
      state.isNewerThanRetained latest.tickSequence.value = true)) := by
  unfold observe at observed
  dsimp only at observed
  split at observed
  · cases observed
  · split at observed
    · cases observed
      split
      · next newer => exact .inr ⟨rfl, .inr newer⟩
      · exact .inl rfl
    · next idle =>
      have inactive : state.activeSnapshot = none := by
        simpa only [writeActive, Bool.not_eq_true, Option.isSome_eq_false_iff, Option.isNone_iff_eq_none] using idle
      split at observed
      · next pending retained =>
        cases observed
        split
        · next newer => exact .inr ⟨rfl, .inl ⟨pending, inactive, retained, newer⟩⟩
        · exact .inl rfl
      · cases observed
        split
        · next newer => exact .inr ⟨rfl, .inr newer⟩
        · exact .inl rfl

theorem isNewerThanRetained_iff {tick : Nat} : state.isNewerThanRetained tick = true ↔
    state.lastDeliveredTick.getD 0 < tick ∧ retainedTick state.activeSnapshot < tick ∧
      retainedTick state.pendingSnapshot < tick := by
  simp only [isNewerThanRetained, decide_eq_true_eq, max_lt_iff, and_assoc]

theorem Ordered.observe (ordered : state.Ordered) {latest : WorldSnapshot S}
    (observed : state.observe latest = .ok next) : next.Ordered := by
  obtain same | ⟨same, ⟨pending, inactive, retained, newer⟩ | newer⟩ := observe_cases observed
  · rw [same]
    exact ordered
  · subst same
    refine ⟨ordered.active, ?_, ?_⟩
    · rintro _ ⟨⟩
      exact (ordered.pending pending retained).trans newer
    · intro active _ present
      rw [show state.activeSnapshot = some active from present] at inactive
      cases inactive
  · subst same
    obtain ⟨beyond, ahead, -⟩ := isNewerThanRetained_iff.mp newer
    refine ⟨ordered.active, ?_, ?_⟩
    · rintro _ ⟨⟩
      exact beyond
    · rintro active _ present ⟨⟩
      rw [show state.activeSnapshot = some active from present] at ahead
      exact ahead

theorem observe_fields {latest : WorldSnapshot S} (observed : state.observe latest = .ok next) :
    next.activeSnapshot = state.activeSnapshot ∧ next.lastDeliveredTick = state.lastDeliveredTick ∧
      next.messageSequence = state.messageSequence ∧
      (state.pendingSnapshot.isSome = true → next.pendingSnapshot.isSome = true) := by
  obtain same | ⟨same, -⟩ := observe_cases observed
  · subst same
    exact ⟨rfl, rfl, rfl, id⟩
  · subst same
    exact ⟨rfl, rfl, rfl, fun _ => rfl⟩

theorem beginActiveWrite_eq_ok {delivery : SnapshotDelivery S}
    (begins : state.beginActiveWrite = (.ok (some delivery), next)) :
    state.activeSnapshot = none ∧ state.pendingSnapshot = some delivery.snapshot ∧
      delivery.messageSequence = state.messageSequence + 1 ∧
      next = { state with
        activeSnapshot := some delivery.snapshot
        pendingSnapshot := none
        messageSequence := state.messageSequence + 1 } := by
  unfold beginActiveWrite at begins
  split at begins
  · cases begins
  · next idle =>
    have inactive : state.activeSnapshot = none := by
      simpa only [Bool.not_eq_true, Option.isSome_eq_false_iff, Option.isNone_iff_eq_none] using idle
    split at begins
    · cases begins
    · next pending retained =>
      dsimp only at begins
      split at begins
      · cases begins
      · cases begins
        exact ⟨inactive, retained, rfl, rfl⟩

/-- A ready state's pending snapshot becomes active, also where its sequence is exhausted. -/
theorem beginActiveWrite_of_ready (ready : state.readyToWrite = true) :
    ∃ pending, state.activeSnapshot = none ∧ state.pendingSnapshot = some pending ∧
      (state.beginActiveWrite).2.activeSnapshot = some pending ∧
      (state.beginActiveWrite).2.pendingSnapshot = none ∧
      (state.beginActiveWrite).2.lastDeliveredTick = state.lastDeliveredTick := by
  unfold readyToWrite at ready
  rw [Bool.and_eq_true, Option.isNone_iff_eq_none] at ready
  obtain ⟨inactive, present⟩ := ready
  obtain ⟨pending, retained⟩ := Option.isSome_iff_exists.mp present
  refine ⟨pending, inactive, retained, ?_⟩
  unfold beginActiveWrite
  rw [inactive, retained]
  simp only [Option.isSome_none, Bool.false_eq_true, if_false]
  split <;> exact ⟨rfl, rfl, rfl⟩

theorem completeActiveWrite_eq_ok (completes : state.completeActiveWrite = .ok next) :
    ∃ active, state.activeSnapshot = some active ∧
      next = { state with lastDeliveredTick := some active.tickSequence.value, activeSnapshot := none } := by
  unfold completeActiveWrite at completes
  split at completes
  · cases completes
  · next active present =>
    cases completes
    exact ⟨active, present, rfl⟩

theorem Ordered.completed (ordered : state.Ordered) (completes : state.completeActiveWrite = .ok next) :
    next.Ordered := by
  obtain ⟨active, present, rfl⟩ := completeActiveWrite_eq_ok completes
  refine ⟨?_, ?_, ?_⟩
  · intro other impossible
    cases impossible
  · intro pending retained
    exact ordered.ahead active pending present retained
  · intro other _ impossible
    cases impossible

end Ordered

end SnapshotDeliveryState

end BlobRoyale.Server
