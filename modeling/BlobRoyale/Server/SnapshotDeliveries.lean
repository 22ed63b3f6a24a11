import BlobRoyale.Server.SnapshotDeliveryState
import Mathlib.Data.List.Range

/-!
# Snapshot deliveries

What every sequence of observations, begun writes and completed writes delivers, read off the log of
its answered calls.
-/

namespace BlobRoyale.Server

open BlobRoyale.Simulation

variable {S : Type} [Scalar S]

/-- One call that did not throw, with its answer. -/
inductive DeliveryMoment (S : Type) [Scalar S] where
  | observed (latest : WorldSnapshot S)
  | begun (answer : Option (SnapshotDelivery S))
  | completed

namespace DeliveryMoment

def observedSnapshot : DeliveryMoment S → Option (WorldSnapshot S)
  | observed latest => some latest
  | begun _ => none
  | completed => none

def delivery : DeliveryMoment S → Option (SnapshotDelivery S)
  | observed _ => none
  | begun answer => answer
  | completed => none

def isCompletion : DeliveryMoment S → Bool
  | observed _ => false
  | begun _ => false
  | completed => true

/-- Observations gather until a write is delivered. -/
def gather (gathered : List (WorldSnapshot S)) : DeliveryMoment S → List (WorldSnapshot S)
  | observed latest => gathered ++ [latest]
  | begun none => gathered
  | begun (some _) => []
  | completed => gathered

/-- Observations gather until a write is asked for, also in vain. -/
def gatherUntilAsked (gathered : List (WorldSnapshot S)) : DeliveryMoment S → List (WorldSnapshot S)
  | observed latest => gathered ++ [latest]
  | begun _ => []
  | completed => gathered

def delivered (log : List (DeliveryMoment S)) : List (SnapshotDelivery S) := log.filterMap delivery

def observations (log : List (DeliveryMoment S)) : List (WorldSnapshot S) := log.filterMap observedSnapshot

def completions (log : List (DeliveryMoment S)) : Nat := log.countP isCompletion

/-- What was observed since the last begun write that delivered. -/
def observedSinceDelivery (log : List (DeliveryMoment S)) : List (WorldSnapshot S) := log.foldl gather []

/-- What was observed since the last call to begin a write. -/
def observedSinceBegin (log : List (DeliveryMoment S)) : List (WorldSnapshot S) := log.foldl gatherUntilAsked []

/-- A newest member of those that are newer than every delivery. -/
structure NewestUndelivered (snapshot : WorldSnapshot S) (candidates : List (WorldSnapshot S))
    (deliveries : List (SnapshotDelivery S)) : Prop where
  among : snapshot ∈ candidates
  undelivered : ∀ earlier ∈ deliveries, earlier.snapshot.tickSequence.value < snapshot.tickSequence.value
  newest : ∀ other ∈ candidates,
    (∀ earlier ∈ deliveries, earlier.snapshot.tickSequence.value < other.tickSequence.value) →
      other.tickSequence.value ≤ snapshot.tickSequence.value

end DeliveryMoment

namespace SnapshotDeliveryState

open DeliveryMoment

inductive Answers : SnapshotDeliveryState S → DeliveryMoment S → SnapshotDeliveryState S → Prop
  | observe {state next : SnapshotDeliveryState S} {latest : WorldSnapshot S}
      (observed : state.observe latest = .ok next) : Answers state (.observed latest) next
  | begin {state next : SnapshotDeliveryState S} {answer : Option (SnapshotDelivery S)}
      (begins : state.beginActiveWrite = (.ok answer, next)) : Answers state (.begun answer) next
  | complete {state next : SnapshotDeliveryState S} (completes : state.completeActiveWrite = .ok next) :
      Answers state .completed next

/-- The logs of all call sequences that do not throw, with the state they end in. -/
inductive Reaches : List (DeliveryMoment S) → SnapshotDeliveryState S → Prop
  | start : Reaches [] initial
  | step {log : List (DeliveryMoment S)} {state next : SnapshotDeliveryState S} {moment : DeliveryMoment S}
      (reached : Reaches log state) (answered : Answers state moment next) : Reaches (log ++ [moment]) next

variable {log : List (DeliveryMoment S)} {state next : SnapshotDeliveryState S}

theorem Reaches.split (reached : Reaches log state) {before after : List (DeliveryMoment S)}
    {moment : DeliveryMoment S} (splits : log = before ++ moment :: after) :
    ∃ here next, Reaches before here ∧ Answers here moment next := by
  induction reached generalizing after with
  | start =>
    have impossible := congrArg List.length splits
    simp only [List.length_nil, List.length_append, List.length_cons] at impossible
    omega
  | @step earlier here there last reached answered ih =>
    rcases List.eq_nil_or_concat after with rfl | ⟨rest, final, rfl⟩
    · obtain ⟨rfl, same⟩ := List.append_inj' splits rfl
      cases same
      exact ⟨here, there, reached, answered⟩
    · have regrouped : earlier ++ [last] = (before ++ moment :: rest) ++ [final] := by
        simpa only [List.append_assoc, List.cons_append, List.concat_eq_append] using splits
      obtain ⟨same, -⟩ := List.append_inj' regrouped rfl
      exact ih same

/-- The newest tick among what was delivered and what is being written. -/
def committedTick (state : SnapshotDeliveryState S) : Nat :=
  max (state.lastDeliveredTick.getD 0) (retainedTick state.activeSnapshot)

/-- What the log and the state it reached agree on. -/
structure Accounted (log : List (DeliveryMoment S)) (state : SnapshotDeliveryState S) : Prop where
  ordered : state.Ordered
  ascending : (delivered log).Pairwise fun earlier later =>
    earlier.snapshot.tickSequence.value < later.snapshot.tickSequence.value
  numbered : (delivered log).map SnapshotDelivery.messageSequence = List.range' 1 state.messageSequence
  settled : (delivered log).length = completions log + state.activeSnapshot.toList.length
  bounded : ∀ earlier ∈ delivered log, earlier.snapshot.tickSequence.value ≤ state.committedTick
  fresh : ∀ pending, state.pendingSnapshot = some pending → pending ∈ observedSinceDelivery log
  surveyed : ∀ snapshot ∈ observations log,
    snapshot.tickSequence.value ≤ max state.committedTick (retainedTick state.pendingSnapshot)

theorem Ordered.committedTick_lt (ordered : state.Ordered) {pending : WorldSnapshot S}
    (retained : state.pendingSnapshot = some pending) : state.committedTick < pending.tickSequence.value := by
  refine max_lt (ordered.pending pending retained) ?_
  cases present : state.activeSnapshot with
  | none => exact (Nat.zero_le _).trans_lt (ordered.pending pending retained)
  | some active => exact ordered.ahead active pending present retained

theorem Ordered.committedTick_active (ordered : state.Ordered) {active : WorldSnapshot S}
    (present : state.activeSnapshot = some active) : state.committedTick = active.tickSequence.value := by
  unfold committedTick
  rw [present]
  exact max_eq_right (ordered.active active present).le

/-- An observation leaves a pending snapshot at least as new, or everything retained already is. -/
theorem observe_newest {latest : WorldSnapshot S}
    (observed : state.observe latest = .ok next) :
    max state.committedTick (retainedTick state.pendingSnapshot) ≤
        max next.committedTick (retainedTick next.pendingSnapshot) ∧
      latest.tickSequence.value ≤ max next.committedTick (retainedTick next.pendingSnapshot) := by
  have newer_than_retained : ∀ tick, ¬ state.isNewerThanRetained tick = true →
      tick ≤ max state.committedTick (retainedTick state.pendingSnapshot) := by
    intro tick stale
    rw [isNewerThanRetained, decide_eq_true_eq, not_lt] at stale
    exact stale
  have replaced : ∀ pendingAhead : retainedTick state.pendingSnapshot ≤ latest.tickSequence.value,
      max state.committedTick (retainedTick state.pendingSnapshot) ≤
          max state.committedTick latest.tickSequence.value ∧
        latest.tickSequence.value ≤ max state.committedTick latest.tickSequence.value :=
    fun pendingAhead => ⟨max_le_max le_rfl pendingAhead, le_max_right _ _⟩
  unfold SnapshotDeliveryState.observe at observed
  dsimp only at observed
  split at observed
  · cases observed
  · split at observed
    · cases observed
      split
      · next newer => exact replaced (isNewerThanRetained_iff.mp newer).2.2.le
      · next stale => exact ⟨le_rfl, newer_than_retained _ stale⟩
    · split at observed
      · next pending retained =>
        cases observed
        split
        · next newer => exact replaced (by rw [retained]; exact newer.le)
        · next stale =>
          refine ⟨le_rfl, le_max_of_le_right ?_⟩
          rw [retained]
          exact not_lt.mp stale
      · cases observed
        split
        · next newer => exact replaced (isNewerThanRetained_iff.mp newer).2.2.le
        · next stale => exact ⟨le_rfl, newer_than_retained _ stale⟩

theorem Accounted.observed (accounted : Accounted log state) {latest : WorldSnapshot S}
    (observed : state.observe latest = .ok next) : Accounted (log ++ [.observed latest]) next := by
  obtain ⟨activeKept, deliveredKept, sequenceKept, -⟩ := observe_fields observed
  have committedKept : next.committedTick = state.committedTick := by
    rw [committedTick, activeKept, deliveredKept, committedTick]
  have deliveries : delivered (log ++ [.observed latest]) = delivered log := by
    simp only [delivered, List.filterMap_append, List.filterMap_cons, delivery, List.filterMap_nil, List.append_nil]
  obtain ⟨grows, newest⟩ := observe_newest observed
  refine ⟨accounted.ordered.observe observed, ?_, ?_, ?_, ?_, ?_, ?_⟩
  · rw [deliveries]
    exact accounted.ascending
  · rw [deliveries, sequenceKept]
    exact accounted.numbered
  · rw [deliveries, activeKept, completions, List.countP_append]
    exact accounted.settled
  · rw [deliveries, committedKept]
    exact accounted.bounded
  · intro pending retained
    rw [observedSinceDelivery, List.foldl_append]
    refine List.mem_append.mpr ?_
    obtain same | ⟨same, -⟩ := observe_cases observed
    · rw [same] at retained
      exact .inl (accounted.fresh pending retained)
    · rw [same] at retained
      cases retained
      exact .inr (List.mem_singleton_self _)
  · intro snapshot member
    rw [observations, List.filterMap_append, List.mem_append] at member
    obtain earlier | now := member
    · exact (accounted.surveyed snapshot earlier).trans grows
    · cases List.mem_singleton.mp now
      exact newest

theorem Accounted.begun_none (accounted : Accounted log state)
    (begins : state.beginActiveWrite = (.ok none, next)) : Accounted (log ++ [.begun none]) next := by
  have unchanged : next = state := by
    unfold beginActiveWrite at begins
    split at begins
    · cases begins
      rfl
    · split at begins
      · cases begins
        rfl
      · dsimp only at begins
        split at begins <;> cases begins
  subst unchanged
  have deliveries : delivered (log ++ [.begun none]) = delivered log := by
    simp only [delivered, List.filterMap_append, List.filterMap_cons, delivery, List.filterMap_nil, List.append_nil]
  refine ⟨accounted.ordered, ?_, ?_, ?_, ?_, ?_, ?_⟩
  · rw [deliveries]
    exact accounted.ascending
  · rw [deliveries]
    exact accounted.numbered
  · rw [deliveries, completions, List.countP_append]
    exact accounted.settled
  · rw [deliveries]
    exact accounted.bounded
  · rw [observedSinceDelivery, List.foldl_append]
    exact accounted.fresh
  · rw [observations, List.filterMap_append]
    intro snapshot member
    exact accounted.surveyed snapshot ((List.mem_append.mp member).resolve_right List.not_mem_nil)

/-- A write that begins is of a snapshot newer than all delivered, at least as new as all observed. -/
theorem Accounted.begin_newest (accounted : Accounted log state) {delivery : SnapshotDelivery S}
    (begins : state.beginActiveWrite = (.ok (some delivery), next)) :
    (∀ earlier ∈ delivered log, earlier.snapshot.tickSequence.value < delivery.snapshot.tickSequence.value) ∧
      ∀ other ∈ observations log, other.tickSequence.value ≤ delivery.snapshot.tickSequence.value := by
  obtain ⟨-, retained, -, -⟩ := beginActiveWrite_eq_ok begins
  have ahead := accounted.ordered.committedTick_lt retained
  refine ⟨fun earlier member => (accounted.bounded earlier member).trans_lt ahead, ?_⟩
  intro other member
  have surveyed := accounted.surveyed other member
  rw [retained] at surveyed
  exact surveyed.trans (max_le ahead.le le_rfl)

theorem Accounted.begun_some (accounted : Accounted log state) {delivery : SnapshotDelivery S}
    (begins : state.beginActiveWrite = (.ok (some delivery), next)) :
    Accounted (log ++ [.begun (some delivery)]) next := by
  obtain ⟨later, newest⟩ := accounted.begin_newest begins
  obtain ⟨inactive, retained, sequenced, rfl⟩ := beginActiveWrite_eq_ok begins
  have deliveries : delivered (log ++ [.begun (some delivery)]) = delivered log ++ [delivery] := by
    simp only [delivered, List.filterMap_append, List.filterMap_cons, DeliveryMoment.delivery, List.filterMap_nil]
  have aheadOfDelivered := accounted.ordered.pending delivery.snapshot retained
  refine ⟨⟨?_, ?_, ?_⟩, ?_, ?_, ?_, ?_, ?_, ?_⟩
  · rintro _ ⟨⟩
    exact aheadOfDelivered
  · rintro _ ⟨⟩
  · rintro _ _ _ ⟨⟩
  · rw [deliveries, List.pairwise_append]
    refine ⟨accounted.ascending, List.pairwise_singleton _ _, ?_⟩
    intro earlier member _ last
    cases List.mem_singleton.mp last
    exact later earlier member
  · rw [deliveries, List.map_append, accounted.numbered, List.range'_concat]
    simp only [List.map_cons, List.map_nil, sequenced, Nat.one_mul, Nat.add_comm]
  · have settled := accounted.settled
    rw [inactive, Option.toList_none, List.length_nil, Nat.add_zero] at settled
    rw [deliveries, List.length_append, settled, completions, completions, List.countP_append]
    rfl
  · rw [deliveries]
    intro earlier member
    refine le_max_of_le_right ?_
    obtain before | now := List.mem_append.mp member
    · exact (later earlier before).le
    · cases List.mem_singleton.mp now
      exact le_rfl
  · rintro _ ⟨⟩
  · rw [observations, List.filterMap_append]
    intro snapshot member
    refine le_max_of_le_left (le_max_of_le_right ?_)
    exact newest snapshot ((List.mem_append.mp member).resolve_right List.not_mem_nil)

theorem Accounted.completed (accounted : Accounted log state) (completes : state.completeActiveWrite = .ok next) :
    Accounted (log ++ [.completed]) next := by
  have ordered := accounted.ordered.completed completes
  obtain ⟨active, present, rfl⟩ := completeActiveWrite_eq_ok completes
  have deliveries : delivered (log ++ [.completed]) = delivered log := by
    simp only [delivered, List.filterMap_append, List.filterMap_cons, delivery, List.filterMap_nil, List.append_nil]
  have committed : ({ state with
      lastDeliveredTick := some active.tickSequence.value, activeSnapshot := none } :
        SnapshotDeliveryState S).committedTick = state.committedTick := by
    rw [accounted.ordered.committedTick_active present]
    exact max_eq_left (Nat.zero_le _)
  refine ⟨ordered, ?_, ?_, ?_, ?_, ?_, ?_⟩
  · rw [deliveries]
    exact accounted.ascending
  · rw [deliveries]
    exact accounted.numbered
  · have settled := accounted.settled
    rw [present] at settled
    rw [deliveries, settled, completions, completions, List.countP_append]
    rfl
  · rw [deliveries, committed]
    exact accounted.bounded
  · rw [observedSinceDelivery, List.foldl_append]
    exact accounted.fresh
  · rw [observations, List.filterMap_append, committed]
    intro snapshot member
    exact accounted.surveyed snapshot ((List.mem_append.mp member).resolve_right List.not_mem_nil)

theorem Accounted.answered (accounted : Accounted log state) {moment : DeliveryMoment S}
    (answered : Answers state moment next) : Accounted (log ++ [moment]) next := by
  cases answered with
  | observe observed => exact accounted.observed observed
  | begin begins =>
    rename_i answer
    rcases answer with _ | delivery
    · exact accounted.begun_none begins
    · exact accounted.begun_some begins
  | complete completes => exact accounted.completed completes

theorem Accounted.initial : Accounted [] (initial : SnapshotDeliveryState S) where
  ordered := initial_ordered
  ascending := .nil
  numbered := rfl
  settled := rfl
  bounded := fun _ impossible => absurd impossible List.not_mem_nil
  fresh := fun _ impossible => nomatch impossible
  surveyed := fun _ impossible => absurd impossible List.not_mem_nil

theorem Reaches.accounted (reached : Reaches log state) : Accounted log state := by
  induction reached with
  | start => exact .initial
  | step _ answered ih => exact ih.answered answered

theorem mem_observations {snapshot : WorldSnapshot S} (member : snapshot ∈ observedSinceDelivery log) :
    snapshot ∈ observations log := by
  induction log using List.reverseRecOn with
  | nil => exact member
  | append_singleton log moment ih =>
    rw [observedSinceDelivery, List.foldl_append] at member
    rw [observations, List.filterMap_append, List.mem_append]
    cases moment with
    | observed latest =>
      obtain earlier | now := List.mem_append.mp member
      · exact .inl (ih earlier)
      · exact .inr now
    | begun answer =>
      cases answer with
      | none => exact .inl (ih member)
      | some delivery => exact absurd member List.not_mem_nil
    | completed => exact .inl (ih member)

/-- Deliveries ascend in tick and in sequence, one at a time, and each is the newest that was waiting. -/
theorem snapshot_delivery_latest_wins (reached : Reaches log state) :
    ((delivered log).Pairwise fun earlier later =>
        earlier.snapshot.tickSequence.value < later.snapshot.tickSequence.value) ∧
      (delivered log).map SnapshotDelivery.messageSequence = List.range' 1 (delivered log).length ∧
      (delivered log).length = completions log + (if state.writeActive then 1 else 0) ∧
      (∀ pending, state.pendingSnapshot = some pending →
        (∀ earlier ∈ delivered log, earlier.snapshot.tickSequence.value < pending.tickSequence.value) ∧
          ∀ active, state.activeSnapshot = some active →
            active.tickSequence.value < pending.tickSequence.value) ∧
      ∀ before delivery after, log = before ++ .begun (some delivery) :: after →
        NewestUndelivered delivery.snapshot (observedSinceDelivery before) (delivered before) := by
  have accounted := reached.accounted
  have counted : (delivered log).length = state.messageSequence := by
    have lengths := congrArg List.length accounted.numbered
    rwa [List.length_map, List.length_range'] at lengths
  refine ⟨accounted.ascending, ?_, ?_, ?_, ?_⟩
  · rw [counted]
    exact accounted.numbered
  · rw [accounted.settled, writeActive]
    cases state.activeSnapshot <;> rfl
  · intro pending retained
    have ahead := accounted.ordered.committedTick_lt retained
    refine ⟨fun earlier member => (accounted.bounded earlier member).trans_lt ahead, ?_⟩
    intro active present
    exact accounted.ordered.ahead active pending present retained
  · intro before delivery after splits
    obtain ⟨here, there, earlier, answered⟩ := reached.split splits
    cases answered with
    | begin begins =>
      obtain ⟨later, newest⟩ := earlier.accounted.begin_newest begins
      obtain ⟨-, retained, -, -⟩ := beginActiveWrite_eq_ok begins
      refine ⟨earlier.accounted.fresh _ retained, later, ?_⟩
      intro other member _
      exact newest other (mem_observations member)

theorem two_le_maximumProtocolSafeInteger : 2 ≤ maximumProtocolSafeInteger := by decide

/-- A publication of an empty world at the second tick, and one at the first. -/
def secondCommit : WorldSnapshot ℚ :=
  ⟨⟨2, two_le_maximumProtocolSafeInteger⟩, fun _ => .empty, .initial⟩

def firstCommit : WorldSnapshot ℚ :=
  ⟨⟨1, Nat.le_of_succ_le two_le_maximumProtocolSafeInteger⟩, fun _ => .empty, .initial⟩

/-- The second commit is asked for while the first is being written. -/
def refusedBegin : List (DeliveryMoment ℚ) :=
  [.observed firstCommit, .begun (some ⟨firstCommit, 1⟩), .observed secondCommit, .begun none, .completed]

theorem refusedBegin_reaches :
    Reaches (refusedBegin ++ [.begun (some ⟨secondCommit, 2⟩)]) ⟨some secondCommit, none, some 1, 2⟩ := by
  have observed : Reaches [.observed firstCommit] ⟨none, some firstCommit, none, 0⟩ := .step .start (.observe rfl)
  have writing : Reaches [.observed firstCommit, .begun (some ⟨firstCommit, 1⟩)]
      ⟨some firstCommit, none, none, 1⟩ := .step observed (.begin rfl)
  have waiting : Reaches [.observed firstCommit, .begun (some ⟨firstCommit, 1⟩), .observed secondCommit]
      ⟨some firstCommit, some secondCommit, none, 1⟩ := .step writing (.observe rfl)
  have refused : Reaches
      [.observed firstCommit, .begun (some ⟨firstCommit, 1⟩), .observed secondCommit, .begun none]
      ⟨some firstCommit, some secondCommit, none, 1⟩ := .step waiting (.begin rfl)
  have completed : Reaches refusedBegin ⟨none, some secondCommit, some 1, 1⟩ := .step refused (.complete rfl)
  exact .step completed (.begin rfl)

theorem snapshot_delivery_latest_wins_refused :
    NewestUndelivered secondCommit (observedSinceDelivery refusedBegin) (delivered refusedBegin) :=
  (snapshot_delivery_latest_wins refusedBegin_reaches).2.2.2.2 refusedBegin ⟨secondCommit, 2⟩ [] rfl

/-- Since the refused call nothing was observed, and still a write is delivered. -/
theorem delivery_unobserved_since_begin :
    ¬ ∀ (before : List (DeliveryMoment ℚ)) (delivery : SnapshotDelivery ℚ) (state : SnapshotDeliveryState ℚ),
      Reaches (before ++ [.begun (some delivery)]) state →
        NewestUndelivered delivery.snapshot (observedSinceBegin before) (delivered before) := by
  intro claimed
  exact absurd (claimed _ _ _ refusedBegin_reaches).among List.not_mem_nil

end SnapshotDeliveryState

end BlobRoyale.Server
