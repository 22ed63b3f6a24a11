import Mathlib.Data.List.Dedup
import Mathlib.Data.List.Sort
import BlobRoyale.Motion.SolverMoves
import BlobRoyale.Simulation.GameSimulation
import BlobRoyale.Simulation.Seating
import BlobRoyale.Library.Transition
import BlobRoyale.Simulation.SystemPipeline

/-!
# The shipped spawn policies

All three probe forward from the rotation counter, behind a rule of their own about phases and timers.
None names a point that is not free, so seating with any of them never overlaps.
-/

namespace BlobRoyale.Gameplay

open BlobRoyale.Simulation

variable {S : Type} [Scalar S]

/-- `next_free_spawn_point`, the index computed in `std::size_t`. -/
def nextFreeSpawnPoint (rotationCounter : Nat) (spawnPointIsFree : List Bool) : Option Nat :=
  (List.range spawnPointIsFree.length).findSome? fun probe =>
    let index := (rotationCounter + probe) % 2 ^ 64 % spawnPointIsFree.length
    if spawnPointIsFree[index]? = some true then some index else none

theorem nextFreeSpawnPoint_free {rotationCounter index : Nat} {free : List Bool}
    (chosen : nextFreeSpawnPoint rotationCounter free = some index) : free[index]? = some true := by
  obtain ⟨probe, -, probed⟩ := List.exists_of_findSome?_eq_some chosen
  dsimp only at probed
  split at probed
  · next isFree =>
    cases probed
    exact isFree
  · cases probed

/-- `NextFreeSpawnPointPolicy`. -/
def NextFreeSpawnPointPolicy.chooseSpawnPoint (world : GameWorld S) (entity : EntityId) (rotationCounter : Nat)
    (spawnPointIsFree : List Bool) : Option Nat :=
  if ((world.stores .respawnTimer).find entity).isSome then none
  else if world.matchState.phase = .lobby ∧ world.matchState.previousPhase = .ended then none
  else nextFreeSpawnPoint rotationCounter spawnPointIsFree

/-- `RotatingRingSpawnPolicy`. -/
def RotatingRingSpawnPolicy.chooseSpawnPoint (world : GameWorld S) (rotationCounter : Nat)
    (spawnPointIsFree : List Bool) : Option Nat :=
  if world.matchState.phase = .running ∨ world.matchState.phase = .ended then none
  else if world.matchState.phase = .lobby ∧ world.matchState.previousPhase = .ended then none
  else nextFreeSpawnPoint rotationCounter spawnPointIsFree

/-- `GridSpawnPolicy`. -/
def GridSpawnPolicy.chooseSpawnPoint (world : GameWorld S) (entity : EntityId) (rotationCounter : Nat)
    (spawnPointIsFree : List Bool) : Option Nat :=
  let progress : ComponentStore RaceProgress := world.stores .raceProgress
  if world.matchState.phase = .ended then none
  else if world.matchState.phase = .running ∧
      (progress.find entity).all (fun progress => progress.nextCheckpoint ≠ 0) = true then none
  else NextFreeSpawnPointPolicy.chooseSpawnPoint world entity rotationCounter spawnPointIsFree

inductive ShippedSpawnPolicy where
  | nextFreeSpawnPoint
  | rotatingRing
  | grid
  deriving DecidableEq, Repr

namespace ShippedSpawnPolicy

def policy : ShippedSpawnPolicy → SpawnPolicy S
  | nextFreeSpawnPoint => ⟨fun world _ entity counter free =>
      .ok (NextFreeSpawnPointPolicy.chooseSpawnPoint world entity counter free)⟩
  | rotatingRing => ⟨fun world _ _ counter free =>
      .ok (RotatingRingSpawnPolicy.chooseSpawnPoint world counter free)⟩
  | grid => ⟨fun world _ entity counter free =>
      .ok (GridSpawnPolicy.chooseSpawnPoint world entity counter free)⟩

theorem nextFree_answers {world : GameWorld S} {entity : EntityId} {counter index : Nat} {free : List Bool}
    (chosen : NextFreeSpawnPointPolicy.chooseSpawnPoint world entity counter free = some index) :
    free[index]? = some true := by
  unfold NextFreeSpawnPointPolicy.chooseSpawnPoint at chosen
  split at chosen
  · cases chosen
  · split at chosen
    · cases chosen
    · exact nextFreeSpawnPoint_free chosen

theorem answersFree (shipped : ShippedSpawnPolicy) : (shipped.policy : SpawnPolicy S).AnswersFree := by
  intro world context entity counter free
  cases shipped with
  | nextFreeSpawnPoint => exact ⟨_, rfl, fun _ chosen => nextFree_answers chosen⟩
  | rotatingRing =>
    refine ⟨_, rfl, fun index chosen => ?_⟩
    unfold RotatingRingSpawnPolicy.chooseSpawnPoint at chosen
    split at chosen
    · cases chosen
    · split at chosen
      · cases chosen
      · exact nextFreeSpawnPoint_free chosen
  | grid =>
    refine ⟨_, rfl, fun index chosen => ?_⟩
    unfold GridSpawnPolicy.chooseSpawnPoint at chosen
    dsimp only at chosen
    split at chosen
    · cases chosen
    · split at chosen
      · cases chosen
      · exact nextFree_answers chosen

/-- Seating with a shipped policy never overlaps and never fails for the policy's answer. -/
theorem seating_never_overlaps (shipped : ShippedSpawnPolicy) (context : TickContext S) (world : GameWorld S)
    (terrain : context.map.TerrainRefusesItsOwn) :
    SpawnPolicy.SoundSeating shipped.policy context world :=
  SpawnPolicy.soundSeating shipped.answersFree terrain

def onePoint (point : Vector2 ℚ) : TickContext ℚ where
  tickSequence := .zero
  simulationConfig := GameSimulation.oneCell
  map := { (GameSimulation.oneCellSimulation []).map with spawnPoints := [point] }
  spatialIndex := (GameSimulation.oneCellSimulation []).grid

/-- An entity linked to a controller, and no body. -/
def bodyless : GameWorld ℚ :=
  (GameWorld.empty 0).withControllables
    ⟨SortedStore.empty.insertOrAssign .first (Controllable.linked .first), Nat.le_of_ble_eq_true rfl⟩

theorem validComponent_two : ValidComponent (2 : ℚ) := by decide

theorem seating_never_overlaps_one_point :
    SpawnPolicy.SoundSeating ShippedSpawnPolicy.nextFreeSpawnPoint.policy
      (onePoint ⟨2, 2, validComponent_two, validComponent_two⟩) bodyless :=
  seating_never_overlaps .nextFreeSpawnPoint _ _ fun _ _ _ impossible => nomatch impossible

end ShippedSpawnPolicy

end BlobRoyale.Gameplay

/-!
# Returns to play

The lifecycle pass that counts return timers down, takes the tick's eliminated bodies off the field and
sweeps what was bound to a body that is gone.
-/

namespace BlobRoyale.Gameplay

open Simulation Transition

variable {S : Type} [Scalar S]

/-- `eliminated_entities_of`, ascending and distinct. -/
def eliminatedEntitiesOf (world : GameWorld S) : List EntityId :=
  ((world.events.filterMap fun
    | .elimination entity => some entity
    | _ => none).insertionSort (· ≤ ·)).dedup

theorem mem_eliminatedEntitiesOf {world : GameWorld S} {entity : EntityId} :
    entity ∈ eliminatedEntitiesOf world ↔ .elimination entity ∈ world.events := by
  rw [eliminatedEntitiesOf, List.mem_dedup, List.mem_insertionSort, List.mem_filterMap]
  constructor
  · rintro ⟨event, member, named⟩
    cases event <;> cases named
    exact member
  · intro member
    exact ⟨_, member, rfl⟩

namespace RespawnSystem

/-- The timers one tick later; a timer that runs out is gone. -/
def countDown (timers : ComponentStore RespawnTimer) : ComponentStore RespawnTimer :=
  (timers.filter fun _ timer => 1 < timer.ticksRemaining).mapValues fun _ timer => ⟨timer.ticksRemaining - 1⟩

/-- One elimination: the body leaves, and a positive delay starts its timer. -/
def eliminate (respawnDelayTicks : Nat) (world : GameWorld S) (entity : EntityId) : Validated (GameWorld S) :=
  if (world.controllables.find entity).isNone ∨ (world.bodies.find entity).isNone then .ok world
  else
    let left := world.withBodies (world.bodies.erase entity)
    if 0 < respawnDelayTicks then do
      let timers : ComponentStore RespawnTimer := left.stores .respawnTimer
      let started ← timers.insertOrAssign entity ⟨respawnDelayTicks⟩
      return left.withStore .respawnTimer started
    else .ok left

def apply (respawnDelayTicks : Nat) (world : GameWorld S) : Validated (GameWorld S) := do
  let timers : ComponentStore RespawnTimer := world.stores .respawnTimer
  let counted := world.withStore .respawnTimer (countDown timers)
  let left ← (eliminatedEntitiesOf world).foldlM (eliminate respawnDelayTicks) counted
  return left.eraseBodyBoundComponentsWithoutBody

def ticksRemaining (world : GameWorld S) (entity : EntityId) : Nat :=
  let timers : ComponentStore RespawnTimer := world.stores .respawnTimer
  ((timers.find entity).map RespawnTimer.ticksRemaining).getD 0

section Frames

variable {respawnDelayTicks : Nat} {world next : GameWorld S} {entity other : EntityId}

/-- An elimination takes one body and starts one timer. -/
structure Leaves (respawnDelayTicks : Nat) (entity : EntityId) (before after : GameWorld S) : Prop where
  others : ∀ kind other, other ≠ entity → (after.stores kind).find other = (before.stores kind).find other
  rest : ∀ kind, kind ≠ .physicsBody → kind ≠ .respawnTimer → after.stores kind = before.stores kind
  frame : GameWorld.SameRest before after
  outcome : after = before ∧
      ((before.controllables.find entity).isNone = true ∨ (before.bodies.find entity).isNone = true) ∨
    (before.controllables.find entity).isSome = true ∧ (before.bodies.find entity).isSome = true ∧
      after.bodies.find entity = none ∧
      (after.stores .respawnTimer).find entity =
        if 0 < respawnDelayTicks then some ⟨respawnDelayTicks⟩ else (before.stores .respawnTimer).find entity

theorem eliminate_eq_ok (eliminates : eliminate respawnDelayTicks world entity = .ok next) :
    Leaves respawnDelayTicks entity world next := by
  have erased : ∀ other, (world.bodies.erase entity).find other = if other = entity then none else
      world.bodies.find other := ComponentStore.find_erase world.bodies entity
  unfold eliminate at eliminates
  split at eliminates
  · next absent =>
    cases eliminates
    exact ⟨fun _ _ _ => rfl, fun _ _ _ => rfl, ⟨rfl, rfl, rfl, rfl⟩, .inl ⟨rfl, absent⟩⟩
  · next present =>
    simp only [not_or, Bool.not_eq_true, Option.isNone_eq_false_iff] at present
    dsimp only at eliminates
    split at eliminates
    · next delayed =>
      obtain ⟨started, inserted, committed⟩ := bind_eq_ok.mp eliminates
      cases committed
      have starts := ComponentStore.find_of_insertOrAssign inserted
      refine ⟨?_, ?_, ⟨rfl, rfl, rfl, rfl⟩, .inr ⟨present.1, present.2, ?_, ?_⟩⟩
      · intro kind other different
        by_cases timed : kind = .respawnTimer
        · subst timed
          rw [GameWorld.withStore_same, starts, if_neg different]
          rfl
        · rw [GameWorld.withStore_other _ timed]
          by_cases bodied : kind = .physicsBody
          · subst bodied
            exact (congrArg (fun store : ComponentStore (PhysicsBody S) => store.find other)
              (GameWorld.withStore_same _)).trans ((erased other).trans (if_neg different))
          · rw [GameWorld.withBodies, GameWorld.withStore_other _ bodied]
      · intro kind bodied timed
        rw [GameWorld.withStore_other _ timed, GameWorld.withBodies, GameWorld.withStore_other _ bodied]
      · exact (erased entity).trans (if_pos rfl)
      · rw [GameWorld.withStore_same, starts, if_pos rfl, if_pos delayed]
    · next immediate =>
      cases eliminates
      refine ⟨?_, ?_, ⟨rfl, rfl, rfl, rfl⟩, .inr ⟨present.1, present.2, ?_, ?_⟩⟩
      · intro kind other different
        by_cases bodied : kind = .physicsBody
        · subst bodied
          exact (congrArg (fun store : ComponentStore (PhysicsBody S) => store.find other)
            (GameWorld.withStore_same _)).trans ((erased other).trans (if_neg different))
        · rw [GameWorld.withBodies, GameWorld.withStore_other _ bodied]
      · intro kind bodied _
        rw [GameWorld.withBodies, GameWorld.withStore_other _ bodied]
      · exact (erased entity).trans (if_pos rfl)
      · rw [if_neg immediate]
        rfl

/-- The eliminated entities with a controller and a body. -/
def Falls (entities : List EntityId) (world : GameWorld S) (entity : EntityId) : Prop :=
  entity ∈ entities ∧ (world.controllables.find entity).isSome = true ∧ (world.bodies.find entity).isSome = true

instance (entities : List EntityId) (world : GameWorld S) (entity : EntityId) : Decidable (Falls entities world entity) :=
  inferInstanceAs (Decidable (_ ∧ _ ∧ _))

/-- What distinct eliminations change: the bodies of those who fall, and their timers. -/
structure LeaveAll (respawnDelayTicks : Nat) (entities : List EntityId) (before after : GameWorld S) : Prop where
  rest : ∀ kind, kind ≠ .physicsBody → kind ≠ .respawnTimer → after.stores kind = before.stores kind
  frame : GameWorld.SameRest before after
  bodies : ∀ entity, after.bodies.find entity =
    if Falls entities before entity then none else before.bodies.find entity
  timers : ∀ entity, (after.stores .respawnTimer).find entity =
    if Falls entities before entity ∧ 0 < respawnDelayTicks then some ⟨respawnDelayTicks⟩
    else (before.stores .respawnTimer).find entity

theorem eliminateAll_eq_ok {entities : List EntityId} (distinct : entities.Nodup)
    (folded : entities.foldlM (eliminate respawnDelayTicks) world = .ok next) :
    LeaveAll respawnDelayTicks entities world next := by
  induction entities using List.reverseRecOn generalizing next with
  | nil =>
    cases folded
    have nobody : ∀ entity, ¬ Falls [] world entity := fun entity falls => List.not_mem_nil falls.1
    exact ⟨fun _ _ _ => rfl, ⟨rfl, rfl, rfl, rfl⟩, fun entity => (if_neg (nobody entity)).symm,
      fun entity => (if_neg fun both => nobody entity both.1).symm⟩
  | append_singleton earlier last ih =>
    obtain ⟨middle, reached, stepped⟩ := foldlM_concat.mp folded
    rw [List.nodup_append] at distinct
    have before := ih distinct.1 reached
    have leaves := eliminate_eq_ok stepped
    have unlisted : last ∉ earlier := fun member =>
      distinct.2.2 last member last (List.mem_singleton_self _) rfl
    have linked : middle.controllables = world.controllables := before.rest .controllable (by decide) (by decide)
    have bodied : middle.bodies.find last = world.bodies.find last :=
      (before.bodies last).trans (if_neg fun falls => unlisted falls.1)
    have timed : (middle.stores .respawnTimer).find last = (world.stores .respawnTimer).find last :=
      (before.timers last).trans (if_neg fun falls => unlisted falls.1.1)
    have elsewhere : ∀ entity, entity ≠ last → (Falls (earlier ++ [last]) world entity ↔ Falls earlier world entity) := by
      intro entity different
      rw [Falls, Falls, List.mem_append, List.mem_singleton, or_iff_left different]
    have here : Falls (earlier ++ [last]) world last ↔
        (world.controllables.find last).isSome = true ∧ (world.bodies.find last).isSome = true :=
      and_iff_right (List.mem_append_right _ (List.mem_singleton_self _))
    refine ⟨?_, before.frame.trans leaves.frame, ?_, ?_⟩
    · intro kind noBody noTimer
      exact (leaves.rest kind noBody noTimer).trans (before.rest kind noBody noTimer)
    · intro entity
      by_cases same : entity = last
      · subst same
        rw [if_congr here rfl rfl]
        obtain ⟨unchanged, absent⟩ | ⟨controlled, present, gone, -⟩ := leaves.outcome
        · rw [unchanged, bodied]
          rw [linked, bodied] at absent
          split
          · next both =>
            rw [Option.isSome_iff_ne_none, Option.isSome_iff_ne_none] at both
            simp only [Option.isNone_iff_eq_none] at absent
            exact absurd absent (not_or.mpr both)
          · rfl
        · rw [gone, if_pos ⟨linked ▸ controlled, bodied ▸ present⟩]
      · rw [if_congr (elsewhere entity same) rfl rfl]
        exact (leaves.others .physicsBody entity same).trans (before.bodies entity)
    · intro entity
      by_cases same : entity = last
      · subst same
        rw [if_congr (and_congr_left' here) rfl rfl]
        obtain ⟨unchanged, absent⟩ | ⟨controlled, present, -, timer⟩ := leaves.outcome
        · rw [unchanged, timed]
          rw [linked, bodied] at absent
          split
          · next both =>
            have both := both.1
            rw [Option.isSome_iff_ne_none, Option.isSome_iff_ne_none] at both
            simp only [Option.isNone_iff_eq_none] at absent
            exact absurd absent (not_or.mpr both)
          · rfl
        · rw [timer, timed]
          exact if_congr (and_iff_right ⟨linked ▸ controlled, bodied ▸ present⟩).symm rfl rfl
      · rw [if_congr (and_congr_left' (elsewhere entity same)) rfl rfl]
        exact (leaves.others .respawnTimer entity same).trans (before.timers entity)

theorem erase_find {kind : ComponentKind} (bound : kind.boundToBody = true) (world : GameWorld S) (entity : EntityId) :
    (world.eraseBodyBoundComponentsWithoutBody.stores kind).find entity =
      if (world.bodies.find entity).isSome = true then (world.stores kind).find entity else none := by
  unfold GameWorld.eraseBodyBoundComponentsWithoutBody
  dsimp only
  rw [if_pos bound, ComponentStore.find_filter]
  cases (world.stores kind).find entity with
  | none => split <;> rfl
  | some value => rfl

theorem erase_unbound {kind : ComponentKind} (unbound : kind.boundToBody = false) (world : GameWorld S) :
    world.eraseBodyBoundComponentsWithoutBody.stores kind = world.stores kind := by
  unfold GameWorld.eraseBodyBoundComponentsWithoutBody
  dsimp only
  rw [unbound]
  rfl

/-- What the pass leaves: nobody who fell has a body, and everything bound to a body went with it. -/
structure Passed (respawnDelayTicks : Nat) (before after : GameWorld S) : Prop where
  rest : ∀ kind, kind ≠ .physicsBody → kind ≠ .respawnTimer → kind.boundToBody = false →
    after.stores kind = before.stores kind
  frame : GameWorld.SameRest before after
  bodies : ∀ entity, after.bodies.find entity =
    if Falls (eliminatedEntitiesOf before) before entity then none else before.bodies.find entity
  timers : ∀ entity, (after.stores .respawnTimer).find entity =
    if Falls (eliminatedEntitiesOf before) before entity ∧ 0 < respawnDelayTicks then some ⟨respawnDelayTicks⟩
    else (countDown (before.stores .respawnTimer)).find entity
  bound : ∀ kind entity, kind.boundToBody = true → (after.stores kind).find entity =
    if (after.bodies.find entity).isSome = true then (before.stores kind).find entity else none

theorem apply_eq_ok (applied : apply respawnDelayTicks world = .ok next) : Passed respawnDelayTicks world next := by
  obtain ⟨left, folded, committed⟩ := bind_eq_ok.mp applied
  cases committed
  have leaves : LeaveAll respawnDelayTicks (eliminatedEntitiesOf world)
      (world.withStore .respawnTimer (countDown (world.stores .respawnTimer))) left :=
    eliminateAll_eq_ok (List.nodup_dedup _) folded
  have counted : ∀ kind, kind ≠ .respawnTimer →
      (world.withStore .respawnTimer (countDown (world.stores .respawnTimer))).stores kind = world.stores kind :=
    fun kind other => GameWorld.withStore_other _ other
  have falls : ∀ entity, Falls (eliminatedEntitiesOf world)
      (world.withStore .respawnTimer (countDown (world.stores .respawnTimer))) entity ↔
        Falls (eliminatedEntitiesOf world) world entity := by
    intro entity
    rw [Falls, Falls, GameWorld.controllables, GameWorld.bodies, counted .controllable (by decide),
      counted .physicsBody (by decide)]
  refine ⟨?_, ?_, ?_, ?_, ?_⟩
  · intro kind noBody noTimer unbound
    exact (erase_unbound unbound left).trans ((leaves.rest kind noBody noTimer).trans (counted kind noTimer))
  · exact leaves.frame
  · intro entity
    refine (congrArg (fun store : ComponentStore (PhysicsBody S) => store.find entity)
      (erase_unbound rfl left)).trans ?_
    rw [leaves.bodies entity, if_congr (falls entity) rfl rfl, GameWorld.bodies, counted .physicsBody (by decide)]
  · intro entity
    rw [erase_unbound rfl left, leaves.timers entity, if_congr (and_congr_left' (falls entity)) rfl rfl,
      GameWorld.withStore_same]
  · intro kind entity bound
    have kept : left.eraseBodyBoundComponentsWithoutBody.bodies = left.bodies := erase_unbound rfl left
    have different : kind ≠ .physicsBody ∧ kind ≠ .respawnTimer := by
      constructor <;> rintro rfl <;> cases bound
    rw [erase_find bound, kept, leaves.rest kind different.1 different.2, counted kind different.2]

end Frames

end RespawnSystem

end BlobRoyale.Gameplay
