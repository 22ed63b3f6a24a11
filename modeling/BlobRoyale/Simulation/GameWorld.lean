import Mathlib.Data.UInt
import BlobRoyale.Simulation.Components
import BlobRoyale.Simulation.Identity
import BlobRoyale.Simulation.MatchState

/-!
# The game world

Every component store, the match record, the events of the open tick, the match's random streams
and the tick's remaining entity id reservation. An entity is its id: it lives while some store
holds it.
-/

namespace BlobRoyale.Simulation

/-- The SplitMix64 stream. -/
structure DeterministicRandom where
  seed : UInt64
  state : UInt64
  drawCount : UInt64
  deriving DecidableEq

namespace DeterministicRandom

def goldenGammaIncrement : UInt64 := 0x9E3779B97F4A7C15
def firstMixMultiplier : UInt64 := 0xBF58476D1CE4E5B9
def secondMixMultiplier : UInt64 := 0x94D049BB133111EB

def create (seed : UInt64) : DeterministicRandom := ⟨seed, seed, 0⟩

def mixBits (mixed : UInt64) : UInt64 :=
  let first := (mixed ^^^ (mixed >>> 30)) * firstMixMultiplier
  let second := (first ^^^ (first >>> 27)) * secondMixMultiplier
  second ^^^ (second >>> 31)

end DeterministicRandom

/-- One stream per registered kind. -/
structure RandomStreams where
  get : RandomStreamKind → DeterministicRandom

namespace RandomStreams

def initialSeed (matchSeed : UInt64) : RandomStreamKind → UInt64
  | .hazards => matchSeed
  | .hill => DeterministicRandom.mixBits (matchSeed + DeterministicRandom.goldenGammaIncrement * 1)

def create (matchSeed : UInt64) : RandomStreams :=
  ⟨fun kind => .create (initialSeed matchSeed kind)⟩

def set (streams : RandomStreams) (kind : RandomStreamKind) (random : DeterministicRandom) : RandomStreams :=
  ⟨Function.update streams.get kind random⟩

end RandomStreams

/-- Two distinct entities, lower id first. -/
structure CandidatePair where
  lowerId : EntityId
  higherId : EntityId
  ordered : lowerId < higherId
  deriving DecidableEq

namespace CandidatePair

def create (first second : EntityId) : Validated CandidatePair :=
  if ascending : first < second then
    .ok ⟨first, second, ascending⟩
  else if descending : second < first then
    .ok ⟨second, first, descending⟩
  else
    reject .candidatePairDuplicateEntityId "candidate_pair.entity_ids"
      ("candidate pair requires two distinct EntityId values; received " ++ toString first.value ++
        " twice")

end CandidatePair

inductive ChargeContactOutcome where
  | successfulHit
  | blockedByShield
  deriving DecidableEq, Repr

inductive WorldEvent (S : Type) [Scalar S] where
  | contact (pair : CandidatePair) (normal : Vector2 S) (relativeNormalSpeed : S)
      (ruleName : ContactRuleName)
  | despawn (entity : EntityId)
  | elimination (entity : EntityId)
  | stunRequest (entity : EntityId) (durationTicks : Nat)
  | raceCheckpoint (entity : EntityId) (nextCheckpoint : Nat) (tickOffset : MotionTime S)
  | chargeContact (attacker target : EntityId) (activationTick : TickSequence)
      (outcome : ChargeContactOutcome)
  deriving DecidableEq

/-- `world_event_kind_name_of`. -/
def WorldEvent.kindName {S : Type} [Scalar S] : WorldEvent S → String
  | contact .. => "contact"
  | despawn _ => "despawn"
  | elimination _ => "elimination"
  | stunRequest .. => "stun_request"
  | raceCheckpoint .. => "race_checkpoint"
  | chargeContact .. => "charge_contact"

structure GameWorld (S : Type) [Scalar S] where
  stores : (kind : ComponentKind) → ComponentStore (kind.Value S)
  matchState : MatchState S
  events : List (WorldEvent S)
  random : RandomStreams
  reservation : EntityIdReservation

/-- An entity a world starts with. -/
structure EntitySeed (S : Type) [Scalar S] where
  entity : EntityId
  body : PhysicsBody S
  controller : Option ControllerId

namespace GameWorld

variable {S : Type} [Scalar S]

abbrev bodies (world : GameWorld S) : ComponentStore (PhysicsBody S) := world.stores .physicsBody

abbrev controllables (world : GameWorld S) : ComponentStore (Controllable S) :=
  world.stores .controllable

def withStore (world : GameWorld S) (kind : ComponentKind) (store : ComponentStore (kind.Value S)) :
    GameWorld S :=
  { world with stores := Function.update world.stores kind store }

def withControllables (world : GameWorld S) (store : ComponentStore (Controllable S)) : GameWorld S :=
  world.withStore .controllable store

def withBodies (world : GameWorld S) (store : ComponentStore (PhysicsBody S)) : GameWorld S :=
  world.withStore .physicsBody store

def withMatch (world : GameWorld S) (matchState : MatchState S) : GameWorld S :=
  { world with matchState := matchState }

def withSeats (world : GameWorld S) (seats : SeatRoster) : GameWorld S :=
  world.withMatch { world.matchState with seats := seats }

/-- Two worlds that differ in their stores alone. -/
def SameRest (before after : GameWorld S) : Prop :=
  after.matchState = before.matchState ∧ after.events = before.events ∧ after.random = before.random ∧
    after.reservation = before.reservation

theorem SameRest.trans {first second third : GameWorld S} (left : SameRest first second)
    (right : SameRest second third) : SameRest first third :=
  ⟨right.1.trans left.1, right.2.1.trans left.2.1, right.2.2.1.trans left.2.2.1,
    right.2.2.2.trans left.2.2.2⟩

section Frames

variable {world : GameWorld S} {kind : ComponentKind}

@[simp] theorem withStore_same (store : ComponentStore (kind.Value S)) :
    (world.withStore kind store).stores kind = store := Function.update_self ..

theorem withStore_other (store : ComponentStore (kind.Value S)) {other : ComponentKind}
    (different : other ≠ kind) : (world.withStore kind store).stores other = world.stores other :=
  Function.update_of_ne different ..

@[simp] theorem withStore_matchState (store : ComponentStore (kind.Value S)) :
    (world.withStore kind store).matchState = world.matchState := rfl

@[simp] theorem withStore_events (store : ComponentStore (kind.Value S)) :
    (world.withStore kind store).events = world.events := rfl

@[simp] theorem withStore_reservation (store : ComponentStore (kind.Value S)) :
    (world.withStore kind store).reservation = world.reservation := rfl

@[simp] theorem withControllables_controllables (store : ComponentStore (Controllable S)) :
    (world.withControllables store).controllables = store := @withStore_same S _ world .controllable store

end Frames

/-- The entities some store holds, ascending: the stores' ids merged in registry order. -/
def mergeRosters : List EntityId → List EntityId → List EntityId
  | [], added => added
  | held, [] => held
  | first :: held, second :: added =>
      if first < second then first :: mergeRosters held (second :: added)
      else if second < first then second :: mergeRosters (first :: held) added
      else first :: mergeRosters held added
  termination_by held added => held.length + added.length

def entities (world : GameWorld S) : List EntityId :=
  ComponentKind.all.foldl (fun roster kind => mergeRosters roster (world.stores kind).keys) []

/-- `contains`: whether any store holds the entity. -/
def contains (world : GameWorld S) (entity : EntityId) : Bool :=
  ComponentKind.all.any fun kind => ((world.stores kind).find entity).isSome

theorem contains_iff {world : GameWorld S} {entity : EntityId} :
    world.contains entity = true ↔ ∃ kind, ((world.stores kind).find entity).isSome = true := by
  simp only [contains, List.any_eq_true, ComponentKind.mem_all, true_and]

theorem mem_mergeRosters {entity : EntityId} {held added : List EntityId} :
    entity ∈ mergeRosters held added ↔ entity ∈ held ∨ entity ∈ added := by
  fun_induction mergeRosters held added with
  | case1 added => simp
  | case2 held => simp
  | case3 first held second added ascending ih =>
    simp only [List.mem_cons, ih, or_assoc]
  | case4 first held second added ascending descending ih =>
    simp only [List.mem_cons, ih]
    tauto
  | case5 first held second added ascending descending ih =>
    have same : first = second := le_antisymm (le_of_not_gt descending) (le_of_not_gt ascending)
    simp only [List.mem_cons, ih, same]
    tauto

theorem mergeRosters_ascending {held added : List EntityId} (left : held.Pairwise (· < ·))
    (right : added.Pairwise (· < ·)) : (mergeRosters held added).Pairwise (· < ·) := by
  fun_induction mergeRosters held added with
  | case1 added => exact right
  | case2 held => exact left
  | case3 first held second added ascending ih =>
    refine List.pairwise_cons.mpr ⟨fun other member => ?_, ih (List.Pairwise.of_cons left) right⟩
    obtain member | member := mem_mergeRosters.mp member
    · exact List.rel_of_pairwise_cons left member
    · obtain rfl | later := List.mem_cons.mp member
      · exact ascending
      · exact lt_trans ascending (List.rel_of_pairwise_cons right later)
  | case4 first held second added ascending descending ih =>
    refine List.pairwise_cons.mpr ⟨fun other member => ?_, ih left (List.Pairwise.of_cons right)⟩
    obtain member | member := mem_mergeRosters.mp member
    · obtain rfl | later := List.mem_cons.mp member
      · exact descending
      · exact lt_trans descending (List.rel_of_pairwise_cons left later)
    · exact List.rel_of_pairwise_cons right member
  | case5 first held second added ascending descending ih =>
    have same : first = second := le_antisymm (le_of_not_gt descending) (le_of_not_gt ascending)
    refine List.pairwise_cons.mpr
      ⟨fun other member => ?_, ih (List.Pairwise.of_cons left) (List.Pairwise.of_cons right)⟩
    obtain member | member := mem_mergeRosters.mp member
    · exact List.rel_of_pairwise_cons left member
    · exact same ▸ List.rel_of_pairwise_cons right member

theorem entities_roster (world : GameWorld S) :
    world.entities.Pairwise (· < ·) ∧
      ∀ entity, entity ∈ world.entities ↔ world.contains entity = true := by
  have merged : ∀ (kinds : List ComponentKind) (roster : List EntityId), roster.Pairwise (· < ·) →
      (kinds.foldl (fun roster kind => mergeRosters roster (world.stores kind).keys) roster).Pairwise
        (· < ·) ∧
      ∀ entity, entity ∈ kinds.foldl (fun roster kind => mergeRosters roster (world.stores kind).keys)
        roster ↔ entity ∈ roster ∨ ∃ kind ∈ kinds, entity ∈ (world.stores kind).keys := by
    intro kinds
    induction kinds with
    | nil =>
      intro roster ascending
      exact ⟨ascending, fun entity => by simp⟩
    | cons kind rest ih =>
      intro roster ascending
      obtain ⟨sorted, members⟩ :=
        ih _ (mergeRosters_ascending ascending (world.stores kind).keys_ascending)
      refine ⟨sorted, fun entity => ?_⟩
      rw [List.foldl_cons, members, mem_mergeRosters, or_assoc]
      simp only [List.mem_cons, exists_eq_or_imp]
  obtain ⟨ascending, members⟩ := merged ComponentKind.all [] .nil
  refine ⟨ascending, fun entity => ?_⟩
  rw [entities, members, contains_iff]
  simp only [List.not_mem_nil, false_or, ComponentKind.mem_all, true_and, SortedStore.mem_keys_iff]

theorem le_getLast_entities {world : GameWorld S} {entity last : EntityId}
    (found : world.entities.getLast? = some last) (live : world.contains entity = true) :
    entity ≤ last := by
  obtain ⟨ascending, members⟩ := world.entities_roster
  obtain ⟨before, split⟩ := List.getLast?_eq_some_iff.mp found
  have member := (members entity).mpr live
  rw [split] at ascending member
  obtain earlier | same := List.mem_append.mp member
  · exact le_of_lt ((List.pairwise_append.mp ascending).2.2 entity earlier last
      (List.mem_singleton_self last))
  · exact le_of_eq (List.mem_singleton.mp same)

/-- Draw the next reserved id; the entity exists once a store holds it. -/
def createEntity (world : GameWorld S) : Validated (EntityId × GameWorld S) := do
  let (drawn, reservation) ← world.reservation.drawNext
  if world.contains drawn then
    reject .gameWorldDuplicateEntityId "game_world.entities.entity_id"
      ("the tick's reservation issued EntityId " ++ toString drawn.value ++
        ", which already names a live entity")
  else
    .ok (drawn, { world with reservation := reservation })

def destroyEntity (world : GameWorld S) (entity : EntityId) : GameWorld S :=
  { world with stores := fun kind => (world.stores kind).erase entity }

theorem destroyEntity_find (world : GameWorld S) (entity other : EntityId) (kind : ComponentKind) :
    ((world.destroyEntity entity).stores kind).find other =
      if other = entity then none else (world.stores kind).find other :=
  ComponentStore.find_erase (world.stores kind) entity other

theorem destroyEntities_find (entities : List EntityId) (world : GameWorld S) (other : EntityId)
    (kind : ComponentKind) :
    ((entities.foldl destroyEntity world).stores kind).find other =
      if other ∈ entities then none else (world.stores kind).find other := by
  induction entities generalizing world with
  | nil => simp
  | cons entity rest ih =>
    rw [List.foldl_cons, ih, destroyEntity_find]
    by_cases same : other = entity <;> by_cases later : other ∈ rest <;> simp [same, later]

theorem destroyEntities_frame (entities : List EntityId) (world : GameWorld S) :
    (entities.foldl destroyEntity world).matchState = world.matchState ∧
      (entities.foldl destroyEntity world).reservation = world.reservation ∧
      (entities.foldl destroyEntity world).events = world.events := by
  induction entities generalizing world with
  | nil => exact ⟨rfl, rfl, rfl⟩
  | cons entity rest ih => exact ih (world.destroyEntity entity)

/-- A created entity is the first reserved id, it was not live, and only the reservation moved. -/
theorem createEntity_eq_ok {world next : GameWorld S} {created : EntityId}
    (draws : world.createEntity = .ok (created, next)) :
    ∃ rest, world.reservation.drawNext = .ok (created, rest) ∧ world.contains created = false ∧
      next = { world with reservation := rest } := by
  obtain ⟨⟨drawn, rest⟩, drawnNext, checked⟩ := bind_eq_ok.mp draws
  dsimp only at checked
  split at checked
  · cases checked
  · next fresh =>
    cases checked
    exact ⟨rest, drawnNext, Bool.eq_false_iff.mpr fresh, rfl⟩

def controllerOf (world : GameWorld S) (entity : EntityId) : Option ControllerId :=
  (world.controllables.find entity).map (·.controllerId)

theorem controllerOf_destroyEntity (world : GameWorld S) (entity other : EntityId) :
    (world.destroyEntity entity).controllerOf other =
      if other = entity then none else world.controllerOf other := by
  rw [controllerOf, controllables, destroyEntity_find]
  split <;> rfl

@[simp] theorem controllerOf_withMatch (world : GameWorld S) (matchState : MatchState S)
    (entity : EntityId) : (world.withMatch matchState).controllerOf entity = world.controllerOf entity :=
  rfl

@[simp] theorem controllerOf_withSeats (world : GameWorld S) (seats : SeatRoster)
    (entity : EntityId) : (world.withSeats seats).controllerOf entity = world.controllerOf entity := rfl

theorem controllerOf_withControllables (world : GameWorld S)
    (store : ComponentStore (Controllable S)) (entity : EntityId) :
    (world.withControllables store).controllerOf entity = (store.find entity).map (·.controllerId) := by
  rw [controllerOf, withControllables_controllables]

def eraseBodyBoundComponentsWithoutBody (world : GameWorld S) : GameWorld S :=
  { world with stores := fun kind =>
      if kind.boundToBody then
        (world.stores kind).filter fun entity _ => (world.bodies.find entity).isSome
      else world.stores kind }

def emit (world : GameWorld S) (event : WorldEvent S) : Validated (GameWorld S) :=
  if world.events.length < maximumWorldEventCount then
    .ok { world with events := world.events ++ [event] }
  else
    reject .gameWorldEventLimitExceeded "game_world.events"
      ("emitting a " ++ event.kindName ++ " event would exceed the accepted per-tick limit " ++
        toString maximumWorldEventCount)

def openTick (world : GameWorld S) (reservation : EntityIdReservation) : GameWorld S :=
  { world with reservation := reservation }

def closeTick (world : GameWorld S) : GameWorld S := { world with events := [], reservation := .none }

/-- A world with nothing in it, its streams seeded. -/
def empty (matchSeed : UInt64) : GameWorld S :=
  ⟨fun _ => .empty, .initial, [], .create matchSeed, .none⟩

theorem entities_empty (matchSeed : UInt64) : (empty matchSeed : GameWorld S).entities = [] := by
  refine List.eq_nil_iff_forall_not_mem.mpr fun entity member => ?_
  obtain ⟨kind, held⟩ := contains_iff.mp (((empty matchSeed).entities_roster.2 entity).mp member)
  cases held

/-- `create(seeds)`: the seeded bodies and the controllers steering them. -/
def create (seeds : List (EntitySeed S)) : Validated (GameWorld S) :=
  let sorted := seeds.insertionSort fun left right => left.entity ≤ right.entity
  if seeds.length ≤ maximumEntityCount then
    match SortedStore.repeatedKey (sorted.map fun seed => (seed.entity, seed.body)) with
    | some entity =>
        reject .gameWorldDuplicateEntityId "game_world.entities.entity_id"
          ("duplicate EntityId " ++ toString entity.value)
    | none => do
        let bodies ← ComponentStore.create (sorted.map fun seed => (seed.entity, seed.body))
        let controllables ← ComponentStore.create (sorted.filterMap fun seed =>
          seed.controller.map fun controller => (seed.entity, Controllable.linked controller))
        return ((empty 0).withBodies bodies).withControllables controllables
  else
    reject .gameWorldEntityLimitExceeded "game_world.entities"
      ("entity count " ++ toString seeds.length ++ " exceeds the accepted limit")

end GameWorld

end BlobRoyale.Simulation

/-!
# World snapshots

What one committed tick shows to its readers: the tick, every component store and the match section.
-/

namespace BlobRoyale.Simulation

structure WorldSnapshot (S : Type) [Scalar S] where
  tickSequence : TickSequence
  stores : (kind : ComponentKind) → ComponentStore (kind.Value S)
  matchState : MatchState S

section Join

variable {K V W : Type} [LinearOrder K]

/-- `for_each_entity_with_both`: the keys of both ascending lists, with both values. -/
def entitiesWithBoth : List (K × V) → List (K × W) → List (K × V × W)
  | [], _ => []
  | first :: firsts, seconds =>
      match seconds.dropWhile fun second => second.1 < first.1 with
      | [] => []
      | second :: rest =>
          if first.1 < second.1 then entitiesWithBoth firsts (second :: rest)
          else (first.1, first.2, second.2) :: entitiesWithBoth firsts rest

end Join

variable {S : Type} [Scalar S]

/-- `find_controlled_body`: the first entity with a body that this controller drives. -/
def WorldSnapshot.findControlledBody (snapshot : WorldSnapshot S) (controller : ControllerId) : Option EntityId :=
  let controllables : ComponentStore (Controllable S) := snapshot.stores .controllable
  let bodies : ComponentStore (PhysicsBody S) := snapshot.stores .physicsBody
  ((entitiesWithBoth controllables.entries bodies.entries).find? fun entry =>
    entry.2.1.controllerId = controller).map Prod.fst

end BlobRoyale.Simulation
