import BlobRoyale.Library.SortedStore
import BlobRoyale.Simulation.Command
import BlobRoyale.Simulation.PhysicsBody

/-!
# Component kinds and stores

The registered component kinds in registry order, the value each kind stores, and the bounded
store, sorted by EntityId, that every kind has one of.
-/

namespace BlobRoyale.Simulation

/-- A half-open window of ticks. -/
structure TickWindow where
  activationTick : TickSequence
  expiryTick : TickSequence
  ordered : activationTick.value ≤ expiryTick.value
  deriving DecidableEq

inductive ContactEffectPolicy where
  | closingImpact
  | anyTouch
  deriving DecidableEq, Repr

/-- `RandomStreamKind`, in ordinal order. -/
inductive RandomStreamKind where
  | hazards
  | hill
  deriving DecidableEq, Repr

section Values

variable (S : Type) [Scalar S]

/-- The link between an entity and the controller steering it, with the tick's recorded input. -/
structure Controllable where
  controllerId : ControllerId
  commandsThisTick : List (Command S)
  normalizedThrustIntent : Option (Vector2 S)
  inputGeneration : Option TickSequence
  brakingIntent : Bool
  deriving DecidableEq

structure Lifetime where
  ticksRemaining : Nat
  deriving DecidableEq

structure Score where
  points : Int
  deriving DecidableEq

structure Team where
  teamId : TeamId
  deriving DecidableEq

structure Zone where
  center : Vector2 S
  radius : S
  deriving DecidableEq

structure ZoneExposure where
  outsideTicks : Nat
  deriving DecidableEq

structure LethalOnContact where
  deriving DecidableEq

structure RespawnTimer where
  ticksRemaining : Nat
  deriving DecidableEq

structure Hill where
  center : Vector2 S
  radius : S
  deriving DecidableEq

structure HillPresence where
  insideTicks : Nat
  deriving DecidableEq

structure RaceProgress where
  nextCheckpoint : Nat
  deriving DecidableEq

structure HillMotionSchedule where
  nextRetargetTick : TickSequence
  randomStream : RandomStreamKind
  deriving DecidableEq

structure HillMotion where
  velocity : Vector2 S
  schedule : Option HillMotionSchedule
  deriving DecidableEq

structure Stun where
  window : TickWindow
  deriving DecidableEq

structure ContactEffectAdmission where
  policy : ContactEffectPolicy
  deriving DecidableEq

/-- The windows of one activation, all opened on one tick. -/
structure Shield where
  shieldWindow : TickWindow
  perfectWindow : TickWindow
  cooldownWindow : TickWindow
  parryStunDurationTicks : Nat
  perfectAligned : perfectWindow.activationTick = shieldWindow.activationTick
  cooldownAligned : cooldownWindow.activationTick = shieldWindow.activationTick
  deriving DecidableEq

structure Charge where
  cooldownWindow : TickWindow
  activeWindow : TickWindow
  hitStunDurationTicks : Nat
  aligned : activeWindow.activationTick = cooldownWindow.activationTick
  deriving DecidableEq

structure CrossingHazard where
  deriving DecidableEq

end Values

/-- `Controllable{controller_id}`, the link a spawned entity starts with. -/
def Controllable.linked {S : Type} [Scalar S] (controller : ControllerId) : Controllable S :=
  ⟨controller, [], none, none, false⟩

inductive ComponentKind where
  | physicsBody
  | controllable
  | lifetime
  | score
  | team
  | zone
  | zoneExposure
  | lethalOnContact
  | respawnTimer
  | hill
  | hillPresence
  | raceProgress
  | hillMotion
  | stun
  | contactEffectAdmission
  | shield
  | charge
  | crossingHazard
  deriving DecidableEq, Repr

namespace ComponentKind

/-- `ComponentRegistry`, in visiting order. -/
def all : List ComponentKind :=
  [physicsBody, controllable, lifetime, score, team, zone, zoneExposure, lethalOnContact,
    respawnTimer, hill, hillPresence, raceProgress, hillMotion, stun, contactEffectAdmission, shield,
    charge, crossingHazard]

theorem mem_all (kind : ComponentKind) : kind ∈ all := by
  cases kind <;> decide

abbrev Value (S : Type) [Scalar S] : ComponentKind → Type
  | physicsBody => PhysicsBody S
  | controllable => Controllable S
  | lifetime => Lifetime
  | score => Score
  | team => Team
  | zone => Zone S
  | zoneExposure => ZoneExposure
  | lethalOnContact => LethalOnContact
  | respawnTimer => RespawnTimer
  | hill => Hill S
  | hillPresence => HillPresence
  | raceProgress => RaceProgress
  | hillMotion => HillMotion S
  | stun => Stun
  | contactEffectAdmission => ContactEffectAdmission
  | shield => Shield
  | charge => Charge
  | crossingHazard => CrossingHazard

/-- `ComponentLifetime<Component>::bound_to_body`. -/
def boundToBody : ComponentKind → Bool
  | zoneExposure | hillPresence | stun | contactEffectAdmission | shield | charge | crossingHazard =>
      true
  | physicsBody | controllable | lifetime | score | team | zone | lethalOnContact | respawnTimer
  | hill | raceProgress | hillMotion => false

end ComponentKind

/-- One kind's values by entity, at most `maximumEntityCount` of them. -/
structure ComponentStore (V : Type) extends SortedStore EntityId V where
  bounded : entries.length ≤ maximumEntityCount

namespace ComponentStore

variable {V : Type}

def empty : ComponentStore V := ⟨.empty, Nat.zero_le _⟩

def create (entries : List (EntityId × V)) : Validated (ComponentStore V) :=
  let sorted := entries.insertionSort fun left right => left.1 ≤ right.1
  if bounded : entries.length ≤ maximumEntityCount then
    match distinct : SortedStore.repeatedKey sorted with
    | some entity =>
        reject .componentStoreDuplicateEntityId "component_store.entries.entity_id"
          ("duplicate EntityId " ++ toString entity.value)
    | none => .ok
        ⟨⟨sorted, SortedStore.ascending_of_sorted (List.pairwise_insertionSort _ entries) distinct⟩, by
          rw [List.length_insertionSort]
          exact bounded⟩
  else
    reject .componentStoreLimitExceeded "component_store.entries"
      ("component entry count " ++ toString entries.length ++ " exceeds the accepted limit")

theorem ext_find {first second : ComponentStore V}
    (same : ∀ entity, first.find entity = second.find entity) : first = second := by
  have stores := SortedStore.ext_find same
  cases first
  cases second
  cases stores
  rfl

def insertOrAssign (store : ComponentStore V) (entity : EntityId) (value : V) :
    Validated (ComponentStore V) :=
  if room : entity ∈ store.keys ∨ store.entries.length < maximumEntityCount then
    .ok ⟨store.toSortedStore.insertOrAssign entity value, by
      have bounded := store.bounded
      rw [SortedStore.length_insertOrAssign]
      split
      · exact bounded
      · next absent => exact room.resolve_left absent⟩
  else
    reject .componentStoreLimitExceeded "component_store.entries"
      "component entry count exceeds the accepted limit"

theorem find_of_insertOrAssign {store next : ComponentStore V} {entity : EntityId} {value : V}
    (inserted : store.insertOrAssign entity value = .ok next) (other : EntityId) :
    next.find other = if other = entity then some value else store.find other := by
  unfold insertOrAssign at inserted
  split at inserted
  · cases inserted
    exact store.toSortedStore.find_insertOrAssign entity value other
  · cases inserted

theorem keys_insertOrAssign {entity : EntityId} {store stored : ComponentStore V} {value : V}
    (inserted : store.insertOrAssign entity value = .ok stored) :
    stored.keys.toFinset = insert entity store.keys.toFinset := by
  ext other
  simp only [List.mem_toFinset, Finset.mem_insert, SortedStore.mem_keys_iff,
    find_of_insertOrAssign inserted]
  split
  · next same => simp [same]
  · next different => simp [different]

theorem card_keys (store : ComponentStore V) : store.keys.toFinset.card = store.entries.length := by
  rw [List.toFinset_card_of_nodup store.keys_nodup, SortedStore.keys, List.length_map]

theorem insertOrAssign_returns {entity : EntityId} {store : ComponentStore V} {value : V} :
    (∃ stored, store.insertOrAssign entity value = .ok stored) ↔
      (insert entity store.keys.toFinset).card ≤ maximumEntityCount := by
  have bounded := store.bounded
  constructor
  · rintro ⟨stored, inserted⟩
    rw [← keys_insertOrAssign inserted, card_keys]
    exact stored.bounded
  · intro room
    refine ⟨_, dif_pos ?_⟩
    by_cases member : entity ∈ store.keys
    · exact .inl member
    · rw [Finset.card_insert_of_notMem (fun held => member (List.mem_toFinset.mp held)), card_keys] at room
      exact .inr room

def filter (test : EntityId → V → Bool) (store : ComponentStore V) : ComponentStore V :=
  ⟨store.toSortedStore.filter test,
    Nat.le_trans (SortedStore.length_filter_le test store.toSortedStore) store.bounded⟩

@[simp] theorem find_filter (test : EntityId → V → Bool) (store : ComponentStore V)
    (entity : EntityId) : (store.filter test).find entity = (store.find entity).filter (test entity) :=
  SortedStore.find_filter test store.toSortedStore entity

def erase (store : ComponentStore V) (entity : EntityId) : ComponentStore V :=
  store.filter fun other _ => other ≠ entity

@[simp] theorem find_erase (store : ComponentStore V) (entity other : EntityId) :
    (store.erase entity).find other = if other = entity then none else store.find other :=
  SortedStore.find_erase store.toSortedStore entity other

/-- What a pass over `mutable_values` leaves. -/
def mapValues (change : EntityId → V → V) (store : ComponentStore V) : ComponentStore V :=
  ⟨store.toSortedStore.mapValues change, by
    rw [SortedStore.mapValues, List.length_map]
    exact store.bounded⟩

@[simp] theorem find_mapValues (change : EntityId → V → V) (store : ComponentStore V)
    (entity : EntityId) : (store.mapValues change).find entity = (store.find entity).map (change entity) :=
  SortedStore.find_mapValues change store.toSortedStore entity

/-- Overwrite the value of an entity that has one, through `mutable_find`. -/
def modify (store : ComponentStore V) (entity : EntityId) (change : V → V) : ComponentStore V :=
  store.mapValues fun other value => if other = entity then change value else value

theorem find_modify (store : ComponentStore V) (entity other : EntityId) (change : V → V) :
    (store.modify entity change).find other =
      if other = entity then (store.find other).map change else store.find other := by
  rw [modify, find_mapValues]
  split
  · rfl
  · cases store.find other <;> rfl

end ComponentStore

end BlobRoyale.Simulation

/-!
# Component joins

The walk over two ascending stores that visits, in ascending order, the entities both hold.
-/

namespace BlobRoyale.Simulation

variable {V W : Type}

/-- `for_each_entity_with_both`: what the walk visits. -/
def joinEntries : List (EntityId × V) → List (EntityId × W) → List (EntityId × V × W)
  | [], _ => []
  | _, [] => []
  | first :: firsts, second :: seconds =>
      if first.1 < second.1 then joinEntries firsts (second :: seconds)
      else if second.1 < first.1 then joinEntries (first :: firsts) seconds
      else (first.1, first.2, second.2) :: joinEntries firsts seconds
  termination_by firsts seconds => firsts.length + seconds.length

abbrev Ascending (entries : List (EntityId × V)) : Prop := entries.Pairwise fun left right => left.1 < right.1

theorem mem_joinEntries {firsts : List (EntityId × V)} {seconds : List (EntityId × W)}
    (left : Ascending firsts) (right : Ascending seconds) {entity : EntityId} {value : V} {other : W} :
    (entity, value, other) ∈ joinEntries firsts seconds ↔ (entity, value) ∈ firsts ∧ (entity, other) ∈ seconds := by
  fun_induction joinEntries firsts seconds with
  | case1 seconds => simp
  | case2 firsts => simp
  | case3 first firsts second seconds ascending ih =>
    have absent : (entity, value) = first → (entity, other) ∉ second :: seconds := by
      rintro rfl member
      obtain same | member := List.mem_cons.mp member
      · exact absurd (congrArg Prod.fst same) (ne_of_lt ascending)
      · exact absurd (lt_trans ascending (List.rel_of_pairwise_cons right member)) (lt_irrefl _)
    rw [ih (List.Pairwise.of_cons left) right, List.mem_cons (b := first), or_and_right]
    exact (or_iff_right fun both => absent both.1 both.2).symm
  | case4 first firsts second seconds ascending descending ih =>
    have absent : (entity, other) = second → (entity, value) ∉ first :: firsts := by
      rintro rfl member
      obtain same | member := List.mem_cons.mp member
      · exact absurd (congrArg Prod.fst same) (ne_of_lt descending)
      · exact absurd (lt_trans descending (List.rel_of_pairwise_cons left member)) (lt_irrefl _)
    rw [ih left (List.Pairwise.of_cons right), List.mem_cons (b := second), and_or_left]
    exact (or_iff_right fun both => absent both.2 both.1).symm
  | case5 first firsts second seconds ascending descending ih =>
    have same : first.1 = second.1 := le_antisymm (not_lt.mp descending) (not_lt.mp ascending)
    obtain ⟨key, firstValue⟩ := first
    obtain ⟨_, secondValue⟩ := second
    cases same
    have above (member : (entity, value) ∈ firsts) : entity ≠ key :=
      ne_of_gt (List.rel_of_pairwise_cons left member)
    have beyond (member : (entity, other) ∈ seconds) : entity ≠ key :=
      ne_of_gt (List.rel_of_pairwise_cons right member)
    rw [List.mem_cons, ih (List.Pairwise.of_cons left) (List.Pairwise.of_cons right), List.mem_cons, List.mem_cons]
    simp only [Prod.mk.injEq]
    constructor
    · rintro (⟨rfl, rfl, rfl⟩ | ⟨first, second⟩)
      · exact ⟨.inl ⟨rfl, rfl⟩, .inl ⟨rfl, rfl⟩⟩
      · exact ⟨.inr first, .inr second⟩
    · rintro ⟨⟨rfl, rfl⟩ | first, ⟨named, rfl⟩ | second⟩
      · exact .inl ⟨rfl, rfl, rfl⟩
      · exact absurd rfl (beyond second)
      · exact absurd named (above first)
      · exact .inr ⟨first, second⟩

theorem joinEntries_ascending {firsts : List (EntityId × V)} {seconds : List (EntityId × W)}
    (left : Ascending firsts) (right : Ascending seconds) : Ascending (joinEntries firsts seconds) := by
  fun_induction joinEntries firsts seconds with
  | case1 seconds => exact .nil
  | case2 firsts => exact .nil
  | case3 first firsts second seconds ascending ih => exact ih (List.Pairwise.of_cons left) right
  | case4 first firsts second seconds ascending descending ih => exact ih left (List.Pairwise.of_cons right)
  | case5 first firsts second seconds ascending descending ih =>
    have lefts := List.Pairwise.of_cons left
    have rights := List.Pairwise.of_cons right
    refine List.pairwise_cons.mpr ⟨fun later member => ?_, ih lefts rights⟩
    exact List.rel_of_pairwise_cons left ((mem_joinEntries lefts rights).mp member).1

def ComponentStore.join (first : ComponentStore V) (second : ComponentStore W) : List (EntityId × V × W) :=
  joinEntries first.entries second.entries

theorem ComponentStore.mem_join {first : ComponentStore V} {second : ComponentStore W} {entity : EntityId}
    {value : V} {other : W} : (entity, value, other) ∈ first.join second ↔
      first.find entity = some value ∧ second.find entity = some other := by
  rw [join, mem_joinEntries first.ascending second.ascending, SortedStore.find_eq_some_iff,
    SortedStore.find_eq_some_iff]

theorem ComponentStore.join_ascending (first : ComponentStore V) (second : ComponentStore W) :
    Ascending (first.join second) := joinEntries_ascending first.ascending second.ascending

end BlobRoyale.Simulation
