import BlobRoyale.Gameplay.StatusSystem
import Mathlib.Data.Finset.Card

/-!
# Status settling

What the pass writes once its requests are merged: the stuns, then the holds on every stunned entity. Each
write is read back through `find`, store by store.
-/

namespace BlobRoyale.Gameplay

open Simulation

variable {S : Type} [Scalar S]

namespace Applied

variable {α : Type} {world next : GameWorld S}

theorem thrownFrom_eq_ok {validated : Validated α} {value : α} :
    thrownFrom world validated = .ok value ↔ validated = .ok value := by
  cases validated <;> simp [thrownFrom]

end Applied

namespace StatusSystem

/-- One entity's components while it is stunned. -/
def held (tick : TickSequence) (zero : Vector2 S) : (kind : ComponentKind) → kind.Value S → kind.Value S
  | .controllable, controllable =>
      { controllable with normalizedThrustIntent := some zero, brakingIntent := false }
  | .physicsBody, body => if body.isStatic then body else body.withAcceleration zero
  | .charge, charge => charge.cutAt tick
  | .shield, shield => shield.cutAt tick
  | .lifetime, value | .score, value | .team, value | .zone, value | .zoneExposure, value
  | .lethalOnContact, value | .respawnTimer, value | .hill, value | .hillPresence, value
  | .raceProgress, value | .hillMotion, value | .stun, value | .contactEffectAdmission, value
  | .crossingHazard, value => value

/-- A requested stun's mark on its entity's link. -/
def marked (tick : TickSequence) (controllable : Controllable S) : Controllable S :=
  { controllable with inputGeneration := some tick }

/-- What the merged windows' writes leave. -/
structure Committed (tick : TickSequence) (requested : SortedStore EntityId TickWindow)
    (before after : GameWorld S) : Prop where
  stuns : ∀ entity, (after.stores .stun).find entity =
    ((requested.find entity).map Stun.mk).or ((before.stores .stun).find entity)
  links : ∀ entity, after.controllables.find entity =
    if (requested.find entity).isSome then (before.controllables.find entity).map (marked tick)
    else before.controllables.find entity
  others : ∀ kind, kind ≠ .stun → kind ≠ .controllable → after.stores kind = before.stores kind
  rest : GameWorld.SameRest before after

/-- What a hold leaves of the entities it names. -/
structure Holding (tick : TickSequence) (zero : Vector2 S) (named : EntityId → Bool)
    (before after : GameWorld S) : Prop where
  stores : ∀ kind entity, (after.stores kind).find entity =
    if named entity then ((before.stores kind).find entity).map (held tick zero kind)
    else (before.stores kind).find entity
  rest : GameWorld.SameRest before after

section Stores

variable {tick : TickSequence} {zero : Vector2 S} {world next : GameWorld S} {entity : EntityId}

theorem find_cons {V : Type} {first : EntityId × V} {rest : List (EntityId × V)}
    (ascending : (first :: rest).Pairwise fun left right => left.1 < right.1) (other : EntityId) :
    (SortedStore.mk (first :: rest) ascending).find other =
      if first.1 = other then some first.2
      else (SortedStore.mk rest (List.Pairwise.of_cons ascending)).find other := by
  rw [SortedStore.find, List.find?_cons]
  by_cases same : first.1 = other
  · simp [same]
  · simp [same, SortedStore.find]

theorem find_tail_first {V : Type} {first : EntityId × V} {rest : List (EntityId × V)}
    (ascending : (first :: rest).Pairwise fun left right => left.1 < right.1) :
    (SortedStore.mk rest (List.Pairwise.of_cons ascending)).find first.1 = none := by
  refine SortedStore.find_eq_none_iff.mpr fun member => ?_
  obtain ⟨entry, later, same⟩ := List.mem_map.mp member
  exact absurd same (ne_of_gt (List.rel_of_pairwise_cons ascending later))

theorem commit_eq_ok {entry : EntityId × TickWindow} : commit tick world entry = .ok next ↔
    ∃ stuns, (world.stores .stun).insertOrAssign entry.1 ⟨entry.2⟩ = .ok stuns ∧
      next = (world.withStore .stun stuns).withControllables
        ((world.withStore .stun stuns).controllables.modify entry.1 (marked tick)) := by
  constructor
  · intro committed
    obtain ⟨stuns, inserted, returned⟩ := bind_eq_ok.mp committed
    cases returned
    exact ⟨stuns, Applied.thrownFrom_eq_ok.mp inserted, rfl⟩
  · rintro ⟨stuns, inserted, rfl⟩
    exact bind_eq_ok.mpr ⟨stuns, Applied.thrownFrom_eq_ok.mpr inserted, rfl⟩

theorem committed_of_commit {window : TickWindow} (committed : commit tick world (entity, window) = .ok next) :
    (∀ other, (next.stores .stun).find other =
      if other = entity then some ⟨window⟩ else (world.stores .stun).find other) ∧
    (∀ other, next.controllables.find other =
      if other = entity then (world.controllables.find other).map (marked tick)
      else world.controllables.find other) ∧
    (∀ kind, kind ≠ .stun → kind ≠ .controllable → next.stores kind = world.stores kind) ∧
    GameWorld.SameRest world next := by
  obtain ⟨stuns, inserted, rfl⟩ := commit_eq_ok.mp committed
  refine ⟨fun other => ?_, fun other => ?_, fun kind notStun notLink => ?_, rfl, rfl, rfl, rfl⟩
  · rw [GameWorld.withControllables, GameWorld.withStore_other _ (by decide), GameWorld.withStore_same,
      ComponentStore.find_of_insertOrAssign inserted]
  · rw [GameWorld.withControllables_controllables, ComponentStore.find_modify, GameWorld.controllables,
      GameWorld.withStore_other _ (by decide)]
  · rw [GameWorld.withControllables, GameWorld.withStore_other _ notLink, GameWorld.withStore_other _ notStun]

theorem foldlM_commit {entries : List (EntityId × TickWindow)}
    (ascending : entries.Pairwise fun left right => left.1 < right.1)
    (committed : entries.foldlM (commit tick) world = .ok next) : Committed tick ⟨entries, ascending⟩ world next := by
  induction entries generalizing world with
  | nil =>
    cases committed
    exact ⟨fun _ => rfl, fun _ => rfl, fun _ _ _ => rfl, rfl, rfl, rfl, rfl⟩
  | cons first rest ih =>
    rw [List.foldlM_cons] at committed
    obtain ⟨middle, stepped, folded⟩ := bind_eq_ok.mp committed
    obtain ⟨entity, window⟩ := first
    obtain ⟨stuns, links, others, same⟩ := committed_of_commit stepped
    obtain ⟨laterStuns, laterLinks, laterOthers, laterSame⟩ := ih (List.Pairwise.of_cons ascending) folded
    have alone := find_tail_first ascending
    refine ⟨fun other => ?_, fun other => ?_, fun kind notStun notLink => ?_, same.trans laterSame⟩
    · rw [laterStuns, stuns, find_cons]
      by_cases named : entity = other
      · subst named
        simp [alone]
      · simp [named, Ne.symm named]
    · rw [laterLinks, links, find_cons]
      by_cases named : entity = other
      · subst named
        simp [alone]
      · simp [named, Ne.symm named]
    · rw [laterOthers kind notStun notLink, others kind notStun notLink]

theorem foldlM_commit_returns {entries : List (EntityId × TickWindow)} :
    (∃ next, entries.foldlM (commit tick) world = .ok next) ↔
      ((world.stores .stun).keys.toFinset ∪ (entries.map Prod.fst).toFinset).card ≤ maximumEntityCount := by
  induction entries generalizing world with
  | nil =>
    have bounded := (world.stores .stun).bounded
    simp only [List.map_nil, List.toFinset_nil, Finset.union_empty, ComponentStore.card_keys]
    exact iff_of_true ⟨world, rfl⟩ bounded
  | cons first rest ih =>
    have grown : (world.stores .stun).keys.toFinset ∪ ((first :: rest).map Prod.fst).toFinset =
        insert first.1 (world.stores .stun).keys.toFinset ∪ (rest.map Prod.fst).toFinset := by
      rw [List.map_cons, List.toFinset_cons, Finset.union_insert, Finset.insert_union]
    have stepped {stuns : ComponentStore Stun} {next : GameWorld S}
        (inserted : (world.stores .stun).insertOrAssign first.1 ⟨first.2⟩ = .ok stuns)
        (committed : commit tick world first = .ok next) :
        (next.stores .stun).keys.toFinset = insert first.1 (world.stores .stun).keys.toFinset := by
      obtain ⟨others, again, rfl⟩ := commit_eq_ok.mp committed
      cases inserted.symm.trans again
      rw [GameWorld.withControllables, GameWorld.withStore_other _ (by decide), GameWorld.withStore_same]
      exact ComponentStore.keys_insertOrAssign inserted
    rw [grown]
    constructor
    · rintro ⟨next, folded⟩
      rw [List.foldlM_cons] at folded
      obtain ⟨middle, committed, later⟩ := bind_eq_ok.mp folded
      obtain ⟨stuns, inserted, -⟩ := commit_eq_ok.mp committed
      rw [← stepped inserted committed]
      exact ih.mp ⟨next, later⟩
    · intro room
      obtain ⟨stuns, inserted⟩ : ∃ stuns, (world.stores .stun).insertOrAssign first.1 ⟨first.2⟩ = .ok stuns :=
        ComponentStore.insertOrAssign_returns.mpr (le_trans (Finset.card_le_card Finset.subset_union_left) room)
      have committed : commit tick world first = .ok _ := commit_eq_ok.mpr ⟨stuns, inserted, rfl⟩
      rw [← stepped inserted committed] at room
      obtain ⟨next, later⟩ := ih.mpr room
      exact ⟨next, by rw [List.foldlM_cons, committed]; exact later⟩

theorem cancelStored_eq_ok {kind : ComponentKind} {canceledAt : kind.Value S → Validated (kind.Value S)}
    {cut : kind.Value S → kind.Value S} {begun : kind.Value S → Prop}
    (cancels : ∀ value, begun value → canceledAt value = .ok (cut value))
    (refuses : ∀ value canceled, canceledAt value = .ok canceled → begun value) :
    cancelStored kind canceledAt world entity = .ok next ↔
      (∀ value, (world.stores kind).find entity = some value → begun value) ∧
        next = world.withStore kind ((world.stores kind).modify entity cut) := by
  unfold cancelStored
  cases found : (world.stores kind).find entity with
  | none =>
    have same : (world.stores kind).modify entity cut = world.stores kind :=
      ComponentStore.ext_find fun other => by
        rw [ComponentStore.find_modify]
        split
        · next named =>
          subst named
          rw [found]
          rfl
        · rfl
    have unchanged : world.withStore kind ((world.stores kind).modify entity cut) = world := by
      rw [same, GameWorld.withStore, Function.update_eq_self]
    rw [unchanged]
    constructor
    · intro returned
      cases returned
      exact ⟨fun _ impossible => (by cases impossible), rfl⟩
    · rintro ⟨-, rfl⟩
      rfl
  | some value =>
    have stored : (world.stores kind).insertOrAssign entity (cut value) =
        .ok ((world.stores kind).modify entity cut) := by
      obtain ⟨after, inserted⟩ : ∃ after, (world.stores kind).insertOrAssign entity (cut value) = .ok after :=
        ⟨_, dif_pos (.inl (SortedStore.mem_keys_iff.mpr (by rw [found]; rfl)))⟩
      rw [inserted]
      refine congrArg _ (ComponentStore.ext_find fun other => ?_)
      rw [ComponentStore.find_of_insertOrAssign inserted, ComponentStore.find_modify]
      split
      · next named =>
        subst named
        rw [found]
        rfl
      · rfl
    constructor
    · intro returned
      obtain ⟨canceled, called, rest⟩ := bind_eq_ok.mp returned
      have first := refuses value canceled (Applied.thrownFrom_eq_ok.mp called)
      cases (Applied.thrownFrom_eq_ok.mp called).symm.trans (cancels value first)
      obtain ⟨after, inserted, same⟩ := bind_eq_ok.mp rest
      cases (Applied.thrownFrom_eq_ok.mp inserted).symm.trans stored
      cases same
      refine ⟨fun other same => ?_, rfl⟩
      cases same
      exact first
    · rintro ⟨first, rfl⟩
      have called := cancels value (first value rfl)
      exact bind_eq_ok.mpr ⟨_, Applied.thrownFrom_eq_ok.mpr called, bind_eq_ok.mpr
        ⟨_, Applied.thrownFrom_eq_ok.mpr stored, rfl⟩⟩

/-- Whether an entity's charge and shield were activated by the tick. -/
def Begun (world : GameWorld S) (tick : TickSequence) (entity : EntityId) : Prop :=
  (∀ charge, (world.stores .charge).find entity = some charge → charge.activationTick.value ≤ tick.value) ∧
    ∀ shield, (world.stores .shield).find entity = some shield → shield.activationTick.value ≤ tick.value

theorem cancelCharge_eq_ok : cancelCharge tick world entity = .ok next ↔
    (∀ charge, (world.stores .charge).find entity = some charge → charge.activationTick.value ≤ tick.value) ∧
      next = world.withStore .charge ((world.stores .charge).modify entity fun charge => charge.cutAt tick) := by
  refine cancelStored_eq_ok (fun charge begun => Charge.canceledAt_eq begun) fun charge canceled called => ?_
  by_contra late
  rw [Charge.canceledAt, if_pos (not_le.mp late)] at called
  cases called

theorem cancelShield_eq_ok : cancelShield tick world entity = .ok next ↔
    (∀ shield, (world.stores .shield).find entity = some shield → shield.activationTick.value ≤ tick.value) ∧
      next = world.withStore .shield ((world.stores .shield).modify entity fun shield => shield.cutAt tick) := by
  refine cancelStored_eq_ok (fun shield begun => Shield.canceledAt_eq begun) fun shield canceled called => ?_
  by_contra late
  rw [Shield.canceledAt, if_pos (not_le.mp late)] at called
  cases called

/-- An entity's components of every kind, held in place. -/
def heldWorld (tick : TickSequence) (zero : Vector2 S) (world : GameWorld S) (entity : EntityId) : GameWorld S :=
  { world with stores := fun kind => (world.stores kind).modify entity (held tick zero kind) }

theorem modify_of_id {V : Type} {store : ComponentStore V} {change : V → V} (same : ∀ value, change value = value) :
    store.modify entity change = store := by
  refine ComponentStore.ext_find fun other => ?_
  rw [ComponentStore.find_modify]
  split
  · cases store.find other with
    | none => rfl
    | some value => exact congrArg some (same value)
  · rfl

theorem heldWorld_eq : heldWorld tick zero world entity =
    (((world.withControllables ((world.stores .controllable).modify entity (held tick zero .controllable))).withBodies
      ((world.stores .physicsBody).modify entity (held tick zero .physicsBody))).withStore .charge
        ((world.stores .charge).modify entity fun charge => charge.cutAt tick)).withStore .shield
          ((world.stores .shield).modify entity fun shield => shield.cutAt tick) := by
  simp only [heldWorld, GameWorld.withControllables, GameWorld.withBodies, GameWorld.withStore,
    GameWorld.mk.injEq, and_self, and_true]
  funext kind
  cases kind <;>
    simp only [Function.update, dite_eq_ite, reduceCtorEq, dite_false, if_true] <;>
    first
      | rfl
      | exact modify_of_id fun _ => rfl

theorem hold_eq_ok {stun : Stun} (stunned : stun.window.contains tick = true) :
    hold tick zero world (entity, stun) = .ok next ↔
      Begun world tick entity ∧ next = heldWorld tick zero world entity := by
  rw [heldWorld_eq, hold, if_pos stunned]
  constructor
  · intro returned
    obtain ⟨canceled, charged, shielded⟩ := bind_eq_ok.mp returned
    obtain ⟨charges, rfl⟩ := cancelCharge_eq_ok.mp charged
    obtain ⟨shields, rfl⟩ := cancelShield_eq_ok.mp shielded
    exact ⟨⟨charges, shields⟩, rfl⟩
  · rintro ⟨⟨charges, shields⟩, rfl⟩
    exact bind_eq_ok.mpr ⟨_, cancelCharge_eq_ok.mpr ⟨charges, rfl⟩, cancelShield_eq_ok.mpr ⟨shields, rfl⟩⟩

theorem find_heldWorld (kind : ComponentKind) (other : EntityId) :
    ((heldWorld tick zero world entity).stores kind).find other =
      if other = entity then ((world.stores kind).find other).map (held tick zero kind)
      else (world.stores kind).find other :=
  ComponentStore.find_modify ..

/-- Whether an entity is among the entries with a window that contains the tick. -/
def stunnedAt (tick : TickSequence) (stuns : SortedStore EntityId Stun) (entity : EntityId) : Bool :=
  (stuns.find entity).any fun stun => stun.window.contains tick

theorem hold_of_not_stunned {stun : Stun} (free : stun.window.contains tick = false) :
    hold tick zero world (entity, stun) = .ok world := by
  rw [hold, free]
  rfl

theorem stunnedAt_cons {first : EntityId × Stun} {rest : List (EntityId × Stun)}
    (ascending : (first :: rest).Pairwise fun left right => left.1 < right.1) (other : EntityId) :
    stunnedAt tick ⟨first :: rest, ascending⟩ other = if first.1 = other then first.2.window.contains tick
      else stunnedAt tick ⟨rest, List.Pairwise.of_cons ascending⟩ other := by
  rw [stunnedAt, find_cons]
  split <;> rfl

theorem begun_heldWorld {other : EntityId} (different : other ≠ entity) :
    Begun (heldWorld tick zero world entity) tick other ↔ Begun world tick other := by
  have same (kind : ComponentKind) : ((heldWorld tick zero world entity).stores kind).find other =
      (world.stores kind).find other := (find_heldWorld kind other).trans (if_neg different)
  rw [Begun, same .charge, same .shield]
  rfl

/-- The whole pass over the stuns: it returns where each stunned entity's windows had begun. -/
theorem foldlM_hold {entries : List (EntityId × Stun)}
    (ascending : entries.Pairwise fun left right => left.1 < right.1) :
    ((∃ next, entries.foldlM (hold tick zero) world = .ok next) ↔
      ∀ entity, stunnedAt tick ⟨entries, ascending⟩ entity = true → Begun world tick entity) ∧
    ∀ next, entries.foldlM (hold tick zero) world = .ok next →
      Holding tick zero (stunnedAt tick ⟨entries, ascending⟩) world next := by
  induction entries generalizing world with
  | nil =>
    refine ⟨iff_of_true ⟨world, rfl⟩ fun _ impossible => (by cases impossible), fun next returned => ?_⟩
    cases returned
    exact ⟨fun _ _ => rfl, rfl, rfl, rfl, rfl⟩
  | cons first rest ih =>
    obtain ⟨entity, stun⟩ := first
    have alone : stunnedAt tick ⟨rest, List.Pairwise.of_cons ascending⟩ entity = false := by
      rw [stunnedAt, find_tail_first ascending]
      rfl
    rw [List.foldlM_cons]
    cases stunned : stun.window.contains tick with
    | false =>
      rw [hold_of_not_stunned stunned]
      have same : stunnedAt tick ⟨(entity, stun) :: rest, ascending⟩ =
          stunnedAt tick ⟨rest, List.Pairwise.of_cons ascending⟩ := by
        funext other
        rw [stunnedAt_cons]
        split
        · next named => exact named ▸ stunned.trans alone.symm
        · rfl
      rw [same]
      exact ih (List.Pairwise.of_cons ascending)
    | true =>
      obtain ⟨returns, holds⟩ := @ih (heldWorld tick zero world entity) (List.Pairwise.of_cons ascending)
      refine ⟨⟨?_, fun begun => ?_⟩, fun next returned => ?_⟩
      · rintro ⟨next, returned⟩ other named
        obtain ⟨middle, first, later⟩ := bind_eq_ok.mp returned
        obtain ⟨begun, rfl⟩ := (hold_eq_ok stunned).mp first
        rw [stunnedAt_cons] at named
        by_cases own : entity = other
        · exact own ▸ begun
        · rw [if_neg own] at named
          exact (begun_heldWorld (Ne.symm own)).mp (returns.mp ⟨next, later⟩ other named)
      · have first : hold tick zero world (entity, stun) = .ok (heldWorld tick zero world entity) :=
          (hold_eq_ok stunned).mpr ⟨begun entity (by rw [stunnedAt_cons, if_pos rfl, stunned]), rfl⟩
        have rest : ∃ next, rest.foldlM (hold tick zero) (heldWorld tick zero world entity) = .ok next := by
          refine returns.mpr fun other named => ?_
          have own : entity ≠ other := by
            rintro rfl
            exact absurd named (Bool.eq_false_iff.mp alone)
          exact (begun_heldWorld (Ne.symm own)).mpr (begun other (by rw [stunnedAt_cons, if_neg own, named]))
        obtain ⟨next, later⟩ := rest
        exact ⟨next, bind_eq_ok.mpr ⟨_, first, later⟩⟩
      · obtain ⟨middle, first, later⟩ := bind_eq_ok.mp returned
        obtain ⟨-, rfl⟩ := (hold_eq_ok stunned).mp first
        obtain ⟨stores, same⟩ := holds next later
        refine ⟨fun kind other => ?_, same⟩
        rw [stores, find_heldWorld, stunnedAt_cons]
        by_cases own : entity = other
        · subst own
          simp only [alone, stunned, if_true, Bool.false_eq_true, if_false]
        · simp only [own, Ne.symm own, if_false]

end Stores

end StatusSystem

end BlobRoyale.Gameplay
