import BlobRoyale.Gameplay.AbilitySystem
import BlobRoyale.Gameplay.StatusSettling

/-!
# The ability pass

The walk over the joined entities: a visit reads and writes its own entity's components alone, so what it
admits is decided by the world the pass was given.
-/

namespace BlobRoyale.Gameplay

open Simulation

variable {S : Type} [Scalar S]

namespace AbilitySystem

variable {configuration : AbilityConfiguration S} {tick : TickSequence} {world other next : GameWorld S}
  {entity : EntityId} {link : Controllable S} {body : PhysicsBody S}

/-- Two worlds in which a visit of one entity reads the same. -/
structure ReadsAlike (world other : GameWorld S) (entity : EntityId) : Prop where
  matchState : other.matchState = world.matchState
  stores : ∀ kind, kind ∈ [ComponentKind.stun, .raceProgress, .shield, .charge] →
    (other.stores kind).find entity = (world.stores kind).find entity

theorem judge_congr (alike : ReadsAlike world other entity) : judge configuration tick other entity link body =
    judge configuration tick world entity link body := by
  have stun := alike.stores .stun (by decide)
  have progress := alike.stores .raceProgress (by decide)
  have shield := alike.stores .shield (by decide)
  have charge := alike.stores .charge (by decide)
  have locked : inputIsLocked other entity tick = inputIsLocked world entity tick := by
    rw [inputIsLocked, inputIsLocked, stun, progress, alike.matchState]
  have eligible : shieldEligible tick other entity link = shieldEligible tick world entity link := by
    rw [shieldEligible, shieldEligible, shield]
  have pulse : chargePulseAdmitted tick other entity link = chargePulseAdmitted tick world entity link := by
    rw [chargePulseAdmitted, chargePulseAdmitted, shield, charge, alike.matchState]
  have committed : committedVelocity configuration tick other entity link body =
      committedVelocity configuration tick world entity link body := by
    rw [committedVelocity, committedVelocity, pulse, burstSpeed, burstSpeed, alike.matchState]
  rw [judge, judge, locked, eligible, committed, alike.matchState]

/-- What one visit leaves, by store. -/
structure Performed (configuration : AbilityConfiguration S) (tick : TickSequence)
    (admitted : EntityId → Admission S) (before after : GameWorld S) : Prop where
  shields : ∀ entity, (after.stores .shield).find entity = match admitted entity with
    | .shield => (activateShield configuration tick).toOption
    | _ => (before.stores .shield).find entity
  charges : ∀ entity, (after.stores .charge).find entity = match admitted entity with
    | .charge _ => (activateCharge configuration tick).toOption
    | _ => (before.stores .charge).find entity
  bodies : ∀ entity, after.bodies.find entity = match admitted entity with
    | .charge velocity => (before.bodies.find entity).map fun body => body.withVelocity velocity
    | _ => before.bodies.find entity
  others : ∀ kind, kind ∉ [ComponentKind.shield, .charge, .physicsBody] → after.stores kind = before.stores kind
  rest : GameWorld.SameRest before after

/-- The admission of one entity, and of no other. -/
def only (entity : EntityId) (admission : Admission S) (other : EntityId) : Admission S :=
  if other = entity then admission else .refused

theorem performed_refused : Performed configuration tick (fun _ => .refused) world world :=
  ⟨fun _ => rfl, fun _ => rfl, fun _ => rfl, fun _ _ => rfl, rfl, rfl, rfl, rfl⟩

theorem performed_of_perform {admission : Admission S} (stored : world.bodies.find entity = some body)
    (performed : perform configuration tick world entity body admission = .ok next) :
    Performed configuration tick (only entity admission) world next := by
  cases admission with
  | refused =>
    cases performed
    have same : only entity (.refused : Admission S) = fun _ => .refused := funext fun other => ite_self _
    rw [same]
    exact performed_refused
  | shield =>
    obtain ⟨activated, activates, rest⟩ := bind_eq_ok.mp performed
    obtain ⟨shields, inserted, same⟩ := bind_eq_ok.mp rest
    cases same
    refine ⟨fun other => ?_, fun other => ?_, fun other => ?_, fun kind others => ?_, rfl, rfl, rfl, rfl⟩
    · rw [GameWorld.withStore_same, ComponentStore.find_of_insertOrAssign inserted]
      by_cases named : other = entity
      · rw [only, if_pos named, if_pos named, activates]
        rfl
      · rw [only, if_neg named, if_neg named]
    · rw [GameWorld.withStore_other _ (by decide)]
      by_cases named : other = entity
      · rw [only, if_pos named]
      · rw [only, if_neg named]
    · rw [GameWorld.bodies, GameWorld.withStore_other _ (by decide)]
      by_cases named : other = entity
      · rw [only, if_pos named]
      · rw [only, if_neg named]
    · exact GameWorld.withStore_other _ fun named => others (by simp [named])
  | charge velocity =>
    obtain ⟨activated, activates, rest⟩ := bind_eq_ok.mp performed
    obtain ⟨charges, inserted, rest⟩ := bind_eq_ok.mp rest
    obtain ⟨bodies, moved, same⟩ := bind_eq_ok.mp rest
    cases same
    rw [GameWorld.bodies, GameWorld.withStore_other _ (by decide)] at moved
    refine ⟨fun other => ?_, fun other => ?_, fun other => ?_, fun kind others => ?_, rfl, rfl, rfl, rfl⟩
    · rw [GameWorld.withBodies, GameWorld.withStore_other _ (by decide), GameWorld.withStore_other _ (by decide)]
      by_cases named : other = entity
      · rw [only, if_pos named]
      · rw [only, if_neg named]
    · rw [GameWorld.withBodies, GameWorld.withStore_other _ (by decide), GameWorld.withStore_same,
        ComponentStore.find_of_insertOrAssign inserted]
      by_cases named : other = entity
      · rw [only, if_pos named, if_pos named, activates]
        rfl
      · rw [only, if_neg named, if_neg named]
    · rw [GameWorld.withBodies, GameWorld.bodies, GameWorld.withStore_same,
        ComponentStore.find_of_insertOrAssign moved]
      by_cases named : other = entity
      · rw [only, if_pos named, if_pos named, named, stored]
        rfl
      · rw [only, if_neg named, if_neg named]
    · rw [GameWorld.withBodies, GameWorld.withStore_other _ fun named => others (by simp [named]),
        GameWorld.withStore_other _ fun named => others (by simp [named])]

/-- What the walk's entries are admitted to, read in one world. -/
def admittedAt (configuration : AbilityConfiguration S) (tick : TickSequence) (world : GameWorld S)
    (entries : List (EntityId × Controllable S × PhysicsBody S)) (entity : EntityId) : Admission S :=
  match entries.find? fun entry => entry.1 = entity with
  | none => .refused
  | some entry =>
      match judge configuration tick world entity entry.2.1 entry.2.2 with
      | .ok admission => admission
      | .error _ => .refused

theorem admittedAt_cons {first : EntityId × Controllable S × PhysicsBody S}
    {rest : List (EntityId × Controllable S × PhysicsBody S)} {admission : Admission S}
    (admitted : judge configuration tick world first.1 first.2.1 first.2.2 = .ok admission) (entity : EntityId) :
    admittedAt configuration tick world (first :: rest) entity =
      if first.1 = entity then admission else admittedAt configuration tick world rest entity := by
  unfold admittedAt
  rw [List.find?_cons]
  by_cases named : first.1 = entity
  · subst named
    simp [admitted]
  · simp [named]

theorem admittedAt_tail_first {first : EntityId × Controllable S × PhysicsBody S}
    {rest : List (EntityId × Controllable S × PhysicsBody S)} (ascending : Ascending (first :: rest)) :
    admittedAt configuration tick world rest first.1 = .refused := by
  have absent : rest.find? (fun entry => entry.1 = first.1) = none :=
    List.find?_eq_none.mpr fun entry member => by
      simpa using ne_of_gt (List.rel_of_pairwise_cons ascending member)
  rw [admittedAt, absent]

theorem admittedAt_congr {entries : List (EntityId × Controllable S × PhysicsBody S)}
    (alike : ReadsAlike world other entity) : admittedAt configuration tick other entries entity =
      admittedAt configuration tick world entries entity := by
  unfold admittedAt
  split
  · rfl
  · rw [judge_congr alike]

theorem Performed.readsAlike {admission : Admission S}
    (performed : Performed configuration tick (only entity admission) world next) {later : EntityId}
    (different : later ≠ entity) : ReadsAlike world next later := by
  have idle : only entity admission later = .refused := if_neg different
  refine ⟨performed.rest.1, fun kind member => ?_⟩
  simp only [List.mem_cons, List.not_mem_nil, or_false] at member
  obtain rfl | rfl | rfl | rfl := member
  · rw [performed.others .stun (by decide)]
  · rw [performed.others .raceProgress (by decide)]
  · rw [performed.shields, idle]
  · rw [performed.charges, idle]

theorem Performed.trans {middle : GameWorld S} {admission : Admission S} {later : EntityId → Admission S}
    (first : Performed configuration tick (only entity admission) world middle)
    (rest : Performed configuration tick later middle next) (idle : later entity = .refused) :
    Performed configuration tick (fun other => if entity = other then admission else later other) world next := by
  have own : only entity admission entity = admission := if_pos rfl
  have elsewhere {other : EntityId} (different : entity ≠ other) : only entity admission other = .refused :=
    if_neg (Ne.symm different)
  refine ⟨fun other => ?_, fun other => ?_, fun other => ?_, fun kind others => ?_, first.rest.trans rest.rest⟩
  · rw [rest.shields, first.shields]
    by_cases named : entity = other
    · subst named
      rw [idle, own, if_pos rfl]
    · rw [elsewhere named, if_neg named]
  · rw [rest.charges, first.charges]
    by_cases named : entity = other
    · subst named
      rw [idle, own, if_pos rfl]
    · rw [elsewhere named, if_neg named]
  · rw [rest.bodies, first.bodies]
    by_cases named : entity = other
    · subst named
      rw [idle, own, if_pos rfl]
    · rw [elsewhere named, if_neg named]
  · rw [rest.others kind others, first.others kind others]

theorem foldlM_visit {entries : List (EntityId × Controllable S × PhysicsBody S)} (ascending : Ascending entries)
    (stored : ∀ entry ∈ entries, world.bodies.find entry.1 = some entry.2.2)
    (walked : entries.foldlM (visit configuration tick) world = .ok next) :
    Performed configuration tick (admittedAt configuration tick world entries) world next ∧
      ∀ entry ∈ entries, ∃ admission,
        judge configuration tick world entry.1 entry.2.1 entry.2.2 = .ok admission := by
  induction entries generalizing world with
  | nil =>
    cases walked
    exact ⟨performed_refused, fun entry member => by cases member⟩
  | cons first rest ih =>
    rw [List.foldlM_cons] at walked
    obtain ⟨middle, visited, later⟩ := bind_eq_ok.mp walked
    obtain ⟨admission, admitted, performs⟩ := bind_eq_ok.mp visited
    have performed := performed_of_perform (stored first List.mem_cons_self) performs
    have apart (entry : EntityId × Controllable S × PhysicsBody S) (member : entry ∈ rest) : entry.1 ≠ first.1 :=
      ne_of_gt (List.rel_of_pairwise_cons ascending member)
    have storedLater : ∀ entry ∈ rest, middle.bodies.find entry.1 = some entry.2.2 := fun entry member => by
      rw [performed.bodies, only, if_neg (apart entry member)]
      exact stored entry (List.mem_cons_of_mem _ member)
    obtain ⟨performedLater, admittedLater⟩ := ih (List.Pairwise.of_cons ascending) storedLater later
    refine ⟨?_, fun entry member => ?_⟩
    · have idle : admittedAt configuration tick middle rest first.1 = .refused := admittedAt_tail_first ascending
      have joined := performed.trans performedLater idle
      have same : admittedAt configuration tick world (first :: rest) = fun other =>
          if first.1 = other then admission else admittedAt configuration tick middle rest other := by
        funext other
        rw [admittedAt_cons admitted]
        split
        · rfl
        · next different => exact (admittedAt_congr (performed.readsAlike (Ne.symm different))).symm
      rw [same]
      exact joined
    · obtain rfl | member := List.mem_cons.mp member
      · exact ⟨admission, admitted⟩
      · obtain ⟨laterAdmission, admits⟩ := admittedLater entry member
        exact ⟨laterAdmission, (judge_congr (performed.readsAlike (apart entry member))).symm.trans admits⟩

def Fits (held : EntityId → Prop) : Prop :=
  ∃ entities : Finset EntityId, entities.card ≤ maximumEntityCount ∧ ∀ entity, entity ∈ entities ↔ held entity

theorem Fits.mono {held fewer : EntityId → Prop} (fits : Fits held) (within : ∀ entity, fewer entity → held entity) :
    Fits fewer := by
  classical
  obtain ⟨entities, room, members⟩ := fits
  refine ⟨entities.filter fewer, le_trans (Finset.card_filter_le _ _) room, fun entity => ?_⟩
  rw [Finset.mem_filter, members]
  exact and_iff_right_of_imp (within entity)

theorem fits_insert_iff {V : Type} {store : ComponentStore V} {value : V} :
    (∃ stored, store.insertOrAssign entity value = .ok stored) ↔
      Fits fun other => other = entity ∨ (store.find other).isSome = true := by
  have members (other : EntityId) : other ∈ insert entity store.keys.toFinset ↔
      other = entity ∨ (store.find other).isSome = true := by
    rw [Finset.mem_insert, List.mem_toFinset, SortedStore.mem_keys_iff]
  rw [ComponentStore.insertOrAssign_returns]
  constructor
  · intro room
    exact ⟨_, room, members⟩
  · rintro ⟨entities, room, named⟩
    have same : insert entity store.keys.toFinset = entities := by
      ext other
      exact (members other).trans (named other).symm
    rwa [same]

/-- What the visits of some entities need to return. -/
structure Returnable (configuration : AbilityConfiguration S) (tick : TickSequence) (world : GameWorld S)
    (admitted : EntityId → Admission S) : Prop where
  shield : ∀ entity, admitted entity = .shield → ∃ shield, activateShield configuration tick = .ok shield
  charge : ∀ entity velocity, admitted entity = .charge velocity →
    ∃ charge, activateCharge configuration tick = .ok charge
  shields : Fits fun entity => admitted entity = .shield ∨ ((world.stores .shield).find entity).isSome = true
  charges : Fits fun entity => (∃ velocity, admitted entity = .charge velocity) ∨
    ((world.stores .charge).find entity).isSome = true

theorem fits_store {V : Type} (store : ComponentStore V) : Fits fun entity => (store.find entity).isSome = true := by
  refine ⟨store.keys.toFinset, ?_, fun entity => ?_⟩
  · rw [ComponentStore.card_keys]
    exact store.bounded
  · rw [List.mem_toFinset, SortedStore.mem_keys_iff]

theorem only_eq_iff {admission target : Admission S} {later : EntityId} (opens : target ≠ .refused) :
    only entity admission later = target ↔ later = entity ∧ admission = target := by
  unfold only
  split
  · next named => exact (and_iff_right named).symm
  · next different => exact iff_of_false (Ne.symm opens) fun both => different both.1

theorem only_charge_iff {admission : Admission S} {later : EntityId} :
    (∃ velocity, only entity admission later = .charge velocity) ↔
      later = entity ∧ ∃ velocity, admission = .charge velocity := by
  rw [← exists_and_left]
  exact exists_congr fun velocity => only_eq_iff nofun

theorem perform_returns {admission : Admission S} (stored : world.bodies.find entity = some body) :
    (∃ next, perform configuration tick world entity body admission = .ok next) ↔
      Returnable configuration tick world (only entity admission) := by
  have shields (later : EntityId) : only entity admission later = .shield ↔ later = entity ∧ admission = .shield :=
    only_eq_iff nofun
  have idleShields (refused : admission ≠ .shield) : Fits fun later =>
      only entity admission later = .shield ∨ ((world.stores .shield).find later).isSome = true :=
    (fits_store (world.stores .shield)).mono fun later held =>
      held.resolve_left fun opens => refused ((shields later).mp opens).2
  have idleCharges (refused : ¬ ∃ velocity, admission = .charge velocity) : Fits fun later =>
      (∃ velocity, only entity admission later = .charge velocity) ∨
        ((world.stores .charge).find later).isSome = true :=
    (fits_store (world.stores .charge)).mono fun later held =>
      held.resolve_left fun opens => refused (only_charge_iff.mp opens).2
  cases admission with
  | refused =>
    refine iff_of_true ⟨world, rfl⟩ ⟨fun later opens => ?_, fun later velocity opens => ?_, idleShields nofun,
      idleCharges nofun⟩
    · cases ((shields later).mp opens).2
    · cases (only_charge_iff.mp ⟨velocity, opens⟩).2.choose_spec
  | shield =>
    constructor
    · rintro ⟨next, performed⟩
      obtain ⟨activated, activates, rest⟩ := bind_eq_ok.mp performed
      obtain ⟨stores, inserted, -⟩ := bind_eq_ok.mp rest
      refine ⟨fun _ _ => ⟨activated, activates⟩, fun later velocity opens => ?_, ?_, idleCharges nofun⟩
      · cases (only_charge_iff.mp ⟨velocity, opens⟩).2.choose_spec
      · simp only [shields, and_true]
        exact fits_insert_iff.mp ⟨stores, inserted⟩
    · rintro ⟨opens, -, room, -⟩
      obtain ⟨activated, activates⟩ := opens entity ((shields entity).mpr ⟨rfl, rfl⟩)
      simp only [shields, and_true] at room
      obtain ⟨stores, inserted⟩ : ∃ stores, (world.stores .shield).insertOrAssign entity activated = .ok stores :=
        fits_insert_iff.mpr room
      exact ⟨_, bind_eq_ok.mpr ⟨activated, activates, bind_eq_ok.mpr ⟨stores, inserted, rfl⟩⟩⟩
  | charge velocity =>
    have named (later : EntityId) : (∃ reached, only entity (.charge velocity) later = .charge reached) ↔
        later = entity := only_charge_iff.trans (and_iff_left ⟨velocity, rfl⟩)
    constructor
    · rintro ⟨next, performed⟩
      obtain ⟨activated, activates, rest⟩ := bind_eq_ok.mp performed
      obtain ⟨stores, inserted, -⟩ := bind_eq_ok.mp rest
      refine ⟨fun later opens => ?_, fun _ _ _ => ⟨activated, activates⟩, idleShields nofun, ?_⟩
      · cases ((shields later).mp opens).2
      · simp only [named]
        exact fits_insert_iff.mp ⟨stores, inserted⟩
    · rintro ⟨-, opens, -, room⟩
      obtain ⟨activated, activates⟩ := opens entity velocity (if_pos rfl)
      simp only [named] at room
      obtain ⟨stores, inserted⟩ : ∃ stores, (world.stores .charge).insertOrAssign entity activated = .ok stores :=
        fits_insert_iff.mpr room
      have moved : ∃ bodies, (world.withStore .charge stores).bodies.insertOrAssign entity
          (body.withVelocity velocity) = .ok bodies := by
        refine ⟨_, dif_pos (.inl (SortedStore.mem_keys_iff.mpr ?_))⟩
        rw [GameWorld.bodies, GameWorld.withStore_other _ (by decide), ← GameWorld.bodies, stored]
        rfl
      obtain ⟨bodies, moved⟩ := moved
      exact ⟨_, bind_eq_ok.mpr ⟨activated, activates, bind_eq_ok.mpr ⟨stores, inserted,
        bind_eq_ok.mpr ⟨bodies, moved, rfl⟩⟩⟩⟩

section Held

variable {admission : Admission S} {later : EntityId} {admitted : EntityId → Admission S}

theorem Performed.shield_held (performed : Performed configuration tick admitted world next)
    (opens : admitted later = .shield → ∃ shield, activateShield configuration tick = .ok shield) :
    ((next.stores .shield).find later).isSome = true ↔
      admitted later = .shield ∨ ((world.stores .shield).find later).isSome = true := by
  rw [performed.shields]
  cases given : admitted later with
  | shield =>
    obtain ⟨shield, activates⟩ := opens given
    rw [activates]
    exact iff_of_true rfl (.inl rfl)
  | refused => exact (or_iff_right nofun).symm
  | charge velocity => exact (or_iff_right nofun).symm

theorem Performed.charge_held (performed : Performed configuration tick admitted world next)
    (opens : ∀ velocity, admitted later = .charge velocity →
      ∃ charge, activateCharge configuration tick = .ok charge) :
    ((next.stores .charge).find later).isSome = true ↔ (∃ velocity, admitted later = .charge velocity) ∨
      ((world.stores .charge).find later).isSome = true := by
  rw [performed.charges]
  cases given : admitted later with
  | charge velocity =>
    obtain ⟨charge, activates⟩ := opens velocity given
    rw [activates]
    exact iff_of_true rfl (.inl ⟨velocity, rfl⟩)
  | refused => exact (or_iff_right nofun).symm
  | shield => exact (or_iff_right nofun).symm

end Held

theorem returnable_split {middle : GameWorld S} {admission : Admission S} {later : EntityId → Admission S}
    (first : Performed configuration tick (only entity admission) world middle)
    (returned : Returnable configuration tick world (only entity admission)) (idle : later entity = .refused) :
    Returnable configuration tick world (fun other => if entity = other then admission else later other) ↔
      Returnable configuration tick middle later := by
  have combined (target : Admission S) (opens : target ≠ .refused) (other : EntityId) :
      (if entity = other then admission else later other) = target ↔
        only entity admission other = target ∨ later other = target := by
    rw [only_eq_iff opens]
    split
    · next named =>
      subst named
      rw [idle]
      exact ⟨fun same => .inl ⟨rfl, same⟩, fun held => held.elim And.right fun same => absurd same.symm opens⟩
    · next different => exact ⟨.inr, fun held => held.resolve_left fun both => different both.1.symm⟩
  have shields (other : EntityId) : ((if entity = other then admission else later other) = .shield ∨
      ((world.stores .shield).find other).isSome = true) ↔
      later other = .shield ∨ ((middle.stores .shield).find other).isSome = true := by
    rw [combined .shield nofun, first.shield_held (returned.shield other)]
    tauto
  have charges (other : EntityId) :
      ((∃ velocity, (if entity = other then admission else later other) = .charge velocity) ∨
        ((world.stores .charge).find other).isSome = true) ↔ (∃ velocity, later other = .charge velocity) ∨
        ((middle.stores .charge).find other).isSome = true := by
    rw [first.charge_held (returned.charge other),
      exists_congr fun velocity => combined (.charge velocity) nofun other, exists_or]
    tauto
  constructor
  · rintro ⟨shield, charge, shieldRoom, chargeRoom⟩
    refine ⟨fun other opens => shield other ((combined .shield nofun other).mpr (.inr opens)),
      fun other velocity opens => charge other velocity ((combined (.charge velocity) nofun other).mpr (.inr opens)), ?_, ?_⟩
    · simpa only [shields] using shieldRoom
    · simpa only [charges] using chargeRoom
  · rintro ⟨shield, charge, shieldRoom, chargeRoom⟩
    refine ⟨fun other opens => ?_, fun other velocity opens => ?_, ?_, ?_⟩
    · exact ((combined .shield nofun other).mp opens).elim (returned.shield other) (shield other)
    · exact ((combined (.charge velocity) nofun other).mp opens).elim (returned.charge other velocity) (charge other velocity)
    · simpa only [shields] using shieldRoom
    · simpa only [charges] using chargeRoom

theorem Returnable.first {admission : Admission S} {later : EntityId → Admission S}
    (returnable : Returnable configuration tick world fun other => if entity = other then admission else later other) :
    Returnable configuration tick world (only entity admission) := by
  have own {other : EntityId} {target : Admission S} (opens : target ≠ .refused)
      (same : only entity admission other = target) :
      (if entity = other then admission else later other) = target := by
    obtain ⟨named, same⟩ := (only_eq_iff opens).mp same
    rw [if_pos named.symm, same]
  exact ⟨fun other opens => returnable.shield other (own nofun opens),
    fun other velocity opens => returnable.charge other velocity (own nofun opens),
    returnable.shields.mono fun other held => held.imp_left (own nofun),
    returnable.charges.mono fun other held => held.imp_left fun ⟨velocity, opens⟩ => ⟨velocity, own nofun opens⟩⟩

/-- The walk returns where every visit is decided and what they open has a window and room. -/
theorem foldlM_visit_returns {entries : List (EntityId × Controllable S × PhysicsBody S)}
    (ascending : Ascending entries) (stored : ∀ entry ∈ entries, world.bodies.find entry.1 = some entry.2.2) :
    (∃ next, entries.foldlM (visit configuration tick) world = .ok next) ↔
      (∀ entry ∈ entries, ∃ admission, judge configuration tick world entry.1 entry.2.1 entry.2.2 = .ok admission) ∧
      Returnable configuration tick world (admittedAt configuration tick world entries) := by
  induction entries generalizing world with
  | nil =>
    refine iff_of_true ⟨world, rfl⟩ ⟨fun entry member => (by cases member), nofun, nofun, ?_, ?_⟩
    · exact (fits_store (world.stores .shield)).mono fun other held => held.resolve_left nofun
    · exact (fits_store (world.stores .charge)).mono fun other held => held.resolve_left nofun
  | cons first rest ih =>
    have apart (entry : EntityId × Controllable S × PhysicsBody S) (member : entry ∈ rest) : entry.1 ≠ first.1 :=
      ne_of_gt (List.rel_of_pairwise_cons ascending member)
    have step {middle : GameWorld S} {admission : Admission S}
        (admitted : judge configuration tick world first.1 first.2.1 first.2.2 = .ok admission)
        (performs : perform configuration tick world first.1 first.2.2 admission = .ok middle) :
        (∃ next, rest.foldlM (visit configuration tick) middle = .ok next) ↔
          (∀ entry ∈ rest, ∃ admission,
            judge configuration tick world entry.1 entry.2.1 entry.2.2 = .ok admission) ∧
          Returnable configuration tick world (admittedAt configuration tick world (first :: rest)) := by
      have performed := performed_of_perform (stored first List.mem_cons_self) performs
      have storedLater : ∀ entry ∈ rest, middle.bodies.find entry.1 = some entry.2.2 := fun entry member => by
        rw [performed.bodies, only, if_neg (apart entry member)]
        exact stored entry (List.mem_cons_of_mem _ member)
      have idle : admittedAt configuration tick middle rest first.1 = .refused := admittedAt_tail_first ascending
      have same : admittedAt configuration tick world (first :: rest) = fun other =>
          if first.1 = other then admission else admittedAt configuration tick middle rest other := by
        funext other
        rw [admittedAt_cons admitted]
        split
        · rfl
        · next different => exact (admittedAt_congr (performed.readsAlike (Ne.symm different))).symm
      have returned := (perform_returns (stored first List.mem_cons_self)).mp ⟨middle, performs⟩
      rw [ih (List.Pairwise.of_cons ascending) storedLater, same, returnable_split performed returned idle]
      refine and_congr_left fun _ => forall₂_congr fun entry member => ?_
      rw [judge_congr (performed.readsAlike (apart entry member))]
    rw [List.foldlM_cons]
    constructor
    · rintro ⟨next, walked⟩
      obtain ⟨middle, visited, later⟩ := bind_eq_ok.mp walked
      obtain ⟨admission, admitted, performs⟩ := bind_eq_ok.mp visited
      obtain ⟨admits, returnable⟩ := (step admitted performs).mp ⟨next, later⟩
      exact ⟨List.forall_mem_cons.mpr ⟨⟨admission, admitted⟩, admits⟩, returnable⟩
    · rintro ⟨admits, returnable⟩
      obtain ⟨⟨admission, admitted⟩, others⟩ := List.forall_mem_cons.mp admits
      have returned := returnable
      rw [show admittedAt configuration tick world (first :: rest) = _ from
        funext (admittedAt_cons admitted)] at returned
      obtain ⟨middle, performs⟩ := (perform_returns (stored first List.mem_cons_self)).mpr returned.first
      obtain ⟨next, later⟩ := (step admitted performs).mpr ⟨others, returnable⟩
      exact ⟨next, bind_eq_ok.mpr ⟨middle, bind_eq_ok.mpr ⟨admission, admitted, performs⟩, later⟩⟩

end AbilitySystem

end BlobRoyale.Gameplay
