import BlobRoyale.Gameplay.AbilityOutcome

/-!
# Ability activation

What the whole pass activates, in terms of the world at its entry.
-/

namespace BlobRoyale.Gameplay

open Simulation

variable {S : Type} [Scalar S]

namespace AbilitySystem

/-- The entity's recorded shield pulse opens a shield. -/
def OpensShield (world : GameWorld S) (tick : TickSequence) (entity : EntityId) : Prop :=
  ∃ link body, world.controllables.find entity = some link ∧ world.bodies.find entity = some body ∧
    ShieldPulse world tick entity link body

/-- The entity's recorded charge pulse would reach a velocity. -/
def OpensCharge (envelope : S) (world : GameWorld S) (tick : TickSequence) (entity : EntityId)
    (velocity : Vector2 S) : Prop :=
  ∃ link body, world.controllables.find entity = some link ∧ world.bodies.find entity = some body ∧
    ChargePulse envelope world tick entity link body velocity

def ActivatesShield (configuration : AbilityConfiguration S) (tick : TickSequence) (world next : GameWorld S)
    (entity : EntityId) : Prop :=
  ∃ shield, activateShield configuration tick = .ok shield ∧ (next.stores .shield).find entity = some shield ∧
    (world.stores .shield).find entity ≠ some shield

def ActivatesCharge (configuration : AbilityConfiguration S) (tick : TickSequence) (world next : GameWorld S)
    (entity : EntityId) : Prop :=
  ∃ charge, activateCharge configuration tick = .ok charge ∧ (next.stores .charge).find entity = some charge ∧
    (world.stores .charge).find entity ≠ some charge

def swept (tick : TickSequence) (world : GameWorld S) : GameWorld S := sweepCharges tick (sweepShields tick world)

section Sweep

variable {world : GameWorld S} {tick : TickSequence} {entity : EntityId}

theorem swept_shield : ((swept tick world).stores .shield).find entity = ((world.stores .shield).find entity).filter
    fun shield => !(shield.shieldWindow.expired tick && shield.cooldownWindow.expired tick) := by
  rw [swept, sweepCharges, GameWorld.withStore_other _ (by decide), sweepShields, GameWorld.withStore_same,
    ComponentStore.find_filter]

theorem swept_charge : ((swept tick world).stores .charge).find entity = ((world.stores .charge).find entity).filter
    fun charge => !(charge.cooldownWindow.expired tick && charge.activeWindow.expired tick) := by
  rw [swept, sweepCharges, GameWorld.withStore_same, sweepShields, ComponentStore.find_filter,
    GameWorld.withStore_other _ (by decide)]

theorem swept_other {kind : ComponentKind} (notShield : kind ≠ .shield) (notCharge : kind ≠ .charge) :
    (swept tick world).stores kind = world.stores kind := by
  rw [swept, sweepCharges, GameWorld.withStore_other _ notCharge, sweepShields,
    GameWorld.withStore_other _ notShield]

theorem swept_rest : GameWorld.SameRest world (swept tick world) := ⟨rfl, rfl, rfl, rfl⟩

theorem protected_swept : Protected (swept tick world) tick entity ↔ Protected world tick entity := by
  refine exists_congr fun shield => and_congr_left fun inside => ?_
  rw [swept_shield, Option.filter_eq_some_iff]
  refine and_iff_left ?_
  rw [TickWindow.not_expired_of_contains inside]
  rfl

theorem shieldCooling_swept : ShieldCooling (swept tick world) tick entity ↔ ShieldCooling world tick entity := by
  refine exists_congr fun shield => and_congr_left fun cooling => ?_
  rw [swept_shield, Option.filter_eq_some_iff, cooling, Bool.and_false]
  exact and_iff_left rfl

theorem chargeCooling_swept : ChargeCooling (swept tick world) tick entity ↔ ChargeCooling world tick entity := by
  refine exists_congr fun charge => and_congr_left fun cooling => ?_
  rw [swept_charge, Option.filter_eq_some_iff, cooling, Bool.false_and]
  exact and_iff_left rfl

theorem gates_swept {body : PhysicsBody S} : Gates (swept tick world) tick entity body ↔
    Gates world tick entity body := by
  have locked : inputIsLocked (swept tick world) entity tick = inputIsLocked world entity tick := by
    rw [inputIsLocked, inputIsLocked, swept_other (by decide) (by decide), swept_other (by decide) (by decide),
      swept_rest.1]
  constructor
  · rintro ⟨running, begun, dynamic, unlocked⟩
    exact ⟨running, begun, dynamic, locked.symm.trans unlocked⟩
  · rintro ⟨running, begun, dynamic, unlocked⟩
    exact ⟨running, begun, dynamic, locked.trans unlocked⟩

theorem opensShield_swept : OpensShield (swept tick world) tick entity ↔ OpensShield world tick entity := by
  have links : (swept tick world).controllables = world.controllables := swept_other (by decide) (by decide)
  have bodies : (swept tick world).bodies = world.bodies := swept_other (by decide) (by decide)
  unfold OpensShield
  rw [links, bodies]
  refine exists_congr fun link => exists_congr fun body => and_congr_right fun _ => and_congr_right fun _ => ?_
  constructor
  · rintro ⟨gates, pulsed, unprotected, cooled⟩
    exact ⟨gates_swept.mp gates, pulsed, fun held => unprotected (protected_swept.mpr held),
      fun held => cooled (shieldCooling_swept.mpr held)⟩
  · rintro ⟨gates, pulsed, unprotected, cooled⟩
    exact ⟨gates_swept.mpr gates, pulsed, fun held => unprotected (protected_swept.mp held),
      fun held => cooled (shieldCooling_swept.mp held)⟩

theorem opensCharge_swept {envelope : S} {velocity : Vector2 S} :
    OpensCharge envelope (swept tick world) tick entity velocity ↔ OpensCharge envelope world tick entity velocity := by
  have links : (swept tick world).controllables = world.controllables := swept_other (by decide) (by decide)
  have bodies : (swept tick world).bodies = world.bodies := swept_other (by decide) (by decide)
  unfold OpensCharge
  rw [links, bodies]
  refine exists_congr fun link => exists_congr fun body => and_congr_right fun _ => and_congr_right fun _ => ?_
  constructor
  · rintro ⟨gates, unprotected, cooled, released, powered, pulsed⟩
    exact ⟨gates_swept.mp gates, fun held => unprotected (protected_swept.mpr held),
      fun held => cooled (chargeCooling_swept.mpr held), released, powered, pulsed⟩
  · rintro ⟨gates, unprotected, cooled, released, powered, pulsed⟩
    exact ⟨gates_swept.mpr gates, fun held => unprotected (protected_swept.mp held),
      fun held => cooled (chargeCooling_swept.mp held), released, powered, pulsed⟩

end Sweep

section Walk

variable {configuration : AbilityConfiguration S} {tick : TickSequence} {world next : GameWorld S}
  {entity : EntityId}

/-- The joined entities, with what the visits read. -/
def joined (world : GameWorld S) : List (EntityId × Controllable S × PhysicsBody S) :=
  world.controllables.join world.bodies

theorem joined_stored : ∀ entry ∈ joined world, world.bodies.find entry.1 = some entry.2.2 := fun _ member =>
  (ComponentStore.mem_join.mp member).2

theorem joined_ascending : Ascending (joined world) := ComponentStore.join_ascending _ _

theorem admittedAt_joined {link : Controllable S} {body : PhysicsBody S} {admission : Admission S}
    (linked : world.controllables.find entity = some link) (stored : world.bodies.find entity = some body)
    (admitted : judge configuration tick world entity link body = .ok admission) :
    admittedAt configuration tick world (joined world) entity = admission := by
  have found : (joined world).find? (fun entry => entry.1 = entity) = some (entity, link, body) := by
    have held : ((joined world).find? fun entry => entry.1 = entity).isSome = true :=
      List.find?_isSome.mpr ⟨_, ComponentStore.mem_join.mpr ⟨linked, stored⟩, decide_eq_true rfl⟩
    obtain ⟨⟨other, otherLink, otherBody⟩, found⟩ := Option.isSome_iff_exists.mp held
    have named := List.find?_some found
    have same : other = entity := of_decide_eq_true named
    obtain ⟨otherLinked, otherStored⟩ := ComponentStore.mem_join.mp (List.mem_of_find?_eq_some found)
    subst same
    cases linked.symm.trans otherLinked
    cases stored.symm.trans otherStored
    exact found
  rw [admittedAt, found]
  dsimp only
  rw [admitted]

theorem admittedAt_absent (absent : ∀ link body, world.controllables.find entity = some link →
    world.bodies.find entity ≠ some body) : admittedAt configuration tick world (joined world) entity = .refused := by
  have none : (joined world).find? (fun entry => entry.1 = entity) = none := by
    refine List.find?_eq_none.mpr fun ⟨other, link, body⟩ member named => ?_
    have same : other = entity := of_decide_eq_true named
    subst same
    obtain ⟨linked, stored⟩ := ComponentStore.mem_join.mp member
    exact absent link body linked stored
  rw [admittedAt, none]

theorem admittedAt_iff (admits : ∀ entry ∈ joined world, ∃ admission,
      judge configuration tick world entry.1 entry.2.1 entry.2.2 = .ok admission) :
    (admittedAt configuration tick world (joined world) entity = .shield ↔ OpensShield world tick entity) ∧
      ∀ velocity, admittedAt configuration tick world (joined world) entity = .charge velocity ↔
        ¬ OpensShield world tick entity ∧
          OpensCharge configuration.chargeSafetyEnvelopeSpeed world tick entity velocity := by
  by_cases both : ∃ link body, world.controllables.find entity = some link ∧ world.bodies.find entity = some body
  · obtain ⟨link, body, linked, stored⟩ := both
    obtain ⟨admission, admitted⟩ := admits (entity, link, body) (ComponentStore.mem_join.mpr ⟨linked, stored⟩)
    have shield : OpensShield world tick entity ↔ ShieldPulse world tick entity link body := by
      constructor
      · rintro ⟨otherLink, otherBody, otherLinked, otherStored, pulse⟩
        cases linked.symm.trans otherLinked
        cases stored.symm.trans otherStored
        exact pulse
      · exact fun pulse => ⟨link, body, linked, stored, pulse⟩
    have charge (velocity : Vector2 S) :
        OpensCharge configuration.chargeSafetyEnvelopeSpeed world tick entity velocity ↔
          ChargePulse configuration.chargeSafetyEnvelopeSpeed world tick entity link body velocity := by
      constructor
      · rintro ⟨otherLink, otherBody, otherLinked, otherStored, pulse⟩
        cases linked.symm.trans otherLinked
        cases stored.symm.trans otherStored
        exact pulse
      · exact fun pulse => ⟨link, body, linked, stored, pulse⟩
    rw [admittedAt_joined linked stored admitted, shield]
    refine ⟨judge_shield admitted, fun velocity => ?_⟩
    rw [charge]
    exact judge_charge admitted
  · have absent : admittedAt configuration tick world (joined world) entity = .refused :=
      admittedAt_absent fun link body linked stored => both ⟨link, body, linked, stored⟩
    rw [absent]
    refine ⟨iff_of_false nofun ?_, fun velocity => iff_of_false nofun ?_⟩
    · rintro ⟨link, body, linked, stored, -⟩
      exact both ⟨link, body, linked, stored⟩
    · rintro ⟨-, link, body, linked, stored, -⟩
      exact both ⟨link, body, linked, stored⟩

omit [Scalar S] in
theorem activateShield_protects {shield : Shield} (activates : activateShield configuration tick = .ok shield) :
    shield.shieldWindow.contains tick = true := by
  have positive := configuration.shieldPositive
  unfold activateShield Shield.activate at activates
  split at activates
  · cases activates
  · split at activates
    · cases activates
    · split at activates
      · cases activates
      · split at activates
        · cases activates
        · split at activates
          · cases activates
          · obtain ⟨window, opens, rest⟩ := bind_eq_ok.mp activates
            obtain ⟨perfect, -, rest⟩ := bind_eq_ok.mp rest
            obtain ⟨cooldown, -, rest⟩ := bind_eq_ok.mp rest
            cases rest
            have expiry := TickWindow.create_eq_ok.mp opens
            have begins : window.val.activationTick.value = tick.value := by rw [window.property]
            exact TickWindow.contains_iff.mpr ⟨by dsimp only; omega, by dsimp only; omega⟩

omit [Scalar S] in
theorem activateCharge_cools {charge : Charge} (activates : activateCharge configuration tick = .ok charge) :
    charge.cooldownWindow.expired tick = false := by
  have positive := configuration.chargeCooldownPositive
  obtain ⟨-, -, rest⟩ := bind_eq_ok.mp activates
  obtain ⟨-, -, rest⟩ := bind_eq_ok.mp rest
  obtain ⟨-, -, rest⟩ := bind_eq_ok.mp rest
  split at rest
  · cases rest
  · obtain ⟨cooldown, opens, rest⟩ := bind_eq_ok.mp rest
    obtain ⟨active, -, rest⟩ := bind_eq_ok.mp rest
    cases rest
    have expiry := TickWindow.create_eq_ok.mp opens
    exact Bool.eq_false_iff.mpr fun expired => absurd (TickWindow.expired_iff.mp expired) (by dsimp only; omega)

theorem judge_swept {link : Controllable S} {body : PhysicsBody S} :
    judge configuration tick (swept tick world) entity link body =
      judge configuration tick world entity link body := by
  have eligible : shieldEligible tick (swept tick world) entity link = shieldEligible tick world entity link := by
    rw [Bool.eq_iff_iff, shieldEligible_iff, shieldEligible_iff, protected_swept, shieldCooling_swept]
  have admitted : chargePulseAdmitted tick (swept tick world) entity link =
      chargePulseAdmitted tick world entity link := by
    refine Option.ext fun pulse => ?_
    rw [chargePulseAdmitted_iff, chargePulseAdmitted_iff, protected_swept, chargeCooling_swept, swept_rest.1]
  have committed : committedVelocity configuration tick (swept tick world) entity link body =
      committedVelocity configuration tick world entity link body := by
    rw [committedVelocity, committedVelocity, admitted, burstSpeed, burstSpeed, swept_rest.1]
  have gates : opened tick (swept tick world) entity body = opened tick world entity body := by
    rw [Bool.eq_iff_iff, opened_iff, opened_iff, gates_swept]
  rw [judge_eq, judge_eq, gates, committed, eligible]

theorem apply_eq {context : TickContext S} : apply configuration world context =
    (joined (swept context.tickSequence world)).foldlM (visit configuration context.tickSequence)
      (swept context.tickSequence world) := rfl

theorem joined_swept : joined (swept tick world) = joined world := by
  have links : (swept tick world).controllables = world.controllables := swept_other (by decide) (by decide)
  have bodies : (swept tick world).bodies = world.bodies := swept_other (by decide) (by decide)
  rw [joined, links, bodies, joined]

def KeepsShield (world : GameWorld S) (tick : TickSequence) (entity : EntityId) : Prop :=
  ∃ shield, (world.stores .shield).find entity = some shield ∧
    (shield.shieldWindow.expired tick = false ∨ shield.cooldownWindow.expired tick = false)

def KeepsCharge (world : GameWorld S) (tick : TickSequence) (entity : EntityId) : Prop :=
  ∃ charge, (world.stores .charge).find entity = some charge ∧
    (charge.cooldownWindow.expired tick = false ∨ charge.activeWindow.expired tick = false)

theorem swept_shield_held : (((swept tick world).stores .shield).find entity).isSome = true ↔
    KeepsShield world tick entity := by
  rw [swept_shield, Option.isSome_iff_exists]
  refine exists_congr fun shield => ?_
  rw [Option.filter_eq_some_iff, Bool.not_eq_true', Bool.and_eq_false_iff]

theorem swept_charge_held : (((swept tick world).stores .charge).find entity).isSome = true ↔
    KeepsCharge world tick entity := by
  rw [swept_charge, Option.isSome_iff_exists]
  refine exists_congr fun charge => ?_
  rw [Option.filter_eq_some_iff, Bool.not_eq_true', Bool.and_eq_false_iff]

/-- When the call returns. -/
structure Returns (configuration : AbilityConfiguration S) (tick : TickSequence) (world : GameWorld S) : Prop where
  decided : ∀ entity link body, world.controllables.find entity = some link →
    world.bodies.find entity = some body → ∃ admission, judge configuration tick world entity link body = .ok admission
  shieldWindows : ∀ entity, OpensShield world tick entity → ∃ shield, activateShield configuration tick = .ok shield
  chargeWindows : ∀ entity velocity, ¬ OpensShield world tick entity →
    OpensCharge configuration.chargeSafetyEnvelopeSpeed world tick entity velocity →
    ∃ charge, activateCharge configuration tick = .ok charge
  shieldRoom : Fits fun entity => OpensShield world tick entity ∨ KeepsShield world tick entity
  chargeRoom : Fits fun entity => (¬ OpensShield world tick entity ∧
    ∃ velocity, OpensCharge configuration.chargeSafetyEnvelopeSpeed world tick entity velocity) ∨
      KeepsCharge world tick entity

theorem admits_joined_iff : (∀ entry ∈ joined world, ∃ admission,
    judge configuration tick world entry.1 entry.2.1 entry.2.2 = .ok admission) ↔
    ∀ entity link body, world.controllables.find entity = some link → world.bodies.find entity = some body →
      ∃ admission, judge configuration tick world entity link body = .ok admission := by
  constructor
  · intro admits entity link body linked stored
    exact admits (entity, link, body) (ComponentStore.mem_join.mpr ⟨linked, stored⟩)
  · rintro admits ⟨entity, link, body⟩ member
    obtain ⟨linked, stored⟩ := ComponentStore.mem_join.mp member
    exact admits entity link body linked stored

theorem opened_at (decided : ∀ entry ∈ joined (swept tick world), ∃ admission,
    judge configuration tick (swept tick world) entry.1 entry.2.1 entry.2.2 = .ok admission) :
    (∀ entity, admittedAt configuration tick (swept tick world) (joined (swept tick world)) entity = .shield ↔
      OpensShield world tick entity) ∧
    ∀ entity velocity, admittedAt configuration tick (swept tick world) (joined (swept tick world)) entity =
      .charge velocity ↔ ¬ OpensShield world tick entity ∧
        OpensCharge configuration.chargeSafetyEnvelopeSpeed world tick entity velocity :=
  ⟨fun _ => (admittedAt_iff decided).1.trans opensShield_swept, fun _ velocity =>
    ((admittedAt_iff decided).2 velocity).trans (and_congr (not_congr opensShield_swept) opensCharge_swept)⟩

theorem returns_iff {context : TickContext S} : (∃ next, apply configuration world context = .ok next) ↔
    Returns configuration context.tickSequence world := by
  have admits : (∀ entry ∈ joined (swept context.tickSequence world), ∃ admission,
      judge configuration context.tickSequence (swept context.tickSequence world) entry.1 entry.2.1 entry.2.2 =
        .ok admission) ↔ ∀ entity link body, world.controllables.find entity = some link →
        world.bodies.find entity = some body →
        ∃ admission, judge configuration context.tickSequence world entity link body = .ok admission := by
    simp only [judge_swept, joined_swept]
    exact admits_joined_iff
  have opens (decided : ∀ entry ∈ joined (swept context.tickSequence world), ∃ admission,
      judge configuration context.tickSequence (swept context.tickSequence world) entry.1 entry.2.1 entry.2.2 =
        .ok admission) :
      Returnable configuration context.tickSequence (swept context.tickSequence world)
        (admittedAt configuration context.tickSequence (swept context.tickSequence world)
          (joined (swept context.tickSequence world))) ↔
      Returns configuration context.tickSequence world := by
    obtain ⟨shield, charge⟩ := opened_at decided
    constructor
    · rintro ⟨shieldWindow, chargeWindow, shieldRoom, chargeRoom⟩
      refine ⟨admits.mp decided, fun entity opens => shieldWindow entity ((shield entity).mpr opens),
        fun entity velocity closed opens => chargeWindow entity velocity ((charge entity velocity).mpr ⟨closed, opens⟩),
        ?_, ?_⟩
      · exact shieldRoom.mono fun entity held => held.imp (shield entity).mpr swept_shield_held.mpr
      · exact chargeRoom.mono fun entity held => held.imp
          (fun ⟨closed, velocity, opens⟩ => ⟨velocity, (charge entity velocity).mpr ⟨closed, opens⟩⟩)
          swept_charge_held.mpr
    · rintro ⟨-, shieldWindow, chargeWindow, shieldRoom, chargeRoom⟩
      refine ⟨fun entity given => shieldWindow entity ((shield entity).mp given), fun entity velocity given =>
        chargeWindow entity velocity ((charge entity velocity).mp given).1 ((charge entity velocity).mp given).2,
        ?_, ?_⟩
      · exact shieldRoom.mono fun entity held => held.imp (shield entity).mp swept_shield_held.mp
      · exact chargeRoom.mono fun entity held => held.imp
          (fun ⟨velocity, given⟩ => ⟨((charge entity velocity).mp given).1, velocity,
            ((charge entity velocity).mp given).2⟩) swept_charge_held.mp
  rw [apply_eq, foldlM_visit_returns joined_ascending joined_stored]
  constructor
  · rintro ⟨decided, returnable⟩
    exact (opens decided).mp returnable
  · intro returns
    have decided := admits.mpr returns.decided
    exact ⟨decided, (opens decided).mpr returns⟩

/-- The world a returned call leaves. -/
structure AbilityOutcome (configuration : AbilityConfiguration S) (tick : TickSequence) (world next : GameWorld S) :
    Prop where
  shield : ∀ entity, ActivatesShield configuration tick world next entity ↔ OpensShield world tick entity
  charge : ∀ entity, ActivatesCharge configuration tick world next entity ↔ ¬ OpensShield world tick entity ∧
    ∃ velocity, OpensCharge configuration.chargeSafetyEnvelopeSpeed world tick entity velocity
  single : ∀ entity, ¬ (ActivatesShield configuration tick world next entity ∧
    ActivatesCharge configuration tick world next entity)
  burst : ∀ entity velocity, ¬ OpensShield world tick entity →
    OpensCharge configuration.chargeSafetyEnvelopeSpeed world tick entity velocity →
    next.bodies.find entity = (world.bodies.find entity).map fun body => body.withVelocity velocity
  shieldKept : ∀ entity, ¬ ActivatesShield configuration tick world next entity →
    (next.stores .shield).find entity = ((world.stores .shield).find entity).filter fun shield =>
      !(shield.shieldWindow.expired tick && shield.cooldownWindow.expired tick)
  chargeKept : ∀ entity, ¬ ActivatesCharge configuration tick world next entity →
    (next.stores .charge).find entity = ((world.stores .charge).find entity).filter (fun charge =>
      !(charge.cooldownWindow.expired tick && charge.activeWindow.expired tick)) ∧
    next.bodies.find entity = world.bodies.find entity
  others : ∀ kind, kind ∉ [ComponentKind.shield, .charge, .physicsBody] → next.stores kind = world.stores kind
  rest : GameWorld.SameRest world next

theorem outcome_of_apply {context : TickContext S} (applied : apply configuration world context = .ok next) :
    AbilityOutcome configuration context.tickSequence world next := by
  have walked := applied
  rw [apply_eq] at walked
  obtain ⟨performed, decided⟩ := foldlM_visit joined_ascending joined_stored walked
  obtain ⟨shield, charge⟩ := opened_at decided
  have returns := returns_iff.mp ⟨next, applied⟩
  have bodies : (swept context.tickSequence world).bodies = world.bodies := swept_other (by decide) (by decide)
  have shieldOpened (entity : EntityId) (opens : OpensShield world context.tickSequence entity) :
      ActivatesShield configuration context.tickSequence world next entity := by
    obtain ⟨activated, activates⟩ := returns.shieldWindows entity opens
    refine ⟨activated, activates, ?_, fun held => ?_⟩
    · rw [performed.shields, (shield entity).mpr opens]
      dsimp only
      rw [activates]
      rfl
    · obtain ⟨link, body, -, -, pulse⟩ := opens
      exact pulse.unprotected ⟨activated, held, activateShield_protects activates⟩
  have shieldKept (entity : EntityId) (closed : ¬ OpensShield world context.tickSequence entity) :
      (next.stores .shield).find entity = ((swept context.tickSequence world).stores .shield).find entity := by
    rw [performed.shields]
    split
    · next given => exact absurd ((shield entity).mp given) closed
    · rfl
  have chargeOpened (entity : EntityId) (velocity : Vector2 S)
      (closed : ¬ OpensShield world context.tickSequence entity)
      (opens : OpensCharge configuration.chargeSafetyEnvelopeSpeed world context.tickSequence entity velocity) :
      ActivatesCharge configuration context.tickSequence world next entity ∧
        next.bodies.find entity = (world.bodies.find entity).map fun body => body.withVelocity velocity := by
    obtain ⟨activated, activates⟩ := returns.chargeWindows entity velocity closed opens
    have given := (charge entity velocity).mpr ⟨closed, opens⟩
    refine ⟨⟨activated, activates, ?_, fun held => ?_⟩, ?_⟩
    · rw [performed.charges, given]
      dsimp only
      rw [activates]
      rfl
    · obtain ⟨link, body, -, -, pulse⟩ := opens
      exact pulse.cooled ⟨activated, held, activateCharge_cools activates⟩
    · rw [performed.bodies, given, bodies]
  have chargeKept (entity : EntityId) (idle : ¬ (¬ OpensShield world context.tickSequence entity ∧
      ∃ velocity, OpensCharge configuration.chargeSafetyEnvelopeSpeed world context.tickSequence entity velocity)) :
      (next.stores .charge).find entity = ((swept context.tickSequence world).stores .charge).find entity ∧
        next.bodies.find entity = world.bodies.find entity := by
    rw [performed.charges, performed.bodies, bodies]
    cases given : admittedAt configuration context.tickSequence (swept context.tickSequence world)
        (joined (swept context.tickSequence world)) entity with
    | charge velocity =>
      obtain ⟨closed, opens⟩ := (charge entity velocity).mp given
      exact absurd ⟨closed, velocity, opens⟩ idle
    | refused => exact ⟨rfl, rfl⟩
    | shield => exact ⟨rfl, rfl⟩
  have shieldIff (entity : EntityId) : ActivatesShield configuration context.tickSequence world next entity ↔
      OpensShield world context.tickSequence entity := by
    refine ⟨?_, shieldOpened entity⟩
    rintro ⟨activated, activates, held, fresh⟩
    by_contra closed
    rw [shieldKept entity closed, swept_shield] at held
    exact fresh (Option.filter_eq_some_iff.mp held).1
  have chargeIff (entity : EntityId) : ActivatesCharge configuration context.tickSequence world next entity ↔
      ¬ OpensShield world context.tickSequence entity ∧ ∃ velocity,
        OpensCharge configuration.chargeSafetyEnvelopeSpeed world context.tickSequence entity velocity := by
    constructor
    · rintro ⟨activated, activates, held, fresh⟩
      by_contra idle
      rw [(chargeKept entity idle).1, swept_charge] at held
      exact fresh (Option.filter_eq_some_iff.mp held).1
    · rintro ⟨closed, velocity, opens⟩
      exact (chargeOpened entity velocity closed opens).1
  refine ⟨shieldIff, chargeIff, fun entity both => ?_, fun entity velocity closed opens =>
    (chargeOpened entity velocity closed opens).2, fun entity idle => ?_, fun entity idle => ?_,
    fun kind others => ?_, swept_rest.trans performed.rest⟩
  · exact ((chargeIff entity).mp both.2).1 ((shieldIff entity).mp both.1)
  · rw [shieldKept entity fun opens => idle ((shieldIff entity).mpr opens), swept_shield]
  · obtain ⟨kept, still⟩ := chargeKept entity fun opens => idle ((chargeIff entity).mpr opens)
    exact ⟨kept.trans swept_charge, still⟩
  · rw [performed.others kind others]
    exact swept_other (fun named => others (by simp [named])) fun named => others (by simp [named])

end Walk

end AbilitySystem

end BlobRoyale.Gameplay
