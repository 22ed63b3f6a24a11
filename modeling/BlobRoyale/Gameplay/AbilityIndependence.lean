import BlobRoyale.Gameplay.AbilityPass
import BlobRoyale.Simulation.GameSimulation
import BlobRoyale.Simulation.RecordedCommands

/-!
# Independence of ability admission

What the pass leaves one entity is decided by the match, that entity's own components and the first pulse of each
ability on its link: other entities and, where a link records at most one command of each kind, the order of its
record do not enter.
-/

namespace BlobRoyale.Gameplay

open Simulation

variable {S : Type} [Scalar S]

namespace AbilitySystem

/-- Two links the pass reads the same. -/
structure PulsesAlike (first second : Controllable S) : Prop where
  shield : recordedShieldOf second = recordedShieldOf first
  charge : recordedChargeOf second = recordedChargeOf first
  generation : second.inputGeneration = first.inputGeneration
  braking : second.brakingIntent = first.brakingIntent

/-- Two worlds the pass reads the same for one entity. -/
structure Alike (world other : GameWorld S) (entity : EntityId) : Prop where
  reads : ReadsAlike world other entity
  bodies : other.bodies.find entity = world.bodies.find entity
  links : Option.Rel PulsesAlike (world.controllables.find entity) (other.controllables.find entity)

/-- What the pass writes of one entity. -/
structure SameOutcome (first second : GameWorld S) (entity : EntityId) : Prop where
  shield : (second.stores .shield).find entity = (first.stores .shield).find entity
  charge : (second.stores .charge).find entity = (first.stores .charge).find entity
  body : second.bodies.find entity = first.bodies.find entity

/-- The same link with its record in another order, at most one command of each kind on it. -/
structure Reordered (first second : Controllable S) : Prop where
  once : first.RecordsOnce
  reordered : second.commandsThisTick.Perm first.commandsThisTick
  generation : second.inputGeneration = first.inputGeneration
  braking : second.brakingIntent = first.brakingIntent

/-- The same world but for the order of its links' records. -/
structure OrderedOtherwise (world other : GameWorld S) : Prop where
  matchState : other.matchState = world.matchState
  stores : ∀ kind, kind ≠ .controllable → other.stores kind = world.stores kind
  links : ∀ entity, Option.Rel Reordered (world.controllables.find entity) (other.controllables.find entity)

section Links

variable {first second : Controllable S}

omit [Scalar S] in
theorem rel_imp {α : Type} {related weaker : α → α → Prop} {left right : Option α}
    (implies : ∀ x y, related x y → weaker x y) : Option.Rel related left right → Option.Rel weaker left right
  | .some holds => .some (implies _ _ holds)
  | .none => .none

omit [Scalar S] in
theorem rel_swap {α : Type} {related : α → α → Prop} {left right : Option α}
    (swap : ∀ x y, related x y → related y x) : Option.Rel related left right → Option.Rel related right left
  | .some holds => .some (swap _ _ holds)
  | .none => .none

theorem PulsesAlike.symm (alike : PulsesAlike first second) : PulsesAlike second first :=
  ⟨alike.shield.symm, alike.charge.symm, alike.generation.symm, alike.braking.symm⟩

omit [Scalar S] in
/-- The first command a reader takes does not depend on the order where it takes one kind alone. -/
theorem findSome_perm {α β : Type} {read : α → Option β} {left right : List α} (reordered : right.Perm left)
    (single : ∀ x ∈ left, ∀ y ∈ left, (read x).isSome → (read y).isSome → x = y) :
    right.findSome? read = left.findSome? read := by
  have same (chosen : β) : right.findSome? read = some chosen ↔ left.findSome? read = some chosen := by
    have from_member {commands : List α} (within : ∀ x ∈ commands, x ∈ left) {x : α} (member : x ∈ commands)
        (reads : read x = some chosen) : commands.findSome? read = some chosen := by
      cases found : commands.findSome? read with
      | none => exact absurd (List.findSome?_eq_none_iff.mp found x member) (by simp [reads])
      | some other =>
        obtain ⟨y, listed, taken⟩ := List.exists_of_findSome?_eq_some found
        have named := single x (within x member) y (within y listed) (by simp [reads]) (by simp [taken])
        subst named
        exact taken.symm.trans reads
    constructor
    · intro found
      obtain ⟨x, member, reads⟩ := List.exists_of_findSome?_eq_some found
      exact from_member (fun _ => id) (reordered.mem_iff.mp member) reads
    · intro found
      obtain ⟨x, member, reads⟩ := List.exists_of_findSome?_eq_some found
      exact from_member (fun _ => reordered.mem_iff.mp) (reordered.mem_iff.mpr member) reads
  exact Option.ext same

theorem Reordered.symm (reordered : Reordered first second) : Reordered second first where
  once := (reordered.reordered.map Command.kind).nodup_iff.mpr reordered.once
  reordered := reordered.reordered.symm
  generation := reordered.generation.symm
  braking := reordered.braking.symm

theorem Reordered.pulsesAlike (reordered : Reordered first second) : PulsesAlike first second := by
  have one_kind {β : Type} {read : Command S → Option β} (kind : CommandKind)
      (reads : ∀ command, (read command).isSome → command.kind = kind) :
      second.commandsThisTick.findSome? read = first.commandsThisTick.findSome? read :=
    findSome_perm reordered.reordered fun x listed y other taken alsoTaken =>
      List.inj_on_of_nodup_map reordered.once listed other ((reads x taken).trans (reads y alsoTaken).symm)
  refine ⟨one_kind .shield ?_, one_kind .charge ?_, reordered.generation, reordered.braking⟩
  · intro command taken
    cases command with
    | shield => rfl
    | _ => cases taken
  · intro command taken
    cases command with
    | charge => rfl
    | _ => cases taken

end Links

section Worlds

variable {configuration : AbilityConfiguration S} {tick : TickSequence} {world other : GameWorld S}
  {entity : EntityId} {first second : Controllable S} {body : PhysicsBody S}

theorem Alike.symm (alike : Alike world other entity) : Alike other world entity where
  reads := ⟨alike.reads.matchState.symm, fun kind listed => (alike.reads.stores kind listed).symm⟩
  bodies := alike.bodies.symm
  links := rel_swap (fun _ _ => PulsesAlike.symm) alike.links

theorem OrderedOtherwise.alike (ordered : OrderedOtherwise world other) : Alike world other entity where
  reads := ⟨ordered.matchState, fun kind listed => by
    rw [ordered.stores kind fun named => by simp [named] at listed]⟩
  bodies := by rw [GameWorld.bodies, ordered.stores .physicsBody (by decide), GameWorld.bodies]
  links := rel_imp (fun _ _ => Reordered.pulsesAlike) (ordered.links entity)

theorem OrderedOtherwise.symm (ordered : OrderedOtherwise world other) : OrderedOtherwise other world where
  matchState := ordered.matchState.symm
  stores := fun kind others => (ordered.stores kind others).symm
  links := fun entity => rel_swap (fun _ _ => Reordered.symm) (ordered.links entity)

theorem Alike.judge (alike : Alike world other entity) (pulses : PulsesAlike first second) :
    judge configuration tick other entity second body = judge configuration tick world entity first body := by
  rw [judge_congr alike.reads]
  have eligible : shieldEligible tick world entity second = shieldEligible tick world entity first := by
    rw [shieldEligible, shieldEligible, pulses.shield, pulses.generation]
  have admitted : chargePulseAdmitted tick world entity second = chargePulseAdmitted tick world entity first := by
    rw [chargePulseAdmitted, chargePulseAdmitted, pulses.charge, pulses.generation, pulses.braking]
  rw [judge_eq, judge_eq, eligible, committedVelocity, committedVelocity, admitted]

theorem Alike.linked (alike : Alike world other entity) (linked : other.controllables.find entity = some second) :
    ∃ first, world.controllables.find entity = some first ∧ PulsesAlike first second := by
  have links := alike.links
  rw [linked] at links
  cases found : world.controllables.find entity with
  | none =>
    rw [found] at links
    cases links
  | some first =>
    rw [found, Option.rel_some_some] at links
    exact ⟨first, rfl, links⟩

theorem Alike.gates (alike : Alike world other entity) (gates : Gates world tick entity body) :
    Gates other tick entity body := by
  obtain ⟨running, begun, dynamic, unlocked⟩ := gates
  refine ⟨alike.reads.matchState ▸ running, begun, dynamic, ?_⟩
  rw [inputIsLocked, alike.reads.stores .stun (by decide), alike.reads.stores .raceProgress (by decide),
    alike.reads.matchState]
  exact unlocked

theorem Alike.protected_iff (alike : Alike world other entity) :
    Protected other tick entity ↔ Protected world tick entity := by
  unfold Protected
  rw [alike.reads.stores .shield (by decide)]

theorem Alike.opensShield (alike : Alike world other entity) (opens : OpensShield other tick entity) :
    OpensShield world tick entity := by
  obtain ⟨second, body, linked, stored, gates, ⟨pulse, recorded, generation⟩, unprotected, cooled⟩ := opens
  obtain ⟨first, firstLinked, pulses⟩ := alike.linked linked
  refine ⟨first, body, firstLinked, alike.bodies ▸ stored, alike.symm.gates gates,
    ⟨pulse, pulses.shield ▸ recorded, pulses.generation ▸ generation⟩,
    fun held => unprotected (alike.protected_iff.mpr held), fun cooling => cooled ?_⟩
  rw [ShieldCooling, alike.reads.stores .shield (by decide)]
  exact cooling

theorem Alike.opensCharge {envelope : S} {velocity : Vector2 S} (alike : Alike world other entity)
    (opens : OpensCharge envelope other tick entity velocity) : OpensCharge envelope world tick entity velocity := by
  obtain ⟨second, body, linked, stored, gates, unprotected, cooled, released, powered,
    ⟨pulse, recorded, generation, charged⟩⟩ := opens
  obtain ⟨first, firstLinked, pulses⟩ := alike.linked linked
  rw [burstSpeed, alike.reads.matchState] at charged
  refine ⟨first, body, firstLinked, alike.bodies ▸ stored, alike.symm.gates gates,
    fun held => unprotected (alike.protected_iff.mpr held), fun cooling => cooled ?_, pulses.braking ▸ released,
    alike.reads.matchState ▸ powered,
    ⟨pulse, pulses.charge ▸ recorded, pulses.generation ▸ generation, charged⟩⟩
  rw [ChargeCooling, alike.reads.stores .charge (by decide)]
  exact cooling

theorem Alike.opensShield_iff (alike : Alike world other entity) :
    OpensShield other tick entity ↔ OpensShield world tick entity :=
  ⟨alike.opensShield, alike.symm.opensShield⟩

theorem Alike.opensCharge_iff {envelope : S} {velocity : Vector2 S} (alike : Alike world other entity) :
    OpensCharge envelope other tick entity velocity ↔ OpensCharge envelope world tick entity velocity :=
  ⟨alike.opensCharge, alike.symm.opensCharge⟩

theorem Alike.sameOutcome {next otherNext : GameWorld S} (alike : Alike world other entity)
    (first : AbilityOutcome configuration tick world next)
    (second : AbilityOutcome configuration tick other otherNext) : SameOutcome next otherNext entity := by
  have shieldStored := alike.reads.stores .shield (by decide)
  have chargeStored := alike.reads.stores .charge (by decide)
  have shield : (otherNext.stores .shield).find entity = (next.stores .shield).find entity := by
    by_cases opens : OpensShield world tick entity
    · obtain ⟨activated, activates, held, -⟩ := (first.shield entity).mpr opens
      obtain ⟨again, activatesAgain, heldAgain, -⟩ := (second.shield entity).mpr (alike.opensShield_iff.mpr opens)
      cases activates.symm.trans activatesAgain
      rw [held, heldAgain]
    · rw [first.shieldKept entity fun activated => opens ((first.shield entity).mp activated),
        second.shieldKept entity fun activated => opens (alike.opensShield ((second.shield entity).mp activated)),
        shieldStored]
  by_cases opens : ¬ OpensShield world tick entity ∧
      ∃ velocity, OpensCharge configuration.chargeSafetyEnvelopeSpeed world tick entity velocity
  · obtain ⟨closed, velocity, reaches⟩ := opens
    have otherClosed : ¬ OpensShield other tick entity := fun opens => closed (alike.opensShield opens)
    have otherReaches := alike.opensCharge_iff.mpr reaches
    obtain ⟨activated, activates, held, -⟩ := (first.charge entity).mpr ⟨closed, velocity, reaches⟩
    obtain ⟨again, activatesAgain, heldAgain, -⟩ := (second.charge entity).mpr ⟨otherClosed, velocity, otherReaches⟩
    cases activates.symm.trans activatesAgain
    refine ⟨shield, by rw [held, heldAgain], ?_⟩
    rw [first.burst entity velocity closed reaches, second.burst entity velocity otherClosed otherReaches,
      alike.bodies]
  · obtain ⟨chargeKept, bodyKept⟩ := first.chargeKept entity fun activated =>
      opens ((first.charge entity).mp activated)
    obtain ⟨otherCharge, otherBody⟩ := second.chargeKept entity fun activated => by
      obtain ⟨closed, velocity, reaches⟩ := (second.charge entity).mp activated
      exact opens ⟨fun opens => closed (alike.opensShield_iff.mpr opens), velocity, alike.opensCharge reaches⟩
    exact ⟨shield, by rw [otherCharge, chargeKept, chargeStored], by rw [otherBody, bodyKept, alike.bodies]⟩

theorem OrderedOtherwise.returns (ordered : OrderedOtherwise world other)
    (returns : Returns configuration tick world) : Returns configuration tick other where
  decided := by
    intro entity second body linked stored
    have alike : Alike world other entity := ordered.alike
    obtain ⟨first, firstLinked, pulses⟩ := alike.linked linked
    rw [alike.judge pulses]
    exact returns.decided entity first body firstLinked (alike.bodies ▸ stored)
  shieldWindows := fun entity opens => returns.shieldWindows entity (ordered.alike.opensShield opens)
  chargeWindows := fun entity velocity closed opens => returns.chargeWindows entity velocity
    (fun held => closed (ordered.alike.opensShield_iff.mpr held)) (ordered.alike.opensCharge opens)
  shieldRoom := returns.shieldRoom.mono fun entity held => by
    refine held.imp ordered.alike.opensShield fun kept => ?_
    rwa [KeepsShield, ordered.stores .shield (by decide)] at kept
  chargeRoom := returns.chargeRoom.mono fun entity held => by
    refine held.imp (fun charged => ?_) fun kept => ?_
    · obtain ⟨closed, velocity, opens⟩ := charged
      exact ⟨fun held => closed (ordered.alike.opensShield_iff.mpr held), velocity, ordered.alike.opensCharge opens⟩
    · rwa [KeepsCharge, ordered.stores .charge (by decide)] at kept

end Worlds

/-- What the pass activates, that it reads nothing else, and that phase 0 leaves it no order to read. -/
theorem ability_admission (configuration : AbilityConfiguration S) :
    (∀ world context, ((∃ next, apply configuration world context = .ok next) ↔
        Returns configuration context.tickSequence world) ∧
      ∀ next, apply configuration world context = .ok next →
        AbilityOutcome configuration context.tickSequence world next) ∧
    (∀ world other context next otherNext entity, Alike world other entity →
      apply configuration world context = .ok next → apply configuration other context = .ok otherNext →
      SameOutcome next otherNext entity) ∧
    (∀ world other context, OrderedOtherwise world other →
      ((∃ next, apply configuration world context = .ok next) ↔
        ∃ next, apply configuration other context = .ok next) ∧
      ∀ next otherNext entity, apply configuration world context = .ok next →
        apply configuration other context = .ok otherNext → SameOutcome next otherNext entity) ∧
    ∀ (world seated : GameWorld S) (batch : InputBatch S) seatCeiling decisionTick decisions,
      applyInputBatch world batch seatCeiling decisionTick = .ok (seated, decisions) →
      ∀ entity link, seated.controllables.find entity = some link → link.RecordsOnce := by
  refine ⟨fun world context => ⟨returns_iff, fun next => outcome_of_apply⟩, ?_, ?_, ?_⟩
  · intro world other context next otherNext entity alike applied appliedOther
    exact alike.sameOutcome (outcome_of_apply applied) (outcome_of_apply appliedOther)
  · intro world other context ordered
    refine ⟨?_, fun next otherNext entity applied appliedOther =>
      ordered.alike.sameOutcome (outcome_of_apply applied) (outcome_of_apply appliedOther)⟩
    rw [returns_iff, returns_iff]
    exact ⟨ordered.returns, ordered.symm.returns⟩
  · intro world seated batch seatCeiling decisionTick decisions applied entity link linked
    exact recordsOnce_of_applyInputBatch applied linked

section DoubledPulse

theorem one_le_maximumProtocolSafeInteger : 1 ≤ maximumProtocolSafeInteger := by decide

theorem one_within_one : 1 ≤ 1 := le_refl 1

def briefAbilities : AbilityConfiguration ℚ where
  shieldDurationTicks := 1
  shieldPerfectWindowTicks := 1
  shieldCooldownTicks := 1
  parryStunDurationTicks := 1
  chargeCooldownTicks := 1
  chargeActiveDurationTicks := 1
  chargeHitStunDurationTicks := 1
  chargeSafetyEnvelopeSpeed := 1
  shieldPositive := Nat.one_pos
  perfectPositive := Nat.one_pos
  parryPositive := Nat.one_pos
  chargeCooldownPositive := Nat.one_pos
  chargeActivePositive := Nat.one_pos
  chargeHitStunPositive := Nat.one_pos
  perfectWithin := one_within_one
  chargeHitStunBounded := one_le_maximumProtocolSafeInteger

def firstTick : TickSequence := ⟨1, one_le_maximumProtocolSafeInteger⟩

def firstTickContext : TickContext ℚ where
  tickSequence := firstTick
  simulationConfig := GameSimulation.oneCell
  map := (GameSimulation.oneCellSimulation []).map
  spatialIndex := (GameSimulation.oneCellSimulation []).grid

theorem validComponent_zero : ValidComponent (0 : ℚ) := by decide

theorem admittedMass_one : AdmittedMass (1 : ℚ) false := by decide

theorem admittedRestitution_one : AdmittedRestitution (1 : ℚ) := by decide

theorem admittedDragScale_one : AdmittedDragScale (1 : ℚ) := by decide

def nowhere : Vector2 ℚ := ⟨0, 0, validComponent_zero, validComponent_zero⟩

def restingBody : PhysicsBody ℚ :=
  ⟨nowhere, nowhere, nowhere, 1, 1, 1, 1, 1, 1, false, .fold, .floating, admittedMass_one,
    admittedRestitution_one, admittedDragScale_one⟩

/-- One entity's record: two shield pulses, of these generations. -/
def doublePulsed (generations : List (Option TickSequence)) : Controllable ℚ :=
  ⟨.first, generations.map fun generation => .shield ⟨.first, generation⟩, none, none, false⟩

def alone {V : Type} (value : V) : ComponentStore V :=
  ⟨⟨[(.first, value)], List.pairwise_singleton _ _⟩, Nat.le_of_ble_eq_true rfl⟩

def doublePulsedWorld (generations : List (Option TickSequence)) : GameWorld ℚ :=
  (((GameWorld.empty 0).withMatch { MatchState.initial with phase := .running }).withBodies
    (alone restingBody)).withControllables (alone (doublePulsed generations))

theorem ok_of_toOption {α : Type} {result : Validated α} {value : α} (returned : result.toOption = some value) :
    result = .ok value := by
  cases result with
  | error refusal => cases returned
  | ok other => exact congrArg Except.ok (Option.some.inj returned)

/-- Where a link records two shield pulses, one of them stale, their order decides. -/
theorem doubled_pulse_order_matters :
    ¬ ∀ (configuration : AbilityConfiguration ℚ) (world other next otherNext : GameWorld ℚ) (context : TickContext ℚ)
      (entity : EntityId), other.matchState = world.matchState →
      (∀ kind, kind ≠ .controllable → other.stores kind = world.stores kind) →
      (∀ entity, Option.Rel (fun first second => second.commandsThisTick.Perm first.commandsThisTick ∧
        second.inputGeneration = first.inputGeneration ∧ second.brakingIntent = first.brakingIntent)
        (world.controllables.find entity) (other.controllables.find entity)) →
      apply configuration world context = .ok next → apply configuration other context = .ok otherNext →
      SameOutcome next otherNext entity := by
  intro independent
  have opens : (apply briefAbilities (doublePulsedWorld [none, some firstTick]) firstTickContext).toOption.map
      (fun next => ((next.stores .shield).find .first).isSome) = some true := by decide +kernel
  have closes : (apply briefAbilities (doublePulsedWorld [some firstTick, none]) firstTickContext).toOption.map
      (fun next => ((next.stores .shield).find .first).isSome) = some false := by decide +kernel
  obtain ⟨next, applied, opened⟩ := Option.map_eq_some_iff.mp opens
  obtain ⟨otherNext, appliedOther, closed⟩ := Option.map_eq_some_iff.mp closes
  have same := independent _ (doublePulsedWorld [none, some firstTick])
    (doublePulsedWorld [some firstTick, none]) _ _ _ .first rfl (fun kind others => ?_) (fun entity => ?_)
    (ok_of_toOption applied) (ok_of_toOption appliedOther)
  · rw [same.shield, opened] at closed
    cases closed
  · rw [doublePulsedWorld, GameWorld.withControllables, GameWorld.withStore_other _ others, doublePulsedWorld,
      GameWorld.withControllables, GameWorld.withStore_other _ others]
  · rw [doublePulsedWorld, GameWorld.withControllables_controllables, doublePulsedWorld,
      GameWorld.withControllables_controllables]
    by_cases named : Identity.first = entity
    · subst named
      exact .some ⟨.swap _ _ _, rfl, rfl⟩
    · have absent (link : Controllable ℚ) : (alone link).find entity = none := by
        simp [alone, SortedStore.find, named]
      rw [absent, absent]
      exact .none

end DoubledPulse

end AbilitySystem

end BlobRoyale.Gameplay
