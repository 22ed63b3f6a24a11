import BlobRoyale.Simulation.AbilityWindows
import BlobRoyale.Simulation.Components
import BlobRoyale.Simulation.SystemPipeline

/-!
# Abilities

The pass that admits the tick's ability pulses. It sweeps expired shields and charges, then visits every entity
with a controller link and a body once, decides both abilities there and opens at most one of them.
-/

namespace BlobRoyale.Gameplay

open Simulation

variable {S : Type} [Scalar S]

/-- The `[abilities]` durations in ticks, as its validation leaves them. -/
structure AbilityConfiguration (S : Type) where
  shieldDurationTicks : Nat
  shieldPerfectWindowTicks : Nat
  shieldCooldownTicks : Nat
  parryStunDurationTicks : Nat
  chargeCooldownTicks : Nat
  chargeActiveDurationTicks : Nat
  chargeHitStunDurationTicks : Nat
  chargeSafetyEnvelopeSpeed : S
  shieldPositive : 0 < shieldDurationTicks
  perfectPositive : 0 < shieldPerfectWindowTicks
  parryPositive : 0 < parryStunDurationTicks
  chargeCooldownPositive : 0 < chargeCooldownTicks
  chargeActivePositive : 0 < chargeActiveDurationTicks
  chargeHitStunPositive : 0 < chargeHitStunDurationTicks
  perfectWithin : shieldPerfectWindowTicks ≤ shieldDurationTicks
  chargeHitStunBounded : chargeHitStunDurationTicks ≤ maximumProtocolSafeInteger

/-- `unit_direction`. -/
def unitDirection (direction : Vector2 S) : Validated (Option (Vector2 S)) :=
  let magnitude := Scalar.sqrt (direction.x * direction.x + direction.y * direction.y)
  if Scalar.isFinite magnitude = false ∨ magnitude = 0 then .ok none
  else
    let unitX := direction.x / magnitude
    let unitY := direction.y / magnitude
    if Scalar.isFinite unitX = false ∨ Scalar.isFinite unitY = false ∨
        maximumPhysicalComponentMagnitude < Scalar.abs unitX ∨
        maximumPhysicalComponentMagnitude < Scalar.abs unitY then .ok none
    else do
      let unit ← Vector2.create unitX unitY
      return some unit

/-- `input_is_locked`. -/
def inputIsLocked (world : GameWorld S) (entity : EntityId) (tick : TickSequence) : Bool :=
  ((world.stores .stun).find entity).any (fun stun => stun.window.contains tick) ||
    match world.matchState.modeState with
    | .race _ _ checkpoints _ _ _ =>
        !checkpoints.isEmpty &&
          ((world.stores .raceProgress).find entity).any fun progress => progress.nextCheckpoint = checkpoints.length
    | _ => false

namespace AbilitySystem

def recordedShieldOf (controllable : Controllable S) : Option ShieldCommand :=
  controllable.commandsThisTick.findSome? fun
    | .shield pulse => some pulse
    | _ => none

def recordedChargeOf (controllable : Controllable S) : Option (ChargeCommand S) :=
  controllable.commandsThisTick.findSome? fun
    | .charge pulse => some pulse
    | _ => none

def chargedVelocity (velocity direction : Vector2 S) (burstSpeed safetyEnvelopeSpeed : S) :
    Validated (Option (Vector2 S)) := do
  match ← unitDirection direction with
  | none => return none
  | some unit =>
      let nextX := velocity.x + unit.x * burstSpeed
      let nextY := velocity.y + unit.y * burstSpeed
      if Scalar.isFinite nextX = false ∨ Scalar.isFinite nextY = false then return none
      else if safetyEnvelopeSpeed < Scalar.sqrt (nextX * nextX + nextY * nextY) then return none
      else
        let next ← Vector2.create nextX nextY
        return some next

def burstSpeed (world : GameWorld S) : S :=
  world.matchState.movement.current.chargeSpeedFraction * world.matchState.movement.current.normalTopSpeed

def sweepShields (tick : TickSequence) (world : GameWorld S) : GameWorld S :=
  world.withStore .shield ((world.stores .shield).filter fun _ shield =>
    !(shield.shieldWindow.expired tick && shield.cooldownWindow.expired tick))

def sweepCharges (tick : TickSequence) (world : GameWorld S) : GameWorld S :=
  world.withStore .charge ((world.stores .charge).filter fun _ charge =>
    !(charge.cooldownWindow.expired tick && charge.activeWindow.expired tick))

/-- What one visit opens. -/
inductive Admission (S : Type) [Scalar S] where
  | refused
  | shield
  | charge (velocity : Vector2 S)

def shieldEligible (tick : TickSequence) (world : GameWorld S) (entity : EntityId) (controllable : Controllable S) :
    Bool :=
  let shield := (world.stores .shield).find entity
  let protectionActive := shield.any fun shield => shield.shieldWindow.contains tick
  let shieldCooling := shield.any fun shield => !shield.cooldownWindow.expired tick
  (recordedShieldOf controllable).any (fun pulse => pulse.inputGeneration = controllable.inputGeneration) &&
    !protectionActive && !shieldCooling

/-- The recorded charge pulse, where it is admitted. -/
def chargePulseAdmitted (tick : TickSequence) (world : GameWorld S) (entity : EntityId)
    (controllable : Controllable S) : Option (ChargeCommand S) :=
  let protectionActive := ((world.stores .shield).find entity).any fun shield => shield.shieldWindow.contains tick
  let chargeCooling := ((world.stores .charge).find entity).any fun charge => !charge.cooldownWindow.expired tick
  (recordedChargeOf controllable).filter fun pulse =>
    pulse.inputGeneration = controllable.inputGeneration && !protectionActive && !chargeCooling &&
      !controllable.brakingIntent && 0 < world.matchState.movement.current.chargeSpeedFraction

variable (configuration : AbilityConfiguration S) (tick : TickSequence)

def committedVelocity (world : GameWorld S) (entity : EntityId) (controllable : Controllable S)
    (body : PhysicsBody S) : Validated (Option (Vector2 S)) :=
  match chargePulseAdmitted tick world entity controllable with
  | none => .ok none
  | some pulse =>
      chargedVelocity body.velocity pulse.direction (burstSpeed world) configuration.chargeSafetyEnvelopeSpeed

def judge (world : GameWorld S) (entity : EntityId) (controllable : Controllable S) (body : PhysicsBody S) :
    Validated (Admission S) :=
  if (recordedShieldOf controllable).isNone && (recordedChargeOf controllable).isNone then .ok .refused
  else if world.matchState.phase ≠ .running then .ok .refused
  else if tick = .zero then .ok .refused
  else if body.isStatic then .ok .refused
  else if inputIsLocked world entity tick then .ok .refused
  else do
    let committed ← committedVelocity configuration tick world entity controllable body
    if shieldEligible tick world entity controllable then return .shield
    else return committed.elim .refused .charge

def activateShield : Validated Shield :=
  Shield.activate tick configuration.shieldDurationTicks configuration.shieldPerfectWindowTicks
    configuration.shieldCooldownTicks configuration.parryStunDurationTicks

def activateCharge : Validated Charge :=
  Charge.activate tick configuration.chargeCooldownTicks configuration.chargeActiveDurationTicks
    configuration.chargeHitStunDurationTicks

def perform (world : GameWorld S) (entity : EntityId) (body : PhysicsBody S) :
    Admission S → Validated (GameWorld S)
  | .refused => .ok world
  | .shield => do
      let activated ← activateShield configuration tick
      let shields ← (world.stores .shield).insertOrAssign entity activated
      return world.withStore .shield shields
  | .charge velocity => do
      let activated ← activateCharge configuration tick
      let charges ← (world.stores .charge).insertOrAssign entity activated
      let charging := world.withStore .charge charges
      let bodies ← charging.bodies.insertOrAssign entity (body.withVelocity velocity)
      return charging.withBodies bodies

def visit (world : GameWorld S) (joined : EntityId × Controllable S × PhysicsBody S) :
    Validated (GameWorld S) := do
  let admission ← judge configuration tick world joined.1 joined.2.1 joined.2.2
  perform configuration tick world joined.1 joined.2.2 admission

/-- `AbilitySystem::apply`. -/
def apply (configuration : AbilityConfiguration S) (world : GameWorld S) (context : TickContext S) :
    Validated (GameWorld S) :=
  let swept := sweepCharges context.tickSequence (sweepShields context.tickSequence world)
  (swept.controllables.join swept.bodies).foldlM (visit configuration context.tickSequence) swept

end AbilitySystem

end BlobRoyale.Gameplay

/-!
# Ability admission

What a visit decides, gate by gate, in terms of the world the pass was given.
-/

namespace BlobRoyale.Gameplay

open Simulation

variable {S : Type} [Scalar S]

namespace AbilitySystem

/-- The gates both abilities share. -/
structure Gates (world : GameWorld S) (tick : TickSequence) (entity : EntityId) (body : PhysicsBody S) : Prop where
  running : world.matchState.phase = .running
  begun : tick ≠ .zero
  dynamic : body.isStatic = false
  unlocked : inputIsLocked world entity tick = false

def Protected (world : GameWorld S) (tick : TickSequence) (entity : EntityId) : Prop :=
  ∃ shield, (world.stores .shield).find entity = some shield ∧ shield.shieldWindow.contains tick = true

def ShieldCooling (world : GameWorld S) (tick : TickSequence) (entity : EntityId) : Prop :=
  ∃ shield, (world.stores .shield).find entity = some shield ∧ shield.cooldownWindow.expired tick = false

def ChargeCooling (world : GameWorld S) (tick : TickSequence) (entity : EntityId) : Prop :=
  ∃ charge, (world.stores .charge).find entity = some charge ∧ charge.cooldownWindow.expired tick = false

/-- A direction that normalises, and the velocity its burst reaches within the envelope. -/
structure ChargedTo (velocity direction : Vector2 S) (burst envelope : S) (next : Vector2 S) : Prop where
  reached : ∃ unit, unitDirection direction = .ok (some unit) ∧ next.x = velocity.x + unit.x * burst ∧
    next.y = velocity.y + unit.y * burst
  finite : Scalar.isFinite next.x = true ∧ Scalar.isFinite next.y = true
  within : Scalar.sqrt (next.x * next.x + next.y * next.y) ≤ envelope

/-- A shield pulse that opens a shield. -/
structure ShieldPulse (world : GameWorld S) (tick : TickSequence) (entity : EntityId) (link : Controllable S)
    (body : PhysicsBody S) : Prop where
  gates : Gates world tick entity body
  pulsed : ∃ pulse, recordedShieldOf link = some pulse ∧ pulse.inputGeneration = link.inputGeneration
  unprotected : ¬ Protected world tick entity
  cooled : ¬ ShieldCooling world tick entity

/-- A charge pulse that would reach a velocity, whatever the shield pulse. -/
structure ChargePulse (envelope : S) (world : GameWorld S) (tick : TickSequence) (entity : EntityId)
    (link : Controllable S) (body : PhysicsBody S) (velocity : Vector2 S) : Prop where
  gates : Gates world tick entity body
  unprotected : ¬ Protected world tick entity
  cooled : ¬ ChargeCooling world tick entity
  released : link.brakingIntent = false
  powered : 0 < world.matchState.movement.current.chargeSpeedFraction
  pulsed : ∃ pulse, recordedChargeOf link = some pulse ∧ pulse.inputGeneration = link.inputGeneration ∧
    ChargedTo body.velocity pulse.direction (burstSpeed world) envelope velocity

variable {world other : GameWorld S} {tick : TickSequence} {entity : EntityId} {link : Controllable S}
  {body : PhysicsBody S} {configuration : AbilityConfiguration S} {velocity next : Vector2 S}

theorem chargedVelocity_eq_some {direction : Vector2 S} {burst envelope : S} :
    chargedVelocity velocity direction burst envelope = .ok (some next) ↔
      ChargedTo velocity direction burst envelope next := by
  constructor
  · intro charged
    obtain ⟨normal, normalised, rest⟩ := bind_eq_ok.mp charged
    cases normal with
    | none => cases rest
    | some unit =>
      dsimp only at rest
      split at rest
      · cases rest
      · next finite =>
        split at rest
        · cases rest
        · next within =>
          obtain ⟨created, creates, same⟩ := bind_eq_ok.mp rest
          cases same
          obtain ⟨x, y⟩ := Vector2.createForOperation_eq_ok creates
          rw [not_or, Bool.not_eq_false, Bool.not_eq_false] at finite
          exact ⟨⟨unit, normalised, x, y⟩, by rw [x, y]; exact finite, by rw [x, y]; exact not_lt.mp within⟩
  · rintro ⟨⟨unit, normalised, x, y⟩, finite, within⟩
    have valid := Vector2.createForOperation_of_valid next.x_valid next.y_valid "vector2.create"
    obtain ⟨created, creates⟩ := valid
    have same : created = next := by
      obtain ⟨createdX, createdY⟩ := Vector2.createForOperation_eq_ok creates
      cases created
      cases next
      cases createdX
      cases createdY
      rfl
    rw [x, y] at finite within creates
    refine bind_eq_ok.mpr ⟨some unit, normalised, ?_⟩
    dsimp only
    rw [if_neg (by rw [finite.1, finite.2]; simp), if_neg (not_lt.mpr within)]
    exact bind_eq_ok.mpr ⟨created, creates, by rw [same]; rfl⟩

theorem any_contains_iff : ((world.stores .shield).find entity).any (fun shield => shield.shieldWindow.contains tick)
    = true ↔ Protected world tick entity := Option.any_eq_true _ _

theorem any_shieldCooling_iff : ((world.stores .shield).find entity).any
    (fun shield => !shield.cooldownWindow.expired tick) = true ↔ ShieldCooling world tick entity := by
  rw [Option.any_eq_true]
  exact exists_congr fun shield => by rw [Bool.not_eq_true']

theorem any_chargeCooling_iff : ((world.stores .charge).find entity).any
    (fun charge => !charge.cooldownWindow.expired tick) = true ↔ ChargeCooling world tick entity := by
  rw [Option.any_eq_true]
  exact exists_congr fun charge => by rw [Bool.not_eq_true']

def opened (tick : TickSequence) (world : GameWorld S) (entity : EntityId) (body : PhysicsBody S) : Bool :=
  world.matchState.phase = .running && tick ≠ .zero && !body.isStatic && !inputIsLocked world entity tick

theorem nothing_without_pulses (noShield : recordedShieldOf link = none) (noCharge : recordedChargeOf link = none) :
    shieldEligible tick world entity link = false ∧
      committedVelocity configuration tick world entity link body = .ok none := by
  refine ⟨by simp [shieldEligible, noShield], ?_⟩
  simp only [committedVelocity, chargePulseAdmitted, noCharge, Option.filter_none]

theorem opened_iff : opened tick world entity body = true ↔ Gates world tick entity body := by
  simp only [opened, Bool.and_eq_true, decide_eq_true_eq, Bool.not_eq_true', and_assoc]
  exact ⟨fun ⟨running, begun, dynamic, unlocked⟩ => ⟨running, begun, dynamic, unlocked⟩,
    fun ⟨running, begun, dynamic, unlocked⟩ => ⟨running, begun, dynamic, unlocked⟩⟩

theorem judge_eq : judge configuration tick world entity link body =
    if opened tick world entity body then do
      let committed ← committedVelocity configuration tick world entity link body
      if shieldEligible tick world entity link then return .shield
      else return committed.elim .refused .charge
    else .ok .refused := by
  unfold judge
  split
  · next none =>
    rw [Bool.and_eq_true, Option.isNone_iff_eq_none, Option.isNone_iff_eq_none] at none
    obtain ⟨ineligible, nothing⟩ : shieldEligible tick world entity link = false ∧
        committedVelocity configuration tick world entity link body = .ok Option.none :=
      nothing_without_pulses none.1 none.2
    rw [nothing, ineligible]
    split <;> rfl
  · by_cases gate : opened tick world entity body = true
    · obtain ⟨running, begun, dynamic, unlocked⟩ := opened_iff.mp gate
      simp only [running, begun, dynamic, unlocked, gate, ne_eq, not_true_eq_false, Bool.false_eq_true, if_true,
        if_false]
    · rw [if_neg gate]
      by_cases running : world.matchState.phase = .running
      · by_cases begun : tick = .zero
        · simp [begun]
        · cases dynamic : body.isStatic with
          | true => simp
          | false =>
            cases unlocked : inputIsLocked world entity tick with
            | true => simp
            | false => exact absurd (opened_iff.mpr ⟨running, begun, dynamic, unlocked⟩) gate
      · simp [running]

theorem shieldEligible_iff : shieldEligible tick world entity link = true ↔
    (∃ pulse, recordedShieldOf link = some pulse ∧ pulse.inputGeneration = link.inputGeneration) ∧
      ¬ Protected world tick entity ∧ ¬ ShieldCooling world tick entity := by
  rw [shieldEligible, Bool.and_eq_true, Bool.and_eq_true, Bool.not_eq_true', Bool.not_eq_true',
    ← Bool.not_eq_true, ← Bool.not_eq_true, any_contains_iff, any_shieldCooling_iff, Option.any_eq_true, and_assoc]
  simp only [decide_eq_true_eq]

theorem chargePulseAdmitted_iff {pulse : ChargeCommand S} :
    chargePulseAdmitted tick world entity link = some pulse ↔ recordedChargeOf link = some pulse ∧
      pulse.inputGeneration = link.inputGeneration ∧ ¬ Protected world tick entity ∧
      ¬ ChargeCooling world tick entity ∧ link.brakingIntent = false ∧
      0 < world.matchState.movement.current.chargeSpeedFraction := by
  rw [chargePulseAdmitted, Option.filter_eq_some_iff, Bool.and_eq_true, Bool.and_eq_true, Bool.and_eq_true,
    Bool.and_eq_true, Bool.not_eq_true', Bool.not_eq_true', Bool.not_eq_true', ← Bool.not_eq_true,
    ← Bool.not_eq_true, any_contains_iff, any_chargeCooling_iff, decide_eq_true_iff, decide_eq_true_iff]
  simp only [and_assoc]

theorem committedVelocity_eq_some : committedVelocity configuration tick world entity link body = .ok (some velocity) ↔
    ∃ pulse, chargePulseAdmitted tick world entity link = some pulse ∧ ChargedTo body.velocity pulse.direction
      (burstSpeed world) configuration.chargeSafetyEnvelopeSpeed velocity := by
  unfold committedVelocity
  cases chargePulseAdmitted tick world entity link with
  | none => simp
  | some pulse => simp only [chargedVelocity_eq_some, Option.some.injEq, exists_eq_left']

theorem judge_shield {admission : Admission S} (admitted : judge configuration tick world entity link body =
    .ok admission) : admission = .shield ↔ ShieldPulse world tick entity link body := by
  rw [judge_eq] at admitted
  split at admitted
  · next gate =>
    obtain ⟨committed, -, chosen⟩ := bind_eq_ok.mp admitted
    split at chosen
    · next eligible =>
      cases chosen
      obtain ⟨pulsed, unprotected, cooled⟩ := shieldEligible_iff.mp eligible
      exact iff_of_true rfl ⟨opened_iff.mp gate, pulsed, unprotected, cooled⟩
    · next ineligible =>
      cases chosen
      refine iff_of_false ?_ fun pulse =>
        ineligible (shieldEligible_iff.mpr ⟨pulse.pulsed, pulse.unprotected, pulse.cooled⟩)
      cases committed <;> exact fun impossible => by cases impossible
  · next gate =>
    cases admitted
    exact iff_of_false (fun impossible => by cases impossible) fun pulse => gate (opened_iff.mpr pulse.gates)

/-- A visit opens a charge where the charge pulse has all its gates and the shield pulse has not. -/
theorem judge_charge {admission : Admission S} (admitted : judge configuration tick world entity link body =
    .ok admission) : admission = .charge velocity ↔ ¬ ShieldPulse world tick entity link body ∧
      ChargePulse configuration.chargeSafetyEnvelopeSpeed world tick entity link body velocity := by
  have shield := judge_shield admitted
  rw [judge_eq] at admitted
  split at admitted
  · next gate =>
    obtain ⟨committed, computed, chosen⟩ := bind_eq_ok.mp admitted
    split at chosen
    · cases chosen
      exact iff_of_false (fun impossible => by cases impossible) fun both => both.1 (shield.mp rfl)
    · next ineligible =>
      cases chosen
      have noShield : ¬ ShieldPulse world tick entity link body := fun pulse =>
        ineligible (shieldEligible_iff.mpr ⟨pulse.pulsed, pulse.unprotected, pulse.cooled⟩)
      have reached : committed = some velocity ↔
          ChargePulse configuration.chargeSafetyEnvelopeSpeed world tick entity link body velocity := by
        constructor
        · rintro rfl
          obtain ⟨pulse, pulsed, charged⟩ := committedVelocity_eq_some.mp computed
          obtain ⟨recorded, generation, unprotected, cooled, released, powered⟩ := chargePulseAdmitted_iff.mp pulsed
          exact ⟨opened_iff.mp gate, unprotected, cooled, released, powered, pulse, recorded, generation, charged⟩
        · rintro ⟨-, unprotected, cooled, released, powered, pulse, recorded, generation, charged⟩
          have again := committedVelocity_eq_some.mpr ⟨pulse, chargePulseAdmitted_iff.mpr
            ⟨recorded, generation, unprotected, cooled, released, powered⟩, charged⟩
          exact Except.ok.inj (computed.symm.trans again)
      rw [and_iff_right noShield, ← reached]
      cases committed with
      | none => exact iff_of_false (fun impossible => by cases impossible) fun impossible => by cases impossible
      | some other =>
        constructor
        · intro same
          cases same
          rfl
        · intro same
          cases same
          rfl
  · next gate =>
    cases admitted
    exact iff_of_false (fun impossible => by cases impossible) fun both => gate (opened_iff.mpr both.2.gates)

end AbilitySystem

end BlobRoyale.Gameplay
