import BlobRoyale.Simulation.Components

/-!
# Ability windows

How a window of ticks is opened, read and ended early, and the shield and charge activations that open
several on one tick. A window ended early keeps its activation tick and ends at the ending tick.
-/

namespace BlobRoyale.Simulation

namespace TickSequence

theorem ext_value {first second : TickSequence} (values : first.value = second.value) : first = second := by
  cases first
  cases second
  cases values
  rfl

end TickSequence

namespace TickWindow

def create (activationTick : TickSequence) (durationTicks : Nat) :
    Validated { window : TickWindow // window.activationTick = activationTick } :=
  if room : durationTicks ≤ maximumProtocolSafeInteger - activationTick.value then
    .ok ⟨⟨activationTick, ⟨activationTick.value + durationTicks, by
      have bounded := activationTick.le_maximum
      omega⟩, Nat.le_add_right _ _⟩, rfl⟩
  else
    reject .tickWindowExpiryOverflow "tick_window.expiry_tick"
      ("activation tick " ++ toString activationTick.value ++ " plus duration " ++ toString durationTicks ++
        " exceeds the maximum exact tick")

def contains (window : TickWindow) (tick : TickSequence) : Bool :=
  window.activationTick.value ≤ tick.value ∧ tick.value < window.expiryTick.value

def expired (window : TickWindow) (tick : TickSequence) : Bool :=
  window.expiryTick.value ≤ tick.value

/-- The window without its ticks from `tick` on. -/
def cutAt (window : TickWindow) (tick : TickSequence) : TickWindow :=
  if inside : window.activationTick.value ≤ tick.value ∧ tick.value < window.expiryTick.value then
    ⟨window.activationTick, tick, inside.1⟩
  else window

variable {window : TickWindow} {tick activationTick : TickSequence} {durationTicks : Nat}

theorem contains_iff : window.contains tick = true ↔
    window.activationTick.value ≤ tick.value ∧ tick.value < window.expiryTick.value := decide_eq_true_iff

theorem expired_iff : window.expired tick = true ↔ window.expiryTick.value ≤ tick.value := decide_eq_true_iff

theorem ext_ticks {first second : TickWindow} (activation : first.activationTick = second.activationTick)
    (expiry : first.expiryTick.value = second.expiryTick.value) : first = second := by
  obtain ⟨firstActivation, firstExpiry, _⟩ := first
  obtain ⟨secondActivation, secondExpiry, _⟩ := second
  cases activation
  cases TickSequence.ext_value expiry
  rfl

theorem not_expired_of_contains (inside : window.contains tick = true) : window.expired tick = false := by
  have late := (contains_iff.mp inside).2
  exact Bool.eq_false_iff.mpr fun expired => absurd (expired_iff.mp expired) (not_le.mpr late)

theorem create_eq_ok {opened : { window : TickWindow // window.activationTick = activationTick }} :
    create activationTick durationTicks = .ok opened ↔
      opened.val.expiryTick.value = activationTick.value + durationTicks := by
  have bounded := opened.val.expiryTick.le_maximum
  unfold create
  split
  · constructor
    · intro created
      cases created
      rfl
    · intro expiry
      exact congrArg Except.ok (Subtype.ext (ext_ticks opened.property.symm expiry.symm))
  · next full =>
    constructor
    · intro created
      cases created
    · intro expiry
      omega

theorem create_refuses (overflow : maximumProtocolSafeInteger < activationTick.value + durationTicks) :
    ∃ error, create activationTick durationTicks = .error error ∧ error.code = .tickWindowExpiryOverflow ∧
      error.context = "tick_window.expiry_tick" := by
  have bounded := activationTick.le_maximum
  refine ⟨_, dif_neg (by omega), rfl, rfl⟩

theorem create_returns (room : activationTick.value + durationTicks ≤ maximumProtocolSafeInteger) :
    ∃ opened, create activationTick durationTicks = .ok opened :=
  ⟨_, dif_pos (by omega)⟩

theorem create_ending (inside : window.contains tick = true) :
    create window.activationTick (tick.value - window.activationTick.value) =
      .ok ⟨⟨window.activationTick, tick, (contains_iff.mp inside).1⟩, rfl⟩ := by
  have starts := (contains_iff.mp inside).1
  exact create_eq_ok.mpr (by dsimp only; omega)

@[simp] theorem cutAt_activationTick : (window.cutAt tick).activationTick = window.activationTick := by
  unfold cutAt
  split <;> rfl

theorem cutAt_of_contains (inside : window.contains tick = true) :
    window.cutAt tick = ⟨window.activationTick, tick, (contains_iff.mp inside).1⟩ :=
  dif_pos (contains_iff.mp inside)

theorem cutAt_of_not_contains (outside : window.contains tick = false) : window.cutAt tick = window :=
  dif_neg fun inside => absurd (contains_iff.mpr inside) (Bool.eq_false_iff.mp outside)

theorem cutAt_contains (begun : window.activationTick.value ≤ tick.value) (other : TickSequence) :
    (window.cutAt tick).contains other = true ↔ window.contains other = true ∧ other.value < tick.value := by
  rw [contains_iff, contains_iff, cutAt_activationTick]
  unfold cutAt
  split
  · dsimp only
    omega
  · omega

end TickWindow

namespace Shield

def activationTick (shield : Shield) : TickSequence := shield.shieldWindow.activationTick

def activate (activationTick : TickSequence)
    (shieldDurationTicks perfectDurationTicks cooldownDurationTicks parryStunDurationTicks : Nat) :
    Validated Shield :=
  if activationTick = .zero then
    reject .shieldActivationInvalid "shield.activation_tick" "a shield activation tick must be positive"
  else if shieldDurationTicks = 0 then
    reject .shieldActivationInvalid "shield.shield_duration_ticks"
      ("a shield duration of " ++ toString shieldDurationTicks ++ " ticks protects nothing")
  else if perfectDurationTicks = 0 then
    reject .shieldActivationInvalid "shield.perfect_duration_ticks"
      ("a perfect opening of " ++ toString perfectDurationTicks ++ " ticks can never be entered")
  else if parryStunDurationTicks = 0 then
    reject .shieldActivationInvalid "shield.parry_stun_duration_ticks"
      ("a parry stun duration of " ++ toString parryStunDurationTicks ++ " ticks is a parry with no effect")
  else if shieldDurationTicks < perfectDurationTicks then
    reject .shieldActivationInvalid "shield.perfect_duration_ticks"
      ("a perfect opening of " ++ toString perfectDurationTicks ++ " ticks is longer than the " ++
        toString shieldDurationTicks ++ " ticks of protection that contain it")
  else do
    let shield ← TickWindow.create activationTick shieldDurationTicks
    let perfect ← TickWindow.create activationTick perfectDurationTicks
    let cooldown ← TickWindow.create activationTick cooldownDurationTicks
    return ⟨shield, perfect, cooldown, parryStunDurationTicks, perfect.property.trans shield.property.symm,
      cooldown.property.trans shield.property.symm⟩

/-- `ended_at`. -/
def endedAt (window : TickWindow) (tick : TickSequence) :
    Validated { ended : TickWindow // ended.activationTick = window.activationTick } :=
  if window.contains tick then
    TickWindow.create window.activationTick (tick.value - window.activationTick.value)
  else .ok ⟨window, rfl⟩

def canceledAt (shield : Shield) (tick : TickSequence) : Validated Shield :=
  if tick.value < shield.activationTick.value then
    reject .shieldCancellationBeforeActivation "shield.cancellation_tick"
      ("cancellation at tick " ++ toString tick.value ++ " precedes the shield activation at tick " ++
        toString shield.activationTick.value)
  else do
    let ended ← endedAt shield.shieldWindow tick
    let perfect ← endedAt shield.perfectWindow tick
    return ⟨ended, perfect, shield.cooldownWindow, shield.parryStunDurationTicks, by
      rw [ended.property, perfect.property, shield.perfectAligned], by
      rw [ended.property, shield.cooldownAligned]⟩

/-- The shield with its protection cut at the tick. -/
def cutAt (shield : Shield) (tick : TickSequence) : Shield :=
  ⟨shield.shieldWindow.cutAt tick, shield.perfectWindow.cutAt tick, shield.cooldownWindow,
    shield.parryStunDurationTicks, by simp only [TickWindow.cutAt_activationTick, shield.perfectAligned], by
    simp only [TickWindow.cutAt_activationTick, shield.cooldownAligned]⟩

theorem endedAt_eq (window : TickWindow) (tick : TickSequence) :
    endedAt window tick = .ok ⟨window.cutAt tick, TickWindow.cutAt_activationTick⟩ := by
  unfold endedAt
  split
  · next inside =>
    rw [TickWindow.create_ending inside]
    simp only [TickWindow.cutAt_of_contains inside]
  · next outside =>
    simp only [TickWindow.cutAt_of_not_contains (Bool.eq_false_iff.mpr outside)]

theorem canceledAt_eq {shield : Shield} {tick : TickSequence}
    (begun : shield.activationTick.value ≤ tick.value) : shield.canceledAt tick = .ok (shield.cutAt tick) := by
  rw [canceledAt, if_neg (Nat.not_lt.mpr begun), endedAt_eq, endedAt_eq]
  rfl

end Shield

namespace Charge

def activationTick (charge : Charge) : TickSequence := charge.cooldownWindow.activationTick

def requirePositive (duration : Nat) (context : String) : Validated Unit :=
  if duration = 0 then
    reject .chargeActivationInvalid context "charge duration must be positive"
  else .ok ()

def requireActivation (tick : TickSequence) (cooldown : Nat) : Validated Unit :=
  if tick = .zero then
    reject .chargeActivationInvalid "charge.activation_tick" "a charge activation tick must be positive"
  else requirePositive cooldown "charge.cooldown_duration_ticks"

def activate (activationTick : TickSequence)
    (cooldownDurationTicks activeDurationTicks hitStunDurationTicks : Nat) : Validated Charge := do
  requireActivation activationTick cooldownDurationTicks
  requirePositive activeDurationTicks "charge.active_duration_ticks"
  requirePositive hitStunDurationTicks "charge.hit_stun_duration_ticks"
  if maximumProtocolSafeInteger < hitStunDurationTicks then
    reject .chargeActivationInvalid "charge.hit_stun_duration_ticks"
      "charge hit stun duration exceeds the exact tick domain"
  else
    let cooldown ← TickWindow.create activationTick cooldownDurationTicks
    let active ← TickWindow.create activationTick activeDurationTicks
    return ⟨cooldown, active, hitStunDurationTicks, active.property.trans cooldown.property.symm⟩

def canceledAt (charge : Charge) (tick : TickSequence) : Validated Charge :=
  if tick.value < charge.activationTick.value then
    reject .chargeCancellationBeforeActivation "charge.cancellation_tick"
      "cancellation precedes the charge activation"
  else if charge.activeWindow.contains tick then do
    let active ← TickWindow.create charge.activationTick (tick.value - charge.activationTick.value)
    return ⟨charge.cooldownWindow, active, charge.hitStunDurationTicks, active.property⟩
  else .ok charge

/-- The charge with its active window cut at the tick. -/
def cutAt (charge : Charge) (tick : TickSequence) : Charge :=
  ⟨charge.cooldownWindow, charge.activeWindow.cutAt tick, charge.hitStunDurationTicks, by
    rw [TickWindow.cutAt_activationTick, charge.aligned]⟩

theorem canceledAt_eq {charge : Charge} {tick : TickSequence}
    (begun : charge.activationTick.value ≤ tick.value) : charge.canceledAt tick = .ok (charge.cutAt tick) := by
  rw [canceledAt, if_neg (Nat.not_lt.mpr begun)]
  split
  · next inside =>
    have expiry : (charge.activeWindow.cutAt tick).expiryTick.value = tick.value := by
      rw [TickWindow.cutAt_of_contains inside]
    have ended : TickWindow.create charge.activationTick (tick.value - charge.activationTick.value) =
        .ok ⟨charge.activeWindow.cutAt tick, TickWindow.cutAt_activationTick.trans charge.aligned⟩ := by
      refine TickWindow.create_eq_ok.mpr (expiry.trans ?_)
      omega
    rw [ended]
    rfl
  · next outside =>
    simp only [cutAt, TickWindow.cutAt_of_not_contains (Bool.eq_false_iff.mpr outside)]

end Charge

end BlobRoyale.Simulation
