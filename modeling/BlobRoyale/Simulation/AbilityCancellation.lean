import BlobRoyale.Simulation.AbilityWindows

/-!
# The cancellation of ability windows

Cancelling a shield or a charge cuts each protecting window at the tick. Cuts compose as the earlier
of their ticks, and keep the perfect opening a prefix of the shield's protection.
-/

namespace BlobRoyale.Simulation

namespace TickWindow

variable {window : TickWindow} {tick : TickSequence}

theorem cutAt_expiry (begun : window.activationTick.value ≤ tick.value) :
    (window.cutAt tick).expiryTick.value = min tick.value window.expiryTick.value := by
  unfold cutAt
  split
  · dsimp only
    omega
  · omega

theorem cutAt_cutAt {first second : TickSequence} (firstBegun : window.activationTick.value ≤ first.value)
    (secondBegun : window.activationTick.value ≤ second.value) :
    (window.cutAt first).cutAt second =
      window.cutAt (if first.value ≤ second.value then first else second) := by
  have activation := @cutAt_activationTick window first
  refine ext_ticks (by simp only [cutAt_activationTick]) ?_
  rw [cutAt_expiry (activation ▸ secondBegun), cutAt_expiry firstBegun]
  split
  · rw [cutAt_expiry firstBegun]
    omega
  · rw [cutAt_expiry secondBegun]
    omega

theorem cutAt_earlier (begun : window.activationTick.value ≤ tick.value) {other : TickSequence}
    (earlier : other.value < tick.value) : (window.cutAt tick).contains other = window.contains other := by
  rw [Bool.eq_iff_iff, cutAt_contains begun, and_iff_left earlier]

theorem cutAt_later (begun : window.activationTick.value ≤ tick.value) {other : TickSequence}
    (later : tick.value ≤ other.value) : (window.cutAt tick).contains other = false :=
  Bool.eq_false_iff.mpr fun inside =>
    absurd ((cutAt_contains begun other).mp inside).2 (Nat.not_lt.mpr later)

end TickWindow

namespace Shield

/-- The shields activations and cancellations build. -/
inductive Reachable : Shield → Prop where
  | activate {activationTick : TickSequence}
      {shieldDurationTicks perfectDurationTicks cooldownDurationTicks parryStunDurationTicks : Nat}
      {shield : Shield} : activate activationTick shieldDurationTicks perfectDurationTicks
        cooldownDurationTicks parryStunDurationTicks = .ok shield → Reachable shield
  | canceledAt {shield canceled : Shield} {tick : TickSequence} : Reachable shield →
      shield.canceledAt tick = .ok canceled → Reachable canceled

/-- The perfect window is a prefix of the shield window. -/
def PerfectOpens (shield : Shield) : Prop :=
  shield.perfectWindow.activationTick = shield.shieldWindow.activationTick ∧
    shield.perfectWindow.expiryTick.value ≤ shield.shieldWindow.expiryTick.value

variable {shield : Shield} {tick : TickSequence}

theorem canceledAt_refuses (early : tick.value < shield.activationTick.value) :
    ∃ error, shield.canceledAt tick = .error error := ⟨_, if_pos early⟩

theorem canceledAt_eq_ok {canceled : Shield} :
    shield.canceledAt tick = .ok canceled ↔
      shield.activationTick.value ≤ tick.value ∧ canceled = shield.cutAt tick := by
  constructor
  · intro returned
    have begun : shield.activationTick.value ≤ tick.value := by
      refine Nat.not_lt.mp fun early => ?_
      obtain ⟨error, refused⟩ := canceledAt_refuses early
      cases refused.symm.trans returned
    rw [canceledAt_eq begun] at returned
    exact ⟨begun, (Except.ok.inj returned).symm⟩
  · rintro ⟨begun, rfl⟩
    exact canceledAt_eq begun

theorem ext_windows {first second : Shield} (shields : first.shieldWindow = second.shieldWindow)
    (perfects : first.perfectWindow = second.perfectWindow)
    (cooldowns : first.cooldownWindow = second.cooldownWindow)
    (stuns : first.parryStunDurationTicks = second.parryStunDurationTicks) : first = second := by
  cases first
  cases second
  cases shields
  cases perfects
  cases cooldowns
  cases stuns
  rfl

theorem perfectBegun (begun : shield.activationTick.value ≤ tick.value) :
    shield.perfectWindow.activationTick.value ≤ tick.value := shield.perfectAligned ▸ begun

theorem cutAt_cutAt {first second : TickSequence} (firstBegun : shield.activationTick.value ≤ first.value)
    (secondBegun : shield.activationTick.value ≤ second.value) :
    (shield.cutAt first).cutAt second =
      shield.cutAt (if first.value ≤ second.value then first else second) :=
  ext_windows (TickWindow.cutAt_cutAt firstBegun secondBegun)
    (TickWindow.cutAt_cutAt (perfectBegun firstBegun) (perfectBegun secondBegun)) rfl rfl

@[simp] theorem activationTick_cutAt : (shield.cutAt tick).activationTick = shield.activationTick :=
  TickWindow.cutAt_activationTick

theorem canceledAt_canceledAt {first second : TickSequence}
    (firstBegun : shield.activationTick.value ≤ first.value)
    (secondBegun : shield.activationTick.value ≤ second.value) :
    (shield.canceledAt first >>= fun canceled => canceled.canceledAt second) =
      shield.canceledAt (if first.value ≤ second.value then first else second) := by
  have begun : shield.activationTick.value ≤ (if first.value ≤ second.value then first else second).value := by
    split
    · exact firstBegun
    · exact secondBegun
  rw [canceledAt_eq firstBegun, canceledAt_eq begun, ← cutAt_cutAt firstBegun secondBegun]
  exact canceledAt_eq (by rw [activationTick_cutAt]; exact secondBegun)

theorem canceledAt_twice (shield : Shield) (tick : TickSequence) :
    (shield.canceledAt tick >>= fun canceled => canceled.canceledAt tick) = shield.canceledAt tick := by
  by_cases begun : shield.activationTick.value ≤ tick.value
  · rw [canceledAt_canceledAt begun begun, ite_self]
  · rw [canceledAt, if_pos (Nat.not_le.mp begun)]
    rfl

theorem perfectOpens_activate {activationTick : TickSequence} {shieldDurationTicks perfectDurationTicks
      cooldownDurationTicks parryStunDurationTicks : Nat}
    (activated : activate activationTick shieldDurationTicks perfectDurationTicks cooldownDurationTicks
      parryStunDurationTicks = .ok shield) : shield.PerfectOpens := by
  unfold activate at activated
  split at activated
  · cases activated
  split at activated
  · cases activated
  split at activated
  · cases activated
  split at activated
  · cases activated
  split at activated
  · cases activated
  next contained =>
    obtain ⟨protection, opened, activated⟩ := bind_eq_ok.mp activated
    obtain ⟨perfect, openedPerfect, activated⟩ := bind_eq_ok.mp activated
    obtain ⟨cooldown, openedCooldown, activated⟩ := bind_eq_ok.mp activated
    cases activated
    have protects := TickWindow.create_eq_ok.mp opened
    have parries := TickWindow.create_eq_ok.mp openedPerfect
    refine ⟨perfect.property.trans protection.property.symm, ?_⟩
    dsimp only
    omega

theorem PerfectOpens.cutAt (opens : shield.PerfectOpens) (begun : shield.activationTick.value ≤ tick.value) :
    (shield.cutAt tick).PerfectOpens := by
  obtain ⟨aligned, contained⟩ := opens
  refine ⟨(shield.cutAt tick).perfectAligned, ?_⟩
  have protects : (shield.cutAt tick).shieldWindow.expiryTick.value =
      min tick.value shield.shieldWindow.expiryTick.value := TickWindow.cutAt_expiry begun
  have parries : (shield.cutAt tick).perfectWindow.expiryTick.value =
      min tick.value shield.perfectWindow.expiryTick.value := TickWindow.cutAt_expiry (perfectBegun begun)
  omega

theorem Reachable.perfectOpens (reachable : shield.Reachable) : shield.PerfectOpens := by
  induction reachable with
  | activate activated => exact perfectOpens_activate activated
  | canceledAt _ returned opens =>
    obtain ⟨begun, rfl⟩ := canceledAt_eq_ok.mp returned
    exact opens.cutAt begun

end Shield

namespace Charge

theorem activations_agree {activationTick : TickSequence}
    (cooldown active : { window : TickWindow // window.activationTick = activationTick }) :
    active.val.activationTick = cooldown.val.activationTick :=
  active.property.trans cooldown.property.symm

/-- The cooldown-only activation: no active contact attempt and no captured stun. -/
def activateCooldown (activationTick : TickSequence) (cooldownDurationTicks : Nat) : Validated Charge := do
  requireActivation activationTick cooldownDurationTicks
  let cooldown ← TickWindow.create activationTick cooldownDurationTicks
  let active ← TickWindow.create activationTick 0
  return ⟨cooldown, active, 0, activations_agree cooldown active⟩

/-- The charges activations and cancellations build. -/
inductive Reachable : Charge → Prop where
  | activateCooldown {activationTick : TickSequence} {cooldownDurationTicks : Nat} {charge : Charge} :
      activateCooldown activationTick cooldownDurationTicks = .ok charge → Reachable charge
  | activate {activationTick : TickSequence}
      {cooldownDurationTicks activeDurationTicks hitStunDurationTicks : Nat} {charge : Charge} :
      activate activationTick cooldownDurationTicks activeDurationTicks hitStunDurationTicks = .ok charge →
      Reachable charge
  | canceledAt {charge canceled : Charge} {tick : TickSequence} : Reachable charge →
      charge.canceledAt tick = .ok canceled → Reachable canceled

variable {charge : Charge} {tick : TickSequence}

theorem canceledAt_eq_ok {canceled : Charge} :
    charge.canceledAt tick = .ok canceled ↔
      charge.activationTick.value ≤ tick.value ∧ canceled = charge.cutAt tick := by
  constructor
  · intro returned
    have begun : charge.activationTick.value ≤ tick.value := by
      refine Nat.not_lt.mp fun early => ?_
      rw [canceledAt, if_pos early] at returned
      cases returned
    rw [canceledAt_eq begun] at returned
    exact ⟨begun, (Except.ok.inj returned).symm⟩
  · rintro ⟨begun, rfl⟩
    exact canceledAt_eq begun

theorem activeBegun (begun : charge.activationTick.value ≤ tick.value) :
    charge.activeWindow.activationTick.value ≤ tick.value := charge.aligned ▸ begun

theorem cutAt_cutAt {first second : TickSequence} (firstBegun : charge.activationTick.value ≤ first.value)
    (secondBegun : charge.activationTick.value ≤ second.value) :
    (charge.cutAt first).cutAt second =
      charge.cutAt (if first.value ≤ second.value then first else second) := by
  unfold cutAt
  simp only [TickWindow.cutAt_cutAt (activeBegun firstBegun) (activeBegun secondBegun)]

@[simp] theorem activationTick_cutAt : (charge.cutAt tick).activationTick = charge.activationTick := rfl

theorem canceledAt_canceledAt {first second : TickSequence}
    (firstBegun : charge.activationTick.value ≤ first.value)
    (secondBegun : charge.activationTick.value ≤ second.value) :
    (charge.canceledAt first >>= fun canceled => canceled.canceledAt second) =
      charge.canceledAt (if first.value ≤ second.value then first else second) := by
  have begun : charge.activationTick.value ≤ (if first.value ≤ second.value then first else second).value := by
    split
    · exact firstBegun
    · exact secondBegun
  rw [canceledAt_eq firstBegun, canceledAt_eq begun, ← cutAt_cutAt firstBegun secondBegun]
  exact canceledAt_eq (by rw [activationTick_cutAt]; exact secondBegun)

theorem canceledAt_twice (charge : Charge) (tick : TickSequence) :
    (charge.canceledAt tick >>= fun canceled => canceled.canceledAt tick) = charge.canceledAt tick := by
  by_cases begun : charge.activationTick.value ≤ tick.value
  · rw [canceledAt_canceledAt begun begun, ite_self]
  · rw [canceledAt, if_pos (Nat.not_le.mp begun)]
    rfl

end Charge

/-- Cancellation is idempotent and composes as the earlier tick; the result protects, parries and is
active before the tick as the original is and never from it on, and keeps the rest. -/
theorem cancellation_algebra {shield : Shield} {charge : Charge} (shieldReachable : shield.Reachable)
    (chargeReachable : charge.Reachable) (first second : TickSequence) :
    ((shield.canceledAt first >>= fun canceled => canceled.canceledAt first) = shield.canceledAt first ∧
      (shield.activationTick.value ≤ first.value → shield.activationTick.value ≤ second.value →
        (∃ canceled, shield.canceledAt first = .ok canceled) ∧
        (shield.canceledAt first >>= fun canceled => canceled.canceledAt second) =
          shield.canceledAt (if first.value ≤ second.value then first else second)) ∧
      ∀ canceled, shield.canceledAt first = .ok canceled →
        canceled.Reachable ∧ shield.PerfectOpens ∧ canceled.PerfectOpens ∧
        canceled.cooldownWindow = shield.cooldownWindow ∧
        canceled.parryStunDurationTicks = shield.parryStunDurationTicks ∧
        (∀ tick : TickSequence, first.value ≤ tick.value →
          canceled.shieldWindow.contains tick = false ∧ canceled.perfectWindow.contains tick = false) ∧
        ∀ tick : TickSequence, tick.value < first.value →
          canceled.shieldWindow.contains tick = shield.shieldWindow.contains tick ∧
          canceled.perfectWindow.contains tick = shield.perfectWindow.contains tick) ∧
    (charge.canceledAt first >>= fun canceled => canceled.canceledAt first) = charge.canceledAt first ∧
      (charge.activationTick.value ≤ first.value → charge.activationTick.value ≤ second.value →
        (∃ canceled, charge.canceledAt first = .ok canceled) ∧
        (charge.canceledAt first >>= fun canceled => canceled.canceledAt second) =
          charge.canceledAt (if first.value ≤ second.value then first else second)) ∧
      ∀ canceled, charge.canceledAt first = .ok canceled →
        canceled.Reachable ∧ canceled.cooldownWindow = charge.cooldownWindow ∧
        canceled.hitStunDurationTicks = charge.hitStunDurationTicks ∧
        (∀ tick : TickSequence, first.value ≤ tick.value → canceled.activeWindow.contains tick = false) ∧
        ∀ tick : TickSequence, tick.value < first.value →
          canceled.activeWindow.contains tick = charge.activeWindow.contains tick := by
  refine ⟨⟨shield.canceledAt_twice first, fun firstBegun secondBegun => ?_, fun canceled returned => ?_⟩,
    charge.canceledAt_twice first, fun firstBegun secondBegun => ?_, fun canceled returned => ?_⟩
  · exact ⟨⟨_, Shield.canceledAt_eq firstBegun⟩, Shield.canceledAt_canceledAt firstBegun secondBegun⟩
  · have reached := shieldReachable.canceledAt returned
    obtain ⟨begun, rfl⟩ := Shield.canceledAt_eq_ok.mp returned
    have parries := Shield.perfectBegun begun
    refine ⟨reached, shieldReachable.perfectOpens, reached.perfectOpens, rfl, rfl, fun tick later => ?_,
      fun tick earlier => ?_⟩
    · exact ⟨TickWindow.cutAt_later begun later, TickWindow.cutAt_later parries later⟩
    · exact ⟨TickWindow.cutAt_earlier begun earlier, TickWindow.cutAt_earlier parries earlier⟩
  · exact ⟨⟨_, Charge.canceledAt_eq firstBegun⟩, Charge.canceledAt_canceledAt firstBegun secondBegun⟩
  · have reached := chargeReachable.canceledAt returned
    obtain ⟨begun, rfl⟩ := Charge.canceledAt_eq_ok.mp returned
    have charges := Charge.activeBegun begun
    refine ⟨reached, rfl, rfl, fun tick later => ?_, fun tick earlier => ?_⟩
    · exact TickWindow.cutAt_later charges later
    · exact TickWindow.cutAt_earlier charges earlier

/-- A shield and a charge of tick 5, cancelled at ticks 7 and 6. -/
theorem cancellation_algebra_activated :
    ∃ (shield : Shield) (charge : Charge) (activation first second : TickSequence),
      Shield.activate activation 8 3 40 12 = .ok shield ∧ Charge.activate activation 40 8 12 = .ok charge ∧
      (shield.canceledAt first >>= fun canceled => canceled.canceledAt second) = shield.canceledAt second ∧
      (charge.canceledAt first >>= fun canceled => canceled.canceledAt second) = charge.canceledAt second := by
  obtain ⟨shield, shieldActivated⟩ : ∃ shield, Shield.activate ⟨5, by decide⟩ 8 3 40 12 = .ok shield :=
    ⟨_, rfl⟩
  obtain ⟨charge, chargeActivated⟩ : ∃ charge, Charge.activate ⟨5, by decide⟩ 40 8 12 = .ok charge :=
    ⟨_, rfl⟩
  obtain ⟨⟨-, shields, -⟩, -, charges, -⟩ := cancellation_algebra (.activate shieldActivated)
    (.activate chargeActivated) ⟨7, by decide⟩ ⟨6, by decide⟩
  have shieldBegan : shield.activationTick.value = 5 := by
    cases shieldActivated
    rfl
  have chargeBegan : charge.activationTick.value = 5 := by
    cases chargeActivated
    rfl
  refine ⟨shield, charge, ⟨5, by decide⟩, ⟨7, by decide⟩, ⟨6, by decide⟩, shieldActivated, chargeActivated,
    ?_, ?_⟩
  · exact (shields (by rw [shieldBegan]; decide) (by rw [shieldBegan]; decide)).2
  · exact (charges (by rw [chargeBegan]; decide) (by rw [chargeBegan]; decide)).2

end BlobRoyale.Simulation
