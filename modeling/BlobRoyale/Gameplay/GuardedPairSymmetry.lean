import BlobRoyale.Gameplay.GuardedPairMotion

/-!
# Guarded pair symmetry

The response of a pair in the other orientation: the same call with subjects, guards, charges and eligibility
swapped and the normal reversed returns where this one does, with the results swapped and the same effects.
-/

namespace BlobRoyale.Simulation

section Except

variable {ε α β : Type}

theorem toOption_bind (result : Except ε α) (next : α → Except ε β) :
    (result >>= next).toOption = result.toOption.bind fun value => (next value).toOption := by
  cases result <;> rfl

theorem toOption_pure (value : α) : (pure value : Except ε α).toOption = some value := rfl

/-- A call that returns what another does, up to a change, returns where that one does. -/
theorem ok_of_toOption_eq {left : Except ε α} {right : Except ε β} {change : α → β} {value : α}
    (same : right.toOption = left.toOption.map change) (returned : left = .ok value) : right = .ok (change value) := by
  rw [returned] at same
  cases right with
  | error refusal => cases same
  | ok other => exact congrArg Except.ok (Option.some.inj same)

end Except

/-- The other orientation of a direction. -/
structure Vector2.Opposes (reverse normal : Vector2 ℝ) : Prop where
  x : reverse.x = -normal.x
  y : reverse.y = -normal.y

theorem Vector2.Opposes.symm {reverse normal : Vector2 ℝ} (opposes : reverse.Opposes normal) :
    normal.Opposes reverse := ⟨by rw [opposes.x, neg_neg], by rw [opposes.y, neg_neg]⟩

theorem Vector2.negate_real (normal : Vector2 ℝ) :
    ∃ reverse, normal.negate = .ok reverse ∧ reverse.Opposes normal := by
  have negated {value : ℝ} (valid : ValidComponent value) : ValidComponent (-value) := by
    rw [validComponent_real] at valid ⊢
    exact ⟨by linarith [valid.2], by linarith [valid.1]⟩
  refine ⟨⟨-normal.x, -normal.y, negated normal.x_valid, negated normal.y_valid⟩, ?_, rfl, rfl⟩
  exact createForOperation_eq_ok_iff.mpr ⟨rfl, rfl⟩

theorem Vector2.eq_of_opposes {reverse first second : Vector2 ℝ} (left : first.Opposes reverse)
    (right : second.Opposes reverse) : first = second := by
  cases first
  cases second
  cases left
  cases right
  simp_all

end BlobRoyale.Simulation

namespace BlobRoyale.Gameplay

open Simulation Impulse

def PairGuardFacts.swapped (guards : PairGuardFacts) : PairGuardFacts := ⟨guards.second, guards.first⟩

def PairChargeFacts.swapped (charges : PairChargeFacts) : PairChargeFacts :=
  ⟨charges.secondActivation, charges.firstActivation⟩

def GuardedPairOutcome.swapped {S : Type} [Scalar S] (outcome : GuardedPairOutcome S) : GuardedPairOutcome S :=
  ⟨outcome.second, outcome.first, outcome.effects⟩

namespace GuardedPair

section Motion

variable {first second body : PhysicsBody ℝ} {normal reverse : Vector2 ℝ} {contact : PlayerPairContact ℝ}

theorem along_reversed (opposes : reverse.Opposes normal) (velocity : ℝ × ℝ) :
    along reverse.pair velocity = -along normal.pair velocity := by
  simp only [along, Vector2.pair, opposes.x, opposes.y]
  ring

theorem separation_reversed (opposes : reverse.Opposes normal) (left right : ℝ × ℝ) :
    separation reverse.pair right left = separation normal.pair left right := by
  rw [separation, separation, along_reversed opposes, along_reversed opposes]
  ring

theorem parting_reversed (opposes : reverse.Opposes normal) : parting reverse second first = parting normal first second :=
  separation_reversed opposes _ _

theorem shifted_reversed (opposes : reverse.Opposes normal) (share delta : ℝ) :
    shifted body share delta reverse = shifted body share (-delta) normal := by
  rw [shifted, shifted, opposes.x, opposes.y, neg_mul_comm, neg_mul_comm]

theorem separatingImpulse_reversed (opposes : reverse.Opposes normal) {firstStopped secondStopped : Bool} :
    separatingImpulse reverse second first secondStopped firstStopped =
      separatingImpulse normal first second firstStopped secondStopped := by
  rw [separatingImpulse, separatingImpulse, parting_reversed opposes, opposes.x, opposes.y, neg_mul_neg, neg_mul_neg,
    add_comm (weight second secondStopped)]

theorem projected_reversed (opposes : reverse.Opposes normal) {firstStopped secondStopped : Bool} :
    (projected second first secondStopped firstStopped reverse).toOption =
      (projected first second firstStopped secondStopped normal).toOption.map Prod.swap := by
  rw [projected, projected, separatingImpulse_reversed opposes, shifted_reversed opposes,
    shifted_reversed opposes, neg_neg]
  simp only [toOption_bind, Option.map_bind]
  rw [Option.bind_comm]
  refine congrArg _ (funext fun separatedFirst => ?_)
  rw [Function.comp_apply, Option.map_bind]
  refine congrArg _ (funext fun separatedSecond => ?_)
  rw [Function.comp_apply, parting_reversed opposes]
  split <;> rfl

theorem separatePair_reversed (opposes : reverse.Opposes normal) {firstStopped secondStopped : Bool} :
    (separatePair second first secondStopped firstStopped reverse).toOption =
      (separatePair first second firstStopped secondStopped normal).toOption.map Prod.swap := by
  rw [separatePair_real, separatePair_real, parting_reversed opposes, opposes.x, opposes.y, neg_mul_neg, neg_mul_neg,
    add_comm (weight second secondStopped)]
  split
  · rfl
  · split
    · rfl
    · exact projected_reversed opposes

end Motion

section Collision

variable {first second body : PhysicsBody ℝ} {contact reversed : PlayerPairContact ℝ}

/-- The other orientation of a contact. -/
structure Reverses (reversed contact : PlayerPairContact ℝ) : Prop where
  isContact : reversed.isContact = contact.isContact
  normal : reversed.normal.Opposes contact.normal
  speed : reversed.relativeNormalSpeed = contact.relativeNormalSpeed

theorem resolvesNothing_reversed (reverses : Reverses reversed contact) :
    resolvesNothing reversed = resolvesNothing contact := by
  rw [resolvesNothing, resolvesNothing, reverses.isContact, reverses.speed]

theorem struck_reversed {normal reverse : Vector2 ℝ} (opposes : reverse.Opposes normal) (amount : ℝ) :
    struck body amount reverse = struck body (-amount) normal := by
  rw [struck, struck, opposes.x, opposes.y, neg_mul_comm, neg_mul_comm]

theorem bounced_reversed (reverses : Reverses reversed contact) :
    (bounced second first reversed).toOption = (bounced first second contact).toOption.map Prod.swap := by
  rw [bounced, bounced, separation_reversed reverses.normal, reverses.speed, struck_reversed reverses.normal,
    struck_reversed reverses.normal, neg_neg]
  simp only [toOption_bind, toOption_pure, Option.map_bind]
  rw [Option.bind_comm]
  refine congrArg _ (funext fun struckFirst => ?_)
  rw [Function.comp_apply, Option.map_bind]
  rfl

theorem rebounded_reversed (reverses : Reverses reversed contact) :
    rebounded reversed.normal body = rebounded contact.normal body := by
  rw [rebounded, rebounded, along_reversed reverses.normal, ← neg_add, neg_neg]
  split
  · rfl
  · exact struck_reversed reverses.normal _

theorem collide_reversed (reverses : Reverses reversed contact) :
    (collide second first reversed).toOption = (collide first second contact).toOption.map Prod.swap := by
  rw [collide_real, collide_real, resolvesNothing_reversed reverses, reverses.speed, Bool.and_comm (!second.isStatic)]
  split
  · split
    · rfl
    · exact bounced_reversed reverses
  · split
    · simp only [rebounded_reversed reverses, toOption_bind, toOption_pure, Option.map_bind]
      rw [Option.bind_comm]
      refine congrArg _ (funext fun reboundedFirst => ?_)
      rw [Function.comp_apply, Option.map_bind]
      rfl
    · rfl

end Collision

section Facts

variable {first second : ContactSubject ℝ} {contact reversed : PlayerPairContact ℝ} {world : GameWorld ℝ}

theorem Reverses.symm (reverses : Reverses reversed contact) : Reverses contact reversed :=
  ⟨reverses.isContact.symm, reverses.normal.symm, reverses.speed.symm⟩

theorem normalSpeed_reversed {reverse normal : Vector2 ℝ} (opposes : reverse.Opposes normal) (velocity : Vector2 ℝ) :
    normalSpeed velocity reverse = -normalSpeed velocity normal := by
  rw [normalSpeed, normalSpeed, opposes.x, opposes.y]
  ring

theorem ahead_reversed {reverse normal : Vector2 ℝ} (opposes : reverse.Opposes normal) (velocity : Vector2 ℝ) :
    (velocityTolerance < normalSpeed velocity reverse ↔ normalSpeed velocity normal < -velocityTolerance) ∧
      (normalSpeed velocity reverse < -velocityTolerance ↔ velocityTolerance < normalSpeed velocity normal) := by
  rw [normalSpeed_reversed opposes]
  exact ⟨lt_neg, neg_lt_neg_iff⟩

theorem inEntityOrder_swapped {Fact : Type} {left right : EntityId} (distinct : left ≠ right)
    (leftFacts rightFacts : List Fact) :
    inEntityOrder right left rightFacts leftFacts = inEntityOrder left right leftFacts rightFacts := by
  rw [inEntityOrder, inEntityOrder]
  obtain ascending | descending := lt_or_gt_of_ne distinct
  · rw [if_pos ascending, if_neg ascending.asymm]
  · rw [if_pos descending, if_neg descending.asymm]

theorem contactEventOf_reversed (distinct : first.1 ≠ second.1) (reverses : Reverses reversed contact)
    (ruleName : ContactRuleName) :
    ∀ event, contactEventOf second first reversed ruleName = .ok event ↔
      contactEventOf first second contact ruleName = .ok event := by
  intro event
  obtain ⟨back, backs, backOpposes⟩ := reversed.normal.negate_real
  obtain ⟨negated, negates, opposes⟩ := contact.normal.negate_real
  have restored : back = contact.normal := Vector2.eq_of_opposes backOpposes reverses.normal.symm
  have turned : reversed.normal = negated := Vector2.eq_of_opposes reverses.normal opposes
  obtain ascending | descending := lt_or_gt_of_ne distinct
  · simp only [contactEventOf, canonicalNormal, CandidatePair.create, dif_neg ascending.asymm, dif_pos ascending,
      if_neg ascending.asymm, if_pos ascending, backs, restored, reverses.speed]
  · simp only [contactEventOf, canonicalNormal, CandidatePair.create, dif_neg descending.asymm, dif_pos descending,
      if_neg descending.asymm, if_pos descending, negates, turned, reverses.speed]

/-- The other orientation of an observation. -/
structure ReversesObservation (reversed observation : PairContactObservation ℝ) : Prop where
  touch : Reverses reversed.touch observation.touch
  impact : Option.Rel Reverses reversed.impact observation.impact
  firstEffectEligible : reversed.firstEffectEligible = observation.secondEffectEligible
  secondEffectEligible : reversed.secondEffectEligible = observation.firstEffectEligible

variable {observation turned : PairContactObservation ℝ} {guards : PairGuardFacts} {charges : PairChargeFacts}

theorem chargeHits_reversed (distinct : first.1 ≠ second.1) (reverses : Reverses reversed contact)
    (turns : ReversesObservation turned observation) :
    chargeHits world second first turned reversed guards.swapped charges.swapped =
      chargeHits world first second observation contact guards charges := by
  have gates : (!nonClosing reversed.relativeNormalSpeed && world.matchState.phase = .running && !second.2.isStatic &&
        !first.2.isStatic && bodyIsPlayerDriven world second.1 && bodyIsPlayerDriven world first.1) =
      (!nonClosing contact.relativeNormalSpeed && world.matchState.phase = .running && !first.2.isStatic &&
        !second.2.isStatic && bodyIsPlayerDriven world first.1 && bodyIsPlayerDriven world second.1) := by
    rw [reverses.speed]
    cases first.2.isStatic <;> cases second.2.isStatic <;> cases bodyIsPlayerDriven world first.1 <;>
      cases bodyIsPlayerDriven world second.1 <;> simp
  rw [chargeHits, chargeHits, gates]
  split
  · simp only [turns.firstEffectEligible, turns.secondEffectEligible, (ahead_reversed reverses.normal _).1,
      (ahead_reversed reverses.normal _).2, PairGuardFacts.swapped, PairChargeFacts.swapped]
    exact inEntityOrder_swapped distinct _ _
  · rfl

theorem stoppedBy_reversed {opposite : GuardState} {body : PhysicsBody ℝ} {closes : Bool} {reverse normal : Vector2 ℝ}
    (opposes : reverse.Opposes normal) :
    (stoppedBy opposite body closes fun velocity => velocityTolerance < normalSpeed velocity reverse) =
        stoppedBy opposite body closes (fun velocity => normalSpeed velocity normal < -velocityTolerance) ∧
      (stoppedBy opposite body closes fun velocity => normalSpeed velocity reverse < -velocityTolerance) =
        stoppedBy opposite body closes fun velocity => velocityTolerance < normalSpeed velocity normal := by
  simp only [(ahead_reversed opposes _).1, (ahead_reversed opposes _).2, and_self]

theorem appendRecipients_swapped {Fact : Type} {fact : EntityId → Fact} {left right : EntityId} (distinct : left ≠ right)
    (includeLeft includeRight : Bool) : appendRecipients fact right includeRight left includeLeft =
      appendRecipients fact left includeLeft right includeRight :=
  inEntityOrder_swapped distinct _ _

theorem separated_reversed {left right : PhysicsBody ℝ} {leftStopped rightStopped : Bool} {reverse normal : Vector2 ℝ}
    (opposes : reverse.Opposes normal) :
    (separated guards.swapped right left rightStopped leftStopped reverse).toOption =
      (separated guards left right leftStopped rightStopped normal).toOption.map Prod.swap := by
  rw [separated, separated, PairGuardFacts.swapped, Bool.or_comm]
  split
  · exact separatePair_reversed opposes
  · rfl

theorem respond_reversed {outcome : GuardedPairOutcome ℝ} (distinct : first.1 ≠ second.1)
    (reverses : Reverses reversed contact) (turns : ReversesObservation turned observation)
    (responds : respond world first second observation contact guards charges = .ok outcome) :
    respond world second first turned reversed guards.swapped charges.swapped = .ok outcome.swapped := by
  obtain ⟨collided, collides, rest⟩ := bind_eq_ok.mp responds
  obtain ⟨quarteredFirst, quartersFirst, rest⟩ := bind_eq_ok.mp rest
  obtain ⟨quarteredSecond, quartersSecond, rest⟩ := bind_eq_ok.mp rest
  obtain ⟨firstStunned, stunsFirst, rest⟩ := bind_eq_ok.mp rest
  obtain ⟨secondStunned, stunsSecond, rest⟩ := bind_eq_ok.mp rest
  obtain ⟨zero, zeroed, rest⟩ := bind_eq_ok.mp rest
  obtain ⟨bodies, separates, rest⟩ := bind_eq_ok.mp rest
  obtain ⟨event, published, returned⟩ := bind_eq_ok.mp rest
  cases returned
  refine bind_eq_ok.mpr ⟨_, ok_of_toOption_eq (collide_reversed reverses) collides,
    bind_eq_ok.mpr ⟨quarteredSecond, quartersSecond, bind_eq_ok.mpr ⟨quarteredFirst, quartersFirst,
    bind_eq_ok.mpr ⟨secondStunned, ?_, bind_eq_ok.mpr ⟨firstStunned, ?_, bind_eq_ok.mpr ⟨zero, zeroed,
    bind_eq_ok.mpr ⟨_, ok_of_toOption_eq (separated_reversed reverses.normal) separates,
    bind_eq_ok.mpr ⟨event, (contactEventOf_reversed distinct turns.touch _ _).mpr published, ?_⟩⟩⟩⟩⟩⟩⟩⟩
  · rw [reverses.speed]
    exact (stoppedBy_reversed reverses.normal).1.trans stunsSecond
  · rw [reverses.speed]
    exact (stoppedBy_reversed reverses.normal).2.trans stunsFirst
  · rw [appendRecipients_swapped distinct, chargeHits_reversed distinct reverses turns]
    rfl

theorem eliminate_reversed {outcome : GuardedPairOutcome ℝ} {left right : Bool} (distinct : first.1 ≠ second.1)
    (turns : ReversesObservation turned observation) (eliminates : eliminate first second observation left right =
      .ok outcome) : eliminate second first turned right left = .ok outcome.swapped := by
  obtain ⟨event, published, returned⟩ := bind_eq_ok.mp eliminates
  cases returned
  refine bind_eq_ok.mpr ⟨event, (contactEventOf_reversed distinct turns.touch _ _).mpr published, ?_⟩
  rw [appendRecipients_swapped distinct]
  rfl

theorem touchOnly_reversed {outcome : GuardedPairOutcome ℝ} (distinct : first.1 ≠ second.1)
    (turns : ReversesObservation turned observation) (touches : touchOnly first second observation = .ok outcome) :
    touchOnly second first turned = .ok outcome.swapped := by
  obtain ⟨event, published, returned⟩ := bind_eq_ok.mp touches
  cases returned
  exact bind_eq_ok.mpr ⟨event, (contactEventOf_reversed distinct turns.touch _ _).mpr published, rfl⟩

theorem isNone_of_rel {left right : Option (PlayerPairContact ℝ)} :
    Option.Rel Reverses left right → left.isNone = right.isNone
  | .some _ => rfl
  | .none => rfl

theorem some_of_rel {left : Option (PlayerPairContact ℝ)} :
    Option.Rel Reverses left (some contact) → ∃ reversed, left = some reversed ∧ Reverses reversed contact
  | .some reverses => ⟨_, rfl, reverses⟩

theorem idle_reversed (turns : ReversesObservation turned observation) : idle turned = idle observation := by
  rw [idle, idle, turns.touch.isContact, isNone_of_rel turns.impact, turns.firstEffectEligible,
    turns.secondEffectEligible, Bool.and_right_comm]

theorem eliminated_reversed (turns : ReversesObservation turned observation) :
    firstEliminated world second first turned guards.swapped = secondEliminated world first second observation guards ∧
      secondEliminated world second first turned guards.swapped =
        firstEliminated world first second observation guards := by
  rw [firstEliminated, secondEliminated, firstEliminated, secondEliminated, turns.firstEffectEligible,
    turns.secondEffectEligible]
  exact ⟨rfl, rfl⟩

theorem composeGuardedPair_reversed {outcome : GuardedPairOutcome ℝ} (turns : ReversesObservation turned observation)
    (composes : composeGuardedPair world first second observation guards charges = .ok outcome) :
    composeGuardedPair world second first turned guards.swapped charges.swapped = .ok outcome.swapped := by
  obtain ⟨⟨⟩, firstFacts, rest⟩ := bind_eq_ok.mp composes
  obtain ⟨⟨⟩, secondFacts, rest⟩ := bind_eq_ok.mp rest
  refine bind_eq_ok.mpr ⟨(), secondFacts, bind_eq_ok.mpr ⟨(), firstFacts, ?_⟩⟩
  obtain ⟨firstGone, secondGone⟩ := @eliminated_reversed first second world observation turned guards turns
  rw [idle_reversed turns, firstGone, secondGone, Bool.or_comm]
  split at rest
  · cases rest
  · next distinct =>
    rw [if_neg (Ne.symm distinct)]
    split at rest
    · next nothing =>
      rw [if_pos nothing]
      cases rest
      rfl
    · next something =>
      rw [if_neg something]
      split at rest
      · next lethal =>
        rw [if_pos lethal]
        exact eliminate_reversed distinct turns rest
      · next harmless =>
        rw [if_neg harmless]
        cases given : observation.impact with
        | none =>
          have none : turned.impact = none := by
            rw [← Option.isNone_iff_eq_none, isNone_of_rel turns.impact, given]
            rfl
          rw [given] at rest
          rw [none]
          exact touchOnly_reversed distinct turns rest
        | some contact =>
          obtain ⟨reversed, found, reverses⟩ := some_of_rel (given ▸ turns.impact)
          rw [given] at rest
          rw [found]
          exact respond_reversed distinct reverses turns rest

theorem contact_reversed (contact : PlayerPairContact ℝ) :
    ∃ reversed, contact.reversed = .ok reversed ∧ Reverses reversed contact := by
  obtain ⟨negated, negates, opposes⟩ := contact.normal.negate_real
  exact ⟨_, bind_eq_ok.mpr ⟨negated, negates, rfl⟩, rfl, opposes, rfl⟩

theorem observation_reversed (observation : PairContactObservation ℝ) :
    ∃ turned, observation.reversed = .ok turned ∧ ReversesObservation turned observation := by
  obtain ⟨touch, touches, touchReverses⟩ := contact_reversed observation.touch
  have impacts : ∃ impact, observation.impact.mapM PlayerPairContact.reversed = .ok impact ∧
      Option.Rel Reverses impact observation.impact := by
    cases observation.impact with
    | none => exact ⟨none, rfl, .none⟩
    | some contact =>
      obtain ⟨reversed, reverses, reversing⟩ := contact_reversed contact
      refine ⟨some reversed, ?_, .some reversing⟩
      rw [Option.mapM_some, reverses]
      rfl
  obtain ⟨impact, impacted, impactReverses⟩ := impacts
  exact ⟨_, bind_eq_ok.mpr ⟨touch, touches, bind_eq_ok.mpr ⟨impact, impacted, rfl⟩⟩, touchReverses, impactReverses,
    rfl, rfl⟩

theorem ReversesObservation.symm (turns : ReversesObservation turned observation) :
    ReversesObservation observation turned where
  touch := turns.touch.symm
  impact := match turned.impact, observation.impact, turns.impact with
    | _, _, .some reverses => .some reverses.symm
    | _, _, .none => .none
  firstEffectEligible := turns.secondEffectEligible.symm
  secondEffectEligible := turns.firstEffectEligible.symm

/-- The swapped call returns exactly where this one does, what this one does with its results swapped. -/
theorem guarded_pair_symmetric (world : GameWorld ℝ) (first second : ContactSubject ℝ)
    (observation : PairContactObservation ℝ) (guards : PairGuardFacts) (charges : PairChargeFacts) :
    ∃ turned, observation.reversed = .ok turned ∧ ∀ outcome,
      composeGuardedPair world second first turned guards.swapped charges.swapped = .ok outcome ↔
        composeGuardedPair world first second observation guards charges = .ok outcome.swapped := by
  obtain ⟨turned, turns, reverses⟩ := observation_reversed observation
  refine ⟨turned, turns, fun outcome => ⟨fun composes => ?_, fun composes => ?_⟩⟩
  · exact composeGuardedPair_reversed reverses.symm composes
  · exact composeGuardedPair_reversed reverses composes

end Facts

end GuardedPair

end BlobRoyale.Gameplay
