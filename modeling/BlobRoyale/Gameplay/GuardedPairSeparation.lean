import BlobRoyale.Gameplay.GuardedPairMotion

/-!
# Guarded pair separation

A response with an impact leaves no pair closing: the collision returns the closing speed, the guards' quarters and
stops are projected away, and the projection always has a body to move.
-/

namespace BlobRoyale.Gameplay

open Simulation Impulse

namespace GuardedPair

/-- A call that fails, if at all, for another reason than a separation. -/
def SparesSeparation {α : Type} (result : Validated α) : Prop :=
  ∀ error, result = .error error → error.code ≠ .guardedPairSeparationFailed

section Spares

variable {α β : Type} {result : Validated α} {next : α → Validated β}

theorem sparesSeparation_ok (value : α) : SparesSeparation (.ok value) := by
  intro error failed
  cases failed

theorem sparesSeparation_reject {code : SimulationValidationCode} {context detail : String}
    (other : code ≠ .guardedPairSeparationFailed) : SparesSeparation (reject code context detail : Validated α) := by
  intro error failed
  cases failed
  exact other

theorem SparesSeparation.bind (spares : SparesSeparation result)
    (rest : ∀ value, result = .ok value → SparesSeparation (next value)) : SparesSeparation (result >>= next) := by
  cases returned : result with
  | error refusal =>
    intro error failed
    cases failed
    exact spares _ returned
  | ok value => exact rest value returned

theorem sparesSeparation_createForOperation (x y : ℝ) (operation : String) :
    SparesSeparation (Vector2.createForOperation x y operation) := by
  have component (value : ℝ) (context : String) : SparesSeparation (validateComponent value context) := by
    unfold validateComponent
    split
    · split
      · exact sparesSeparation_ok _
      · exact sparesSeparation_reject (by decide)
    · exact sparesSeparation_reject (by decide)
  exact (component _ _).bind fun _ _ => (component _ _).bind fun _ _ => sparesSeparation_ok _

end Spares

section Separate

variable {first second body moved : PhysicsBody ℝ} {normal : Vector2 ℝ} {firstStopped secondStopped stopped : Bool}

theorem motion_dynamic (dynamic : body.isStatic = false) : motion body = body.velocity.pair := by
  rw [motion, dynamic]
  rfl

theorem motion_static (static : body.isStatic = true) : motion body = (0, 0) := if_pos static

theorem along_zero (direction : ℝ × ℝ) : along direction (0, 0) = 0 := by
  simp only [along, zero_mul, add_zero]

theorem motion_of_weightless (stands : stopped = true → motion body = (0, 0)) (weightless : weight body stopped = 0) :
    motion body = (0, 0) := by
  rw [weight] at weightless
  split at weightless
  · next held =>
    obtain static | stopped := Bool.or_eq_true_iff.mp held
    · exact motion_static static
    · exact stands stopped
  · next free =>
    rw [Bool.or_eq_true, not_or, Bool.not_eq_true] at free
    exact absurd weightless (one_div_pos.mpr (body.mass_pos free.1)).ne'

theorem nonClosing_of_nonneg {speed : ℝ} (nonnegative : 0 ≤ speed) : nonClosing speed = true :=
  nonClosing_real.mpr (by nlinarith)

theorem movable_of_closing (firstStands : firstStopped = true → motion first = (0, 0))
    (secondStands : secondStopped = true → motion second = (0, 0))
    (closes : nonClosing (parting normal first second) ≠ true) :
    0 < weight first firstStopped + weight second secondStopped := by
  have firstShare := @weight_nonneg first firstStopped
  have secondShare := @weight_nonneg second secondStopped
  refine lt_of_le_of_ne (add_nonneg firstShare secondShare) fun none => closes ?_
  obtain ⟨firstNone, secondNone⟩ := (add_eq_zero_iff_of_nonneg firstShare secondShare).mp none.symm
  refine nonClosing_of_nonneg (le_of_eq ?_)
  rw [parting, separation, motion_of_weightless firstStands firstNone, motion_of_weightless secondStands secondNone,
    sub_self]

theorem along_shifted (unit : square normal.pair = 1) {amount : ℝ}
    (shifts : shifted body (weight body stopped) (amount * weight body stopped) normal = .ok moved) :
    along normal.pair (motion moved) = along normal.pair (motion body) + amount * weight body stopped := by
  rw [shifted, corrected] at shifts
  split at shifts
  · next none =>
    cases shifts
    rw [none, mul_zero, add_zero]
  · next share =>
    obtain ⟨velocity, created, returned⟩ := bind_eq_ok.mp shifts
    cases returned
    have dynamic : body.isStatic = false := by
      refine Bool.eq_false_iff.mpr fun static => share ?_
      rw [weight, static]
      rfl
    have pushes : velocity.pair = pushed normal.pair body.velocity.pair (amount * weight body stopped) :=
      Vector2.create_eq_ok_iff.mp created
    rw [motion_dynamic (show (body.withVelocity velocity).isStatic = false from dynamic), motion_dynamic dynamic,
      show (body.withVelocity velocity).velocity = velocity from rfl, pushes, along_pushed unit]

theorem parting_projected (unit : square normal.pair = 1)
    (movable : 0 < weight first firstStopped + weight second secondStopped) {separatedFirst separatedSecond : PhysicsBody ℝ}
    (firstShifts : shifted first (weight first firstStopped)
      (-(separatingImpulse normal first second firstStopped secondStopped * weight first firstStopped)) normal =
        .ok separatedFirst)
    (secondShifts : shifted second (weight second secondStopped)
      (separatingImpulse normal first second firstStopped secondStopped * weight second secondStopped) normal =
        .ok separatedSecond) : parting normal separatedFirst separatedSecond = 0 := by
  have squared : normal.x * normal.x + normal.y * normal.y = 1 := by
    rw [← unit, square, Vector2.pair, sq, sq]
  have impulse : separatingImpulse normal first second firstStopped secondStopped *
      (weight first firstStopped + weight second secondStopped) = -parting normal first second := by
    rw [separatingImpulse, squared, mul_one]
    exact div_mul_cancel₀ _ movable.ne'
  rw [← neg_mul] at firstShifts
  rw [parting, separation, along_shifted unit firstShifts, along_shifted unit secondShifts]
  rw [parting, separation] at impulse
  linarith

theorem sparesSeparation_shifted {share delta : ℝ} : SparesSeparation (shifted body share delta normal) := by
  rw [shifted, corrected]
  split
  · exact sparesSeparation_ok _
  · exact (sparesSeparation_createForOperation _ _ _).bind fun _ _ => sparesSeparation_ok _

theorem separatePair_parts (unit : square normal.pair = 1) (firstStands : firstStopped = true → motion first = (0, 0))
    (secondStands : secondStopped = true → motion second = (0, 0)) :
    SparesSeparation (separatePair first second firstStopped secondStopped normal) ∧
      ∀ bodies, separatePair first second firstStopped secondStopped normal = .ok bodies →
        nonClosing (parting normal bodies.1 bodies.2) = true := by
  rw [separatePair_real]
  split
  · next parts =>
    refine ⟨sparesSeparation_ok _, fun bodies returned => ?_⟩
    cases returned
    exact parts
  · next closes =>
    have movable := movable_of_closing firstStands secondStands closes
    have squared : normal.x * normal.x + normal.y * normal.y = 1 := by
      rw [← unit, square, Vector2.pair, sq, sq]
    rw [if_neg (by rw [squared, mul_one]; exact not_le.mpr movable)]
    have projects {separatedFirst separatedSecond : PhysicsBody ℝ}
        (firstShifts : shifted first (weight first firstStopped)
          (-(separatingImpulse normal first second firstStopped secondStopped * weight first firstStopped)) normal =
            .ok separatedFirst)
        (secondShifts : shifted second (weight second secondStopped)
          (separatingImpulse normal first second firstStopped secondStopped * weight second secondStopped) normal =
            .ok separatedSecond) : nonClosing (parting normal separatedFirst separatedSecond) = true :=
      nonClosing_of_nonneg (parting_projected unit movable firstShifts secondShifts).ge
    constructor
    · refine sparesSeparation_shifted.bind fun separatedFirst firstShifts =>
        sparesSeparation_shifted.bind fun separatedSecond secondShifts => ?_
      rw [projects firstShifts secondShifts]
      exact sparesSeparation_ok _
    · intro bodies returned
      obtain ⟨separatedFirst, firstShifts, rest⟩ := bind_eq_ok.mp returned
      obtain ⟨separatedSecond, secondShifts, rest⟩ := bind_eq_ok.mp rest
      rw [projects firstShifts secondShifts] at rest
      cases rest
      exact projects firstShifts secondShifts

end Separate

section Collide

variable {first second body struckBody : PhysicsBody ℝ} {contact : PlayerPairContact ℝ}

theorem speed_eq_parting (certified : contact.Certifies first second) :
    contact.relativeNormalSpeed = parting contact.normal first second := by
  have measured : relativeSpeed first second contact.normal = relativeNormalSpeed first second contact.normal := rfl
  exact Except.ok.inj (certified.speed.symm.trans (measured.trans relativeNormalSpeed_real))

theorem along_rebounded (unit : square contact.normal.pair = 1)
    (rebounds : rebounded contact.normal body = .ok struckBody) :
    along contact.normal.pair (motion struckBody) = -along contact.normal.pair (motion body) := by
  rw [rebounded] at rebounds
  split at rebounds
  · next static =>
    cases rebounds
    rw [motion_static static, along_zero, neg_zero]
  · next dynamic =>
    rw [Bool.not_eq_true] at dynamic
    obtain ⟨velocity, created, returned⟩ := bind_eq_ok.mp rebounds
    cases returned
    have pushes : velocity.pair = pushed contact.normal.pair body.velocity.pair
        (-(along contact.normal.pair body.velocity.pair + along contact.normal.pair body.velocity.pair)) := Vector2.create_eq_ok_iff.mp created
    rw [motion_dynamic (show (body.withVelocity velocity).isStatic = false from dynamic), motion_dynamic dynamic,
      show (body.withVelocity velocity).velocity = velocity from rfl, pushes, along_pushed unit]
    ring

theorem collide_general (firstDynamic : first.isStatic = false) (secondDynamic : second.isStatic = false)
    (certified : contact.Certifies first second) : collide first second contact = (do
      let collision ← resolveGeneralPairCollision first second contact
      return (first.withVelocity collision.firstVelocity, second.withVelocity collision.secondVelocity)) := by
  rw [collide, firstDynamic, secondDynamic]
  by_cases baseline : (bodyHasBaselinePhysics first && bodyHasBaselinePhysics second) = true
  · obtain ⟨firstBaseline, secondBaseline⟩ := Bool.and_eq_true_iff.mp baseline
    rw [if_pos (by rfl), if_pos baseline,
      resolveGeneral_baseline (certified.speed_eq firstDynamic secondDynamic) firstBaseline secondBaseline]
  · rw [if_pos (by rfl), if_neg baseline]

theorem separation_motion (firstDynamic : first.isStatic = false) (secondDynamic : second.isStatic = false)
    {normal : Vector2 ℝ} : parting normal first second = separation normal.pair first.velocity.pair
      second.velocity.pair := by
  rw [parting, motion_dynamic firstDynamic, motion_dynamic secondDynamic]

theorem negative_of_closes {speed : ℝ} (closes : nonClosing speed ≠ true) : speed < 0 := by
  by_contra nonnegative
  exact closes (nonClosing_of_nonneg (not_lt.mp nonnegative))

theorem parts_of_collide (certified : contact.Certifies first second) (touches : contact.isContact = true)
    {bodies : PhysicsBody ℝ × PhysicsBody ℝ} (collides : collide first second contact = .ok bodies) :
    nonClosing (parting contact.normal bodies.1 bodies.2) = true := by
  have measured := speed_eq_parting certified
  by_cases dynamic : (!first.isStatic && !second.isStatic) = true
  · obtain ⟨firstDynamic, secondDynamic⟩ := Bool.and_eq_true_iff.mp dynamic
    rw [Bool.not_eq_true'] at firstDynamic secondDynamic
    rw [collide_general firstDynamic secondDynamic certified] at collides
    obtain ⟨collision, resolved, returned⟩ := bind_eq_ok.mp collides
    cases returned
    cases resolves : resolvesNothing contact with
    | true =>
      rw [resolveGeneralPairCollision, if_pos resolves] at resolved
      cases resolved
      rw [resolvesNothing, touches] at resolves
      rwa [measured] at resolves
    | false =>
      have laws := impulseLaws_of_resolveGeneral firstDynamic secondDynamic certified resolves resolved
      rw [resolvesNothing, touches] at resolves
      have closing : contact.relativeNormalSpeed < 0 := negative_of_closes (Bool.eq_false_iff.mp resolves)
      have restituted : 0 ≤ min first.restitution second.restitution :=
        le_min first.restitutionAdmitted.2.1 second.restitutionAdmitted.2.1
      have returns : parting contact.normal (first.withVelocity collision.firstVelocity)
          (second.withVelocity collision.secondVelocity) =
          -min first.restitution second.restitution * contact.relativeNormalSpeed :=
        (separation_motion (show (first.withVelocity collision.firstVelocity).isStatic = false from firstDynamic)
          (show (second.withVelocity collision.secondVelocity).isStatic = false from secondDynamic)).trans
          laws.restitution
      exact nonClosing_of_nonneg (by rw [returns]; nlinarith)
  · rw [collide_real, if_neg dynamic] at collides
    split at collides
    · next closes =>
      obtain ⟨reboundedFirst, firstRebounds, rest⟩ := bind_eq_ok.mp collides
      obtain ⟨reboundedSecond, secondRebounds, returned⟩ := bind_eq_ok.mp rest
      cases returned
      rw [Bool.not_eq_true', ← Bool.not_eq_true, measured] at closes
      have closing := negative_of_closes closes
      rw [parting, separation] at closing
      refine nonClosing_of_nonneg ?_
      rw [parting, separation, along_rebounded certified.unit firstRebounds,
        along_rebounded certified.unit secondRebounds]
      linarith
    · next parts =>
      cases collides
      rwa [Bool.not_eq_true', Bool.not_eq_false, measured] at parts

theorem sparesSeparation_collide : SparesSeparation (collide first second contact) := by
  have struck_spares (struckOne : PhysicsBody ℝ) (amount : ℝ) : SparesSeparation (struck struckOne amount contact.normal) :=
    (sparesSeparation_createForOperation _ _ _).bind fun _ _ => sparesSeparation_ok _
  have rebounded_spares (struckOne : PhysicsBody ℝ) : SparesSeparation (rebounded contact.normal struckOne) := by
    rw [rebounded]
    split
    · exact sparesSeparation_ok _
    · exact struck_spares _ _
  rw [collide_real]
  split
  · split
    · exact sparesSeparation_ok _
    · exact (struck_spares _ _).bind fun _ _ => (struck_spares _ _).bind fun _ _ => sparesSeparation_ok _
  · split
    · exact (rebounded_spares _).bind fun _ _ => (rebounded_spares _).bind fun _ _ => sparesSeparation_ok _
    · exact sparesSeparation_ok _

end Collide

section Respond

variable {world : GameWorld ℝ} {first second : ContactSubject ℝ} {observation : PairContactObservation ℝ}
  {contact : PlayerPairContact ℝ} {guards : PairGuardFacts} {charges : PairChargeFacts}

theorem sparesSeparation_contactEventOf (touch : PlayerPairContact ℝ) (ruleName : ContactRuleName) :
    SparesSeparation (contactEventOf first second touch ruleName) := by
  have pairs : SparesSeparation (CandidatePair.create first.1 second.1) := by
    unfold CandidatePair.create
    split
    · exact sparesSeparation_ok _
    · split
      · exact sparesSeparation_ok _
      · exact sparesSeparation_reject (by decide)
  have normals (normal : Vector2 ℝ) : SparesSeparation (canonicalNormal first.1 second.1 normal) := by
    unfold canonicalNormal
    split
    · exact sparesSeparation_ok _
    · exact sparesSeparation_createForOperation _ _ _
  exact pairs.bind fun _ _ => (normals _).bind fun _ _ => sparesSeparation_ok _

theorem sparesSeparation_quartered {guard : GuardState} {before ordinary : PhysicsBody ℝ} :
    SparesSeparation (quartered guard before ordinary) := by
  rw [quartered]
  split
  · exact (sparesSeparation_createForOperation _ _ _).bind fun _ _ => sparesSeparation_ok _
  · exact sparesSeparation_ok _

theorem sparesSeparation_stoppedBy {opposite : GuardState} {body : PhysicsBody ℝ} {closes : Bool}
    {incoming : Vector2 ℝ → Bool} : SparesSeparation (stoppedBy opposite body closes incoming) := by
  obtain ⟨velocity, moves, -⟩ := motionVelocity_real body
  rw [stoppedBy, moves]
  split
  · exact sparesSeparation_ok _
  · exact sparesSeparation_ok _

theorem stoppedBy_unguarded {opposite : GuardState} {body : PhysicsBody ℝ} {closes stopped : Bool}
    {incoming : Vector2 ℝ → Bool} (unguarded : opposite.isGuarded = false)
    (stops : stoppedBy opposite body closes incoming = .ok stopped) : stopped = false := by
  have imperfect : ¬ opposite = .perfect := by
    rintro rfl
    cases unguarded
  rw [stoppedBy, decide_eq_false imperfect] at stops
  cases stops
  rfl

theorem motion_stoppedBody {stopped : Bool} {zero : Vector2 ℝ} {body : PhysicsBody ℝ}
    (zeroed : Vector2.create 0 0 = .ok zero) (stops : stopped = true) :
    motion (stoppedBody stopped zero body) = (0, 0) := by
  rw [stoppedBody, if_pos stops, motion]
  split
  · rfl
  · exact Vector2.create_eq_ok_iff.mp zeroed

theorem respond_parts (certified : contact.Certifies first.2 second.2) (touches : contact.isContact = true) :
    SparesSeparation (respond world first second observation contact guards charges) ∧
      ∀ outcome, respond world first second observation contact guards charges = .ok outcome →
        nonClosing (parting contact.normal outcome.first.body outcome.second.body) = true := by
  have separates {left right : PhysicsBody ℝ} {leftStopped rightStopped : Bool}
      (leftStands : leftStopped = true → motion left = (0, 0))
      (rightStands : rightStopped = true → motion right = (0, 0)) :
      SparesSeparation (separated guards left right leftStopped rightStopped contact.normal) := by
    rw [separated]
    split
    · exact (separatePair_parts certified.unit leftStands rightStands).1
    · exact sparesSeparation_ok _
  constructor
  · refine sparesSeparation_collide.bind fun collided _ => sparesSeparation_quartered.bind fun quarteredFirst _ =>
      sparesSeparation_quartered.bind fun quarteredSecond _ => sparesSeparation_stoppedBy.bind fun firstStunned _ =>
      sparesSeparation_stoppedBy.bind fun secondStunned _ =>
      (sparesSeparation_createForOperation _ _ _).bind fun zero zeroed => ?_
    exact (separates (motion_stoppedBody zeroed) (motion_stoppedBody zeroed)).bind fun bodies _ =>
      (sparesSeparation_contactEventOf _ _).bind fun event _ => sparesSeparation_ok _
  · intro outcome responds
    obtain ⟨collided, collides, rest⟩ := bind_eq_ok.mp responds
    obtain ⟨quarteredFirst, quartersFirst, rest⟩ := bind_eq_ok.mp rest
    obtain ⟨quarteredSecond, quartersSecond, rest⟩ := bind_eq_ok.mp rest
    obtain ⟨firstStunned, stunsFirst, rest⟩ := bind_eq_ok.mp rest
    obtain ⟨secondStunned, stunsSecond, rest⟩ := bind_eq_ok.mp rest
    obtain ⟨zero, zeroed, rest⟩ := bind_eq_ok.mp rest
    obtain ⟨bodies, parts, rest⟩ := bind_eq_ok.mp rest
    obtain ⟨event, -, returned⟩ := bind_eq_ok.mp rest
    cases returned
    rw [separated] at parts
    split at parts
    · exact (separatePair_parts certified.unit (motion_stoppedBody zeroed) (motion_stoppedBody zeroed)).2 bodies parts
    · next undefended =>
      cases parts
      rw [Bool.or_eq_true, not_or, Bool.not_eq_true, Bool.not_eq_true] at undefended
      obtain ⟨firstOpen, secondOpen⟩ := undefended
      rw [quartered, firstOpen] at quartersFirst
      rw [quartered, secondOpen] at quartersSecond
      cases quartersFirst
      cases quartersSecond
      rw [stoppedBy_unguarded secondOpen stunsFirst, stoppedBy_unguarded firstOpen stunsSecond]
      exact parts_of_collide certified touches collides

/-- A contact's response leaves no pair closing by the engine's comparison, and its separation never fails. -/
theorem contact_leaves_pair_parting (observed : observation.impact = some contact)
    (touched : observation.touch.isContact = true) (touches : contact.isContact = true)
    (certified : contact.Certifies first.2 second.2) :
    (∀ outcome, composeGuardedPair world first second observation guards charges = .ok outcome →
      firstEliminated world first second observation guards = false →
      secondEliminated world first second observation guards = false →
        nonClosing (parting contact.normal outcome.first.body outcome.second.body) = true ∧
        -velocityTolerance / (1 - relativeTolerance) ≤
          parting contact.normal outcome.first.body outcome.second.body) ∧
    ∀ error, composeGuardedPair world first second observation guards charges = .error error →
      error.code ≠ .guardedPairSeparationFailed := by
  obtain ⟨spares, parts⟩ := @respond_parts world first second observation contact guards charges certified touches
  have active : idle observation = false := by
    rw [idle, touched, observed]
    rfl
  constructor
  · intro outcome composes firstStays secondStays
    obtain ⟨⟨⟩, -, rest⟩ := bind_eq_ok.mp composes
    obtain ⟨⟨⟩, -, rest⟩ := bind_eq_ok.mp rest
    split at rest
    · cases rest
    · rw [active, firstStays, secondStays, observed] at rest
      have parted := parts outcome rest
      refine ⟨parted, ?_⟩
      rw [velocityTolerance_real, relativeTolerance_real, div_le_iff₀ (by norm_num)]
      exact nonClosing_real.mp parted
  · have facts (subject : ContactSubject ℝ) (guard : GuardState) : SparesSeparation (requireGuardFacts subject guard) := by
      unfold requireGuardFacts
      split
      · exact sparesSeparation_reject (by decide)
      · exact sparesSeparation_ok _
    refine (facts first guards.first).bind fun _ _ => (facts second guards.second).bind fun _ _ => ?_
    split
    · exact sparesSeparation_reject (by decide)
    · rw [active, observed]
      split
      · exact sparesSeparation_ok _
      · split
        · exact (sparesSeparation_contactEventOf _ _).bind fun _ _ => sparesSeparation_ok _
        · exact spares

end Respond

section Creeping

theorem baseline_baselineBody (velocity : Vector2 ℝ) : bodyHasBaselinePhysics (baselineBody velocity) = true :=
  Bool.and_eq_true_iff.mpr ⟨decide_eq_true rfl, decide_eq_true rfl⟩

theorem collide_head_on {first second : Vector2 ℝ} (level : first.y = 0 ∧ second.y = 0)
    (closes : nonClosing (second.x - first.x) = false) :
    collide (baselineBody first) (baselineBody second) (eastContact (second.x - first.x)) =
      .ok (baselineBody second, baselineBody first) := by
  have resolves : resolvesNothing (eastContact (second.x - first.x)) = false := closes
  rw [collide_real, if_pos (by rfl), if_neg (Bool.eq_false_iff.mp resolves), bounced, recoil, recoil,
    baseline_baselineBody, baseline_baselineBody]
  refine bind_eq_ok.mpr ⟨baselineBody second, bind_eq_ok.mpr ⟨second, Vector2.create_eq_ok_iff.mpr ?_, rfl⟩,
    bind_eq_ok.mpr ⟨baselineBody first, bind_eq_ok.mpr ⟨first, Vector2.create_eq_ok_iff.mpr ?_, rfl⟩, rfl⟩⟩
  · rw [if_pos (by rfl)]
    refine Prod.ext ?_ ?_
    · simp only [baselineBody, separation, along, eastContact, east, eastward, Vector2.pair]
      ring
    · simp only [baselineBody, eastContact, east, eastward, Vector2.pair, level]
      ring
  · rw [if_pos (by rfl)]
    refine Prod.ext ?_ ?_
    · simp only [baselineBody, separation, along, eastContact, east, eastward, Vector2.pair]
      ring
    · simp only [baselineBody, eastContact, east, eastward, Vector2.pair, level]
      ring

theorem second_entity_admitted : minimumEntityId ≤ 2 ∧ 2 ≤ maximumProtocolSafeInteger := by decide

def neighbour : EntityId := ⟨2, second_entity_admitted.1, second_entity_admitted.2⟩

theorem first_before_neighbour : (Identity.first : EntityId) < neighbour := by decide

theorem quarterReceivedDelta_real {before ordinary quarter : Vector2 ℝ}
    (quarterX : quarter.x = (3 * before.x + ordinary.x) / 4) (quarterY : quarter.y = (3 * before.y + ordinary.y) / 4) :
    quarterReceivedDelta before ordinary = .ok quarter := by
  refine Vector2.create_eq_ok_iff.mpr (Prod.ext ?_ ?_)
  · rw [Vector2.pair, quarterX]
    push_cast
    ring
  · rw [Vector2.pair, quarterY]
    push_cast
    ring

/-- Two ordinary guards leave half the closing speed of equal bodies that meet head on. -/
theorem compose_head_on {first second firstQuarter secondQuarter : Vector2 ℝ} (level : first.y = 0 ∧ second.y = 0)
    (firstTakes : firstQuarter.x = (3 * first.x + second.x) / 4 ∧ firstQuarter.y = 0)
    (secondTakes : secondQuarter.x = (3 * second.x + first.x) / 4 ∧ secondQuarter.y = 0)
    (closes : nonClosing (second.x - first.x) = false) (creeps : nonClosing ((second.x - first.x) / 2) = true) :
    ∃ outcome, composeGuardedPair (GameWorld.empty 0) (.first, baselineBody first) (neighbour, baselineBody second)
        ⟨eastContact (second.x - first.x), some (eastContact (second.x - first.x)), true, true⟩
        ⟨.ordinary, .ordinary⟩ ⟨none, none⟩ = .ok outcome ∧
      parting east outcome.first.body outcome.second.body = (second.x - first.x) / 2 := by
  have parts : parting east (baselineBody firstQuarter) (baselineBody secondQuarter) = (second.x - first.x) / 2 := by
    rw [separation_motion rfl rfl]
    simp only [separation, along, baselineBody, east, eastward, Vector2.pair, firstTakes, secondTakes]
    ring
  have separates : separated ⟨.ordinary, .ordinary⟩ (baselineBody firstQuarter) (baselineBody secondQuarter) false false
      east = .ok (baselineBody firstQuarter, baselineBody secondQuarter) := by
    rw [separated, if_pos (by rfl), separatePair_real, parts, if_pos creeps]
  have responds : ∃ effects, respond (GameWorld.empty 0) (.first, baselineBody first) (neighbour, baselineBody second)
      ⟨eastContact (second.x - first.x), some (eastContact (second.x - first.x)), true, true⟩
      (eastContact (second.x - first.x)) ⟨.ordinary, .ordinary⟩ ⟨none, none⟩ =
        .ok ⟨⟨baselineBody firstQuarter, .continues⟩, ⟨baselineBody secondQuarter, .continues⟩, effects⟩ := by
    refine ⟨_, bind_eq_ok.mpr ⟨_, collide_head_on level closes, bind_eq_ok.mpr ⟨baselineBody firstQuarter,
      bind_eq_ok.mpr ⟨firstQuarter, quarterReceivedDelta_real firstTakes.1 ?_, rfl⟩, bind_eq_ok.mpr
      ⟨baselineBody secondQuarter, bind_eq_ok.mpr ⟨secondQuarter, quarterReceivedDelta_real secondTakes.1 ?_, rfl⟩,
      bind_eq_ok.mpr ⟨false, rfl, bind_eq_ok.mpr ⟨false, rfl, bind_eq_ok.mpr
      ⟨⟨0, 0, validComponent_zero_real, validComponent_zero_real⟩, Vector2.create_eq_ok_iff.mpr rfl,
      bind_eq_ok.mpr ⟨_, separates, bind_eq_ok.mpr ⟨.contact ⟨.first, neighbour, first_before_neighbour⟩ east
        (second.x - first.x) guardedPairRuleName, rfl, rfl⟩⟩⟩⟩⟩⟩⟩⟩⟩
    · simp only [baselineBody, firstTakes.2, level, mul_zero, add_zero, zero_div]
    · simp only [baselineBody, secondTakes.2, level, mul_zero, add_zero, zero_div]
  obtain ⟨effects, responds⟩ := responds
  exact ⟨_, bind_eq_ok.mpr ⟨(), rfl, bind_eq_ok.mpr ⟨(), rfl, responds⟩⟩, parts⟩

/-- A pair that creeps together just within the engine's comparison is left so. -/
theorem creeping_pair_left_closing :
    ¬ ∀ (world : GameWorld ℝ) (first second : ContactSubject ℝ) (observation : PairContactObservation ℝ)
      (contact : PlayerPairContact ℝ) (guards : PairGuardFacts) (charges : PairChargeFacts)
      (outcome : GuardedPairOutcome ℝ), first.1 ≠ second.1 → observation.impact = some contact →
      observation.touch.isContact = true → contact.isContact = true → closing contact.relativeNormalSpeed = true →
      contact.Certifies first.2 second.2 →
      composeGuardedPair world first second observation guards charges = .ok outcome →
      firstEliminated world first second observation guards = false →
      secondEliminated world first second observation guards = false →
      -velocityTolerance ≤ parting contact.normal outcome.first.body outcome.second.body := by
  intro parts
  obtain ⟨speed, above, below⟩ : ∃ speed : ℝ, 1 / 1000000000 < speed ∧
      speed * (1 - 1 / 1000000000000) ≤ 1 / 1000000000 :=
    ⟨1 / 1000000000 + 1 / 2000000000000000000000, by norm_num, by norm_num⟩
  have small : speed ≤ 1 / 2 := by linarith
  have closes : nonClosing (-speed - speed) = false := by
    refine Bool.eq_false_iff.mpr fun apart => ?_
    have bound := nonClosing_real.mp apart
    linarith
  have creeps : nonClosing ((-speed - speed) / 2) = true := nonClosing_real.mpr (by linarith)
  obtain ⟨outcome, composes, parted⟩ := @compose_head_on (eastward speed (by linarith) (by linarith))
    (eastward (-speed) (by linarith) (by linarith)) (eastward (speed / 2) (by linarith) (by linarith))
    (eastward (-speed / 2) (by linarith) (by linarith)) ⟨rfl, rfl⟩
    ⟨show speed / 2 = (3 * speed + -speed) / 4 by ring, rfl⟩
    ⟨show -speed / 2 = (3 * -speed + speed) / 4 by ring, rfl⟩ closes creeps
  have bound := parts _ _ _ _ _ _ _ outcome first_before_neighbour.ne rfl rfl rfl
    (by rw [closing, Bool.not_eq_true']; exact closes) eastContact_certifies composes rfl rfl
  rw [show (eastContact ((eastward (-speed) _ _).x - (eastward speed _ _).x)).normal = east from rfl, parted,
    velocityTolerance_real] at bound
  have held : -(1 / 1000000000) ≤ (-speed - speed) / 2 := bound
  linarith

theorem contact_leaves_pair_parting_head_on : ∃ outcome, composeGuardedPair (GameWorld.empty 0)
      (.first, baselineBody east) (neighbour, baselineBody west)
      ⟨eastContact (west.x - east.x), some (eastContact (west.x - east.x)), true, true⟩ ⟨.none, .none⟩ ⟨none, none⟩ =
        .ok outcome ∧
    -velocityTolerance / (1 - relativeTolerance) ≤ parting east outcome.first.body outcome.second.body := by
  have closes : nonClosing (west.x - east.x) = false := by
    refine Bool.eq_false_iff.mpr fun apart => ?_
    have bound := nonClosing_real.mp apart
    simp only [east, west, eastward] at bound
    norm_num at bound
  have responds : ∃ outcome, composeGuardedPair (GameWorld.empty 0) (.first, baselineBody east)
      (neighbour, baselineBody west)
      ⟨eastContact (west.x - east.x), some (eastContact (west.x - east.x)), true, true⟩ ⟨.none, .none⟩ ⟨none, none⟩ =
        .ok outcome :=
    ⟨_, bind_eq_ok.mpr ⟨(), rfl, bind_eq_ok.mpr ⟨(), rfl, bind_eq_ok.mpr ⟨_, collide_head_on ⟨rfl, rfl⟩ closes,
      bind_eq_ok.mpr ⟨_, rfl, bind_eq_ok.mpr ⟨_, rfl, bind_eq_ok.mpr ⟨false, rfl, bind_eq_ok.mpr ⟨false, rfl,
      bind_eq_ok.mpr ⟨⟨0, 0, validComponent_zero_real, validComponent_zero_real⟩, Vector2.create_eq_ok_iff.mpr rfl,
      bind_eq_ok.mpr ⟨_, rfl, bind_eq_ok.mpr ⟨.contact ⟨.first, neighbour, first_before_neighbour⟩ east
        (west.x - east.x) guardedPairRuleName, rfl, rfl⟩⟩⟩⟩⟩⟩⟩⟩⟩⟩⟩
  obtain ⟨outcome, composes⟩ := responds
  exact ⟨outcome, composes, ((contact_leaves_pair_parting rfl rfl rfl eastContact_certifies).1 outcome composes rfl
    rfl).2⟩

end Creeping

end GuardedPair

end BlobRoyale.Gameplay
