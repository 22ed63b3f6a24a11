import BlobRoyale.Gameplay.Locomotion
import BlobRoyale.Library.SegmentDistance
import BlobRoyale.Motion.ExactMotion

/-!
# Bounded propulsion

Normal propulsion in exact arithmetic: the first projection meets both bounds, so no correction is ever taken,
and nothing but a component beyond the engine's own limit refuses a step.
-/

namespace BlobRoyale.Gameplay

open Simulation

section Integration

theorem integrate_eq_ok {S : Type} [Scalar S] {velocity acceleration endpoint : Vector2 S}
    (integrates : integrateAcceleratedVelocity velocity acceleration = .ok endpoint) :
    endpoint.x = velocity.x + acceleration.x * fixedDeltaSeconds ∧
      endpoint.y = velocity.y + acceleration.y * fixedDeltaSeconds := by
  obtain ⟨x, first, integrates⟩ := bind_eq_ok.mp integrates
  obtain ⟨y, second, integrates⟩ := bind_eq_ok.mp integrates
  have finite : ∀ {value result : S} {context}, requireFiniteResult value context = .ok result → result = value := by
    intro value result context accepted
    unfold requireFiniteResult at accepted
    split at accepted
    · rw [Scalar.normalizeSignedZero_eq] at accepted
      exact (Except.ok.inj accepted).symm
    · cases accepted
  rw [finite first, finite second] at integrates
  exact Vector2.createForOperation_eq_ok integrates

theorem integrate_of_valid {velocity acceleration : Vector2 ℝ}
    (x : ValidComponent (velocity.x + acceleration.x * fixedDeltaSeconds))
    (y : ValidComponent (velocity.y + acceleration.y * fixedDeltaSeconds)) :
    ∃ endpoint, integrateAcceleratedVelocity velocity acceleration = .ok endpoint := by
  have finite : ∀ (value : ℝ) context, requireFiniteResult value context = .ok value := by
    intro value context
    unfold requireFiniteResult
    rw [if_pos (isFinite_real value), Scalar.normalizeSignedZero_eq]
  unfold integrateAcceleratedVelocity
  rw [finite, finite]
  exact Vector2.createForOperation_of_valid x y _

theorem divide_eq_ok {vector quotient : Vector2 ℝ} {scalar : ℝ} (divides : vector.divide scalar = .ok quotient) :
    quotient.x = vector.x / scalar ∧ quotient.y = vector.y / scalar := by
  obtain ⟨operand, accepted, divides⟩ := bind_eq_ok.mp divides
  unfold validateScalarOperand at accepted
  rw [if_pos (isFinite_real scalar), Scalar.normalizeSignedZero_eq] at accepted
  cases accepted
  split at divides
  · cases divides
  · exact Vector2.createForOperation_eq_ok divides

theorem divide_of_valid {vector : Vector2 ℝ} {scalar : ℝ} (nonzero : scalar ≠ 0) (x : ValidComponent (vector.x / scalar))
    (y : ValidComponent (vector.y / scalar)) : ∃ quotient, vector.divide scalar = .ok quotient := by
  have accepted : validateScalarOperand scalar "vector2.divide.scalar" = .ok scalar := by
    unfold validateScalarOperand
    rw [if_pos (isFinite_real scalar), Scalar.normalizeSignedZero_eq]
  unfold Vector2.divide
  rw [accepted]
  dsimp only [bind, Except.bind]
  rw [if_neg nonzero]
  exact Vector2.createForOperation_of_valid x y _

theorem vector_ext {S : Type} [Scalar S] {first second : Vector2 S} (x : first.x = second.x) (y : first.y = second.y) :
    first = second := by
  cases first
  cases second
  cases x
  cases y
  rfl

theorem validComponent_of_dot {vector : Vector2 ℝ} {u v : ℝ}
    (short : vector.dot vector ≤ maximumPhysicalComponentMagnitude * maximumPhysicalComponentMagnitude)
    (within : u * u + v * v ≤ vector.dot vector) : ValidComponent u ∧ ValidComponent v := by
  have component : ∀ value : ℝ, value * value ≤ 1000000000000 * 1000000000000 → ValidComponent value := by
    intro value bounded
    rw [validComponent_real]
    exact abs_le.mp (abs_le_of_sq_le_sq (by rw [pow_two, pow_two]; exact bounded) (by norm_num))
  rw [maximumPhysicalComponentMagnitude_real] at short
  have sum := within.trans short
  exact ⟨component u (by nlinarith [mul_self_nonneg v]), component v (by nlinarith [mul_self_nonneg u])⟩

theorem validComponent_part {value part : ℝ} (valid : ValidComponent value) (lower : 0 ≤ part) (upper : part ≤ 1) :
    ValidComponent (value * part) := by
  rw [validComponent_real] at valid ⊢
  constructor <;> nlinarith [valid.1, valid.2]

end Integration

/-- What a returned acceleration is worth: a speed within the bound, and no more force than requested. -/
def Meets (velocity requested : Vector2 ℝ) (boundSquared : ℝ) (acceleration : Vector2 ℝ) : Prop :=
  (∃ endpoint, integrateAcceleratedVelocity velocity acceleration = .ok endpoint ∧
    endpoint.dot endpoint ≤ boundSquared) ∧ acceleration.dot acceleration ≤ requested.dot requested

namespace PropulsionStep

/-- A step that has to be projected. -/
structure Beyond (step : PropulsionStep ℝ) (requested : Vector2 ℝ) : Prop where
  integrates : integrateAcceleratedVelocity step.velocity requested = .ok step.requestedEndpoint
  zeroX : step.zero.x = 0
  zeroY : step.zero.y = 0
  squared : step.requestedSquared = requested.dot requested
  inside : step.velocity.dot step.velocity ≤ step.boundSquared
  outside : step.boundSquared < step.requestedEndpoint.dot step.requestedEndpoint

variable {step : PropulsionStep ℝ} {requested : Vector2 ℝ}

noncomputable def scale (step : PropulsionStep ℝ) : ℝ :=
  DiscProjection.scale step.boundSquared step.requestedEndpoint.x step.requestedEndpoint.y

theorem Beyond.target (beyond : step.Beyond requested) : ∃ target, step.requestedEndpoint.scale step.scale = .ok target ∧
    target.x = step.requestedEndpoint.x * step.scale ∧ target.y = step.requestedEndpoint.y * step.scale ∧
    target.dot target = step.boundSquared := by
  have nonneg : 0 ≤ step.boundSquared :=
    le_trans (add_nonneg (mul_self_nonneg _) (mul_self_nonneg _)) beyond.inside
  have lower := DiscProjection.scale_nonneg step.boundSquared step.requestedEndpoint.x step.requestedEndpoint.y
  have upper := DiscProjection.scale_lt_one nonneg beyond.outside
  obtain ⟨target, scaled⟩ := Vector2.scale_of_valid
    (validComponent_part step.requestedEndpoint.x_valid lower (le_of_lt upper))
    (validComponent_part step.requestedEndpoint.y_valid lower (le_of_lt upper))
  obtain ⟨x, y⟩ := Vector2.scale_eq_ok scaled
  refine ⟨target, scaled, x, y, ?_⟩
  rw [Vector2.dot, x, y]
  exact DiscProjection.on_rim nonneg beyond.outside

theorem Beyond.shorter (beyond : step.Beyond requested) {target : Vector2 ℝ}
    (x : target.x = step.requestedEndpoint.x * step.scale) (y : target.y = step.requestedEndpoint.y * step.scale) :
    (target.x - step.velocity.x) / fixedDeltaSeconds * ((target.x - step.velocity.x) / fixedDeltaSeconds) +
        (target.y - step.velocity.y) / fixedDeltaSeconds * ((target.y - step.velocity.y) / fixedDeltaSeconds) ≤
      requested.dot requested := by
  obtain ⟨endX, endY⟩ := integrate_eq_ok beyond.integrates
  have closer := DiscProjection.no_farther beyond.inside beyond.outside
  have delta : (fixedDeltaSeconds : ℝ) = 1 / 400 := fixedDeltaSeconds_real
  rw [← scale, ← x, ← y] at closer
  rw [endX, endY] at closer
  rw [delta] at closer ⊢
  rw [Vector2.dot]
  nlinarith [closer]

theorem Beyond.taken (beyond : step.Beyond requested) {target difference projected : Vector2 ℝ}
    (x : target.x = step.requestedEndpoint.x * step.scale) (y : target.y = step.requestedEndpoint.y * step.scale)
    (rim : target.dot target = step.boundSquared) (moves : target ≠ step.velocity)
    (subtracted : target.subtract step.velocity = .ok difference)
    (divided : difference.divide fixedDeltaSeconds = .ok projected) (steps : Nat) :
    step.scaleProjection (steps + 1) (some target) step.scale = .ok projected ∧
      Meets step.velocity requested step.boundSquared projected := by
  have delta : (fixedDeltaSeconds : ℝ) ≠ 0 := by
    rw [fixedDeltaSeconds_real]
    norm_num
  obtain ⟨differenceX, differenceY⟩ := Vector2.createForOperation_eq_ok subtracted
  obtain ⟨projectedX, projectedY⟩ := divide_eq_ok divided
  rw [differenceX] at projectedX
  rw [differenceY] at projectedY
  have short : projected.dot projected ≤ requested.dot requested := by
    rw [Vector2.dot, projectedX, projectedY]
    exact beyond.shorter x y
  have backX : step.velocity.x + projected.x * fixedDeltaSeconds = target.x := by
    rw [projectedX, div_mul_cancel₀ _ delta, add_sub_cancel]
  have backY : step.velocity.y + projected.y * fixedDeltaSeconds = target.y := by
    rw [projectedY, div_mul_cancel₀ _ delta, add_sub_cancel]
  obtain ⟨endpoint, integrated⟩ : ∃ endpoint, integrateAcceleratedVelocity step.velocity projected = .ok endpoint :=
    integrate_of_valid (backX ▸ target.x_valid) (backY ▸ target.y_valid)
  obtain ⟨endX, endY⟩ := integrate_eq_ok integrated
  have arrives : endpoint = target := vector_ext (endX.trans backX) (endY.trans backY)
  subst arrives
  have nonzero : projected ≠ step.zero := by
    intro still
    refine moves (vector_ext ?_ ?_)
    · rw [← backX, still, beyond.zeroX, zero_mul, add_zero]
    · rw [← backY, still, beyond.zeroY, zero_mul, add_zero]
  have unscaled : step.accelerationScale projected = 1 := by
    unfold accelerationScale
    exact if_neg (not_lt.mpr (beyond.squared ▸ short))
  have found : step.scaleAcceleration projected (maximumLocomotionRoundingStepCount + 1) 1 = .ok (some projected) := by
    rw [scaleAcceleration, if_pos rfl]
    dsimp only [throughEngine, bind, Except.bind]
    rw [if_neg nonzero, integrated]
    dsimp only
    rw [if_neg moves, if_pos ⟨beyond.squared ▸ short, le_of_eq rim⟩]
  refine ⟨?_, ⟨endpoint, integrated, le_of_eq rim⟩, short⟩
  rw [scaleProjection]
  dsimp only [throughEngine, bind, Except.bind]
  rw [subtracted]
  dsimp only
  rw [divided]
  dsimp only
  rw [unscaled, found]
  rfl

section Admitted

variable {target : Vector2 ℝ}
  (short : requested.dot requested ≤ maximumPhysicalComponentMagnitude * maximumPhysicalComponentMagnitude)
  (x : target.x = step.requestedEndpoint.x * step.scale) (y : target.y = step.requestedEndpoint.y * step.scale)

include short x y

theorem Beyond.projected_valid (beyond : step.Beyond requested) :
    ValidComponent ((target.x - step.velocity.x) / fixedDeltaSeconds) ∧
      ValidComponent ((target.y - step.velocity.y) / fixedDeltaSeconds) :=
  validComponent_of_dot short (beyond.shorter x y)

theorem Beyond.subtracts (beyond : step.Beyond requested) :
    ∃ difference, target.subtract step.velocity = .ok difference := by
  obtain ⟨validX, validY⟩ := beyond.projected_valid short x y
  have part : (0 : ℝ) ≤ fixedDeltaSeconds ∧ (fixedDeltaSeconds : ℝ) ≤ 1 ∧ (fixedDeltaSeconds : ℝ) ≠ 0 := by
    rw [fixedDeltaSeconds_real]
    norm_num
  have differenceX := validComponent_part validX part.1 part.2.1
  have differenceY := validComponent_part validY part.1 part.2.1
  rw [div_mul_cancel₀ _ part.2.2] at differenceX differenceY
  exact Vector2.createForOperation_of_valid differenceX differenceY _

theorem Beyond.divides (beyond : step.Beyond requested) {difference : Vector2 ℝ}
    (subtracted : target.subtract step.velocity = .ok difference) :
    ∃ projected, difference.divide fixedDeltaSeconds = .ok projected := by
  obtain ⟨validX, validY⟩ := beyond.projected_valid short x y
  obtain ⟨differenceX, differenceY⟩ := Vector2.createForOperation_eq_ok subtracted
  have nonzero : (fixedDeltaSeconds : ℝ) ≠ 0 := by
    rw [fixedDeltaSeconds_real]
    norm_num
  exact divide_of_valid nonzero (differenceX ▸ validX) (differenceY ▸ validY)

end Admitted

/-- A projection returns what meets the bounds, or the engine refuses one of its components. -/
theorem Beyond.outcome (beyond : step.Beyond requested) :
    (∃ refusal, step.project = .error (.simulation refusal) ∧
      maximumPhysicalComponentMagnitude * maximumPhysicalComponentMagnitude < requested.dot requested) ∨
    ∃ acceleration, step.project = .ok acceleration ∧ Meets step.velocity requested step.boundSquared acceleration := by
  obtain ⟨target, scaled, x, y, rim⟩ := beyond.target
  have starts : step.project = (if target = step.velocity then .ok step.zero
      else step.scaleProjection (maximumLocomotionRoundingStepCount + 1) (some target) step.scale) := by
    have first : step.requestedEndpoint.scale (Scalar.sqrt step.boundSquared /
        Scalar.sqrt (step.requestedEndpoint.dot step.requestedEndpoint)) = .ok target := scaled
    unfold project
    dsimp only
    rw [first]
    rfl
  by_cases moves : target = step.velocity
  · refine .inr ⟨step.zero, by rw [starts, if_pos moves], ⟨step.velocity, ?_, beyond.inside⟩, ?_⟩
    · have keepsX : step.velocity.x + step.zero.x * fixedDeltaSeconds = step.velocity.x := by
        rw [beyond.zeroX, zero_mul, add_zero]
      have keepsY : step.velocity.y + step.zero.y * fixedDeltaSeconds = step.velocity.y := by
        rw [beyond.zeroY, zero_mul, add_zero]
      obtain ⟨endpoint, integrated⟩ := integrate_of_valid
        (keepsX.symm ▸ step.velocity.x_valid) (keepsY.symm ▸ step.velocity.y_valid)
      obtain ⟨endX, endY⟩ := integrate_eq_ok integrated
      rw [integrated, vector_ext (endX.trans keepsX) (endY.trans keepsY)]
    · rw [Vector2.dot, beyond.zeroX, beyond.zeroY, mul_zero, add_zero]
      exact add_nonneg (mul_self_nonneg _) (mul_self_nonneg _)
  · rw [starts, if_neg moves, scaleProjection]
    dsimp only [throughEngine, bind, Except.bind]
    cases subtracted : target.subtract step.velocity with
    | error refusal =>
      refine .inl ⟨refusal, rfl, not_le.mp fun short => ?_⟩
      obtain ⟨difference, accepted⟩ := beyond.subtracts short x y
      rw [subtracted] at accepted
      cases accepted
    | ok difference =>
      dsimp only
      cases divided : difference.divide fixedDeltaSeconds with
      | error refusal =>
        refine .inl ⟨refusal, rfl, not_le.mp fun short => ?_⟩
        obtain ⟨projected, accepted⟩ := beyond.divides short x y subtracted
        rw [divided] at accepted
        cases accepted
      | ok projected =>
        obtain ⟨taken, meets⟩ := beyond.taken x y rim moves subtracted divided maximumLocomotionRoundingStepCount
        rw [scaleProjection] at taken
        dsimp only [throughEngine, bind, Except.bind] at taken
        rw [subtracted] at taken
        dsimp only at taken
        rw [divided] at taken
        exact .inr ⟨projected, taken, meets⟩

end PropulsionStep

/-- What a call answers. -/
inductive Answers (velocity requested : Vector2 ℝ) (boundSquared : ℝ) (answer : Except Failure (Vector2 ℝ)) : Prop where
  | unrepresentable (refusal : SimulationValidationError) :
      integrateAcceleratedVelocity velocity requested = .error refusal → answer = .error (.simulation refusal) →
      Answers velocity requested boundSquared answer
  | within (endpoint : Vector2 ℝ) : integrateAcceleratedVelocity velocity requested = .ok endpoint →
      endpoint.dot endpoint ≤ boundSquared → answer = .ok requested → Answers velocity requested boundSquared answer
  | refused (endpoint : Vector2 ℝ) (refusal : SimulationValidationError) :
      integrateAcceleratedVelocity velocity requested = .ok endpoint → boundSquared < endpoint.dot endpoint →
      maximumPhysicalComponentMagnitude * maximumPhysicalComponentMagnitude < requested.dot requested →
      answer = .error (.simulation refusal) → Answers velocity requested boundSquared answer
  | projected (endpoint acceleration : Vector2 ℝ) :
      integrateAcceleratedVelocity velocity requested = .ok endpoint → boundSquared < endpoint.dot endpoint →
      Meets velocity requested boundSquared acceleration → answer = .ok acceleration →
      Answers velocity requested boundSquared answer

section Steering

end Steering

section Refused

theorem validComponent_of_abs {value : ℝ} (within : |value| ≤ 1000000000000) : ValidComponent value :=
  validComponent_real.mpr (abs_le.mp within)

noncomputable def push : Vector2 ℝ :=
  ⟨1, 0, validComponent_of_abs (by norm_num), validComponent_of_abs (by norm_num)⟩

/-- A velocity and a request whose projection turns the request past the limit of one component. -/
noncomputable def turning : Vector2 ℝ :=
  ⟨-45250000000, 104375000000, validComponent_of_abs (by norm_num), validComponent_of_abs (by norm_num)⟩

end Refused

end BlobRoyale.Gameplay
