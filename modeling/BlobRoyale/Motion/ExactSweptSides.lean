import BlobRoyale.Motion.ExactSweptCircle

/-!
# The sides of a swept capsule in exact arithmetic

A line query's one root, and the times a moving point is at the radius from a segment's line.
-/

namespace BlobRoyale.Simulation

open Passes Extremes

section Line

variable {start displacement boundary : ℝ}

theorem MotionTime.exists_real {value : ℝ} (within : 0 ≤ value ∧ value ≤ 1) :
    ∃ time : MotionTime ℝ, time.value = value := ⟨⟨value, isFinite_real value, within⟩, rfl⟩

theorem sweptLine_answers (moves : displacement ≠ 0) : ∃ times, sweptLineBoundaryRoots start displacement boundary =
    .ok times ∧ ((times = [] ∧ ∀ time : MotionTime ℝ, start + displacement * time.value ≠ boundary) ∨
      ∃ root, times = [root] ∧ start + displacement * root.value = boundary) := by
  have finite : ∀ (value : ℝ) (context : String), requireFinite value context = .ok () := fun value _ =>
    if_pos (isFinite_real value)
  have solves : ∀ value : ℝ, start + displacement * value = boundary ↔ value = (boundary - start) / displacement := by
    intro value
    rw [eq_div_iff moves, eq_sub_iff_add_eq', mul_comm]
  unfold sweptLineBoundaryRoots
  dsimp only
  rw [finite, finite, finite, finite]
  dsimp only [bind, Except.bind]
  rw [if_neg moves]
  split
  · next outside =>
    refine ⟨[], rfl, .inl ⟨rfl, fun time => ?_⟩⟩
    intro meets
    have low := time.within.1
    have high := time.within.2
    have offset : boundary - start = displacement * time.value := by linarith
    rw [offset] at outside
    obtain ⟨forward, before | beyond⟩ | ⟨backward, before | beyond⟩ := outside <;> nlinarith
  · next inside =>
    have within : 0 ≤ (boundary - start) / displacement ∧ (boundary - start) / displacement ≤ 1 := by
      rw [not_or, not_and, not_and, not_or, not_or, not_lt, not_lt, not_lt, not_lt] at inside
      obtain backward | forward := lt_or_gt_of_ne moves
      · obtain ⟨most, least⟩ := inside.2 backward
        exact ⟨div_nonneg_of_nonpos most backward.le, (div_le_one_of_neg backward).mpr least⟩
      · obtain ⟨least, most⟩ := inside.1 forward
        exact ⟨div_nonneg least forward.le, (div_le_one forward).mpr most⟩
    unfold acceptRoot
    rw [dif_pos (isFinite_real _), dif_pos within]
    exact ⟨_, rfl, .inr ⟨_, rfl, (solves _).mpr rfl⟩⟩

end Line

section Sides

variable {added : MotionTime ℝ → Prop}

/-- What the sides of a capsule are in exact arithmetic: a line's signed distance, and the offset of both. -/
structure CapsuleSides.StandsFor (sides : CapsuleSides ℝ) (begin motion offset : ℝ) : Prop where
  crossStart : sides.crossStart = .exact begin
  crossMotion : sides.crossMotion = .exact motion
  crossEnd : sides.crossEnd = .exact (begin + motion)
  startBoundary : sides.startBoundary = .exact (begin * begin - offset * offset)
  endBoundary : sides.endBoundary = .exact ((begin + motion) * (begin + motion) - offset * offset)
  sideOffset : sides.sideOffset = offset
  nonneg : 0 ≤ offset
  apart : 0 < sides.radius → 0 < offset
  moves : motion ≠ 0

variable {sides : CapsuleSides ℝ} {begin motion offset side : ℝ}

theorem on_side (nonneg : 0 ≤ offset) (which : side = -offset ∨ side = offset) {value : ℝ}
    (boundary : value * value - offset * offset = 0) (sign : (decide (side < 0) == decide (value < 0)) = true) :
    value = side := by
  rw [beq_iff_eq, decide_eq_decide] at sign
  obtain same | opposite := mul_self_eq_mul_self_iff.mp (sub_eq_zero.mp boundary)
  · obtain rfl | rfl := which
    · by_cases zero : offset = 0
      · rw [same, zero, neg_zero]
      · have negative : -offset < 0 := neg_lt_zero.mpr (lt_of_le_of_ne nonneg (Ne.symm zero))
        have wrong := sign.mp negative
        rw [same] at wrong
        exact absurd nonneg (not_le.mpr wrong)
    · exact same
  · obtain rfl | rfl := which
    · exact opposite
    · by_cases zero : side = 0
      · rw [opposite, zero, neg_zero]
      · have negative : value < 0 := opposite ▸ neg_lt_zero.mpr (lt_of_le_of_ne nonneg (Ne.symm zero))
        exact absurd nonneg (not_le.mpr (sign.mpr negative))

/-- One side adds the times its line is met, unless it was met before at the same time. -/
theorem CapsuleSides.addSide_keeps (stands : sides.StandsFor begin motion offset)
    (which : side = -offset ∨ side = offset) {pass : SidePass ℝ} (keeps : Keeps added pass.roots)
    (fresh : ∀ time, pass.prior = some time → begin + motion * time.value ≠ side ∨ ¬ 0 < sides.radius) :
    ∃ next, sides.addSide pass side = .ok next ∧
      Keeps (fun time => added time ∨ begin + motion * time.value = side) next.roots ∧
        ∀ time, next.prior = some time → pass.prior = some time ∨ begin + motion * time.value = side := by
  have once : ∀ {value root : ℝ}, begin + motion * root = side → (begin + motion * value = side ↔ value = root) := by
    intro value root meets
    rw [← meets, add_right_inj, mul_right_inj' stands.moves]
  unfold CapsuleSides.addSide
  dsimp only
  rw [stands.startBoundary, stands.endBoundary, stands.crossStart, stands.crossEnd, stands.crossMotion,
    Expansion.zero_eq, Expansion.zero_eq, Expansion.negative_eq, Expansion.negative_eq, Expansion.rounded_eq,
    Expansion.rounded_eq]
  split
  · next starts =>
    rw [Bool.and_eq_true, decide_eq_true_eq] at starts
    have meets : begin + motion * 0 = side := by
      rw [mul_zero, add_zero]
      exact on_side stands.nonneg which starts.1 starts.2
    obtain ⟨roots, adds, kept⟩ := addRoot_keeps keeps 0
    refine ⟨{ pass with roots := roots }, by rw [adds]; rfl, kept.congr fun time => ?_, fun time prior => .inl prior⟩
    rw [once meets]
  · split
    · next ends =>
      rw [Bool.and_eq_true, decide_eq_true_eq] at ends
      have meets : begin + motion * 1 = side := by
        rw [mul_one]
        exact on_side stands.nonneg which ends.1 ends.2
      obtain ⟨roots, adds, kept⟩ := addRoot_keeps keeps 1
      refine ⟨{ pass with roots := roots }, by rw [adds]; rfl, kept.congr fun time => ?_, fun time prior => .inl prior⟩
      rw [once meets]
    · obtain ⟨times, answers, ⟨rfl, misses⟩ | ⟨root, rfl, meets⟩⟩ :=
        @sweptLine_answers begin motion side stands.moves
      · rw [answers]
        refine ⟨pass, rfl, keeps.congr fun time => ?_, fun time prior => .inl prior⟩
        exact (or_iff_left (misses time)).symm
      · rw [answers]
        obtain ⟨roots, adds, kept⟩ := addRoot_keeps keeps root.value
        have distinct : ¬ (0 < sides.radius ∧ pass.prior = some root) := by
          rintro ⟨positive, prior⟩
          obtain elsewhere | still := fresh root prior
          · exact elsewhere meets
          · exact still positive
        refine ⟨⟨roots, some root⟩, ?_, kept.congr fun time => ?_, ?_⟩
        · dsimp only [bind, Except.bind]
          rw [List.foldlM_cons, CapsuleSides.addTime, if_neg distinct, adds]
          rfl
        · rw [once meets]
        · rintro time same
          rw [← Option.some.inj same]
          exact .inr meets

theorem CapsuleSides.bothSides_keeps (stands : sides.StandsFor begin motion offset) : ∃ pass,
    [-sides.sideOffset, sides.sideOffset].foldlM sides.addSide ⟨[], none⟩ = .ok pass ∧
      Keeps (fun time => begin + motion * time.value = -offset ∨ begin + motion * time.value = offset) pass.roots := by
  rw [stands.sideOffset]
  obtain ⟨middle, adds, keeps, prior⟩ := @addSide_keeps (fun _ => False) sides begin motion offset (-offset) stands
    (.inl rfl) ⟨[], none⟩ (.none fun _ => not_false) (by
      intro time impossible
      cases impossible)
  obtain ⟨final, again, complete, -⟩ := addSide_keeps stands (.inr rfl) keeps (by
    intro time same
    obtain impossible | meets := prior time same
    · cases impossible
    · by_cases positive : 0 < sides.radius
      · have offset_pos := stands.apart positive
        exact .inl (by rw [meets]; exact (neg_lt_self offset_pos).ne)
      · exact .inr positive)
  refine ⟨final, ?_, complete.congr fun time => ?_⟩
  · rw [List.foldlM_cons, adds]
    dsimp only [bind, Except.bind]
    rw [List.foldlM_cons, again]
    rfl
  · rw [false_or]

variable {mx my dx dy radius sx sy : ℝ}

/-- The signed distance of a moving point from a line, times the length of the line's direction. -/
def crossAt (mx my dx dy sx sy time : ℝ) : ℝ := (mx + dx * time) * sy - (my + dy * time) * sx

/-- The times the sides of a capsule give: on a line's boundary, or the tick's two ends along it. -/
def SideTime (mx my dx dy radius sx sy time : ℝ) : Prop :=
  crossAt mx my dx dy sx sy time * crossAt mx my dx dy sx sy time = radius * radius * (sx * sx + sy * sy) ∧
    (dx * sy - dy * sx = 0 → time = 0 ∨ time = 1)

theorem crossAt_eq (time : ℝ) : crossAt mx my dx dy sx sy time = mx * sy - my * sx + (dx * sy - dy * sx) * time := by
  unfold crossAt
  ring

theorem capsuleSideRoots_answers (_nonneg : 0 ≤ radius) (directed : 0 < sx * sx + sy * sy)
    (precise : ∀ length ∈ [mx, my, dx, dy, radius], Normalizes (largestLength mx my dx dy radius) length) :
    ∃ roots, capsuleSideRoots mx my dx dy radius sx sy = .ok roots ∧
      Keeps (fun time => SideTime mx my dx dy radius sx sy time.value) roots := by
  simp only [List.forall_mem_cons, List.not_mem_nil, IsEmpty.forall_iff, implies_true, and_true] at precise
  obtain ⟨one, two, three, four, five⟩ := precise
  unfold capsuleSideRoots
  dsimp only
  rw [requirePrecision_eq_ok.mpr one, requirePrecision_eq_ok.mpr two, requirePrecision_eq_ok.mpr three,
    requirePrecision_eq_ok.mpr four, requirePrecision_eq_ok.mpr five]
  obtain ⟨factor, is⟩ : ∃ factor, factor = normalization (largestLength mx my dx dy radius) := ⟨_, rfl⟩
  have positive : 0 < factor := is ▸ normalization_pos _
  simp only [scalbn_normalization, ← is, Expansion.empty_eq, Expansion.addProduct_eq, Expansion.addProducts_eq,
    Expansion.addExpansion_eq, Expansion.zero_eq, Expansion.rounded_eq, bind, Except.bind, zero_add, one_mul,
    decide_eq_true_eq]
  obtain ⟨offset, root⟩ : ∃ offset, offset =
    Scalar.sqrt (radius * factor * (radius * factor) * (sx * sx + sy * sy)) := ⟨_, rfl⟩
  have squared : radius * factor * (radius * factor) * (sx * sx + sy * sy) = offset * offset := by
    rw [root]
    exact (Real.mul_self_sqrt (mul_nonneg (mul_self_nonneg _) directed.le)).symm
  have motion : dx * factor * sy + -(dy * factor) * sx = factor * (dx * sy - dy * sx) := by ring
  have begin : mx * factor * sy + -(my * factor) * sx = factor * (mx * sy - my * sx) := by ring
  rw [← root, squared, motion, begin]
  have onBoundary : ∀ time, factor * crossAt mx my dx dy sx sy time * (factor * crossAt mx my dx dy sx sy time) =
      offset * offset ↔ crossAt mx my dx dy sx sy time * crossAt mx my dx dy sx sy time =
        radius * radius * (sx * sx + sy * sy) := by
    intro time
    rw [← squared]
    constructor
    · intro same
      refine mul_left_cancel₀ (mul_ne_zero positive.ne' positive.ne') ?_
      linear_combination same
    · intro same
      linear_combination factor * factor * same
  by_cases still : dx * sy - dy * sx = 0
  · rw [if_pos (by rw [still, mul_zero])]
    have constant : ∀ time, crossAt mx my dx dy sx sy time = mx * sy - my * sx := by
      intro time
      rw [crossAt_eq, still, zero_mul, add_zero]
    have starts : factor * (mx * sy - my * sx) * (factor * (mx * sy - my * sx)) + -1 * (offset * offset) = 0 ↔
        (mx * sy - my * sx) * (mx * sy - my * sx) = radius * radius * (sx * sx + sy * sy) := by
      rw [← constant 0, ← onBoundary, neg_one_mul, ← sub_eq_add_neg, sub_eq_zero]
    by_cases on : (mx * sy - my * sx) * (mx * sy - my * sx) = radius * radius * (sx * sx + sy * sy)
    · rw [if_pos (starts.mpr on)]
      obtain ⟨kept, folds, keeps⟩ := accumulateRoots_keeps [0, 1]
      refine ⟨kept, folds, keeps.congr fun time => ?_⟩
      rw [SideTime, constant, and_iff_right on, List.mem_pair]
      exact ⟨fun either _ => either, fun either => either still⟩
    · rw [if_neg (starts.not.mpr on)]
      obtain ⟨kept, folds, keeps⟩ := accumulateRoots_keeps []
      refine ⟨kept, folds, keeps.congr fun time => ?_⟩
      rw [SideTime, constant]
      exact ⟨fun impossible => absurd impossible List.not_mem_nil, fun side => absurd side.1 on⟩
  · have moves : factor * (dx * sy - dy * sx) ≠ 0 := mul_ne_zero positive.ne' still
    rw [if_neg moves]
    have stands : CapsuleSides.StandsFor ⟨radius, .exact (factor * (mx * sy - my * sx)),
        .exact (factor * (dx * sy - dy * sx)), .exact (factor * (mx * sy - my * sx) + factor * (dx * sy - dy * sx)),
        .exact (factor * (mx * sy - my * sx) * (factor * (mx * sy - my * sx)) + -1 * (offset * offset)),
        .exact ((factor * (mx * sy - my * sx) + factor * (dx * sy - dy * sx)) *
          (factor * (mx * sy - my * sx) + factor * (dx * sy - dy * sx)) + -1 * (offset * offset)), offset⟩
        (factor * (mx * sy - my * sx)) (factor * (dx * sy - dy * sx)) offset := by
      refine ⟨rfl, rfl, rfl, congrArg Expansion.exact (by ring), congrArg Expansion.exact (by ring), rfl,
        root ▸ Real.sqrt_nonneg _, ?_, moves⟩
      intro wide
      rw [root]
      exact Real.sqrt_pos.mpr (mul_pos (mul_pos (mul_pos wide positive) (mul_pos wide positive)) directed)
    obtain ⟨pass, folds, keeps⟩ := CapsuleSides.bothSides_keeps stands
    rw [folds]
    refine ⟨pass.roots, rfl, keeps.congr fun time => ?_⟩
    have line : factor * (mx * sy - my * sx) + factor * (dx * sy - dy * sx) * time.value =
        factor * crossAt mx my dx dy sx sy time.value := by
      rw [crossAt_eq]
      ring
    rw [SideTime, ← onBoundary, and_iff_left fun zero => absurd zero still, line, mul_self_eq_mul_self_iff, or_comm]

end Sides

end BlobRoyale.Simulation
