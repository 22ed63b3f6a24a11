import Mathlib.Analysis.Real.Sqrt
import Mathlib.Tactic.Linarith
import Mathlib.Tactic.Positivity
import Mathlib.Tactic.Ring
import Mathlib.Tactic.LinearCombination

/-!
# A disc passing a rectangle

When a closed disc is clear of a closed rectangle, and how far a disc that moves along a line
across the rectangle has to go until it is clear of it again.
-/

namespace BlobRoyale.Passage

/-- How far a coordinate lies outside `[0, extent]`. -/
noncomputable def overshoot (coordinate extent : ℝ) : ℝ := max 0 (max (-coordinate) (coordinate - extent))

/-- No point of the closed rectangle lies in the closed disc. -/
def DiscClear (width height radius x y : ℝ) : Prop :=
  ∀ px py : ℝ, 0 ≤ px → px ≤ width → 0 ≤ py → py ≤ height → radius ^ 2 < (px - x) ^ 2 + (py - y) ^ 2

section Overshoot

variable {coordinate extent : ℝ}

theorem overshoot_nonneg : 0 ≤ overshoot coordinate extent := le_max_left _ _

theorem overshoot_mirror : overshoot (extent - coordinate) extent = overshoot coordinate extent := by
  rw [overshoot, overshoot, max_comm (-(extent - coordinate))]
  congr 2 <;> ring

theorem overshoot_of_nonneg (lower : 0 ≤ coordinate) : overshoot coordinate extent = max 0 (coordinate - extent) := by
  refine le_antisymm (max_le (le_max_left _ _) (max_le ?_ (le_max_right _ _))) ?_
  · exact le_max_of_le_left (neg_nonpos.mpr lower)
  · exact max_le_max (le_refl 0) (le_max_right _ _)

theorem overshoot_of_le (upper : coordinate ≤ extent) : overshoot coordinate extent = max 0 (-coordinate) := by
  refine le_antisymm (max_le (le_max_left _ _) (max_le (le_max_right _ _) ?_)) ?_
  · exact le_max_of_le_left (by linarith)
  · exact max_le_max (le_refl 0) (le_max_left _ _)

theorem overshoot_of_within (lower : 0 ≤ coordinate) (upper : coordinate ≤ extent) :
    overshoot coordinate extent = 0 := by
  rw [overshoot_of_nonneg lower]
  exact max_eq_left (by linarith)

theorem overshoot_sq_le (coordinate : ℝ) {point : ℝ} (lower : 0 ≤ point) (upper : point ≤ extent) :
    overshoot coordinate extent ^ 2 ≤ (point - coordinate) ^ 2 := by
  have bound : overshoot coordinate extent ≤ |point - coordinate| := by
    refine max_le (abs_nonneg _) (max_le ?_ ?_)
    · linarith [le_abs_self (point - coordinate)]
    · linarith [neg_abs_le (point - coordinate)]
  calc overshoot coordinate extent ^ 2 ≤ |point - coordinate| ^ 2 := pow_le_pow_left₀ overshoot_nonneg bound 2
    _ = (point - coordinate) ^ 2 := sq_abs _

theorem exists_overshoot (coordinate : ℝ) (nonneg : 0 ≤ extent) :
    ∃ point, 0 ≤ point ∧ point ≤ extent ∧ (point - coordinate) ^ 2 = overshoot coordinate extent ^ 2 := by
  obtain below | above := le_total coordinate 0
  · have overshot : overshoot coordinate extent = -coordinate := by
      rw [overshoot, max_eq_left (by linarith : coordinate - extent ≤ -coordinate), max_eq_right (by linarith)]
    exact ⟨0, le_refl 0, nonneg, by rw [overshot]; ring⟩
  · obtain within | beyond := le_total coordinate extent
    · have overshot : overshoot coordinate extent = 0 := max_eq_left (max_le (by linarith) (by linarith))
      exact ⟨coordinate, above, within, by rw [overshot]; ring⟩
    · have overshot : overshoot coordinate extent = coordinate - extent := by
        rw [overshoot, max_eq_right (by linarith : -coordinate ≤ coordinate - extent), max_eq_right (by linarith)]
      exact ⟨extent, nonneg, le_refl extent, by rw [overshot]; ring⟩

end Overshoot

theorem discClear_iff {width height radius x y : ℝ} (wide : 0 ≤ width) (high : 0 ≤ height) :
    DiscClear width height radius x y ↔ radius ^ 2 < overshoot x width ^ 2 + overshoot y height ^ 2 := by
  constructor
  · intro clear
    obtain ⟨px, left, right, nearX⟩ := exists_overshoot x wide
    obtain ⟨py, low, top, nearY⟩ := exists_overshoot y high
    rw [← nearX, ← nearY]
    exact clear px py left right low top
  · intro far px py left right low top
    have nearX := overshoot_sq_le x left right
    have nearY := overshoot_sq_le y low top
    linarith

/-- The distance after which a disc moving in direction `(across, along)` is clear of a corner `room` across
and `depth` along the line from its centre, on the far side of both edges that meet there. -/
noncomputable def exitDistance (across along room depth radius : ℝ) : ℝ :=
  let offset := along * room - across * depth
  if across * radius ≤ offset then (depth + radius) / along
  else if along * radius ≤ -offset then (room + radius) / across
  else across * room + along * depth + Real.sqrt (radius ^ 2 - offset ^ 2)

/-- Whether a centre that far along is more than the radius beyond the two edges. -/
def BeyondEdges (across along room depth radius distance : ℝ) : Prop :=
  radius ^ 2 < max 0 (across * distance - room) ^ 2 + max 0 (along * distance - depth) ^ 2

section Exit

variable {across along room depth radius distance : ℝ}

/-- A disc that passes the corner at a distance clears the far edge and never the side one. -/
theorem beyond_far_edge (sideways : 0 ≤ across) (forward : 0 < along) (positive : 0 < radius)
    (inside : across * radius ≤ along * room - across * depth) :
    radius ^ 2 < max 0 (across * distance - room) ^ 2 + max 0 (along * distance - depth) ^ 2 ↔
      (depth + radius) / along < distance := by
  rw [div_lt_iff₀ forward]
  constructor
  · contrapose!
    intro near
    have drift : across * distance ≤ room := by
      have scaled : along * (across * distance) ≤ along * room := by nlinarith
      exact le_of_mul_le_mul_left scaled forward
    have side : max 0 (across * distance - room) = 0 := max_eq_left (by linarith)
    have ahead : max 0 (along * distance - depth) ≤ radius := max_le positive.le (by linarith)
    rw [side, zero_pow two_ne_zero, zero_add]
    exact pow_le_pow_left₀ (le_max_left _ _) ahead 2
  · intro beyond
    have ahead : radius < max 0 (along * distance - depth) := lt_max_of_lt_right (by linarith)
    have squared := pow_lt_pow_left₀ ahead positive.le two_ne_zero
    have side := sq_nonneg (max 0 (across * distance - room))
    linarith

/-- Where the far circle meets the line, the centre is past the edge the line crosses late. -/
theorem past_edge_at_root {root offset : ℝ} (sideways : 0 ≤ across) (forward : 0 ≤ along)
    (unit : across ^ 2 + along ^ 2 = 1) (rootNonneg : 0 ≤ root) (rootSq : root ^ 2 = radius ^ 2 - offset ^ 2)
    (passes : offset < across * radius) : 0 ≤ across * root - along * offset := by
  obtain near | far := le_total offset 0
  · have first := mul_nonneg sideways rootNonneg
    have second := mul_nonneg forward (neg_nonneg.mpr near)
    linarith
  · have squares : (along * offset) ^ 2 ≤ (across * root) ^ 2 := by
      have bound : offset ^ 2 ≤ (across * radius) ^ 2 := pow_le_pow_left₀ far passes.le 2
      calc (along * offset) ^ 2 = offset ^ 2 - across ^ 2 * offset ^ 2 := by
            linear_combination offset ^ 2 * unit
        _ ≤ (across * radius) ^ 2 - across ^ 2 * offset ^ 2 := by linarith
        _ = (across * root) ^ 2 := by linear_combination -across ^ 2 * rootSq
    have ordered := (pow_le_pow_iff_left₀ (mul_nonneg forward far) (mul_nonneg sideways rootNonneg) two_ne_zero).mp
      squares
    linarith

theorem beyond_corner (sideways : 0 ≤ across) (forward : 0 < along) (unit : across ^ 2 + along ^ 2 = 1)
    (positive : 0 < radius) {offset : ℝ} (passes : offset = along * room - across * depth)
    (left : offset < across * radius) (right : -offset < along * radius) :
    BeyondEdges across along room depth radius distance ↔
      across * room + along * depth + Real.sqrt (radius ^ 2 - offset ^ 2) < distance := by
  obtain ⟨root, known⟩ : ∃ root, root = Real.sqrt (radius ^ 2 - offset ^ 2) := ⟨_, rfl⟩
  have within : offset ^ 2 ≤ radius ^ 2 := by
    have first : across ≤ 1 := by nlinarith
    have second : along ≤ 1 := by nlinarith
    exact sq_le_sq' (by nlinarith) (by nlinarith)
  have rootNonneg : 0 ≤ root := known ▸ Real.sqrt_nonneg _
  have rootSq : root ^ 2 = radius ^ 2 - offset ^ 2 := by rw [known, Real.sq_sqrt (by linarith)]
  rw [← known]
  -- at the exit distance the centre is `acrossLeft` and `alongLeft` beyond the two edges
  have acrossAt : across * (across * room + along * depth + root) - room = across * root - along * offset := by
    rw [passes]
    linear_combination (room) * (unit)
  have alongAt : along * (across * room + along * depth + root) - depth = along * root + across * offset := by
    rw [passes]
    linear_combination (depth) * (unit)
  have acrossLeft := past_edge_at_root sideways forward.le unit rootNonneg rootSq left
  have alongLeft := @past_edge_at_root along across radius root (-offset) forward.le sideways (by linarith)
    rootNonneg (by linarith) right
  have atExit : (across * root - along * offset) ^ 2 + (along * root + across * offset) ^ 2 = radius ^ 2 := by
    linear_combination (root ^ 2 + offset ^ 2) * unit + rootSq
  constructor
  · unfold BeyondEdges
    contrapose!
    intro near
    have side : max 0 (across * distance - room) ≤ across * root - along * offset := by
      have moved := mul_le_mul_of_nonneg_left near sideways
      exact max_le acrossLeft (by linarith)
    have ahead : max 0 (along * distance - depth) ≤ along * root + across * offset := by
      have moved := mul_le_mul_of_nonneg_left near forward.le
      exact max_le (by linarith) (by linarith)
    have sideSq := pow_le_pow_left₀ (le_max_left _ _) side 2
    have aheadSq := pow_le_pow_left₀ (le_max_left _ _) ahead 2
    linarith
  · intro beyond
    have side : across * root - along * offset ≤ max 0 (across * distance - room) := by
      have moved := mul_le_mul_of_nonneg_left beyond.le sideways
      exact le_max_of_le_right (by linarith)
    have ahead : along * root + across * offset < max 0 (along * distance - depth) := by
      have moved := mul_lt_mul_of_pos_left beyond forward
      exact lt_max_of_lt_right (by linarith)
    have sideSq := pow_le_pow_left₀ acrossLeft side 2
    have aheadSq := pow_lt_pow_left₀ ahead (by linarith) two_ne_zero
    unfold BeyondEdges
    linarith

theorem beyondEdges_iff (sideways : 0 ≤ across) (forward : 0 < along) (unit : across ^ 2 + along ^ 2 = 1)
    (roomy : 0 ≤ room) (positive : 0 < radius) :
    BeyondEdges across along room depth radius distance ↔
      exitDistance across along room depth radius < distance := by
  unfold exitDistance
  dsimp only
  split
  · next inside => exact beyond_far_edge sideways forward positive inside
  · next near =>
    split
    · next outside =>
      have drifting : 0 < across := by
        refine lt_of_le_of_ne sideways fun still => ?_
        subst still
        nlinarith
      have swapped := @beyond_far_edge along across depth room radius distance forward.le drifting positive
        (by linarith)
      rw [BeyondEdges, add_comm]
      exact swapped
    · next meets => exact beyond_corner sideways forward unit positive rfl (by linarith) (by linarith)

end Exit

/-- How far a coordinate can drift before it leaves `[0, extent]`. -/
noncomputable def driftRoom (start extent drift : ℝ) : ℝ := if 0 ≤ drift then extent - start else start

section Crossing

variable {start breadth span drift along radius distance : ℝ}

theorem overshoot_drift (lower : 0 ≤ start) (upper : start ≤ breadth) (forward : 0 ≤ distance) :
    overshoot (start + drift * distance) breadth = max 0 (|drift| * distance - driftRoom start breadth drift) := by
  unfold driftRoom
  split
  · next rightwards =>
    have moved := mul_nonneg rightwards forward
    rw [abs_of_nonneg rightwards, overshoot_of_nonneg (by linarith)]
    congr 1
    ring
  · next leftwards =>
    have moved := mul_nonneg (neg_nonneg.mpr (not_le.mp leftwards).le) forward
    rw [abs_of_neg (not_le.mp leftwards), overshoot_of_le (by linarith)]
    congr 1
    ring

/-- A disc that starts two radii before one edge and is aimed at a point of the opposite edge is clear until it
meets the first edge and from its exit distance on. -/
theorem clear_along_crossing (lower : 0 ≤ start) (upper : start ≤ breadth) (forward : 0 < along)
    (unit : |drift| ^ 2 + along ^ 2 = 1) (positive : 0 < radius) (wide : 2 * radius < span)
    (aimed : |drift| * span ≤ along * driftRoom start breadth drift) (moved : 0 ≤ distance) :
    radius ^ 2 < overshoot (start + drift * distance) breadth ^ 2 +
        overshoot (along * distance - 2 * radius) span ^ 2 ↔
      along * distance < radius ∨
        exitDistance |drift| along (driftRoom start breadth drift) (span + 2 * radius) radius < distance := by
  have roomy : 0 ≤ driftRoom start breadth drift := by
    unfold driftRoom
    split <;> linarith
  rw [overshoot_drift lower upper moved, ← beyondEdges_iff (abs_nonneg drift) forward unit roomy positive]
  unfold BeyondEdges
  obtain before | entered := lt_or_ge (along * distance) radius
  · refine iff_of_true ?_ (.inl before)
    have ahead : radius < overshoot (along * distance - 2 * radius) span := by
      rw [overshoot_of_le (by linarith)]
      exact lt_max_of_lt_right (by linarith)
    have squared := pow_lt_pow_left₀ ahead positive.le two_ne_zero
    have side := sq_nonneg (max 0 (|drift| * distance - driftRoom start breadth drift))
    linarith
  · rw [or_iff_right (not_lt.mpr entered)]
    obtain entering | inside := le_total (along * distance) (2 * radius)
    · have still : |drift| * distance ≤ driftRoom start breadth drift := by
        refine le_of_mul_le_mul_left ?_ forward
        calc along * (|drift| * distance) = |drift| * (along * distance) := by ring
          _ ≤ |drift| * span := mul_le_mul_of_nonneg_left (by linarith) (abs_nonneg drift)
          _ ≤ along * driftRoom start breadth drift := aimed
      have ahead : overshoot (along * distance - 2 * radius) span ≤ radius := by
        rw [overshoot_of_le (by linarith)]
        exact max_le positive.le (by linarith)
      have squared := pow_le_pow_left₀ overshoot_nonneg ahead 2
      have side : max 0 (|drift| * distance - driftRoom start breadth drift) = 0 := max_eq_left (by linarith)
      have short : max 0 (along * distance - (span + 2 * radius)) = 0 := max_eq_left (by linarith)
      have square := sq_nonneg radius
      rw [side, short]
      exact iff_of_false (by linarith) (by linarith)
    · rw [overshoot_of_nonneg (by linarith), show along * distance - 2 * radius - span =
        along * distance - (span + 2 * radius) by ring]

end Crossing

end BlobRoyale.Passage
