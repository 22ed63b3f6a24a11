import BlobRoyale.Gameplay.HazardSpawnSystem
import BlobRoyale.Library.DiscPassage
import BlobRoyale.Motion.ExactMotion

/-!
# When a crossing hazard has left

The clearance is laid along the entry edge's normal, the travel distance along the drawn direction: a
lifetime covers the exit only when its whole ticks carry the disc past the exit distance.
-/

namespace BlobRoyale.Gameplay

open Simulation Passage

noncomputable instance : RoundedScalar ℝ where
  ceil value := ((⌈value⌉ : ℤ) : ℝ)
  toWhole value := ⌊value⌋₊

namespace CrossingDraw

variable (drawn : CrossingDraw ℝ) (bounds : ArenaBounds ℝ)

/-- The arena extent a crossing spans: the height from top or bottom, the width from a side. -/
def span : ℝ := if (drawn.edge % hazardEntryEdgeCount).toNat % 2 = 0 then bounds.height else bounds.width

/-- The extent of the edge a crossing enters through. -/
def breadth : ℝ := if (drawn.edge % hazardEntryEdgeCount).toNat % 2 = 0 then bounds.width else bounds.height

def entry : ℝ := drawn.entryAlong * drawn.breadth bounds

/-- How far along the edges the two drawn points are apart. -/
def lateral : ℝ := drawn.exitAlong * drawn.breadth bounds - drawn.entry bounds

noncomputable def length : ℝ := Real.sqrt (drawn.span bounds ^ 2 + drawn.lateral bounds ^ 2)

theorem length_of_square (square : ℝ) (same : square = drawn.span bounds ^ 2 + drawn.lateral bounds ^ 2) :
    Scalar.sqrt square = drawn.length bounds := congrArg Real.sqrt same

noncomputable def drift : ℝ := drawn.lateral bounds / drawn.length bounds

/-- The part of the direction across the arena. -/
noncomputable def heading : ℝ := drawn.span bounds / drawn.length bounds

/-- How far the disc goes until it is clear of the arena on the other side. -/
noncomputable def exit (radius : ℝ) : ℝ :=
  exitDistance |drawn.drift bounds| (drawn.heading bounds)
    (driftRoom (drawn.entry bounds) (drawn.breadth bounds) (drawn.drift bounds))
    (drawn.span bounds + (radius + radius)) radius

/-- No whole number of steps that covers the travel distance falls short of the exit distance; where the longest
lifetime does not cover the travel distance, its steps end past the exit distance or before the arena. -/
def TicksCoverExit (radius step : ℝ) : Prop :=
  if drawn.length bounds + 4 * radius ≤ maximumProtocolSafeInteger * step then
    ∀ ticks : ℕ, drawn.length bounds + 4 * radius ≤ ticks * step → drawn.exit bounds radius < ticks * step
  else drawn.heading bounds * (maximumProtocolSafeInteger * step) < radius ∨
    drawn.exit bounds radius < maximumProtocolSafeInteger * step

end CrossingDraw

/-- The disc is clear of the arena where the crossing starts and where it is when its lifetime is over. -/
def HazardCrossing.Leaves (crossing : HazardCrossing ℝ) (bounds : ArenaBounds ℝ) (radius speed seconds : ℝ) :
    Prop :=
  let lived := hazardLifetimeTicks crossing.travelDistance speed seconds * seconds
  DiscClear bounds.width bounds.height radius crossing.position.x crossing.position.y ∧
    DiscClear bounds.width bounds.height radius (crossing.position.x + crossing.velocity.x * lived)
      (crossing.position.y + crossing.velocity.y * lived)

theorem opposite_edge (edge : UInt64) : ((edge + 2) % hazardEntryEdgeCount).toNat =
    ((edge % hazardEntryEdgeCount).toNat + 2) % 4 := by
  have modulus : hazardEntryEdgeCount.toNat = 4 := rfl
  rw [UInt64.toNat_mod, UInt64.toNat_mod, UInt64.toNat_add, modulus]
  have two : (2 : UInt64).toNat = 2 := rfl
  rw [two]
  omega

theorem edge_cases (edge : UInt64) :
    (edge % hazardEntryEdgeCount).toNat = 0 ∨ (edge % hazardEntryEdgeCount).toNat = 1 ∨
      (edge % hazardEntryEdgeCount).toNat = 2 ∨ (edge % hazardEntryEdgeCount).toNat = 3 := by
  have modulus : hazardEntryEdgeCount.toNat = 4 := rfl
  rw [UInt64.toNat_mod, modulus]
  omega

section Frame

variable {drawn : CrossingDraw ℝ} {bounds : ArenaBounds ℝ} {radius speed : ℝ} {crossing : HazardCrossing ℝ}

theorem crossingBetween_frame
    (made : crossingBetween drawn.edge drawn.entryAlong drawn.exitAlong bounds radius speed = .ok crossing) :
    crossing.travelDistance = drawn.length bounds + 4 * radius ∧
      ∀ time, DiscClear bounds.width bounds.height radius (crossing.position.x + crossing.velocity.x * time)
          (crossing.position.y + crossing.velocity.y * time) ↔
        radius ^ 2 < overshoot (drawn.entry bounds + drawn.drift bounds * (speed * time)) (drawn.breadth bounds) ^ 2 +
          overshoot (drawn.heading bounds * (speed * time) - 2 * radius) (drawn.span bounds) ^ 2 := by
  obtain ⟨entry, entered, made⟩ := bind_eq_ok.mp made
  obtain ⟨exit, left, made⟩ := bind_eq_ok.mp made
  obtain ⟨direction, aimed, made⟩ := bind_eq_ok.mp made
  obtain ⟨normal, outward, made⟩ := bind_eq_ok.mp made
  obtain ⟨position, placed, made⟩ := bind_eq_ok.mp made
  obtain ⟨velocity, moving, made⟩ := bind_eq_ok.mp made
  cases made
  obtain ⟨directionX, directionY⟩ := Vector2.createForOperation_eq_ok aimed
  obtain ⟨positionX, positionY⟩ := Vector2.createForOperation_eq_ok placed
  obtain ⟨velocityX, velocityY⟩ := Vector2.createForOperation_eq_ok moving
  have width := bounds.width_admitted.2.1.le
  have height := bounds.height_admitted.2.1.le
  simp only [positionX, positionY, velocityX, velocityY, directionX, directionY, discClear_iff width height]
  unfold pointOnEdge at entered left
  unfold outwardNormal at outward
  rw [opposite_edge] at left
  have clearance : (hazardEntryClearanceRadii : ℝ) * radius = 2 * radius := by norm_num [hazardEntryClearanceRadii]
  have travels : ∀ length, travelDistanceOf length radius = length + 4 * radius := by
    intro length
    rw [travelDistanceOf, clearance]
    push_cast
    ring
  rw [travels, clearance]
  obtain edge | edge | edge | edge := edge_cases drawn.edge
  · rw [edge] at entered left outward
    obtain ⟨entryX, entryY⟩ := Vector2.createForOperation_eq_ok entered
    obtain ⟨exitX, exitY⟩ := Vector2.createForOperation_eq_ok left
    obtain ⟨normalX, normalY⟩ := Vector2.createForOperation_eq_ok outward
    have spans : drawn.span bounds = bounds.height := by simp [CrossingDraw.span, edge]
    have broad : drawn.breadth bounds = bounds.width := by simp [CrossingDraw.breadth, edge]
    simp only [entryX, entryY, exitX, exitY, normalX, normalY]
    rw [drawn.length_of_square bounds _ (by rw [spans, CrossingDraw.lateral, CrossingDraw.entry, broad]; ring)]
    refine ⟨rfl, fun time => ?_⟩
    rw [CrossingDraw.heading, CrossingDraw.drift, CrossingDraw.lateral, CrossingDraw.entry, spans, broad]
    refine iff_of_eq (congrArg _ ?_)
    congr 3
    · ring
    · ring
  · rw [edge] at entered left outward
    obtain ⟨entryX, entryY⟩ := Vector2.createForOperation_eq_ok entered
    obtain ⟨exitX, exitY⟩ := Vector2.createForOperation_eq_ok left
    obtain ⟨normalX, normalY⟩ := Vector2.createForOperation_eq_ok outward
    have spans : drawn.span bounds = bounds.width := by simp [CrossingDraw.span, edge]
    have broad : drawn.breadth bounds = bounds.height := by simp [CrossingDraw.breadth, edge]
    simp only [entryX, entryY, exitX, exitY, normalX, normalY]
    rw [drawn.length_of_square bounds _ (by rw [spans, CrossingDraw.lateral, CrossingDraw.entry, broad]; ring)]
    refine ⟨rfl, fun time => ?_⟩
    rw [CrossingDraw.heading, CrossingDraw.drift, CrossingDraw.lateral, CrossingDraw.entry, spans, broad]
    rw [← @overshoot_mirror (bounds.width / drawn.length bounds * (speed * time) - 2 * radius), add_comm]
    refine iff_of_eq (congrArg _ ?_)
    congr 3
    · ring
    · ring
  · rw [edge] at entered left outward
    obtain ⟨entryX, entryY⟩ := Vector2.createForOperation_eq_ok entered
    obtain ⟨exitX, exitY⟩ := Vector2.createForOperation_eq_ok left
    obtain ⟨normalX, normalY⟩ := Vector2.createForOperation_eq_ok outward
    have spans : drawn.span bounds = bounds.height := by simp [CrossingDraw.span, edge]
    have broad : drawn.breadth bounds = bounds.width := by simp [CrossingDraw.breadth, edge]
    simp only [entryX, entryY, exitX, exitY, normalX, normalY]
    rw [drawn.length_of_square bounds _ (by rw [spans, CrossingDraw.lateral, CrossingDraw.entry, broad]; ring)]
    refine ⟨rfl, fun time => ?_⟩
    rw [CrossingDraw.heading, CrossingDraw.drift, CrossingDraw.lateral, CrossingDraw.entry, spans, broad]
    rw [← @overshoot_mirror (bounds.height / drawn.length bounds * (speed * time) - 2 * radius)]
    refine iff_of_eq (congrArg _ ?_)
    congr 3
    · ring
    · ring
  · rw [edge] at entered left outward
    obtain ⟨entryX, entryY⟩ := Vector2.createForOperation_eq_ok entered
    obtain ⟨exitX, exitY⟩ := Vector2.createForOperation_eq_ok left
    obtain ⟨normalX, normalY⟩ := Vector2.createForOperation_eq_ok outward
    have spans : drawn.span bounds = bounds.width := by simp [CrossingDraw.span, edge]
    have broad : drawn.breadth bounds = bounds.height := by simp [CrossingDraw.breadth, edge]
    simp only [entryX, entryY, exitX, exitY, normalX, normalY]
    rw [drawn.length_of_square bounds _ (by rw [spans, CrossingDraw.lateral, CrossingDraw.entry, broad]; ring)]
    refine ⟨rfl, fun time => ?_⟩
    rw [CrossingDraw.heading, CrossingDraw.drift, CrossingDraw.lateral, CrossingDraw.entry, spans, broad]
    rw [add_comm]
    refine iff_of_eq (congrArg _ ?_)
    congr 3
    · ring
    · ring

end Frame

theorem nextUnitInterval_bounds (random : DeterministicRandom) :
    (0 : ℝ) ≤ random.nextUnitInterval.1 ∧ (random.nextUnitInterval.1 : ℝ) < 1 := by
  have bits : (random.nextBits.1 >>> 11).toNat < 9007199254740992 := by
    rw [UInt64.toNat_shiftRight]
    have bound := random.nextBits.1.toNat_lt
    have shift : (11 : UInt64).toNat % 64 = 11 := rfl
    rw [shift, Nat.shiftRight_eq_div_pow]
    omega
  have below : (((random.nextBits.1 >>> 11).toNat : Nat) : ℝ) < ((9007199254740992 : Nat) : ℝ) :=
    Nat.cast_lt.mpr bits
  exact ⟨div_nonneg (Nat.cast_nonneg _) (Nat.cast_nonneg _), (div_lt_one (by norm_num)).mpr below⟩

theorem drawCrossing_bounds {random rest : DeterministicRandom} {drawn : CrossingDraw ℝ}
    (draws : drawCrossing random = .ok (drawn, rest)) :
    (0 ≤ drawn.entryAlong ∧ drawn.entryAlong < 1) ∧ 0 ≤ drawn.exitAlong ∧ drawn.exitAlong < 1 := by
  obtain ⟨⟨edge, afterEdge⟩, -, draws⟩ := bind_eq_ok.mp draws
  cases draws
  exact ⟨nextUnitInterval_bounds _, nextUnitInterval_bounds _⟩

/-- A lifetime is the fewest whole ticks that cover the travel distance, unless it is clamped. -/
theorem hazardLifetimeTicks_spec {travel speed seconds : ℝ} (far : 0 < travel) (moving : 0 < speed)
    (ticking : 0 < seconds) :
    (travel ≤ maximumProtocolSafeInteger * (speed * seconds) →
      ∀ ticks : ℕ, travel ≤ ticks * (speed * seconds) ↔ hazardLifetimeTicks travel speed seconds ≤ ticks) ∧
    (maximumProtocolSafeInteger * (speed * seconds) < travel →
      hazardLifetimeTicks travel speed seconds = maximumProtocolSafeInteger) := by
  have step := mul_pos moving ticking
  have quotient : travel / speed / seconds = travel / (speed * seconds) := div_div _ _ _
  have whole : ((⌈travel / (speed * seconds)⌉₊ : ℕ) : ℝ) = ((⌈travel / (speed * seconds)⌉ : ℤ) : ℝ) :=
    natCast_ceil_eq_intCast_ceil (div_pos far step).le
  have counts : hazardLifetimeTicks travel speed seconds =
      if maximumProtocolSafeInteger ≤ ⌈travel / (speed * seconds)⌉₊ then maximumProtocolSafeInteger
      else ⌈travel / (speed * seconds)⌉₊ := by
    have positive : 1 ≤ ⌈travel / (speed * seconds)⌉₊ := Nat.ceil_pos.mpr (div_pos far step)
    have ceiling : RoundedScalar.ceil (travel / speed / seconds) = ((⌈travel / (speed * seconds)⌉₊ : ℕ) : ℝ) := by
      rw [quotient, whole]
      rfl
    unfold hazardLifetimeTicks
    dsimp only
    rw [ceiling, if_pos (Nat.one_le_cast.mpr positive)]
    simp only [Nat.cast_le]
    split
    · rfl
    · exact Nat.floor_natCast _
  rw [counts]
  constructor
  · intro fits ticks
    rw [← div_le_iff₀ step, ← Nat.ceil_le] at fits ⊢
    split
    · next clamped => rw [Nat.le_antisymm fits clamped]
    · rfl
  · intro short
    rw [if_pos]
    exact (Nat.lt_ceil.mpr ((lt_div_iff₀ step).mpr short)).le

section Passage

variable {drawn : CrossingDraw ℝ} {bounds : ArenaBounds ℝ} {radius speed seconds : ℝ}
variable {crossing : HazardCrossing ℝ} {random rest : DeterministicRandom}

theorem CrossingDraw.span_pos : 0 < drawn.span bounds := by
  unfold span
  split
  · exact bounds.height_admitted.2.1
  · exact bounds.width_admitted.2.1

theorem CrossingDraw.breadth_pos : 0 < drawn.breadth bounds := by
  unfold breadth
  split
  · exact bounds.width_admitted.2.1
  · exact bounds.height_admitted.2.1

theorem CrossingDraw.length_pos : 0 < drawn.length bounds := by
  have square := pow_pos (@span_pos drawn bounds) 2
  exact Real.sqrt_pos.mpr (add_pos_of_pos_of_nonneg square (sq_nonneg _))

theorem CrossingDraw.unit_direction : |drawn.drift bounds| ^ 2 + drawn.heading bounds ^ 2 = 1 := by
  have square : drawn.length bounds ^ 2 = drawn.span bounds ^ 2 + drawn.lateral bounds ^ 2 :=
    Real.sq_sqrt (add_nonneg (sq_nonneg _) (sq_nonneg _))
  have nonzero := pow_ne_zero 2 (@length_pos drawn bounds).ne'
  rw [sq_abs, drift, heading, div_pow, div_pow, ← add_div, div_eq_one_iff_eq nonzero, square, add_comm]

theorem CrossingDraw.aimed (ends : 0 ≤ drawn.exitAlong ∧ drawn.exitAlong < 1) :
    |drawn.drift bounds| * drawn.span bounds ≤
      drawn.heading bounds * driftRoom (drawn.entry bounds) (drawn.breadth bounds) (drawn.drift bounds) := by
  have broad := @breadth_pos drawn bounds
  have long := @length_pos drawn bounds
  have scaled : drawn.drift bounds * drawn.length bounds = drawn.lateral bounds := div_mul_cancel₀ _ long.ne'
  have apart : |drawn.lateral bounds| ≤ driftRoom (drawn.entry bounds) (drawn.breadth bounds) (drawn.drift bounds) := by
    unfold driftRoom
    split
    · next rightwards =>
      have lateral : 0 ≤ drawn.lateral bounds := scaled ▸ mul_nonneg rightwards long.le
      rw [abs_of_nonneg lateral]
      unfold CrossingDraw.lateral
      nlinarith [ends.2]
    · next leftwards =>
      have lateral : drawn.lateral bounds < 0 := scaled ▸ mul_neg_of_neg_of_pos (not_le.mp leftwards) long
      rw [abs_of_neg lateral]
      unfold CrossingDraw.lateral
      nlinarith [ends.1]
  rw [drift, heading, abs_div, abs_of_pos long, div_mul_eq_mul_div, div_mul_eq_mul_div, mul_comm (|_|)]
  exact div_le_div_of_nonneg_right (mul_le_mul_of_nonneg_left apart span_pos.le) long.le

theorem leaves_iff_ticksCoverExit
    (between : crossingBetween drawn.edge drawn.entryAlong drawn.exitAlong bounds radius speed = .ok crossing)
    (starts : 0 ≤ drawn.entryAlong ∧ drawn.entryAlong < 1) (ends : 0 ≤ drawn.exitAlong ∧ drawn.exitAlong < 1)
    (positive : 0 < radius) (wide : 2 * radius < bounds.width) (high : 2 * radius < bounds.height)
    (moving : 0 < speed) (ticking : 0 < seconds) :
    crossing.Leaves bounds radius speed seconds ↔ drawn.TicksCoverExit bounds radius (speed * seconds) := by
  obtain ⟨travels, frame⟩ := crossingBetween_frame between
  have broad := @CrossingDraw.breadth_pos drawn bounds
  have long := @CrossingDraw.length_pos drawn bounds
  have spanned : 2 * radius < drawn.span bounds := by
    unfold CrossingDraw.span
    split
    · exact high
    · exact wide
  have heads : 0 < drawn.heading bounds := div_pos CrossingDraw.span_pos long
  -- whether the disc is clear when it has moved a distance
  have clear : ∀ time, 0 ≤ time → (DiscClear bounds.width bounds.height radius
      (crossing.position.x + crossing.velocity.x * time) (crossing.position.y + crossing.velocity.y * time) ↔
      drawn.heading bounds * (speed * time) < radius ∨ drawn.exit bounds radius < speed * time) := by
    intro time elapsed
    have before : 0 ≤ drawn.entry bounds := mul_nonneg starts.1 broad.le
    have inside : drawn.entry bounds ≤ drawn.breadth bounds := mul_le_of_le_one_left broad.le starts.2.le
    rw [CrossingDraw.exit, ← two_mul]
    exact (frame time).trans (clear_along_crossing before inside heads CrossingDraw.unit_direction positive spanned
      (CrossingDraw.aimed ends) (mul_nonneg moving.le elapsed))
  have start : DiscClear bounds.width bounds.height radius crossing.position.x crossing.position.y := by
    have initially := (clear 0 le_rfl).mpr (.inl (by simpa using positive))
    simpa using initially
  have travel : 0 < drawn.length bounds + 4 * radius := by linarith
  obtain ⟨fewest, clamped⟩ := hazardLifetimeTicks_spec travel moving ticking
  have lived : ∀ ticks : ℕ, speed * (ticks * seconds) = ticks * (speed * seconds) := fun ticks => by ring
  unfold HazardCrossing.Leaves CrossingDraw.TicksCoverExit
  dsimp only
  rw [travels, and_iff_right start, clear _ (mul_nonneg (Nat.cast_nonneg _) ticking.le), lived]
  split
  · next fits =>
    have covered := (fewest fits _).mpr le_rfl
    have entered : radius ≤ drawn.heading bounds *
        (hazardLifetimeTicks (drawn.length bounds + 4 * radius) speed seconds * (speed * seconds)) := by
      have crossed : drawn.span bounds ≤ drawn.heading bounds *
          (hazardLifetimeTicks (drawn.length bounds + 4 * radius) speed seconds * (speed * seconds)) := by
        calc drawn.span bounds = drawn.heading bounds * drawn.length bounds := by
              rw [CrossingDraw.heading, div_mul_cancel₀ _ long.ne']
          _ ≤ _ := mul_le_mul_of_nonneg_left (by linarith) heads.le
      linarith
    rw [or_iff_right (not_lt.mpr entered)]
    constructor
    · intro exits ticks covers
      have more := (fewest fits ticks).mp covers
      have ordered : ((hazardLifetimeTicks (drawn.length bounds + 4 * radius) speed seconds : ℕ) : ℝ) ≤ ticks :=
        Nat.cast_le.mpr more
      have further := mul_le_mul_of_nonneg_right ordered (mul_pos moving ticking).le
      linarith
    · intro exits
      exact exits _ covered
  · next short => rw [clamped (not_le.mp short)]

/-- A hazard's disc has left when its lifetime is over exactly when the ticks of that lifetime cover its exit. -/
theorem hazard_leaves_iff (drew : drawHazardCrossing random bounds radius speed = .ok (crossing, rest))
    (positive : 0 < radius) (wide : 2 * radius < bounds.width) (high : 2 * radius < bounds.height)
    (moving : 0 < speed) (ticking : 0 < seconds) :
    ∃ drawn, drawCrossing random = .ok (drawn, rest) ∧
      (crossing.Leaves bounds radius speed seconds ↔ drawn.TicksCoverExit bounds radius (speed * seconds)) := by
  obtain ⟨⟨drawn, afterDraws⟩, draws, made⟩ := bind_eq_ok.mp drew
  obtain ⟨made, between, committed⟩ := bind_eq_ok.mp made
  cases committed
  obtain ⟨starts, ends⟩ := drawCrossing_bounds draws
  exact ⟨drawn, draws, leaves_iff_ticksCoverExit between starts ends positive wide high moving ticking⟩

end Passage

section Shallow

theorem rejectionThreshold_edgeCount :
    (DeterministicRandom.rejectionThreshold hazardEntryEdgeCount).toNat = 0 := by decide +kernel

theorem nextAtLeast_of_le {threshold : UInt64} {random : DeterministicRandom}
    (accepted : threshold.toNat ≤ random.nextBits.1.toNat) : random.nextAtLeast threshold = random.nextBits := by
  rw [DeterministicRandom.nextAtLeast.eq_def]
  exact if_neg fun rejected => not_lt.mpr accepted (UInt64.lt_iff_toNat_lt.mp rejected)

theorem nextBelow_edgeCount (random : DeterministicRandom) :
    random.nextBelow hazardEntryEdgeCount = .ok (random.nextBits.1 % hazardEntryEdgeCount, random.nextBits.2) := by
  have nonzero : hazardEntryEdgeCount ≠ 0 := by decide
  have accepted := @nextAtLeast_of_le (DeterministicRandom.rejectionThreshold hazardEntryEdgeCount) random
    (by rw [rejectionThreshold_edgeCount]; exact Nat.zero_le _)
  rw [DeterministicRandom.nextBelow, if_neg nonzero, accepted]

def shallowArena : ArenaBounds ℝ where
  width := 1000
  height := 20
  width_admitted := ⟨rfl, by norm_num, by norm_num [maximumWorldDimension]⟩
  height_admitted := ⟨rfl, by norm_num, by norm_num [maximumWorldDimension]⟩

/-- What the stream of seed 49 draws first: the top edge, entered at about 0.35 and aimed at about 0.84. -/
noncomputable def shallowDraw : CrossingDraw ℝ where
  edge := 0
  entryAlong := ((3167649309544874 : Nat) : ℝ) / ((9007199254740992 : Nat) : ℝ)
  exitAlong := ((7547391592598636 : Nat) : ℝ) / ((9007199254740992 : Nat) : ℝ)

theorem drawCrossing_shallow : ∃ rest, drawCrossing (.create 49) = .ok (shallowDraw, rest) := by
  have edge : (DeterministicRandom.create 49).nextBits.1 % hazardEntryEdgeCount = 0 := by decide +kernel
  have entry : ((DeterministicRandom.create 49).nextBits.2.nextBits.1 >>> 11).toNat = 3167649309544874 := by decide
  have exit : ((DeterministicRandom.create 49).nextBits.2.nextBits.2.nextBits.1 >>> 11).toNat =
      7547391592598636 := by decide
  refine ⟨(DeterministicRandom.create 49).nextBits.2.nextBits.2.nextBits.2, ?_⟩
  unfold drawCrossing shallowDraw
  rw [nextBelow_edgeCount, edge, ← entry, ← exit]
  rfl

theorem shallowDraw_entry : 0.35 < shallowDraw.entryAlong ∧ shallowDraw.entryAlong < 0.36 := by
  norm_num [shallowDraw]

theorem shallowDraw_exit : 0.83 < shallowDraw.exitAlong ∧ shallowDraw.exitAlong < 0.84 := by
  norm_num [shallowDraw]

theorem exists_vector {x y : ℝ} (xLower : -1000000000000 ≤ x) (xUpper : x ≤ 1000000000000)
    (yLower : -1000000000000 ≤ y) (yUpper : y ≤ 1000000000000) :
    ∃ vector, Vector2.create x y = .ok vector ∧ vector.x = x ∧ vector.y = y := by
  obtain ⟨vector, created⟩ := Vector2.createForOperation_of_valid (validComponent_real.mpr ⟨xLower, xUpper⟩)
    (validComponent_real.mpr ⟨yLower, yUpper⟩) "vector2.create"
  exact ⟨vector, created, Vector2.createForOperation_eq_ok created⟩

theorem shallow_crossing : ∃ crossing, crossingBetween shallowDraw.edge shallowDraw.entryAlong shallowDraw.exitAlong
    shallowArena 8 400 = .ok crossing := by
  obtain ⟨entryLower, entryUpper⟩ := shallowDraw_entry
  obtain ⟨exitLower, exitUpper⟩ := shallowDraw_exit
  have wide : shallowArena.width = 1000 := rfl
  have high : shallowArena.height = 20 := rfl
  obtain ⟨entry, entered, entryX, entryY⟩ :=
    @exists_vector (shallowDraw.entryAlong * shallowArena.width) 0 (by rw [wide]; linarith) (by rw [wide]; linarith)
      (by norm_num) (by norm_num)
  obtain ⟨exit, left, exitX, exitY⟩ :=
    @exists_vector (shallowDraw.exitAlong * shallowArena.width) shallowArena.height (by rw [wide]; linarith)
      (by rw [wide]; linarith) (by rw [high]; norm_num) (by rw [high]; norm_num)
  have square : 0 < (exit.x - entry.x) * (exit.x - entry.x) + (exit.y - entry.y) * (exit.y - entry.y) := by
    rw [exitY, entryY, high]
    nlinarith [sq_nonneg (exit.x - entry.x)]
  obtain ⟨length, known⟩ : ∃ length, length = Scalar.sqrt ((exit.x - entry.x) * (exit.x - entry.x) +
      (exit.y - entry.y) * (exit.y - entry.y)) := ⟨_, rfl⟩
  have positive : 0 < length := known ▸ Real.sqrt_pos.mpr square
  have squared : length * length = (exit.x - entry.x) * (exit.x - entry.x) +
      (exit.y - entry.y) * (exit.y - entry.y) := by
    rw [known]
    exact Real.mul_self_sqrt square.le
  have unit (leg : ℝ) (within : leg * leg ≤ length * length) : -1 ≤ leg / length ∧ leg / length ≤ 1 := by
    obtain ⟨lower, upper⟩ := abs_le_of_sq_le_sq' (by nlinarith : leg ^ 2 ≤ length ^ 2) positive.le
    exact ⟨by rw [le_div_iff₀ positive]; linarith, (div_le_one positive).mpr upper⟩
  obtain ⟨xLower, xUpper⟩ := unit (exit.x - entry.x) (by nlinarith [mul_self_nonneg (exit.y - entry.y)])
  obtain ⟨yLower, yUpper⟩ := unit (exit.y - entry.y) (by nlinarith [mul_self_nonneg (exit.x - entry.x)])
  obtain ⟨direction, aimed, directionX, directionY⟩ :=
    @exists_vector ((exit.x - entry.x) / length) ((exit.y - entry.y) / length) (by linarith) (by linarith)
      (by linarith) (by linarith)
  obtain ⟨normal, outward, normalX, normalY⟩ :=
    @exists_vector 0 (-1) (by norm_num) (by norm_num) (by norm_num) (by norm_num)
  have clearance : (hazardEntryClearanceRadii : ℝ) * 8 = 16 := by norm_num [hazardEntryClearanceRadii]
  obtain ⟨position, placed, -⟩ := @exists_vector (entry.x + normal.x * (hazardEntryClearanceRadii * 8))
    (entry.y + normal.y * (hazardEntryClearanceRadii * 8)) (by rw [entryX, normalX, wide]; linarith)
    (by rw [entryX, normalX, wide]; linarith) (by rw [entryY, normalY, clearance]; norm_num)
    (by rw [entryY, normalY, clearance]; norm_num)
  obtain ⟨velocity, moving, -⟩ := @exists_vector (direction.x * 400) (direction.y * 400)
    (by rw [directionX]; linarith) (by rw [directionX]; linarith) (by rw [directionY]; linarith)
    (by rw [directionY]; linarith)
  rw [known] at aimed
  exact ⟨_, bind_eq_ok.mpr ⟨entry, entered, bind_eq_ok.mpr ⟨exit, left, bind_eq_ok.mpr ⟨direction, aimed,
    bind_eq_ok.mpr ⟨normal, outward, bind_eq_ok.mpr ⟨position, placed, bind_eq_ok.mpr ⟨velocity, moving, rfl⟩⟩⟩⟩⟩⟩⟩

theorem shallow_extents : shallowDraw.span shallowArena = 20 ∧ shallowDraw.breadth shallowArena = 1000 := by
  have edge : (shallowDraw.edge % hazardEntryEdgeCount).toNat % 2 = 0 := by
    have top : shallowDraw.edge = 0 := rfl
    rw [top]
    decide
  exact ⟨if_pos edge, if_pos edge⟩

theorem shallow_length : (470 < shallowDraw.lateral shallowArena ∧ shallowDraw.lateral shallowArena < 490) ∧
    shallowDraw.lateral shallowArena ≤ shallowDraw.length shallowArena ∧ shallowDraw.length shallowArena < 500 := by
  obtain ⟨entryLower, entryUpper⟩ := shallowDraw_entry
  obtain ⟨exitLower, exitUpper⟩ := shallowDraw_exit
  obtain ⟨spans, broad⟩ := shallow_extents
  have lateral : 470 < shallowDraw.lateral shallowArena ∧ shallowDraw.lateral shallowArena < 490 := by
    unfold CrossingDraw.lateral CrossingDraw.entry
    rw [broad]
    constructor <;> linarith
  refine ⟨lateral, ?_, ?_⟩
  · exact Real.le_sqrt_of_sq_le (le_add_of_nonneg_left (sq_nonneg _))
  · refine (Real.sqrt_lt' (by norm_num)).mpr ?_
    rw [spans]
    nlinarith [lateral.1, lateral.2]

theorem shallow_lifetime {ticks : ℕ}
    (lived : ticks = hazardLifetimeTicks (shallowDraw.length shallowArena + 4 * 8) 400 (1 / 400)) :
    shallowDraw.length shallowArena + 32 ≤ ticks ∧ ticks < shallowDraw.length shallowArena + 33 := by
  obtain ⟨lateral, longer, shorter⟩ := shallow_length
  obtain ⟨fewest, -⟩ := @hazardLifetimeTicks_spec (shallowDraw.length shallowArena + 4 * 8) 400 (1 / 400)
    (by linarith) (by norm_num) (by norm_num)
  have step : (400 : ℝ) * (1 / 400) = 1 := by norm_num
  have fits : shallowDraw.length shallowArena + 4 * 8 ≤ maximumProtocolSafeInteger * ((400 : ℝ) * (1 / 400)) := by
    rw [step]
    norm_num [maximumProtocolSafeInteger]
    linarith
  have counts := fewest fits
  rw [← lived] at counts
  simp only [step, mul_one] at counts
  have covers := (counts ticks).mpr le_rfl
  have bounded : (ticks : ℝ) ≤ ⌈shallowDraw.length shallowArena + 4 * 8⌉₊ :=
    Nat.cast_le.mpr ((counts _).mp (Nat.le_ceil _))
  have ceiling := Nat.ceil_lt_add_one (by linarith : 0 ≤ shallowDraw.length shallowArena + 4 * 8)
  constructor <;> linarith

/-- A hazard that crosses a wide arena at a shallow angle expires inside it. -/
theorem hazard_expires_inside :
    ¬ ∀ (random rest : DeterministicRandom) (bounds : ArenaBounds ℝ) (radius speed seconds : ℝ)
      (crossing : HazardCrossing ℝ), drawHazardCrossing random bounds radius speed = .ok (crossing, rest) →
      0 < radius → 2 * radius < bounds.width → 2 * radius < bounds.height → 0 < speed → 0 < seconds →
      crossing.Leaves bounds radius speed seconds := by
  intro leaves
  obtain ⟨rest, draws⟩ := drawCrossing_shallow
  obtain ⟨crossing, between⟩ := shallow_crossing
  have drew : drawHazardCrossing (.create 49) shallowArena 8 400 = .ok (crossing, rest) :=
    bind_eq_ok.mpr ⟨_, draws, bind_eq_ok.mpr ⟨crossing, between, rfl⟩⟩
  have gone := (leaves _ rest shallowArena 8 400 (1 / 400) crossing drew (by norm_num) (by norm_num [shallowArena])
    (by norm_num [shallowArena]) (by norm_num) (by norm_num)).2
  obtain ⟨travels, frame⟩ := crossingBetween_frame between
  obtain ⟨ticks, lived⟩ : ∃ ticks, ticks = hazardLifetimeTicks crossing.travelDistance 400 (1 / 400) := ⟨_, rfl⟩
  rw [← lived, frame] at gone
  obtain ⟨covers, barely⟩ := shallow_lifetime (lived.trans (by rw [travels]))
  obtain ⟨lateral, longer, shorter⟩ := shallow_length
  obtain ⟨spans, broad⟩ := shallow_extents
  obtain ⟨entryLower, -⟩ := shallowDraw_entry
  obtain ⟨-, exitUpper⟩ := shallowDraw_exit
  have long := @CrossingDraw.length_pos shallowDraw shallowArena
  have aims : shallowDraw.entry shallowArena + shallowDraw.lateral shallowArena = shallowDraw.exitAlong * 1000 := by
    unfold CrossingDraw.lateral
    rw [broad]
    ring
  have moved : (400 : ℝ) * (ticks * (1 / 400)) = ticks := by ring
  have within : overshoot (shallowDraw.entry shallowArena + shallowDraw.drift shallowArena * (400 * (ticks * (1 / 400))))
      (shallowDraw.breadth shallowArena) = 0 := by
    have entry : shallowDraw.entry shallowArena = shallowDraw.entryAlong * 1000 := by rw [CrossingDraw.entry, broad]
    have drift : shallowDraw.drift shallowArena * ticks =
        shallowDraw.lateral shallowArena / shallowDraw.length shallowArena * ticks := rfl
    have lower : 0 ≤ shallowDraw.drift shallowArena * ticks :=
      mul_nonneg (div_nonneg (by linarith) long.le) (Nat.cast_nonneg ticks)
    have upper : shallowDraw.drift shallowArena * ticks ≤ shallowDraw.lateral shallowArena + 33 := by
      rw [drift, div_mul_eq_mul_div, div_le_iff₀ long]
      nlinarith
    rw [moved, broad]
    exact overshoot_of_within (by linarith) (by linarith)
  have inside : overshoot (shallowDraw.heading shallowArena * (400 * (ticks * (1 / 400))) - 2 * 8)
      (shallowDraw.span shallowArena) = 0 := by
    have lower : 20 ≤ shallowDraw.heading shallowArena * ticks := by
      rw [CrossingDraw.heading, spans, div_mul_eq_mul_div, le_div_iff₀ long]
      linarith
    have upper : shallowDraw.heading shallowArena * ticks ≤ 22 := by
      rw [CrossingDraw.heading, spans, div_mul_eq_mul_div, div_le_iff₀ long]
      linarith
    rw [moved, spans]
    exact overshoot_of_within (by linarith) (by linarith)
  rw [within, inside] at gone
  norm_num at gone

theorem hazard_leaves_iff_shallow :
    ∃ crossing rest, ∃ drawn : CrossingDraw ℝ, drawHazardCrossing (.create 49) shallowArena 8 400 = .ok (crossing, rest) ∧
      (crossing.Leaves shallowArena 8 400 (1 / 400) ↔ drawn.TicksCoverExit shallowArena 8 (400 * (1 / 400))) := by
  obtain ⟨rest, draws⟩ := drawCrossing_shallow
  obtain ⟨crossing, between⟩ := shallow_crossing
  have drew : drawHazardCrossing (.create 49) shallowArena 8 400 = .ok (crossing, rest) :=
    bind_eq_ok.mpr ⟨_, draws, bind_eq_ok.mpr ⟨crossing, between, rfl⟩⟩
  obtain ⟨drawn, -, exactly⟩ := hazard_leaves_iff drew (by norm_num) (by norm_num [shallowArena])
    (by norm_num [shallowArena]) (by norm_num) (by norm_num : (0 : ℝ) < 1 / 400)
  exact ⟨crossing, rest, drawn, drew, exactly⟩

end Shallow

end BlobRoyale.Gameplay
