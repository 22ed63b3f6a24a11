import Mathlib.Tactic.Ring
import Mathlib.Data.Set.Card
import BlobRoyale.Simulation.GameWorld
import BlobRoyale.Library.WordMixing

/-!
# Random draws

What one stream draws: bits, a point of the unit interval, and a bounded integer by rejection. The
state walks through all of its values, so the rejection ends whatever the bound.
-/

namespace BlobRoyale.Simulation

/-- The rounding operations of `double`, beside its arithmetic. -/
class RoundedScalar (S : Type) extends Scalar S where
  /-- `std::ceil`. -/
  ceil : S → S
  /-- `static_cast<std::uint64_t>` of a value that type holds. -/
  toWhole : S → Nat

namespace DeterministicRandom

/-- `next_bits`. -/
def nextBits (random : DeterministicRandom) : UInt64 × DeterministicRandom :=
  let state := random.state + goldenGammaIncrement
  (mixBits state, { random with state := state, drawCount := random.drawCount + 1 })

/-- `next_unit_interval`: the top 53 bits of one draw, scaled by 2^-53. -/
def nextUnitInterval {S : Type} [Scalar S] (random : DeterministicRandom) : S × DeterministicRandom :=
  let (bits, next) := random.nextBits
  ((((bits >>> 11).toNat : Nat) : S) / ((9007199254740992 : Nat) : S), next)

/-- The one state whose draw is the largest value. -/
def greatestDrawState : UInt64 := 0xcf9a04affa6badc0

def goldenGammaInverse : UInt64 := 0xf1de83e19937733d

theorem mixBits_greatestDrawState : mixBits greatestDrawState = 0xFFFFFFFFFFFFFFFF := by decide

theorem goldenGamma_inverse : goldenGammaIncrement * goldenGammaInverse = 1 := by decide

/-- How many draws are left before the largest value is drawn. -/
def drawsToGreatest (random : DeterministicRandom) : UInt64 :=
  (greatestDrawState - (random.state + goldenGammaIncrement)) * goldenGammaInverse

theorem drawsToGreatest_nextBits (random : DeterministicRandom) :
    random.nextBits.2.drawsToGreatest = random.drawsToGreatest - 1 := by
  calc (greatestDrawState - (random.state + goldenGammaIncrement + goldenGammaIncrement)) * goldenGammaInverse
      = random.drawsToGreatest - goldenGammaIncrement * goldenGammaInverse := by
        rw [← sub_sub, sub_mul, drawsToGreatest]
    _ = random.drawsToGreatest - 1 := by rw [goldenGamma_inverse]

theorem drawsToGreatest_decreases {random : DeterministicRandom} {threshold : UInt64}
    (rejected : random.nextBits.1 < threshold) :
    random.nextBits.2.drawsToGreatest.toNat < random.drawsToGreatest.toNat := by
  have positive : random.drawsToGreatest ≠ 0 := by
    intro zero
    have scaled : random.drawsToGreatest * goldenGammaIncrement =
        greatestDrawState - (random.state + goldenGammaIncrement) := by
      rw [drawsToGreatest, mul_assoc, mul_comm goldenGammaInverse, goldenGamma_inverse, mul_one]
    rw [zero, zero_mul] at scaled
    have reached : random.state + goldenGammaIncrement = greatestDrawState := (sub_eq_zero.mp scaled.symm).symm
    have greatest : random.nextBits.1 = 0xFFFFFFFFFFFFFFFF := by
      rw [nextBits, reached]
      exact mixBits_greatestDrawState
    rw [greatest] at rejected
    have bound := threshold.toNat_lt
    have above : (0xFFFFFFFFFFFFFFFF : UInt64).toNat < threshold.toNat := rejected
    have value : (0xFFFFFFFFFFFFFFFF : UInt64).toNat = 18446744073709551615 := rfl
    omega
  have nonzero : 1 ≤ random.drawsToGreatest.toNat :=
    Nat.one_le_iff_ne_zero.mpr fun zero => positive (UInt64.toNat_inj.mp zero)
  rw [drawsToGreatest_nextBits, UInt64.toNat_sub_of_le _ _ nonzero]
  exact Nat.sub_lt nonzero Nat.one_pos

/-- The first draw that is at least `threshold`. -/
def nextAtLeast (threshold : UInt64) (random : DeterministicRandom) : UInt64 × DeterministicRandom :=
  if random.nextBits.1 < threshold then nextAtLeast threshold random.nextBits.2 else random.nextBits
  termination_by random.drawsToGreatest.toNat
  decreasing_by exact drawsToGreatest_decreases ‹_›

/-- How many of the lowest values are rejected, so that the rest cover every residue equally. -/
def rejectionThreshold (bound : UInt64) : UInt64 := (0xFFFFFFFFFFFFFFFF - bound + 1) % bound

/-- `next_below`. -/
def nextBelow (random : DeterministicRandom) (bound : UInt64) : Validated (UInt64 × DeterministicRandom) :=
  if bound = 0 then
    reject .deterministicRandomBoundEmpty "deterministic_random.next_below.bound"
      "a draw below zero names no value"
  else
    let (drawn, next) := random.nextAtLeast (rejectionThreshold bound)
    .ok (drawn % bound, next)

end DeterministicRandom

end BlobRoyale.Simulation

/-!
# The words of a random stream

The finalizer is a bijection of 64-bit words and the state walks through all of them, so a bounded
draw ends within as many words as its bound, and its accepted words fall on every residue equally.
-/

namespace BlobRoyale.Simulation.DeterministicRandom

open WordMixing

section Words

theorem xorShift_cancels {shift : UInt64} (positive : 0 < shift.toNat % 64) {first second : UInt64}
    (same : first ^^^ (first >>> shift) = second ^^^ (second >>> shift)) : first = second := by
  refine UInt64.toBitVec_inj.mp (xorShift_injective positive ?_)
  have bits := congrArg UInt64.toBitVec same
  simpa using bits

theorem mul_cancels {multiplier inverse : UInt64} (unit : multiplier * inverse = 1) {first second : UInt64}
    (same : first * multiplier = second * multiplier) : first = second := by
  have scaled := congrArg (· * inverse) same
  simpa only [mul_assoc, unit, mul_one] using scaled

def firstMixInverse : UInt64 := 0x96de1b173f119089
def secondMixInverse : UInt64 := 0x319642b2d24d8ec3

theorem firstMix_unit : firstMixMultiplier * firstMixInverse = 1 := by decide

theorem secondMix_unit : secondMixMultiplier * secondMixInverse = 1 := by decide

theorem mixBits_injective : Function.Injective mixBits := by
  intro first second same
  have third := xorShift_cancels (by decide) same
  have scaled := mul_cancels secondMix_unit third
  have shifted := xorShift_cancels (by decide) scaled
  exact xorShift_cancels (by decide) (mul_cancels firstMix_unit shifted)

theorem words_finite : Finite UInt64 :=
  Finite.of_injective (fun word => word.toBitVec.toFin) fun _ _ same =>
    UInt64.toBitVec_inj.mp (BitVec.toFin_inj.mp same)

theorem mixBits_bijective : Function.Bijective mixBits :=
  have := words_finite
  Finite.injective_iff_bijective.mp mixBits_injective

end Words

def advance (words : Nat) (random : DeterministicRandom) : DeterministicRandom :=
  (fun before => before.nextBits.2)^[words] random

variable {random : DeterministicRandom}

theorem advance_succ (words : Nat) (random : DeterministicRandom) :
    advance (words + 1) random = (advance words random).nextBits.2 :=
  Function.iterate_succ_apply' ..

theorem advance_nextBits (words : Nat) (random : DeterministicRandom) :
    advance words random.nextBits.2 = advance (words + 1) random :=
  (Function.iterate_succ_apply ..).symm

theorem nextBits_state (random : DeterministicRandom) :
    random.nextBits.2.state = random.state + goldenGammaIncrement := rfl

theorem nextBits_drawCount (random : DeterministicRandom) :
    random.nextBits.2.drawCount = random.drawCount + 1 := rfl

theorem advance_state (words : Nat) (random : DeterministicRandom) :
    (advance words random).state = random.state + UInt64.ofNat words * goldenGammaIncrement := by
  induction words with
  | zero => rw [show UInt64.ofNat 0 = 0 from rfl, zero_mul, add_zero, advance, Function.iterate_zero_apply]
  | succ words ih =>
    rw [advance_succ, nextBits_state, ih, UInt64.ofNat_add, UInt64.ofNat_one, add_mul, one_mul, add_assoc]

theorem advance_drawCount (words : Nat) (random : DeterministicRandom) :
    (advance words random).drawCount = random.drawCount + UInt64.ofNat words := by
  induction words with
  | zero => rw [show UInt64.ofNat 0 = 0 from rfl, add_zero, advance, Function.iterate_zero_apply]
  | succ words ih => rw [advance_succ, nextBits_drawCount, ih, UInt64.ofNat_add, UInt64.ofNat_one, add_assoc]

theorem ofNat_mul_gamma_eq_zero {words : Nat} :
    UInt64.ofNat words * goldenGammaIncrement = 0 ↔ 2 ^ 64 ∣ words := by
  have zero : UInt64.ofNat words = 0 ↔ 2 ^ 64 ∣ words := by
    rw [← UInt64.toNat_inj, UInt64.toNat_ofNat']
    exact Nat.dvd_iff_mod_eq_zero.symm
  rw [← zero]
  constructor
  · intro scaled
    exact mul_cancels goldenGamma_inverse (scaled.trans (zero_mul _).symm)
  · rintro same
    rw [same, zero_mul]

theorem advance_returns {words : Nat} :
    (advance words random).state = random.state ↔ 2 ^ 64 ∣ words := by
  rw [advance_state, add_eq_left]
  exact ofNat_mul_gamma_eq_zero

theorem advance_reaches (random : DeterministicRandom) (state : UInt64) :
    ∃ words < 2 ^ 64, (advance words random).state = state := by
  refine ⟨((state - random.state) * goldenGammaInverse).toNat, UInt64.toNat_lt _, ?_⟩
  rw [advance_state, UInt64.ofNat_toNat, mul_assoc, mul_comm goldenGammaInverse,
    goldenGamma_inverse, mul_one, add_sub_cancel]

def word (random : DeterministicRandom) (index : Nat) : UInt64 := (advance index random).nextBits.1

theorem word_injective {first second : Nat} (firstSmall : first < 2 ^ 64) (secondSmall : second < 2 ^ 64)
    (same : random.word first = random.word second) : first = second := by
  have states := mixBits_injective same
  rw [advance_state, advance_state] at states
  have scaled := mul_cancels goldenGamma_inverse (add_left_cancel (add_right_cancel states))
  have values := UInt64.toNat_inj.mpr scaled
  rwa [UInt64.toNat_ofNat', UInt64.toNat_ofNat', Nat.mod_eq_of_lt firstSmall,
    Nat.mod_eq_of_lt secondSmall] at values

theorem nextAtLeast_draws (threshold : UInt64) (random : DeterministicRandom) :
    ∃ rejected ≤ random.drawsToGreatest.toNat, (∀ index < rejected, random.word index < threshold) ∧
      ¬ random.word rejected < threshold ∧
      nextAtLeast threshold random = (random.word rejected, advance (rejected + 1) random) := by
  fun_induction nextAtLeast threshold random with
  | case1 random below ih =>
    obtain ⟨rejected, few, earlier, accepted, draws⟩ := ih
    have shifted (index : Nat) : random.nextBits.2.word index = random.word (index + 1) := by
      rw [word, word, advance_nextBits]
    have fewer := drawsToGreatest_decreases below
    refine ⟨rejected + 1, by omega, fun index small => ?_, shifted rejected ▸ accepted, ?_⟩
    · cases index with
      | zero => exact below
      | succ index =>
        rw [← shifted]
        exact earlier index (by omega)
    · rw [draws, shifted, advance_nextBits]
  | case2 random reached => exact ⟨0, Nat.zero_le _, fun _ small => absurd small (Nat.not_lt_zero _), reached, rfl⟩

theorem rejected_le {threshold : UInt64} {rejected : Nat} (few : rejected < 2 ^ 64)
    (below : ∀ index < rejected, random.word index < threshold) : rejected ≤ threshold.toNat := by
  have counted := Finset.card_le_card_of_injOn (fun index => (random.word index).toNat)
    (s := Finset.range rejected) (t := Finset.range threshold.toNat)
    (fun index member => Finset.mem_range.mpr (below index (Finset.mem_range.mp member)))
    fun first firstMember second secondMember same => by
      have firstSmall := Finset.mem_range.mp firstMember
      have secondSmall := Finset.mem_range.mp secondMember
      exact word_injective (by omega) (by omega) (UInt64.toNat_inj.mp same)
  rwa [Finset.card_range, Finset.card_range] at counted

theorem rejectionThreshold_toNat {bound : UInt64} (positive : bound ≠ 0) :
    (rejectionThreshold bound).toNat = 2 ^ 64 % bound.toNat := by
  have nonzero : 0 < bound.toNat := Nat.pos_of_ne_zero fun zero => positive (UInt64.toNat_inj.mp zero)
  have small := bound.toNat_lt
  have below : bound ≤ 0xFFFFFFFFFFFFFFFF := by
    rw [UInt64.le_iff_toNat_le]
    change bound.toNat ≤ 18446744073709551615
    omega
  have difference : (0xFFFFFFFFFFFFFFFF - bound + 1 : UInt64).toNat = 2 ^ 64 - bound.toNat := by
    rw [UInt64.toNat_add, UInt64.toNat_sub_of_le _ _ below]
    change (18446744073709551615 - bound.toNat + 1) % 2 ^ 64 = _
    omega
  rw [rejectionThreshold, UInt64.toNat_mod, difference]
  exact (Nat.mod_eq_sub_mod small.le).symm

def Accepted (bound drawn : UInt64) : Prop := ¬ drawn < rejectionThreshold bound

theorem accepted_words {bound residue : UInt64} (small : residue < bound) :
    { drawn : UInt64 | Accepted bound drawn ∧ drawn % bound = residue }.ncard = 2 ^ 64 / bound.toNat := by
  have smaller : residue.toNat < bound.toNat := UInt64.lt_iff_toNat_lt.mp small
  have nonzero : 0 < bound.toNat := Nat.zero_lt_of_lt smaller
  have positive : bound ≠ 0 := by
    rintro rfl
    exact absurd nonzero (by decide)
  have image : UInt64.toNat '' { drawn : UInt64 | Accepted bound drawn ∧ drawn % bound = residue } =
      ((Finset.Ico (2 ^ 64 % bound.toNat) (2 ^ 64)).filter fun number =>
        number % bound.toNat = residue.toNat : Finset Nat) := by
    ext number
    rw [Finset.coe_filter, Set.mem_image, Set.mem_ofPred_eq, Finset.mem_Ico]
    constructor
    · rintro ⟨drawn, ⟨accepted, same⟩, rfl⟩
      rw [Accepted, UInt64.lt_iff_toNat_lt, rejectionThreshold_toNat positive] at accepted
      refine ⟨⟨Nat.not_lt.mp accepted, drawn.toNat_lt⟩, ?_⟩
      rw [← same, UInt64.toNat_mod]
    · rintro ⟨⟨above, inside⟩, same⟩
      have value : (UInt64.ofNat number).toNat = number := by
        rw [UInt64.toNat_ofNat', Nat.mod_eq_of_lt inside]
      refine ⟨UInt64.ofNat number, ⟨?_, UInt64.toNat_inj.mp ?_⟩, value⟩
      · rw [Accepted, UInt64.lt_iff_toNat_lt, rejectionThreshold_toNat positive, value]
        exact Nat.not_lt.mpr above
      · rw [UInt64.toNat_mod, value, same]
  rw [← Set.ncard_image_of_injective _ fun _ _ same => UInt64.toNat_inj.mp same, image, Set.ncard_coe_finset,
    card_residue nonzero smaller]

theorem nextWord_bijective : Function.Bijective fun state : UInt64 => mixBits (state + goldenGammaIncrement) :=
  mixBits_bijective.comp ⟨fun _ _ => add_right_cancel, fun word => ⟨word - goldenGammaIncrement,
    sub_add_cancel word goldenGammaIncrement⟩⟩

theorem accepted_states {bound residue : UInt64} (small : residue < bound) :
    { state : UInt64 | Accepted bound (mixBits (state + goldenGammaIncrement)) ∧
      mixBits (state + goldenGammaIncrement) % bound = residue }.ncard = 2 ^ 64 / bound.toNat := by
  have preimage : { state : UInt64 | Accepted bound (mixBits (state + goldenGammaIncrement)) ∧
      mixBits (state + goldenGammaIncrement) % bound = residue } =
      Set.preimage (fun state => mixBits (state + goldenGammaIncrement))
        { drawn | Accepted bound drawn ∧ drawn % bound = residue } := by
    ext state
    rw [Set.mem_preimage, Set.mem_ofPred_eq, Set.mem_ofPred_eq]
  rw [← accepted_words small, preimage]
  exact Set.ncard_preimage_of_injective_subset_range nextWord_bijective.injective
    (nextWord_bijective.surjective.range_eq ▸ Set.subset_univ _)

/-- A bounded draw consumes the words up to the first accepted one, at most as many as its bound. -/
theorem nextBelow_returns (random : DeterministicRandom) {bound : UInt64} (positive : bound ≠ 0) :
    ∃ rejected < bound.toNat, (∀ index < rejected, ¬ Accepted bound (random.word index)) ∧
      Accepted bound (random.word rejected) ∧
      random.nextBelow bound = .ok (random.word rejected % bound, advance (rejected + 1) random) := by
  obtain ⟨rejected, few, below, accepted, draws⟩ := nextAtLeast_draws (rejectionThreshold bound) random
  have nonzero : 0 < bound.toNat := Nat.pos_of_ne_zero fun zero => positive (UInt64.toNat_inj.mp zero)
  have counted := rejected_le (Nat.lt_of_le_of_lt few (UInt64.toNat_lt _)) below
  rw [rejectionThreshold_toNat positive] at counted
  have smaller := Nat.mod_lt (2 ^ 64) nonzero
  refine ⟨rejected, by omega, fun index small => not_not.mpr (below index small), accepted, ?_⟩
  rw [nextBelow, if_neg positive, draws]

/-- The finalizer is a bijection, the states have full period, and a bounded draw ends, stays below its
bound, counts its words and is unbiased. -/
theorem bounded_draws_unbiased :
    Function.Bijective mixBits ∧
    (∀ (random : DeterministicRandom) (words : Nat),
      ((advance words random).state = random.state ↔ 2 ^ 64 ∣ words) ∧
      (advance words random).drawCount = random.drawCount + UInt64.ofNat words) ∧
    (∀ (random : DeterministicRandom) (state : UInt64),
      ∃ words < 2 ^ 64, (advance words random).state = state) ∧
    ∀ bound : UInt64, bound ≠ 0 →
      (∀ random : DeterministicRandom, ∃ words value, 0 < words ∧ words ≤ bound.toNat ∧
        random.nextBelow bound = .ok (value, advance words random) ∧ value < bound ∧
        (∀ index < words - 1, ¬ Accepted bound (random.word index)) ∧
        Accepted bound (random.word (words - 1)) ∧ value = random.word (words - 1) % bound ∧
        (advance words random).drawCount = random.drawCount + UInt64.ofNat words) ∧
      ∀ residue : UInt64, residue < bound →
        { state : UInt64 | Accepted bound (mixBits (state + goldenGammaIncrement)) ∧
          mixBits (state + goldenGammaIncrement) % bound = residue }.ncard = 2 ^ 64 / bound.toNat := by
  refine ⟨mixBits_bijective, fun random words => ⟨advance_returns, advance_drawCount words random⟩,
    advance_reaches, fun bound positive => ⟨fun random => ?_, fun residue small => accepted_states small⟩⟩
  obtain ⟨rejected, few, earlier, accepted, returned⟩ := random.nextBelow_returns positive
  have nonzero : 0 < bound.toNat := Nat.zero_lt_of_lt few
  refine ⟨rejected + 1, _, Nat.succ_pos _, few, returned, ?_, earlier, accepted, rfl,
    advance_drawCount _ random⟩
  rw [UInt64.lt_iff_toNat_lt, UInt64.toNat_mod]
  exact Nat.mod_lt _ nonzero

end BlobRoyale.Simulation.DeterministicRandom
