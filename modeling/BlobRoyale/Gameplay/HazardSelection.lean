import Mathlib
import BlobRoyale.Gameplay.HazardPassage
import BlobRoyale.Gameplay.HazardSpawnSystem
import BlobRoyale.Library.CumulativeChoice

/-!
# Hazard selection partitions its samples

In exact arithmetic the class sample falls in a class's interval with the class's chance of a tick, and the
kind sample in a kind's interval with the kind's share of its class.
-/

namespace BlobRoyale.Gameplay

open Simulation CumulativeChoice HazardSpawnSystem

variable {archetypes : List (HazardArchetype ℝ)} {tuning : MovementTuning ℝ} {lethal : Bool} {index : Nat}
  {classSample kindSample sample : ℝ}

section Weights

theorem HazardArchetype.weight_pos (archetype : HazardArchetype ℝ) : 0 < archetype.weight :=
  one_div_pos.mpr (Nat.cast_pos.mpr archetype.intervalPositive)

/-- A kind's weight in a class, zero in the other. -/
noncomputable def kindWeight (lethal : Bool) (archetype : HazardArchetype ℝ) : ℝ :=
  if archetype.lethalOnContact = lethal then archetype.weight else 0

noncomputable def classWeight (archetypes : List (HazardArchetype ℝ)) (lethal : Bool) : ℝ :=
  (archetypes.map (kindWeight lethal)).sum

theorem classWeight_cons (archetype : HazardArchetype ℝ) (rest : List (HazardArchetype ℝ)) :
    classWeight (archetype :: rest) lethal = kindWeight lethal archetype + classWeight rest lethal := List.sum_cons

theorem kindWeight_nonneg (lethal : Bool) (archetype : HazardArchetype ℝ) : 0 ≤ kindWeight lethal archetype := by
  rw [kindWeight]
  split
  · exact archetype.weight_pos.le
  · exact le_rfl

theorem kindWeight_pos_iff {archetype : HazardArchetype ℝ} :
    0 < kindWeight lethal archetype ↔ archetype.lethalOnContact = lethal := by
  rw [kindWeight]
  split
  · next same => exact iff_of_true archetype.weight_pos same
  · next other => exact iff_of_false (lt_irrefl _) other

theorem classWeights_get (archetypes : List (HazardArchetype ℝ)) (lethal : Bool) :
    (classWeights archetypes).get lethal = classWeight archetypes lethal := by
  have added : ∀ weights : ByClass ℝ, (archetypes.foldl addWeight weights).get lethal =
      weights.get lethal + classWeight archetypes lethal := by
    induction archetypes with
    | nil => simp [classWeight]
    | cons archetype rest ih =>
      intro weights
      rw [List.foldl_cons, ih, classWeight_cons, ← add_assoc]
      congr 1
      rw [addWeight, kindWeight]
      cases archetype.lethalOnContact <;> cases lethal <;> simp [ByClass.get]
  rw [classWeights, added]
  cases lethal <;> exact zero_add _

theorem classWeight_pos_iff :
    0 < classWeight archetypes lethal ↔ ∃ archetype ∈ archetypes, archetype.lethalOnContact = lethal := by
  induction archetypes with
  | nil => simp [classWeight]
  | cons archetype rest ih =>
    have nonneg : 0 ≤ classWeight rest lethal :=
      List.sum_nonneg fun weight member => by
        obtain ⟨other, -, rfl⟩ := List.mem_map.mp member
        exact kindWeight_nonneg lethal other
    simp only [classWeight_cons, List.mem_cons, exists_eq_or_imp]
    rw [← ih, ← kindWeight_pos_iff]
    constructor
    · intro positive
      by_contra none
      obtain ⟨first, others⟩ := not_or.mp none
      exact absurd positive (not_lt.mpr (add_nonpos (not_lt.mp first) (not_lt.mp others)))
    · rintro (first | others)
      · exact add_pos_of_pos_of_nonneg first nonneg
      · exact add_pos_of_nonneg_of_pos (kindWeight_nonneg lethal archetype) others

theorem classWeight_eq_zero_iff :
    classWeight archetypes lethal = 0 ↔ ¬ ∃ archetype ∈ archetypes, archetype.lethalOnContact = lethal := by
  have nonneg : 0 ≤ classWeight archetypes lethal :=
    List.sum_nonneg fun weight member => by
      obtain ⟨other, -, rfl⟩ := List.mem_map.mp member
      exact kindWeight_nonneg lethal other
  rw [← classWeight_pos_iff, not_lt]
  exact ⟨le_of_eq, fun none => le_antisymm none nonneg⟩

end Weights

section Kinds

theorem selectKind_eq_some_iff {cumulative : ℝ} {selected : Option Nat} {start : Nat} (reached : cumulative ≤ sample)
    (below : sample < cumulative + classWeight archetypes lethal) :
    selectKind lethal sample cumulative selected start archetypes = some index ↔
      ∃ place, index = start + place ∧ Within (kindWeight lethal) archetypes (sample - cumulative) place := by
  induction archetypes generalizing cumulative selected start with
  | nil => exact absurd (reached.trans_lt below) (by simp [classWeight])
  | cons archetype rest ih =>
    rw [classWeight_cons, ← add_assoc] at below
    have shifted : (∃ place, index = start + place ∧
          Within (kindWeight lethal) (archetype :: rest) (sample - cumulative) place) ↔
        (index = start ∧ Within (kindWeight lethal) (archetype :: rest) (sample - cumulative) 0) ∨
          ∃ place, index = start + 1 + place ∧
            Within (kindWeight lethal) rest (sample - (cumulative + kindWeight lethal archetype)) place := by
      rw [← Nat.or_exists_add_one]
      refine or_congr Iff.rfl (exists_congr fun place => and_congr (by omega) ?_)
      rw [within_cons_succ, sub_add_eq_sub_sub]
    rw [shifted, within_cons_zero, selectKind]
    by_cases same : archetype.lethalOnContact = lethal
    · have weight : kindWeight lethal archetype = archetype.weight := if_pos same
      rw [if_neg (not_not.mpr same)]
      dsimp only
      split
      · next within =>
        have inside : 0 ≤ sample - cumulative ∧ sample - cumulative < kindWeight lethal archetype :=
          ⟨sub_nonneg.mpr reached, sub_lt_iff_lt_add'.mpr (weight ▸ within)⟩
        rw [Option.some_inj]
        constructor
        · exact fun found => .inl ⟨found.symm, inside⟩
        · rintro (⟨found, -⟩ | ⟨place, -, -, low, -⟩)
          · exact found.symm
          · have nonneg : before (kindWeight lethal) rest 0 ≤ before (kindWeight lethal) rest place :=
              before_mono (fun item _ => kindWeight_nonneg lethal item) (Nat.zero_le place)
            rw [before_zero] at nonneg
            linarith [inside.2]
      · next outside =>
        rw [← weight] at outside ⊢
        rw [ih (not_lt.mp outside) below]
        refine (or_iff_right ?_).symm
        rintro ⟨-, -, inside⟩
        exact outside (sub_lt_iff_lt_add'.mp inside)
    · have weight : kindWeight lethal archetype = 0 := if_neg same
      rw [if_pos same, weight, add_zero, ih reached (by linarith)]
      refine (or_iff_right ?_).symm
      rintro ⟨-, low, high⟩
      exact absurd (low.trans_lt high) (lt_irrefl _)

end Kinds

section Intervals

def publishedRate (tuning : MovementTuning ℝ) (lethal : Bool) : ℝ :=
  if lethal then tuning.lethalSpawnRatePerSecond else tuning.nonlethalSpawnRatePerSecond

open Classical in
/-- A class's rate, zero when no archetype is of it. -/
noncomputable def classRate (archetypes : List (HazardArchetype ℝ)) (tuning : MovementTuning ℝ) (lethal : Bool) : ℝ :=
  if ∃ archetype ∈ archetypes, archetype.lethalOnContact = lethal then publishedRate tuning lethal else 0

noncomputable def classStart (archetypes : List (HazardArchetype ℝ)) (tuning : MovementTuning ℝ) (lethal : Bool) : ℝ :=
  if lethal then 0 else classRate archetypes tuning true * fixedDeltaSeconds

/-- The class samples of a class, of the length of its rate by the tick. -/
noncomputable def classInterval (archetypes : List (HazardArchetype ℝ)) (tuning : MovementTuning ℝ) (lethal : Bool) :
    Set ℝ :=
  Set.Ico (classStart archetypes tuning lethal)
    (classStart archetypes tuning lethal + classRate archetypes tuning lethal * fixedDeltaSeconds)

/-- The kind samples of an archetype, of the length of its share of its class. -/
noncomputable def kindInterval (archetypes : List (HazardArchetype ℝ)) (lethal : Bool) (index : Nat)
    (archetype : HazardArchetype ℝ) : Set ℝ :=
  Set.Ico (before (kindWeight lethal) archetypes index / classWeight archetypes lethal)
    (before (kindWeight lethal) archetypes index / classWeight archetypes lethal +
      archetype.weight / classWeight archetypes lethal)

theorem classRates_get (archetypes : List (HazardArchetype ℝ)) (tuning : MovementTuning ℝ) (lethal : Bool) :
    (classRates (classWeights archetypes) tuning).get lethal = classRate archetypes tuning lethal := by
  have weights : ∀ lethal, (classWeights archetypes).get lethal = 0 ↔
      ¬ ∃ archetype ∈ archetypes, archetype.lethalOnContact = lethal := fun lethal => by
    rw [classWeights_get, classWeight_eq_zero_iff]
  have rated : ∀ (weight rate : ℝ) (lethal : Bool), (weight = 0 ↔
      ¬ ∃ archetype ∈ archetypes, archetype.lethalOnContact = lethal) → publishedRate tuning lethal = rate →
      (if weight = 0 then 0 else rate) = classRate archetypes tuning lethal := by
    intro weight rate lethal absent published
    rw [classRate, published]
    split
    · next none => rw [if_neg (absent.mp none)]
    · next some => rw [if_pos (not_not.mp fun none => some (absent.mpr none))]
  cases lethal with
  | false => exact rated _ _ false (weights false) rfl
  | true => exact rated _ _ true (weights true) rfl

/-- A sample lies within a kind exactly when its share of the class lies in the kind's interval. -/
theorem within_iff_mem_kindInterval (positive : 0 < classWeight archetypes lethal) :
    Within (kindWeight lethal) archetypes (kindSample * classWeight archetypes lethal) index ↔
      ∃ below : index < archetypes.length, archetypes[index].lethalOnContact = lethal ∧
        kindSample ∈ kindInterval archetypes lethal index archetypes[index] := by
  have scaled : ∀ below : index < archetypes.length, archetypes[index].lethalOnContact = lethal →
      (before (kindWeight lethal) archetypes index ≤ kindSample * classWeight archetypes lethal ∧
        kindSample * classWeight archetypes lethal < before (kindWeight lethal) archetypes (index + 1) ↔
      kindSample ∈ kindInterval archetypes lethal index archetypes[index]) := by
    intro below same
    rw [kindInterval, Set.mem_Ico, before_succ below, kindWeight, if_pos same, ← add_div, div_le_iff₀ positive,
      lt_div_iff₀ positive]
  constructor
  · rintro ⟨below, low, high⟩
    have grown : before (kindWeight lethal) archetypes (index + 1) = before (kindWeight lethal) archetypes index +
        kindWeight lethal archetypes[index] := before_succ below
    have same : archetypes[index].lethalOnContact = lethal := by
      rw [← kindWeight_pos_iff]
      linarith [low.trans_lt high]
    exact ⟨below, same, (scaled below same).mp ⟨low, high⟩⟩
  · rintro ⟨below, same, member⟩
    exact ⟨below, (scaled below same).mpr member⟩

def Admitted (tuning : MovementTuning ℝ) : Prop :=
  ∃ acceleration speed charge lethal nonlethal, MovementTuning.create acceleration speed charge lethal nonlethal = .ok tuning

theorem Admitted.rates (admitted : Admitted tuning) (lethal : Bool) :
    0 ≤ publishedRate tuning lethal ∧ publishedRate tuning lethal ≤ 5 := by
  have scalar : ∀ {value minimum maximum : ℝ} {context : String} {passed : Unit},
      MovementTuning.requireTuningScalar value minimum maximum context = .ok passed → minimum ≤ value ∧ value ≤ maximum := by
    intro value minimum maximum context passed accepted
    rw [MovementTuning.requireTuningScalar, if_pos (isFinite_real value)] at accepted
    split at accepted
    · cases accepted
    · next within => exact ⟨not_lt.mp (not_or.mp within).1, not_lt.mp (not_or.mp within).2⟩
  have maximum : (MovementTuning.maximumCrossingSpawnRatePerSecond : ℝ) = 5 := by
    norm_num [MovementTuning.maximumCrossingSpawnRatePerSecond]
  obtain ⟨acceleration, speed, charge, lethalRate, nonlethalRate, created⟩ := admitted
  rw [MovementTuning.create] at created
  obtain ⟨_, -, created⟩ := bind_eq_ok.mp created
  obtain ⟨_, -, created⟩ := bind_eq_ok.mp created
  obtain ⟨_, -, created⟩ := bind_eq_ok.mp created
  obtain ⟨_, lethalChecked, created⟩ := bind_eq_ok.mp created
  obtain ⟨_, nonlethalChecked, created⟩ := bind_eq_ok.mp created
  cases created
  rw [← maximum]
  cases lethal with
  | false => exact (Scalar.normalizeSignedZero_eq nonlethalRate).symm ▸ scalar nonlethalChecked
  | true => exact (Scalar.normalizeSignedZero_eq lethalRate).symm ▸ scalar lethalChecked

theorem Admitted.classRate (admitted : Admitted tuning) (archetypes : List (HazardArchetype ℝ)) (lethal : Bool) :
    0 ≤ classRate archetypes tuning lethal ∧ Gameplay.classRate archetypes tuning lethal ≤ 5 := by
  rw [Gameplay.classRate]
  split
  · exact admitted.rates lethal
  · exact ⟨le_rfl, by norm_num⟩

theorem classRate_pos (positive : 0 < classRate archetypes tuning lethal) :
    0 < publishedRate tuning lethal ∧ ∃ archetype ∈ archetypes, archetype.lethalOnContact = lethal := by
  rw [classRate] at positive
  split at positive
  · next some => exact ⟨positive, some⟩
  · exact absurd positive (lt_irrefl _)

theorem Admitted.classIntervals (admitted : Admitted tuning) (archetypes : List (HazardArchetype ℝ)) :
    Disjoint (classInterval archetypes tuning true) (classInterval archetypes tuning false) ∧
      ∀ lethal, classInterval archetypes tuning lethal ⊆ Set.Ico 0 1 := by
  obtain ⟨lethalPositive, lethalBounded⟩ := admitted.classRate archetypes true
  obtain ⟨nonlethalPositive, nonlethalBounded⟩ := admitted.classRate archetypes false
  have tick : (fixedDeltaSeconds : ℝ) = 1 / 400 := fixedDeltaSeconds_real
  constructor
  · rw [classInterval, classInterval, classStart, classStart, if_pos rfl, if_neg Bool.false_ne_true, zero_add]
    refine Set.disjoint_left.mpr fun sample one other => ?_
    exact absurd (one.2.trans_le other.1) (lt_irrefl _)
  · intro lethal sample member
    rw [classInterval, classStart, tick, Set.mem_Ico] at member
    cases lethal with
    | false =>
      rw [if_neg Bool.false_ne_true] at member
      exact ⟨le_trans (by positivity) member.1, member.2.trans (by linarith)⟩
    | true =>
      rw [if_pos rfl] at member
      exact ⟨member.1, member.2.trans (by linarith)⟩

theorem mem_classInterval_of_lt (classUnit : 0 ≤ classSample)
    (inside : classSample < (classRate archetypes tuning true + classRate archetypes tuning false) * fixedDeltaSeconds) :
    ∃ lethal, classSample ∈ classInterval archetypes tuning lethal := by
  rw [add_mul] at inside
  by_cases first : classSample < classRate archetypes tuning true * fixedDeltaSeconds
  · refine ⟨true, ?_, ?_⟩
    · rwa [classStart, if_pos rfl]
    · rwa [classStart, if_pos rfl, zero_add]
  · refine ⟨false, ?_, ?_⟩
    · rw [classStart, if_neg Bool.false_ne_true]
      exact not_lt.mp first
    · rwa [classStart, if_neg Bool.false_ne_true]

theorem classRate_pos_of_mem (member : classSample ∈ classInterval archetypes tuning lethal) :
    0 < classRate archetypes tuning lethal := by
  have tick : 0 < (fixedDeltaSeconds : ℝ) := by
    rw [fixedDeltaSeconds_real]
    norm_num
  obtain ⟨low, high⟩ := member
  exact (pos_iff_pos_of_mul_pos (by linarith [low.trans_lt high])).mpr tick

theorem chooseKind_eq_some_iff (admitted : Admitted tuning) (classUnit : 0 ≤ classSample)
    (kindUnit : 0 ≤ kindSample ∧ kindSample < 1) :
    chooseKind archetypes tuning classSample kindSample = some index ↔
      ∃ below : index < archetypes.length,
        classSample ∈ classInterval archetypes tuning archetypes[index].lethalOnContact ∧
        kindSample ∈ kindInterval archetypes archetypes[index].lethalOnContact index archetypes[index] := by
  have lethalRate : (classRates (classWeights archetypes) tuning).lethal = classRate archetypes tuning true :=
    classRates_get archetypes tuning true
  have nonlethalRate : (classRates (classWeights archetypes) tuning).nonlethal = classRate archetypes tuning false :=
    classRates_get archetypes tuning false
  have tick : 0 < (fixedDeltaSeconds : ℝ) := by
    rw [fixedDeltaSeconds_real]
    norm_num
  have nonneg := fun lethal => mul_nonneg (admitted.classRate archetypes lethal).1 tick.le
  rw [chooseKind]
  dsimp only
  rw [lethalRate, nonlethalRate, add_mul]
  split
  · next outside =>
    refine iff_of_false (Option.some_ne_none _).symm ?_
    rintro ⟨below, member, -⟩
    generalize archetypes[index].lethalOnContact = lethal at member
    rw [classInterval, classStart, Set.mem_Ico] at member
    cases lethal with
    | false =>
      rw [if_neg Bool.false_ne_true] at member
      exact absurd member.2 (not_lt.mpr outside)
    | true =>
      rw [if_pos rfl, zero_add] at member
      linarith [member.2, nonneg false]
  · next inside =>
    have chosen : ∀ lethal, classSample ∈ classInterval archetypes tuning lethal ↔
        lethal = decide (classSample < classRate archetypes tuning true * fixedDeltaSeconds) := by
      intro lethal
      rw [classInterval, classStart, Set.mem_Ico]
      cases lethal with
      | false =>
        rw [if_neg Bool.false_ne_true, eq_comm, decide_eq_false_iff_not, not_lt]
        exact and_iff_left (not_le.mp inside)
      | true =>
        rw [if_pos rfl, zero_add, eq_comm, decide_eq_true_eq]
        exact and_iff_right classUnit
    generalize decide (classSample < classRate archetypes tuning true * fixedDeltaSeconds) = lethal at chosen ⊢
    have rated := classRate_pos_of_mem ((chosen lethal).mpr rfl)
    have positive := classWeight_pos_iff.mpr (classRate_pos rated).2
    have reached : 0 ≤ kindSample * classWeight archetypes lethal := mul_nonneg kindUnit.1 positive.le
    have short : kindSample * classWeight archetypes lethal < 0 + classWeight archetypes lethal := by
      rw [zero_add]
      exact mul_lt_of_lt_one_left positive kindUnit.2
    rw [classWeights_get, selectKind_eq_some_iff reached short]
    simp only [Nat.zero_add, sub_zero, exists_eq_left', within_iff_mem_kindInterval positive, chosen]
    exact exists_congr fun below => and_congr_right fun same => by rw [same]

theorem kindIntervals (some : ∃ archetype ∈ archetypes, archetype.lethalOnContact = lethal) :
    (∀ first second (firstBelow : first < archetypes.length) (secondBelow : second < archetypes.length),
      archetypes[first].lethalOnContact = lethal → archetypes[second].lethalOnContact = lethal → first ≠ second →
        Disjoint (kindInterval archetypes lethal first archetypes[first])
          (kindInterval archetypes lethal second archetypes[second])) ∧
    ∀ sample : ℝ, sample ∈ Set.Ico 0 1 ↔ ∃ (index : Nat) (below : index < archetypes.length),
      archetypes[index].lethalOnContact = lethal ∧ sample ∈ kindInterval archetypes lethal index archetypes[index] := by
  have positive := classWeight_pos_iff.mpr some
  have nonneg : ∀ item ∈ archetypes, 0 ≤ kindWeight lethal item := fun item _ => kindWeight_nonneg lethal item
  constructor
  · intro first second firstBelow secondBelow firstSame secondSame different
    refine Set.disjoint_left.mpr fun sample one other => different ?_
    exact within_unique nonneg ((within_iff_mem_kindInterval positive).mpr ⟨firstBelow, firstSame, one⟩)
      ((within_iff_mem_kindInterval positive).mpr ⟨secondBelow, secondSame, other⟩)
  · intro sample
    constructor
    · rintro ⟨low, high⟩
      obtain ⟨index, within⟩ := exists_within (mul_nonneg low positive.le) (mul_lt_of_lt_one_left positive high)
      exact ⟨index, (within_iff_mem_kindInterval positive).mp within⟩
    · rintro ⟨index, inside⟩
      obtain ⟨below, low, high⟩ := (within_iff_mem_kindInterval positive).mpr inside
      have started := before_mono nonneg (Nat.zero_le index)
      rw [before_zero] at started
      refine ⟨nonneg_of_mul_nonneg_left (started.trans low) positive, ?_⟩
      have ended := high.trans_le (before_le_total nonneg (index + 1))
      exact lt_of_mul_lt_mul_right (ended.trans_eq (one_mul _).symm) positive.le

theorem exists_chooseKind (admitted : Admitted tuning) (classUnit : 0 ≤ classSample)
    (kindUnit : 0 ≤ kindSample ∧ kindSample < 1)
    (inside : classSample < (classRate archetypes tuning true + classRate archetypes tuning false) * fixedDeltaSeconds) :
    ∃ index archetype, chooseKind archetypes tuning classSample kindSample = some index ∧
      archetypes[index]? = some archetype := by
  obtain ⟨lethal, member⟩ := mem_classInterval_of_lt classUnit inside
  obtain ⟨-, covered⟩ := kindIntervals (classRate_pos (classRate_pos_of_mem member)).2
  obtain ⟨index, below, same, kind⟩ := (covered kindSample).mp kindUnit
  refine ⟨index, archetypes[index], (chooseKind_eq_some_iff admitted classUnit kindUnit).mpr ⟨below, ?_, ?_⟩,
    List.getElem?_eq_getElem below⟩
  · rwa [same]
  · rwa [same]

end Intervals

section Births

variable {world next : GameWorld ℝ} {context : TickContext ℝ}

theorem nextUnitInterval_mem (random : DeterministicRandom) :
    (random.nextUnitInterval (S := ℝ)).1 ∈ Set.Ico (0 : ℝ) 1 := by
  have small : ((random.nextBits.1 >>> 11).toNat : ℝ) < 9007199254740992 := by
    have bits : (random.nextBits.1 >>> 11).toNat < 9007199254740992 := by
      rw [UInt64.toNat_shiftRight]
      have bound := random.nextBits.1.toNat_lt
      show random.nextBits.1.toNat >>> 11 < _
      rw [Nat.shiftRight_eq_div_pow]
      omega
    exact_mod_cast bits
  constructor
  · exact div_nonneg (Nat.cast_nonneg _) (Nat.cast_nonneg _)
  · refine (div_lt_one (by norm_num)).mpr ?_
    push_cast
    exact small

/-- The class sample of a trial, with the stream after it. -/
noncomputable def classDraw (world : GameWorld ℝ) : ℝ × DeterministicRandom :=
  (world.random.get .hazards).nextUnitInterval

noncomputable def kindDraw (world : GameWorld ℝ) : ℝ × DeterministicRandom := (classDraw world).2.nextUnitInterval

theorem apply_gated (shut : gated archetypes world = true) : apply archetypes world context = .ok world := by
  rw [HazardSpawnSystem.apply, shut]
  split <;> rfl

/-- An open trial draws a class sample, and a birth a kind sample before its kind is created. -/
theorem apply_open (running : world.matchState.phase = .running) (trial : gated archetypes world = false)
    (admitted : Admitted world.matchState.movement.current) :
    (chooseKind archetypes world.matchState.movement.current (classDraw world).1 (kindDraw world).1 = none →
      apply archetypes world context = .ok (withHazardStream world (classDraw world).2)) ∧
    ∀ index archetype, chooseKind archetypes world.matchState.movement.current (classDraw world).1 (kindDraw world).1 =
        some index → archetypes[index]? = some archetype →
      apply archetypes world context = (createCrossingHazard (withHazardStream world (kindDraw world).2)
        context.map.bounds archetype fixedDeltaSeconds).map Prod.snd := by
  obtain ⟨classLow, classHigh⟩ := nextUnitInterval_mem (world.random.get .hazards)
  have kindUnit := nextUnitInterval_mem (classDraw world).2
  have opened : apply archetypes world context =
      if ((classRates (classWeights archetypes) world.matchState.movement.current).lethal +
          (classRates (classWeights archetypes) world.matchState.movement.current).nonlethal) * fixedDeltaSeconds ≤
            (classDraw world).1 then .ok (withHazardStream world (classDraw world).2)
      else
        match (chooseKind archetypes world.matchState.movement.current (classDraw world).1 (kindDraw world).1).bind
          (archetypes[·]?) with
        | none => .ok (withHazardStream world (kindDraw world).2)
        | some archetype => (createCrossingHazard (withHazardStream world (kindDraw world).2) context.map.bounds archetype
            fixedDeltaSeconds).map Prod.snd := by
    rw [HazardSpawnSystem.apply, if_neg (not_not.mpr running), trial, kindDraw, classDraw]
    dsimp only
    rw [if_neg Bool.false_ne_true]
    by_cases outside : ((classRates (classWeights archetypes) world.matchState.movement.current).lethal +
        (classRates (classWeights archetypes) world.matchState.movement.current).nonlethal) * fixedDeltaSeconds ≤
          (world.random.get .hazards).nextUnitInterval.1
    · exact (if_pos outside).trans (if_pos outside).symm
    · rw [if_neg outside, if_neg outside, chooseKind]
      dsimp only
      rw [if_neg outside]
      split
      · next unanswered =>
        rw [unanswered]
      · next archetype answered =>
        rw [answered]
        dsimp only
        generalize createCrossingHazard _ context.map.bounds archetype fixedDeltaSeconds = created
        cases created with
        | error refusal => rfl
        | ok made => rfl
  have total : (classRates (classWeights archetypes) world.matchState.movement.current).lethal +
      (classRates (classWeights archetypes) world.matchState.movement.current).nonlethal =
        classRate archetypes world.matchState.movement.current true +
          classRate archetypes world.matchState.movement.current false :=
    congrArg₂ (· + ·) (classRates_get archetypes _ true) (classRates_get archetypes _ false)
  rw [opened, total]
  constructor
  · intro unborn
    rw [if_pos]
    by_contra inside
    obtain ⟨index, archetype, chosen, -⟩ := exists_chooseKind admitted classLow kindUnit (not_le.mp inside)
    exact absurd (chosen.symm.trans unborn) (Option.some_ne_none _)
  · intro index archetype chosen found
    have inside : ¬ (classRate archetypes world.matchState.movement.current true +
        classRate archetypes world.matchState.movement.current false) * fixedDeltaSeconds ≤ (classDraw world).1 := by
      intro outside
      rw [chooseKind, total] at chosen
      dsimp only at chosen
      rw [if_pos outside] at chosen
      cases chosen
    rw [if_neg inside, chosen, Option.bind_some, found]

theorem markLethal_crossings {entity : EntityId} (marks : markLethal world entity lethal = .ok next) :
    next.stores .crossingHazard = world.stores .crossingHazard := by
  rw [markLethal] at marks
  split at marks
  · split at marks
    · cases marks
    · cases marks
      exact GameWorld.withStore_other _ (by decide)
  · cases marks
    rfl

theorem assignContactEffectPolicy_crossings {entity : EntityId} {policy : ContactEffectPolicy}
    (assigns : assignContactEffectPolicy world entity policy = .ok next) :
    next.stores .crossingHazard = world.stores .crossingHazard := by
  rw [assignContactEffectPolicy] at assigns
  split at assigns
  · cases assigns
    exact GameWorld.withStore_other _ (by decide)
  · split at assigns
    · cases assigns
    · cases assigns
      exact GameWorld.withStore_other _ (by decide)

theorem createCrossingHazard_crossings {bounds : ArenaBounds ℝ} {archetype : HazardArchetype ℝ} {seconds : ℝ}
    {entity : EntityId} (created : createCrossingHazard world bounds archetype seconds = .ok (entity, next)) :
    ∀ other, (next.stores .crossingHazard).find other =
      if other = entity then some ⟨⟩ else (world.stores .crossingHazard).find other := by
  rw [createCrossingHazard] at created
  obtain ⟨crossing, -, created⟩ := bind_eq_ok.mp created
  obtain ⟨body, -, created⟩ := bind_eq_ok.mp created
  obtain ⟨drawn, draws, created⟩ := bind_eq_ok.mp created
  obtain ⟨reservation, -, -, same⟩ := GameWorld.createEntity_eq_ok draws
  obtain ⟨bodies, -, created⟩ := bind_eq_ok.mp created
  obtain ⟨crossings, inserted, created⟩ := bind_eq_ok.mp created
  obtain ⟨lifetimes, -, created⟩ := bind_eq_ok.mp created
  obtain ⟨marked, marks, created⟩ := bind_eq_ok.mp created
  obtain ⟨assigned, assigns, created⟩ := bind_eq_ok.mp created
  cases created
  intro other
  rw [assignContactEffectPolicy_crossings assigns, markLethal_crossings marks,
    GameWorld.withStore_other _ (by decide), GameWorld.withStore_same,
    ComponentStore.find_of_insertOrAssign inserted, same]

/-- A trial is shut when both classes rate zero, or the world has no room for another hazard. -/
theorem gated_iff (admitted : Admitted world.matchState.movement.current) :
    gated archetypes world = true ↔
      (∀ lethal, classRate archetypes world.matchState.movement.current lethal = 0) ∨ world.reservation.count = 0 ∨
        maximumActiveCrossingHazardCount ≤ (world.stores .crossingHazard).entries.length ∨
        maximumMotionBodyCount ≤ world.bodies.entries.length ∨ maximumEntityCount ≤ world.entities.length := by
  have total : (classRates (classWeights archetypes) world.matchState.movement.current).lethal +
      (classRates (classWeights archetypes) world.matchState.movement.current).nonlethal =
        classRate archetypes world.matchState.movement.current true +
          classRate archetypes world.matchState.movement.current false :=
    congrArg₂ (· + ·) (classRates_get archetypes _ true) (classRates_get archetypes _ false)
  have zero := add_eq_zero_iff_of_nonneg (admitted.classRate archetypes true).1 (admitted.classRate archetypes false).1
  simp only [gated, total, zero, Bool.or_eq_true, decide_eq_true_eq, Bool.forall_bool, or_assoc,
    and_comm (a := classRate archetypes world.matchState.movement.current false = 0)]

/-- What a running tick does: nothing behind its gate, and otherwise what its samples choose; at most one crossing
is new. -/
theorem apply_births (running : world.matchState.phase = .running)
    (admitted : Admitted world.matchState.movement.current) (applied : apply archetypes world context = .ok next) :
    next.stores .crossingHazard = world.stores .crossingHazard ∨
      ∃ entity, ∀ other, (next.stores .crossingHazard).find other =
        if other = entity then some ⟨⟩ else (world.stores .crossingHazard).find other := by
  cases trial : gated archetypes world with
  | true =>
    rw [apply_gated trial] at applied
    cases applied
    exact .inl rfl
  | false =>
    obtain ⟨unborn, born⟩ := @apply_open _ _ context running trial admitted
    cases chosen : chooseKind archetypes world.matchState.movement.current (classDraw world).1 (kindDraw world).1 with
    | none =>
      rw [unborn chosen] at applied
      cases applied
      exact .inl rfl
    | some index =>
      obtain ⟨below, -⟩ := (chooseKind_eq_some_iff admitted (nextUnitInterval_mem _).1 (nextUnitInterval_mem _)).mp chosen
      rw [born index _ chosen (List.getElem?_eq_getElem below)] at applied
      cases created : createCrossingHazard (withHazardStream world (kindDraw world).2) context.map.bounds
          archetypes[index] fixedDeltaSeconds with
      | error refusal =>
        rw [created] at applied
        cases applied
      | ok made =>
        obtain ⟨entity, made⟩ := made
        have crossings := createCrossingHazard_crossings created
        rw [created] at applied
        cases applied
        exact .inr ⟨entity, crossings⟩

end Births

/-- The samples are partitioned: a gated tick changes nothing, an open one does what its samples choose; the class
intervals and each class's kind intervals lie apart in the unit interval, the latter covering it, and exactly the
samples in an archetype's intervals choose it; what is chosen is of a class published at a positive rate. -/
theorem hazard_selection_partitions (archetypes : List (HazardArchetype ℝ)) (tuning : MovementTuning ℝ)
    (admitted : Admitted tuning) :
    (∀ (world : GameWorld ℝ) context, world.matchState.phase = .running → world.matchState.movement.current = tuning →
      (gated archetypes world = true → apply archetypes world context = .ok world) ∧
      (gated archetypes world = true ↔
        (∀ lethal, classRate archetypes tuning lethal = 0) ∨ world.reservation.count = 0 ∨
          maximumActiveCrossingHazardCount ≤ (world.stores .crossingHazard).entries.length ∨
          maximumMotionBodyCount ≤ world.bodies.entries.length ∨ maximumEntityCount ≤ world.entities.length) ∧
      (gated archetypes world = false → chooseKind archetypes tuning (classDraw world).1 (kindDraw world).1 = none →
        apply archetypes world context = .ok (withHazardStream world (classDraw world).2)) ∧
      (∀ index archetype, gated archetypes world = false →
        chooseKind archetypes tuning (classDraw world).1 (kindDraw world).1 = some index →
        archetypes[index]? = some archetype →
          apply archetypes world context = (createCrossingHazard (withHazardStream world (kindDraw world).2)
            context.map.bounds archetype fixedDeltaSeconds).map Prod.snd) ∧
      ∀ next, apply archetypes world context = .ok next →
        next.stores .crossingHazard = world.stores .crossingHazard ∨
          ∃ entity, ∀ other, (next.stores .crossingHazard).find other =
            if other = entity then some ⟨⟩ else (world.stores .crossingHazard).find other) ∧
    (Disjoint (classInterval archetypes tuning true) (classInterval archetypes tuning false) ∧
      ∀ lethal, classInterval archetypes tuning lethal ⊆ Set.Ico 0 1) ∧
    (∀ lethal, (∃ archetype ∈ archetypes, archetype.lethalOnContact = lethal) →
      (∀ first second (firstBelow : first < archetypes.length) (secondBelow : second < archetypes.length),
        archetypes[first].lethalOnContact = lethal → archetypes[second].lethalOnContact = lethal → first ≠ second →
          Disjoint (kindInterval archetypes lethal first archetypes[first])
            (kindInterval archetypes lethal second archetypes[second])) ∧
      ∀ sample : ℝ, sample ∈ Set.Ico 0 1 ↔ ∃ (index : Nat) (below : index < archetypes.length),
        archetypes[index].lethalOnContact = lethal ∧ sample ∈ kindInterval archetypes lethal index archetypes[index]) ∧
    ∀ classSample ∈ Set.Ico (0 : ℝ) 1, ∀ kindSample ∈ Set.Ico (0 : ℝ) 1, ∀ index,
      (chooseKind archetypes tuning classSample kindSample = some index ↔
        ∃ below : index < archetypes.length,
          classSample ∈ classInterval archetypes tuning archetypes[index].lethalOnContact ∧
          kindSample ∈ kindInterval archetypes archetypes[index].lethalOnContact index archetypes[index]) ∧
      (chooseKind archetypes tuning classSample kindSample = some index →
        ∀ archetype, archetypes[index]? = some archetype → 0 < publishedRate tuning archetype.lethalOnContact) := by
  refine ⟨fun world context running current => ?_, admitted.classIntervals archetypes, fun lethal => kindIntervals, ?_⟩
  · subst current
    refine ⟨apply_gated, gated_iff admitted, fun trial => (apply_open running trial admitted).1, ?_, ?_⟩
    · exact fun index archetype trial => (apply_open running trial admitted).2 index archetype
    · exact fun next applied => apply_births running admitted applied
  · intro classSample classUnit kindSample kindUnit index
    have chooses := @chooseKind_eq_some_iff archetypes _ index _ _ admitted classUnit.1 kindUnit
    refine ⟨chooses, fun chosen archetype found => ?_⟩
    obtain ⟨below, member, -⟩ := chooses.mp chosen
    rw [List.getElem?_eq_getElem below] at found
    cases found
    exact (classRate_pos (classRate_pos_of_mem member)).1

noncomputable def comet : HazardArchetype ℝ := ⟨"comet", 1, 1, 1, 1, 400, true, .anyTouch, 0, Nat.succ_pos _⟩

noncomputable def stormTuning : MovementTuning ℝ := ⟨1, 1, 0, 1, 0⟩

theorem stormTuning_admitted : Admitted stormTuning := by
  refine ⟨1, 1, 0, 1, 0, ?_⟩
  have accepted : ∀ {value minimum maximum : ℝ} {context : String}, minimum ≤ value → value ≤ maximum →
      MovementTuning.requireTuningScalar value minimum maximum context = .ok () := by
    intro value minimum maximum context low high
    rw [MovementTuning.requireTuningScalar, if_pos (isFinite_real value), if_neg (not_or.mpr ⟨not_lt.mpr low, not_lt.mpr high⟩)]
  rw [MovementTuning.create, accepted, accepted, accepted, accepted, accepted]
  · simp only [Scalar.normalizeSignedZero_eq]
    rfl
  all_goals norm_num [MovementTuning.maximumMovementAcceleration, MovementTuning.minimumNormalTopSpeed,
    MovementTuning.maximumNormalTopSpeed, MovementTuning.maximumChargeSpeedFraction, maximumPhysicalComponentMagnitude,
    MovementTuning.maximumCrossingSpawnRatePerSecond]

/-- The class intervals of one lethal kind. -/
theorem hazard_selection_partitions_comet :
    Disjoint (classInterval [comet] stormTuning true) (classInterval [comet] stormTuning false) ∧
      ∀ lethal, classInterval [comet] stormTuning lethal ⊆ Set.Ico 0 1 :=
  (hazard_selection_partitions [comet] stormTuning stormTuning_admitted).2.1

end BlobRoyale.Gameplay
