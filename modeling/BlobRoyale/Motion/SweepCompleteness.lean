import Mathlib.Data.List.FinRange
import Mathlib.Tactic.Ring
import BlobRoyale.Motion.RebuildSoundness

/-!
# The layout of the pairs

Pairs are listed by rows, a row for each first body, so the place of a pair is a triangular number and
an offset. No operation of the solver moves a pair.
-/

namespace BlobRoyale.Simulation

namespace SolverState

section Rows

variable {count : Nat}

def pairRow (first : Fin count) : List (Fin count × Fin count) :=
  ((List.finRange count).filter fun second => first < second).map (Prod.mk first)

def pairRows (count : Nat) : List (Fin count × Fin count) := (List.finRange count).flatMap pairRow

theorem filter_later (first : Fin count) :
    ((List.finRange count).filter fun second => first < second) = (List.finRange count).drop (first.val + 1) := by
  conv_lhs => rw [← List.take_append_drop (first.val + 1) (List.finRange count)]
  have earlier : ((List.finRange count).take (first.val + 1)).filter (fun second => first < second) = [] := by
    refine List.filter_eq_nil_iff.mpr ?_
    intro second member
    obtain ⟨place, within, same⟩ := List.mem_take_iff_getElem.mp member
    rw [List.getElem_finRange] at same
    rw [decide_eq_true_eq, ← same, Fin.lt_def]
    simp only [Fin.val_cast]
    omega
  have later : ((List.finRange count).drop (first.val + 1)).filter (fun second => first < second) =
      (List.finRange count).drop (first.val + 1) := by
    refine List.filter_eq_self.mpr ?_
    intro second member
    obtain ⟨place, within, same⟩ := List.mem_drop_iff_getElem.mp member
    rw [List.getElem_finRange] at same
    rw [decide_eq_true_eq, ← same, Fin.lt_def]
    simp only [Fin.val_cast]
    omega
  rw [List.filter_append, earlier, later, List.nil_append]

theorem pairRow_length (first : Fin count) : (pairRow first).length = count - (first.val + 1) := by
  rw [pairRow, filter_later, List.length_map, List.length_drop, List.length_finRange]

theorem pairRow_get {first second : Fin count} (ordered : first < second) :
    (pairRow first)[second.val - first.val - 1]? = some (first, second) := by
  have before : first.val < second.val := ordered
  have within := second.isLt
  have place : first.val + 1 + (second.val - first.val - 1) = second.val := by omega
  rw [pairRow, filter_later, List.getElem?_map, List.getElem?_drop, place,
    List.getElem?_eq_getElem (by rw [List.length_finRange]; exact within), List.getElem_finRange]
  rfl

theorem triangular_succ {total place : Nat} (within : place < total) :
    (place + 1) * (2 * total - (place + 1) - 1) =
      place * (2 * total - place - 1) + 2 * (total - (place + 1)) := by
  obtain ⟨rest, same⟩ := Nat.exists_eq_add_of_le (Nat.succ_le_of_lt within)
  subst same
  have first : 2 * (place + 1 + rest) - (place + 1) - 1 = place + 2 * rest := by omega
  have second : 2 * (place + 1 + rest) - place - 1 = place + 1 + 2 * rest := by omega
  have third : place + 1 + rest - (place + 1) = rest := by omega
  rw [first, second, third]
  ring

theorem rows_length {place : Nat} (within : place ≤ count) :
    2 * (((List.finRange count).take place).flatMap pairRow).length = place * (2 * count - place - 1) := by
  induction place with
  | zero => simp
  | succ place ih =>
    have bounded : place < (List.finRange count).length := by
      rw [List.length_finRange]
      omega
    rw [List.take_succ_eq_append_getElem bounded, List.flatMap_append, List.length_append, Nat.mul_add,
      ih (by omega), List.flatMap_singleton, pairRow_length, List.getElem_finRange, triangular_succ (by omega)]
    rfl

theorem pairRows_get {first second : Fin count} (ordered : first < second) :
    (pairRows count)[pairIndex first second]? = some (first, second) := by
  have before : first.val < second.val := ordered
  have within := second.isLt
  have bounded : first.val < (List.finRange count).length := by
    rw [List.length_finRange]
    omega
  have split : List.finRange count = (List.finRange count).take first.val ++
      first :: (List.finRange count).drop (first.val + 1) := by
    have at_first : (List.finRange count)[first.val] = first := by
      rw [List.getElem_finRange]
      rfl
    conv_lhs => rw [← List.take_append_drop first.val (List.finRange count),
      List.drop_eq_getElem_cons bounded, at_first]
  have rowsBefore : 2 * (((List.finRange count).take first.val).flatMap pairRow).length =
      first.val * (2 * count - first.val - 1) := rows_length (by omega)
  have index : pairIndex first second =
      (((List.finRange count).take first.val).flatMap pairRow).length + (second.val - first.val - 1) := by
    unfold pairIndex
    dsimp only
    rw [min_eq_left (Nat.le_of_lt before), max_eq_right (Nat.le_of_lt before), ← rowsBefore]
    omega
  have inside : second.val - first.val - 1 < (pairRow first).length := by
    rw [pairRow_length]
    omega
  have rows : pairRows count = ((List.finRange count).take first.val).flatMap pairRow ++
      (pairRow first ++ ((List.finRange count).drop (first.val + 1)).flatMap pairRow) := by
    rw [← List.flatMap_cons, ← List.flatMap_append, ← split]
    rfl
  rw [rows, index, List.getElem?_append_right (Nat.le_add_right ..), Nat.add_sub_cancel_left,
    List.getElem?_append_left inside]
  exact pairRow_get ordered

theorem pairIndex_comm (first second : Fin count) : pairIndex first second = pairIndex second first := by
  unfold pairIndex
  rw [min_comm, max_comm]

theorem pairRows_ordered {named : Fin count × Fin count} (member : named ∈ pairRows count) : named.1 < named.2 := by
  obtain ⟨first, -, row⟩ := List.mem_flatMap.mp member
  obtain ⟨second, later, same⟩ := List.mem_map.mp row
  subst same
  exact of_decide_eq_true (List.mem_filter.mp later).2

theorem pairRows_nodup : (pairRows count).Nodup := by
  refine List.nodup_flatMap.mpr ⟨?_, ?_⟩
  · intro first _
    exact ((List.nodup_finRange count).filter _).map (Prod.mk_right_injective first)
  · refine (List.nodup_finRange count).imp ?_
    intro first second different named member other
    obtain ⟨_, -, same⟩ := List.mem_map.mp member
    obtain ⟨_, -, also⟩ := List.mem_map.mp other
    exact different (congrArg Prod.fst (same.trans also.symm))

end Rows

section Layout

variable {S : Type} [Scalar S] {count : Nat} {state next : SolverState S count}

def PairCache.named (pair : PairCache S count) : Fin count × Fin count := (pair.first, pair.second)

def Laid (state : SolverState S count) : Prop := state.pairs.map PairCache.named = pairRows count

theorem allPairs_named : (allPairs count : List (PairCache S count)).map PairCache.named = pairRows count := by
  unfold allPairs pairRows pairRow
  rw [List.map_flatMap]
  congr 1
  funext first
  rw [List.map_map]
  rfl

theorem Laid.of_named (laid : state.Laid)
    (named : List.Forall₂ (fun before after => PairCache.named after = PairCache.named before) state.pairs next.pairs) :
    next.Laid := by
  unfold Laid at laid ⊢
  rw [← laid]
  revert named
  generalize state.pairs = before
  generalize next.pairs = after
  intro named
  induction named with
  | nil => rfl
  | cons same _ ih => rw [List.map_cons, List.map_cons, same, ih]

theorem Laid.place (laid : state.Laid) {place : Nat} {pair : PairCache S count}
    (listed : state.pairs[place]? = some pair) :
    pair.first < pair.second ∧ place = pairIndex pair.first pair.second := by
  have named : (pairRows count)[place]? = some (pair.first, pair.second) := by
    rw [← laid, List.getElem?_map, listed]
    rfl
  have ordered := pairRows_ordered (List.mem_of_getElem? named)
  refine ⟨ordered, ?_⟩
  have within : place < (pairRows count).length := (List.getElem?_eq_some_iff.mp named).1
  exact (List.getElem?_inj within pairRows_nodup).mp (named.trans (pairRows_get ordered).symm)

end Layout

end SolverState

end BlobRoyale.Simulation

/-!
# The sweep loses no overlap

Sweeping boxes in order of their lower x bound, with an early break, marks every pair of boxes that
overlap along both axes and whose bodies may meet.
-/

namespace BlobRoyale.Simulation

namespace SolverState

variable {S : Type} [Scalar S] {count : Nat} {state : SolverState S count}

/-- Two boxes that overlap along x and whose bodies meet past it. -/
def Overlaps (state : SolverState S count) (first second : SweptAabb S count) : Prop :=
  first.minimumX ≤ second.maximumX ∧ second.minimumX ≤ first.maximumX ∧ state.meets first second = true

theorem meets_comm (first second : SweptAabb S count) : state.meets first second = state.meets second first := by
  unfold meets collisionMasksAdmit
  simp only [Bool.and_comm, Bool.or_comm]

theorem Overlaps.symm {first second : SweptAabb S count} (overlaps : state.Overlaps first second) :
    state.Overlaps second first :=
  ⟨overlaps.2.1, overlaps.1, (meets_comm second first).trans overlaps.2.2⟩

section Order

instance : Std.Total (state.sweepsBefore) := by
  constructor
  intro first second
  obtain before | same | after := lt_trichotomy first.minimumX second.minimumX
  · exact .inl (.inl before)
  · obtain less | more := le_total (state.bodies first.body).subject.1 (state.bodies second.body).subject.1
    · exact .inl (.inr ⟨same, less⟩)
    · exact .inr (.inr ⟨same.symm, more⟩)
  · exact .inr (.inl after)

instance : IsTrans (SweptAabb S count) state.sweepsBefore := by
  constructor
  rintro first second third (before | ⟨same, less⟩) (later | ⟨also, lesser⟩)
  · exact .inl (before.trans later)
  · exact .inl (also ▸ before)
  · exact .inl (same ▸ later)
  · exact .inr ⟨same.trans also, less.trans lesser⟩

end Order

section Sweeping

variable {sweep swept : Sweep S count} {place : Nat}

def Sweep.Marks (sweep : Sweep S count) (place : Nat) : Prop :=
  ∃ pair, sweep.pairs[place]? = some pair ∧ pair.candidate = true

theorem Sweep.Marks.marked {limits : MotionLimits} {first second : Fin count} (marks : sweep.Marks place)
    (marked : sweep.markCandidate limits first second = .ok swept) : swept.Marks place := by
  obtain ⟨pair, listed, candidate⟩ := marks
  unfold Sweep.Marks
  rw [Sweep.markCandidate_eq_ok marked, List.getElem?_modify, listed]
  by_cases same : pairIndex first second = place
  · refine ⟨_, rfl, ?_⟩
    simp only [if_pos same]
  · refine ⟨_, rfl, ?_⟩
    simp only [if_neg same]
    exact candidate

end Sweeping

theorem sweptAabb_body {index : Fin count} {box : SweptAabb S count} (measured : state.sweptAabb index = .ok box) :
    box.body = index := by
  obtain ⟨velocity, -, rest⟩ := bind_eq_ok.mp measured
  cases rest
  rfl

section Only

/-- Whether two bodies may be a candidate pair at all: live, not both static, masks admitting. -/
def admits (state : SolverState S count) (first second : Fin count) : Bool :=
  (state.bodies first).disposition = .continues && (state.bodies second).disposition = .continues &&
    !((state.bodies first).subject.2.isStatic && (state.bodies second).subject.2.isStatic) &&
    collisionMasksAdmit (state.bodies first).subject.2 (state.bodies second).subject.2

theorem admits_comm (first second : Fin count) : state.admits first second = state.admits second first := by
  unfold admits collisionMasksAdmit
  simp only [Bool.and_comm]

theorem pairRows_get_of_ne {first second : Fin count} (different : first ≠ second) :
    (pairRows count)[pairIndex first second]? = some (first, second) ∨
      (pairRows count)[pairIndex first second]? = some (second, first) := by
  obtain before | after := lt_or_gt_of_ne different
  · exact .inl (pairRows_get before)
  · rw [pairIndex_comm]
    exact .inr (pairRows_get after)

/-- A sweep that has marked admitted pairs only. -/
structure Sweep.Only (state : SolverState S count) (sweep : Sweep S count) : Prop where
  named : sweep.pairs.map PairCache.named = pairRows count
  admitted : ∀ pair ∈ sweep.pairs, pair.candidate = true → state.admits pair.first pair.second = true

theorem Sweep.Only.marked {sweep marked : Sweep S count} {limits : MotionLimits} {first second : Fin count}
    (only : sweep.Only state) (different : first ≠ second) (admitted : state.admits first second = true)
    (marks : sweep.markCandidate limits first second = .ok marked) : marked.Only state := by
  have pairs := Sweep.markCandidate_eq_ok marks
  constructor
  · rw [← only.named, pairs]
    refine List.ext_getElem? fun place => ?_
    rw [List.getElem?_map, List.getElem?_map, List.getElem?_modify]
    cases sweep.pairs[place]? with
    | none => rfl
    | some pair =>
      simp only [Option.map_eq_map, Option.map_some]
      split <;> rfl
  · intro pair member candidate
    rw [pairs] at member
    obtain ⟨place, listed⟩ := List.getElem?_of_mem member
    rw [List.getElem?_modify] at listed
    cases before : sweep.pairs[place]? with
    | none =>
      rw [before] at listed
      cases listed
    | some former =>
      rw [before] at listed
      simp only [Option.map_eq_map, Option.map_some, Option.some.injEq] at listed
      by_cases same : pairIndex first second = place
      · rw [if_pos same] at listed
        have named : (pairRows count)[pairIndex first second]? = some (former.first, former.second) := by
          rw [same, ← only.named, List.getElem?_map, before]
          rfl
        rw [← listed]
        obtain forward | backward := pairRows_get_of_ne different
        · cases forward.symm.trans named
          exact admitted
        · cases backward.symm.trans named
          exact (admits_comm _ _).trans admitted
      · rw [if_neg same] at listed
        rw [← listed] at candidate ⊢
        exact only.admitted former (List.mem_of_getElem? before) candidate

end Only

end SolverState

end BlobRoyale.Simulation
