import Mathlib.Data.Nat.Basic
import Mathlib.Logic.Relation
import Mathlib.Order.Basic

/-!
# Labeled transition runs

A run records every intermediate state, so a property can speak about two positions of one run.
Invariants are proved once per step and carried to every position by `Run.invariant`; a property
that holds at one position and fails at a later one changes at some step between them.
-/

namespace Transition

variable {State Label : Type}

/-- A run of `length` steps: `state i` is where it stands before step `i`, labeled `label i`. -/
structure Run (step : State → Label → State → Prop) (length : Nat) where
  state : Nat → State
  label : Nat → Label
  steps : ∀ position, position < length → step (state position) (label position) (state (position + 1))

def trajectory (apply : State → Label → State) (start : State) (label : Nat → Label) : Nat → State
  | 0 => start
  | position + 1 => apply (trajectory apply start label position) (label position)

namespace Run

def single {step : State → Label → State → Prop} {before after : State} {label : Label}
    (stepped : step before label after) : Run step 1 where
  state := fun
    | 0 => before
    | _ + 1 => after
  label _ := label
  steps := fun
    | 0, _ => stepped

def empty {step : State → Label → State → Prop} (state : State) (label : Label) : Run step 0 where
  state _ := state
  label _ := label
  steps _ impossible := absurd impossible (Nat.not_lt_zero _)

def cons {step : State → Label → State → Prop} {length : Nat} {before : State} {label : Label}
    (run : Run step length) (stepped : step before label (run.state 0)) : Run step (length + 1) where
  state := fun
    | 0 => before
    | position + 1 => run.state position
  label := fun
    | 0 => label
    | position + 1 => run.label position
  steps := fun
    | 0, _ => stepped
    | position + 1, within => run.steps position (Nat.lt_of_succ_lt_succ within)

/-- The run of a total operation under a sequence of labels. -/
def ofLabels (apply : State → Label → State) (start : State) (label : Nat → Label) (length : Nat) :
    Run (fun before label after => after = apply before label) length where
  state := trajectory apply start label
  label := label
  steps _ _ := rfl

variable {step : State → Label → State → Prop} {length : Nat}

/-- A run seen through an abstraction every step of it simulates. -/
def simulate {Abstract Action : Type} {abstractStep : Abstract → Action → Abstract → Prop}
    (run : Run step length) (abstract : State → Abstract) (action : Label → Action)
    (simulates : ∀ position, position < length → abstractStep (abstract (run.state position))
      (action (run.label position)) (abstract (run.state (position + 1)))) :
    Run abstractStep length where
  state position := abstract (run.state position)
  label position := action (run.label position)
  steps := simulates

theorem invariant_of_steps (run : Run step length) {P : State → Prop} (initial : P (run.state 0))
    (preserves : ∀ position, position < length → P (run.state position) →
      P (run.state (position + 1))) :
    ∀ position, position ≤ length → P (run.state position) := by
  intro position within
  induction position with
  | zero => exact initial
  | succ position ih => exact preserves position within (ih (Nat.le_of_succ_le within))

theorem invariant (run : Run step length) {P : State → Prop} (initial : P (run.state 0))
    (preserves : ∀ {s label t}, P s → step s label t → P t) :
    ∀ position, position ≤ length → P (run.state position) :=
  run.invariant_of_steps initial
    fun position before holds => preserves holds (run.steps position before)

theorem persists (run : Run step length) {P : State → Prop} {first last : Nat}
    (ordered : first ≤ last) (within : last ≤ length) (holds : P (run.state first))
    (preserves : ∀ position, first ≤ position → position < last → P (run.state position) →
      step (run.state position) (run.label position) (run.state (position + 1)) →
      P (run.state (position + 1))) :
    P (run.state last) := by
  induction last, ordered using Nat.le_induction with
  | base => exact holds
  | succ last ordered ih =>
      have before : last < length := within
      refine preserves last ordered (Nat.lt_succ_self last) ?_ (run.steps last before)
      exact ih (Nat.le_of_lt before) fun position lower upper =>
        preserves position lower (Nat.lt_succ_of_lt upper)

theorem exists_loss (run : Run step length) {P : State → Prop} {first last : Nat}
    (ordered : first ≤ last) (within : last ≤ length) (holds : P (run.state first))
    (fails : ¬ P (run.state last)) :
    ∃ position, first ≤ position ∧ position < last ∧ P (run.state position) ∧
      ¬ P (run.state (position + 1)) := by
  by_contra unchanged
  refine fails (run.persists ordered within holds fun position lower upper held _ => ?_)
  by_contra lost
  exact unchanged ⟨position, lower, upper, held, lost⟩

theorem exists_behind (run : Run step length) {start : State}
    (leads : Relation.ReflTransGen (fun before after => ∃ label, step before label after) start (run.state 0)) :
    ∃ (total offset : Nat) (full : Run step total), full.state 0 = start ∧ offset + length = total ∧
      ∀ position, full.state (offset + position) = run.state position ∧
        full.label (offset + position) = run.label position := by
  induction leads using Relation.ReflTransGen.head_induction_on with
  | refl => exact ⟨length, 0, run, rfl, Nat.zero_add _, fun position => by simp only [Nat.zero_add, and_self]⟩
  | head leads _ ih =>
    obtain ⟨label, stepped⟩ := leads
    obtain ⟨total, offset, full, start, ends, same⟩ := ih
    refine ⟨total + 1, offset + 1, full.cons (start.symm ▸ stepped), rfl, by omega, fun position => ?_⟩
    rw [Nat.add_right_comm]
    exact same position

end Run

section Fallible

variable {State Entry Error : Type} {step : State → Entry → Except Error State}

theorem foldlM_preserves {P : State → Prop} {entries : List Entry} {start final : State}
    (preserves : ∀ entry ∈ entries, ∀ s t, P s → step s entry = .ok t → P t) (initial : P start)
    (folded : entries.foldlM step start = .ok final) : P final := by
  induction entries generalizing start with
  | nil =>
    cases folded
    exact initial
  | cons entry rest ih =>
    rw [List.foldlM_cons] at folded
    cases stepped : step start entry with
    | error refusal =>
      rw [stepped] at folded
      cases folded
    | ok next =>
      rw [stepped] at folded
      exact ih (fun other member => preserves other (List.mem_cons_of_mem _ member))
        (preserves entry List.mem_cons_self start next initial stepped) folded

theorem foldlM_concat {entries : List Entry} {entry : Entry} {start final : State} :
    (entries ++ [entry]).foldlM step start = .ok final ↔
      ∃ middle, entries.foldlM step start = .ok middle ∧ step middle entry = .ok final := by
  rw [List.foldlM_append]
  cases folded : entries.foldlM step start with
  | error refusal =>
    constructor
    · intro impossible
      cases impossible
    · rintro ⟨middle, impossible, -⟩
      cases impossible
  | ok middle =>
    have single : [entry].foldlM step middle = step middle entry := by
      cases stepped : step middle entry <;> simp [bind, Except.bind, pure, Except.pure, stepped]
    constructor
    · intro stepped
      exact ⟨middle, rfl, single.symm.trans stepped⟩
    · rintro ⟨_, ⟨⟩, stepped⟩
      exact single.trans stepped

theorem foldlM_refused {entries : List Entry} {start : State} {refusal : Error}
    (refused : entries.foldlM step start = .error refusal) :
    ∃ earlier entry later before, entries = earlier ++ entry :: later ∧
      earlier.foldlM step start = .ok before ∧ step before entry = .error refusal := by
  induction entries generalizing start with
  | nil => cases refused
  | cons entry rest ih =>
    rw [List.foldlM_cons] at refused
    cases stepped : step start entry with
    | error first =>
      rw [stepped] at refused
      cases refused
      exact ⟨[], entry, rest, start, rfl, rfl, stepped⟩
    | ok next =>
      rw [stepped] at refused
      obtain ⟨earlier, failing, later, before, split, reached, stuck⟩ := ih refused
      refine ⟨entry :: earlier, failing, later, before, congrArg (entry :: ·) split, ?_, stuck⟩
      rw [List.foldlM_cons, stepped]
      exact reached

end Fallible

end Transition
