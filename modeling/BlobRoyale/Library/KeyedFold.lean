import Mathlib.Data.List.Perm.Basic
import Mathlib.Data.List.Count
import Mathlib.Data.List.Nodup
import Mathlib.Logic.Function.Basic

/-!
# Folds of keyed events

Each event acts on the part of a state its key names, and may put something out. What becomes of a part is
what its own events make of it in their order, so only how the keys interleave is free.
-/

namespace KeyedFold

variable {K E V O : Type}

/-- What an event does to its key's part, and what it puts out there. -/
structure Action (K E V O : Type) where
  key : E → K
  effect : E → V → V
  puts : E → V → List O

namespace Action

def alone (action : Action K E V O) (events : List E) (part : V) : V :=
  events.foldl (fun part event => action.effect event part) part

def aloneOutput (action : Action K E V O) : List E → V → List O
  | [], _ => []
  | event :: rest, part => action.puts event part ++ action.aloneOutput rest (action.effect event part)

variable [DecidableEq K]

def step (action : Action K E V O) (parts : K → V) (event : E) : K → V :=
  Function.update parts (action.key event) (action.effect event (parts (action.key event)))

def run (action : Action K E V O) (events : List E) (parts : K → V) : K → V :=
  events.foldl action.step parts

/-- What the events put out, with the keys they had. -/
def output (action : Action K E V O) : List E → (K → V) → List (K × O)
  | [], _ => []
  | event :: rest, parts =>
      (action.puts event (parts (action.key event))).map (Prod.mk (action.key event)) ++
        action.output rest (action.step parts event)

def ofKey (action : Action K E V O) (key : K) (events : List E) : List E :=
  events.filter fun event => action.key event = key

variable {action : Action K E V O} {events : List E} {parts : K → V} {key : K}

theorem step_own (event : E) :
    action.step parts event (action.key event) = action.effect event (parts (action.key event)) :=
  Function.update_self ..

theorem step_other {event : E} (other : action.key event ≠ key) : action.step parts event key = parts key :=
  Function.update_of_ne (Ne.symm other) ..

theorem ofKey_cons_own {event : E} (own : action.key event = key) (rest : List E) :
    action.ofKey key (event :: rest) = event :: action.ofKey key rest :=
  List.filter_cons_of_pos (by simpa using own)

theorem ofKey_cons_other {event : E} (other : action.key event ≠ key) (rest : List E) :
    action.ofKey key (event :: rest) = action.ofKey key rest :=
  List.filter_cons_of_neg (by simpa using other)

theorem run_apply : action.run events parts key = action.alone (action.ofKey key events) (parts key) := by
  induction events generalizing parts with
  | nil => rfl
  | cons event rest ih =>
    rw [run, List.foldl_cons, ← run, ih]
    by_cases own : action.key event = key
    · subst own
      rw [step_own, ofKey_cons_own rfl]
      rfl
    · rw [step_other own, ofKey_cons_other own]

theorem output_ofKey : (action.output events parts).filter (fun tagged => tagged.1 = key) =
    (action.aloneOutput (action.ofKey key events) (parts key)).map (Prod.mk key) := by
  induction events generalizing parts with
  | nil => rfl
  | cons event rest ih =>
    rw [output, List.filter_append, ih]
    by_cases own : action.key event = key
    · subst own
      rw [step_own, ofKey_cons_own rfl, aloneOutput, List.map_append]
      congr 1
      exact List.filter_eq_self.mpr fun tagged member => by
        obtain ⟨put, -, rfl⟩ := List.mem_map.mp member
        exact decide_eq_true rfl
    · rw [step_other own, ofKey_cons_other own]
      have none : ((action.puts event (parts (action.key event))).map (Prod.mk (action.key event))).filter
          (fun tagged => tagged.1 = key) = [] := by
        refine List.filter_eq_nil_iff.mpr fun tagged member => ?_
        obtain ⟨put, -, rfl⟩ := List.mem_map.mp member
        simpa using own
      rw [none, List.nil_append]

theorem mem_output {put : O} : (key, put) ∈ action.output events parts ↔
    put ∈ action.aloneOutput (action.ofKey key events) (parts key) := by
  have tagged : (key, put) ∈ (action.output events parts).filter (fun tagged => tagged.1 = key) ↔
      (key, put) ∈ action.output events parts := by
    rw [List.mem_filter]
    exact and_iff_left (decide_eq_true rfl)
  rw [← tagged, output_ofKey, List.mem_map]
  constructor
  · rintro ⟨_, member, same⟩
    cases same
    exact member
  · intro member
    exact ⟨put, member, rfl⟩

theorem output_keys_nodup
    (single : ∀ key, (action.aloneOutput (action.ofKey key events) (parts key)).length ≤ 1) :
    ((action.output events parts).map Prod.fst).Nodup := by
  refine List.nodup_iff_count_le_one.mpr fun key => ?_
  have counted : ((action.output events parts).map Prod.fst).count key =
      ((action.output events parts).filter fun tagged => tagged.1 = key).length := by
    rw [List.count, List.countP_map, List.countP_eq_length_filter]
    exact congrArg List.length (List.filter_congr fun tagged _ => beq_eq_decide tagged.1 key)
  rw [counted, output_ofKey, List.length_map]
  exact single key

theorem output_sublist (named : O → E) (named_self : ∀ event part,
    ((action.puts event part).map named).Sublist [event]) :
    ((action.output events parts).map fun tagged => named tagged.2).Sublist events := by
  induction events generalizing parts with
  | nil => exact .slnil
  | cons event rest ih =>
    rw [output, List.map_append, List.map_map]
    exact (named_self event (parts (action.key event))).append ih

theorem perm_of_tags [DecidableEq O] {first second : List (K × O)}
    (alike : ∀ key, first.filter (fun tagged => tagged.1 = key) = second.filter (fun tagged => tagged.1 = key)) :
    first.Perm second := by
  refine List.perm_iff_count.mpr fun tagged => ?_
  have counts : ∀ entries : List (K × O),
      entries.count tagged = (entries.filter (fun other => other.1 = tagged.1)).count tagged := fun entries =>
    (List.count_filter (by simp)).symm
  rw [counts first, counts second, alike]

theorem run_congr {others : List E} (alike : ∀ key, action.ofKey key events = action.ofKey key others) :
    action.run events parts = action.run others parts := by
  funext key
  rw [run_apply, run_apply, alike]

theorem ofKey_of_nodup (distinct : (events.map action.key).Nodup) {event : E} (member : event ∈ events) :
    action.ofKey (action.key event) events = [event] := by
  obtain ⟨earlier, later, rfl⟩ := List.append_of_mem member
  rw [List.map_append, List.map_cons, List.nodup_append] at distinct
  obtain ⟨-, tail, apart⟩ := distinct
  have before : action.ofKey (action.key event) earlier = [] := by
    refine List.filter_eq_nil_iff.mpr fun other inside same => ?_
    exact apart _ (List.mem_map_of_mem inside) _ List.mem_cons_self (of_decide_eq_true same)
  have behind : action.ofKey (action.key event) later = [] := by
    refine List.filter_eq_nil_iff.mpr fun other inside same => ?_
    exact (List.nodup_cons.mp tail).1 (List.mem_map.mpr ⟨other, inside, of_decide_eq_true same⟩)
  rw [ofKey, List.filter_append, ← ofKey, before, List.nil_append, ← ofKey, ofKey_cons_own rfl, behind]

theorem ofKey_of_notMem (absent : key ∉ events.map action.key) : action.ofKey key events = [] :=
  List.filter_eq_nil_iff.mpr fun event member same =>
    absent (List.mem_map.mpr ⟨event, member, of_decide_eq_true same⟩)

theorem run_of_nodup (distinct : (events.map action.key).Nodup) {event : E} (member : event ∈ events) :
    action.run events parts (action.key event) = action.effect event (parts (action.key event)) := by
  rw [run_apply, ofKey_of_nodup distinct member]
  rfl

theorem run_of_notMem (absent : key ∉ events.map action.key) : action.run events parts key = parts key := by
  rw [run_apply, ofKey_of_notMem absent]
  rfl

theorem output_perm [DecidableEq O] {others : List E}
    (alike : ∀ key, action.ofKey key events = action.ofKey key others) :
    (action.output events parts).Perm (action.output others parts) :=
  perm_of_tags fun key => by rw [output_ofKey, output_ofKey, alike]

end Action

end KeyedFold
