import Mathlib.Data.List.ReduceOption
import Mathlib.Data.List.Perm.Basic
import Mathlib.Algebra.BigOperators.Group.List.Basic

/-!
# Move-only handles

The handle objects of a program by creation order. A slot holds its resource, or nothing once it
was moved from or released. Moving a handle permutes what is held; only creating and vacating one
changes it, so every total over the held resources follows from one permutation.
-/

namespace LeaseSlots

variable {L : Type}

def held (slots : List (Option L)) : List L := slots.reduceOption

def at? (slots : List (Option L)) (slot : Nat) : Option L := slots[slot]?.join

def moveConstruct (slots : List (Option L)) (source : Nat) : List (Option L) :=
  slots.set source none ++ [at? slots source]

/-- The exchange of a move assignment, once its target was released. -/
def moveInto (slots : List (Option L)) (target source : Nat) : List (Option L) :=
  (slots.set target (at? slots source)).set source none

@[simp] theorem held_nil : held ([] : List (Option L)) = [] := rfl

@[simp] theorem held_concat (slots : List (Option L)) (entry : Option L) :
    held (slots ++ [entry]) = held slots ++ entry.toList := by
  rw [held, List.reduceOption_append, List.reduceOption_singleton]
  rfl

theorem held_cons (entry : Option L) (slots : List (Option L)) :
    held (entry :: slots) = entry.toList ++ held slots := by
  cases entry with
  | none => rfl
  | some _ => rfl

theorem at?_eq_none_or (slots : List (Option L)) (slot : Nat) :
    at? slots slot = none ∨ ∃ lease, slots[slot]? = some (some lease) ∧ at? slots slot = some lease := by
  unfold at?
  cases slots[slot]? with
  | none => exact .inl rfl
  | some entry =>
    cases entry with
    | none => exact .inl rfl
    | some lease => exact .inr ⟨lease, rfl, rfl⟩

theorem mem_held_of_at? {slots : List (Option L)} {slot : Nat} {lease : L}
    (holds : at? slots slot = some lease) : lease ∈ held slots := by
  obtain vacant | ⟨other, stored, same⟩ := at?_eq_none_or slots slot
  · rw [vacant] at holds
    cases holds
  · rw [same] at holds
    cases holds
    exact List.reduceOption_mem_iff.mpr (List.mem_of_getElem? stored)

theorem lt_length_of_at? {slots : List (Option L)} {slot : Nat} {lease : L}
    (holds : at? slots slot = some lease) : slot < slots.length := by
  by_contra beyond
  rw [at?, List.getElem?_eq_none (Nat.le_of_not_lt beyond)] at holds
  cases holds

theorem at?_set (slots : List (Option L)) {slot other : Nat} {entry : Option L}
    (within : slot < slots.length) :
    at? (slots.set slot entry) other = if other = slot then entry else at? slots other := by
  unfold at?
  rw [List.getElem?_set]
  by_cases same : other = slot
  · subst same
    simp [within]
  · simp [same, Ne.symm same]

theorem held_set {slots : List (Option L)} {slot : Nat} (within : slot < slots.length)
    (entry : Option L) :
    ((at? slots slot).toList ++ held (slots.set slot entry)).Perm (entry.toList ++ held slots) := by
  induction slots generalizing slot with
  | nil => exact absurd within (Nat.not_lt_zero _)
  | cons first rest ih =>
    cases slot with
    | zero =>
      change (first.toList ++ held (entry :: rest)).Perm (entry.toList ++ held (first :: rest))
      rw [held_cons, held_cons, ← List.append_assoc, ← List.append_assoc]
      exact List.perm_append_comm.append_right _
    | succ slot =>
      have inner := ih (Nat.lt_of_succ_lt_succ within)
      change ((at? rest slot).toList ++ held (first :: rest.set slot entry)).Perm
        (entry.toList ++ held (first :: rest))
      rw [held_cons, held_cons]
      have outside : ((at? rest slot).toList ++ (first.toList ++ held (rest.set slot entry))).Perm
          (first.toList ++ ((at? rest slot).toList ++ held (rest.set slot entry))) :=
        List.perm_append_comm_assoc ..
      have inside : (first.toList ++ (entry.toList ++ held rest)).Perm
          (entry.toList ++ (first.toList ++ held rest)) := List.perm_append_comm_assoc ..
      exact (outside.trans (inner.append_left _)).trans inside

theorem held_vacate {slots : List (Option L)} {slot : Nat} {lease : L}
    (holds : at? slots slot = some lease) :
    (lease :: held (slots.set slot none)).Perm (held slots) := by
  have traded := held_set (lt_length_of_at? holds) (none : Option L)
  rw [holds] at traded
  exact traded

theorem held_replace {slots : List (Option L)} {slot : Nat} {lease : L}
    (holds : at? slots slot = some lease) (next : L) :
    (lease :: held (slots.set slot (some next))).Perm (next :: held slots) := by
  have traded := held_set (lt_length_of_at? holds) (some next)
  rw [holds] at traded
  exact traded

theorem held_moveConstruct (slots : List (Option L)) (source : Nat) :
    (held (moveConstruct slots source)).Perm (held slots) := by
  unfold moveConstruct
  rw [held_concat]
  by_cases within : source < slots.length
  · exact List.perm_append_comm.trans (held_set within none)
  · have vacant : at? slots source = none := by
      rw [at?, List.getElem?_eq_none (Nat.le_of_not_lt within)]
      rfl
    rw [vacant, List.set_eq_of_length_le (Nat.le_of_not_lt within)]
    simp

theorem held_moveInto {slots : List (Option L)} {target source : Nat}
    (targetWithin : target < slots.length) (sourceWithin : source < slots.length)
    (distinct : target ≠ source) (vacant : at? slots target = none) :
    (held (moveInto slots target source)).Perm (held slots) := by
  have filled := held_set targetWithin (at? slots source)
  have sourceInside : source < (slots.set target (at? slots source)).length := by rwa [List.length_set]
  have emptied := held_set sourceInside none
  rw [vacant] at filled
  rw [at?_set slots targetWithin, if_neg distinct.symm] at emptied
  exact (List.perm_append_left_iff _).mp (emptied.trans filled)

end LeaseSlots
