import Mathlib.Logic.Function.Basic
import Mathlib.Data.List.Forall2
import Mathlib.Data.List.Nodup

/-!
# Passes that thread a resource

A pass over a list answers one value for each entry while a resource is spent; a pass over the keys of
a table rewrites one value for each key. What a single visit guarantees, the pass guarantees everywhere.
-/

namespace Passes

variable {Resource Entry Answer Key Value Error : Type}

/-- The answers to a list of entries, in order. -/
def threadM (visit : Resource → Entry → Except Error (Resource × Answer)) :
    Resource → List Entry → Except Error (Resource × List Answer)
  | resource, [] => .ok (resource, [])
  | resource, entry :: rest => do
      let (spent, answer) ← visit resource entry
      let (left, answers) ← threadM visit spent rest
      return (left, answer :: answers)

section Thread

variable {visit : Resource → Entry → Except Error (Resource × Answer)} {resource left : Resource}
  {entry : Entry} {rest entries : List Entry} {answers : List Answer}

theorem threadM_cons (threaded : threadM visit resource (entry :: rest) = .ok (left, answers)) :
    ∃ spent answer others, visit resource entry = .ok (spent, answer) ∧
      threadM visit spent rest = .ok (left, others) ∧ answers = answer :: others := by
  rw [threadM] at threaded
  cases visited : visit resource entry with
  | error refusal =>
    rw [visited] at threaded
    cases threaded
  | ok outcome =>
    obtain ⟨spent, answer⟩ := outcome
    rw [visited] at threaded
    cases later : threadM visit spent rest with
    | error refusal =>
      dsimp only [bind, Except.bind] at threaded
      rw [later] at threaded
      cases threaded
    | ok outcome =>
      obtain ⟨after, others⟩ := outcome
      dsimp only [bind, Except.bind] at threaded
      rw [later] at threaded
      cases threaded
      exact ⟨spent, answer, others, rfl, later, rfl⟩

theorem threadM_forall₂ {P : Resource → Prop} {R : Entry → Answer → Prop}
    (visits : ∀ before entry after answer, entry ∈ entries → P before →
      visit before entry = .ok (after, answer) → P after ∧ R entry answer)
    (initial : P resource) (threaded : threadM visit resource entries = .ok (left, answers)) :
    P left ∧ List.Forall₂ R entries answers := by
  induction entries generalizing resource answers with
  | nil =>
    cases threaded
    exact ⟨initial, .nil⟩
  | cons entry rest ih =>
    obtain ⟨spent, answer, others, visited, later, same⟩ := threadM_cons threaded
    obtain ⟨holds, answered⟩ := visits resource entry spent answer List.mem_cons_self initial visited
    obtain ⟨final, rests⟩ := ih (fun before other after reply member =>
      visits before other after reply (List.mem_cons_of_mem _ member)) holds later
    subst same
    exact ⟨final, .cons answered rests⟩

end Thread

section Map

variable {measure : Entry → Except Error Answer} {entries : List Entry} {answers : List Answer}

theorem mapM_forall₂ (measured : entries.mapM measure = .ok answers) :
    List.Forall₂ (fun entry answer => measure entry = .ok answer) entries answers := by
  induction entries generalizing answers with
  | nil =>
    cases measured
    exact .nil
  | cons entry rest ih =>
    rw [List.mapM_cons] at measured
    cases first : measure entry with
    | error refusal =>
      rw [first] at measured
      cases measured
    | ok answer =>
      cases later : rest.mapM measure with
      | error refusal =>
        rw [first, later] at measured
        cases measured
      | ok others =>
        rw [first, later] at measured
        cases measured
        exact .cons first (ih later)

theorem mapM_refused {refusal : Error} (refused : entries.mapM measure = .error refusal) :
    ∃ entry ∈ entries, measure entry = .error refusal := by
  induction entries with
  | nil => cases refused
  | cons entry rest ih =>
    rw [List.mapM_cons] at refused
    cases first : measure entry with
    | error stuck =>
      rw [first] at refused
      cases refused
      exact ⟨entry, List.mem_cons_self, first⟩
    | ok answer =>
      cases later : rest.mapM measure with
      | error stuck =>
        rw [first, later] at refused
        cases refused
        obtain ⟨failing, member, fails⟩ := ih later
        exact ⟨failing, List.mem_cons_of_mem _ member, fails⟩
      | ok others =>
        rw [first, later] at refused
        cases refused

end Map

section Update

variable [DecidableEq Key] {visit : Resource → Key → Value → Except Error (Resource × Value)}

def updateAt (visit : Resource → Key → Value → Except Error (Resource × Value))
    (pass : Resource × (Key → Value)) (key : Key) : Except Error (Resource × (Key → Value)) := do
  let (spent, value) ← visit pass.1 key (pass.2 key)
  return (spent, Function.update pass.2 key value)

/-- Every listed key's value, rewritten in order. -/
def updateM (visit : Resource → Key → Value → Except Error (Resource × Value)) (resource : Resource)
    (table : Key → Value) (keys : List Key) : Except Error (Resource × (Key → Value)) :=
  keys.foldlM (updateAt visit) (resource, table)

theorem updateAt_eq_ok {pass next : Resource × (Key → Value)} {key : Key}
    (updated : updateAt visit pass key = .ok next) :
    ∃ value, visit pass.1 key (pass.2 key) = .ok (next.1, value) ∧
      next.2 = Function.update pass.2 key value := by
  unfold updateAt at updated
  cases visited : visit pass.1 key (pass.2 key) with
  | error refusal =>
    rw [visited] at updated
    cases updated
  | ok outcome =>
    rw [visited] at updated
    cases updated
    exact ⟨outcome.2, rfl, rfl⟩

theorem updateM_spec {P : Resource → Prop} {R : Key → Value → Prop} {resource left : Resource}
    {table changed : Key → Value} {keys : List Key} (distinct : keys.Nodup)
    (visits : ∀ before key after value, key ∈ keys → P before →
      visit before key (table key) = .ok (after, value) → P after ∧ R key value)
    (initial : P resource) (updated : updateM visit resource table keys = .ok (left, changed)) :
    P left ∧ (∀ key ∈ keys, R key (changed key)) ∧ ∀ key, key ∉ keys → changed key = table key := by
  induction keys generalizing resource table with
  | nil =>
    cases updated
    refine ⟨initial, ?_, fun key _ => rfl⟩
    intro key member
    cases member
  | cons first rest ih =>
    rw [updateM, List.foldlM_cons] at updated
    rw [List.nodup_cons] at distinct
    cases stepped : updateAt visit (resource, table) first with
    | error refusal =>
      rw [stepped] at updated
      cases updated
    | ok next =>
      rw [stepped] at updated
      obtain ⟨value, visited, written⟩ := updateAt_eq_ok stepped
      obtain ⟨holds, answered⟩ := visits resource first next.1 value List.mem_cons_self initial visited
      have elsewhere : ∀ key, key ≠ first → next.2 key = table key := by
        intro key different
        rw [written, Function.update_of_ne different]
      have behind : ∀ key ∈ rest, key ≠ first := by
        intro key member same
        exact distinct.1 (same ▸ member)
      obtain ⟨final, answers, untouched⟩ := ih distinct.2 (fun before key after other member held visited =>
        visits before key after other (List.mem_cons_of_mem _ member) held
          (by rw [← elsewhere key (behind key member)]; exact visited)) holds updated
      refine ⟨final, fun key member => ?_, fun key absent => ?_⟩
      · obtain same | later := List.mem_cons.mp member
        · subst same
          rw [untouched key distinct.1, written, Function.update_self]
          exact answered
        · exact answers key later
      · rw [List.mem_cons, not_or] at absent
        rw [untouched key absent.2, elsewhere key absent.1]

end Update

end Passes
