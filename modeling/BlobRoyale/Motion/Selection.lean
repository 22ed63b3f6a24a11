import BlobRoyale.Motion.MotionLoop
import BlobRoyale.Motion.Certificates

/-!
# The selected event is the earliest

The selection of an iteration is cached somewhere, and no cached contact, wall or trigger is earlier.
-/

namespace BlobRoyale.Simulation

variable {S : Type} [Scalar S] {Effect Facts : Type} {count : Nat}

namespace SolverState

variable {next event : Option (MotionGeometryEvent S count)} {least : MotionGeometryEvent S count}

theorem earlierEvent_eq_some (earlier : earlierEvent next event = some least) :
    next = some least ∨ event = some least := by
  unfold earlierEvent at earlier
  split at earlier
  · exact .inl earlier
  · exact .inr earlier
  · split at earlier
    · exact .inr earlier
    · exact .inl earlier

theorem earlierEvent_le (cached : next = some least ∨ event = some least) :
    ∃ found, earlierEvent next event = some found ∧ found.key ≤ least.key := by
  cases next with
  | none =>
    obtain impossible | same := cached
    · cases impossible
    · cases same
      exact ⟨least, rfl, le_refl _⟩
  | some kept =>
    cases event with
    | none =>
      obtain same | impossible := cached
      · cases same
        exact ⟨least, rfl, le_refl _⟩
      · cases impossible
    | some later =>
      dsimp only [earlierEvent]
      split
      · next earlier =>
        obtain same | same := cached
        · cases same
          exact ⟨later, rfl, le_of_lt earlier⟩
        · cases same
          exact ⟨least, rfl, le_refl _⟩
      · next behind =>
        obtain same | same := cached
        · cases same
          exact ⟨least, rfl, le_refl _⟩
        · cases same
          exact ⟨kept, rfl, le_of_not_gt behind⟩

section Fold

variable {Entry : Type} {cached : Entry → Option (MotionGeometryEvent S count)} {entries : List Entry}
  {initial : Option (MotionGeometryEvent S count)}

theorem foldl_earlierEvent_eq_some
    (folded : entries.foldl (fun next entry => earlierEvent next (cached entry)) initial = some least) :
    initial = some least ∨ ∃ entry ∈ entries, cached entry = some least := by
  induction entries generalizing initial with
  | nil => exact .inl folded
  | cons entry rest ih =>
    obtain held | ⟨other, member, found⟩ := ih folded
    · obtain kept | found := earlierEvent_eq_some held
      · exact .inl kept
      · exact .inr ⟨entry, List.mem_cons_self, found⟩
    · exact .inr ⟨other, List.mem_cons_of_mem _ member, found⟩

theorem foldl_earlierEvent_le (present : initial = some least ∨ ∃ entry ∈ entries, cached entry = some least) :
    ∃ found, entries.foldl (fun next entry => earlierEvent next (cached entry)) initial = some found ∧
      found.key ≤ least.key := by
  induction entries generalizing initial least with
  | nil =>
    obtain held | ⟨entry, member, -⟩ := present
    · exact ⟨least, held, le_refl _⟩
    · cases member
  | cons entry rest ih =>
    have first : initial = some least ∨ cached entry = some least → ∃ found,
        (entry :: rest).foldl (fun next entry => earlierEvent next (cached entry)) initial = some found ∧
          found.key ≤ least.key := by
      intro here
      obtain ⟨kept, same, before⟩ := earlierEvent_le here
      obtain ⟨found, folded, earlier⟩ := ih (.inl same)
      exact ⟨found, folded, le_trans earlier before⟩
    obtain held | ⟨other, member, found⟩ := present
    · exact first (.inl held)
    · obtain same | later := List.mem_cons.mp member
      · subst same
        exact first (.inr found)
      · exact ih (.inr ⟨other, later, found⟩)

end Fold

def Caches (state : SolverState S count) (event : MotionGeometryEvent S count) : Prop :=
  (∃ pair ∈ state.pairs, pair.event = some event) ∨ ∃ place, state.walls place = some event

theorem nextGeometryEvent_caches {state : SolverState S count}
    (found : state.nextGeometryEvent = some least) : state.Caches least := by
  obtain pairs | ⟨place, -, cached⟩ := foldl_earlierEvent_eq_some found
  · obtain impossible | held := foldl_earlierEvent_eq_some pairs
    · cases impossible
    · exact .inl held
  · exact .inr ⟨place, cached⟩

theorem nextGeometryEvent_le {state : SolverState S count} (cached : state.Caches least) :
    ∃ found, state.nextGeometryEvent = some found ∧ found.key ≤ least.key := by
  unfold nextGeometryEvent
  obtain held | ⟨place, cached⟩ := cached
  · have present : none = some least ∨ ∃ pair ∈ state.pairs, pair.event = some least := .inr held
    obtain ⟨kept, folded, before⟩ := foldl_earlierEvent_le present
    have standing : _ = some kept ∨ ∃ place ∈ wallPlaces, state.walls place = some kept := .inl folded
    obtain ⟨found, final, earlier⟩ := foldl_earlierEvent_le standing
    exact ⟨found, final, le_trans earlier before⟩
  · exact foldl_earlierEvent_le (.inr ⟨place, mem_wallPlaces place, cached⟩)

end SolverState

namespace MotionLoop

variable {caches : List (TriggerCache S Effect Facts count)} {start : Nat}
  {selected : Option (MotionSelection S Effect Facts count)} {selection : MotionSelection S Effect Facts count}

theorem considerTrigger_cases (index : Nat) (cache : TriggerCache S Effect Facts count)
    (selected : Option (MotionSelection S Effect Facts count)) :
    considerTrigger index cache selected = selected ∨
      ∃ key, cache.event = some key ∧ considerTrigger index cache selected = some (.trigger index cache key) := by
  unfold considerTrigger
  split
  · exact .inl rfl
  · next key cached =>
    split
    · exact .inr ⟨key, cached, rfl⟩
    · exact .inl rfl

theorem considerTrigger_le {index : Nat} {cache : TriggerCache S Effect Facts count} {key : MotionEventKey S}
    (present : (∃ held, selected = some held ∧ held.key ≤ key) ∨ cache.event = some key) :
    ∃ found, considerTrigger index cache selected = some found ∧ found.key ≤ key := by
  unfold considerTrigger
  split
  · next absent =>
    obtain ⟨held, same, before⟩ | impossible := present
    · exact ⟨held, same, before⟩
    · rw [absent] at impossible
      cases impossible
  · next proposed cached =>
    split
    · next earliest =>
      refine ⟨_, rfl, ?_⟩
      obtain ⟨held, same, before⟩ | same := present
      · rw [same, Option.all_some, decide_eq_true_eq] at earliest
        exact le_trans (le_of_lt earliest) before
      · rw [cached] at same
        cases same
        exact le_refl _
    · next later =>
      obtain ⟨held, same, before⟩ | same := present
      · exact ⟨held, same, before⟩
      · rw [cached] at same
        cases same
        cases chosen : selected with
        | none =>
          rw [chosen] at later
          exact absurd rfl later
        | some held =>
          rw [chosen, Option.all_some, decide_eq_true_eq] at later
          exact ⟨held, rfl, le_of_not_gt later⟩

theorem selectTrigger_eq_some (selects : selectTrigger start caches selected = some selection) :
    selected = some selection ∨ ∃ offset cache key, caches[offset]? = some cache ∧
      cache.event = some key ∧ selection = .trigger (start + offset) cache key := by
  induction caches generalizing start selected with
  | nil => exact .inl selects
  | cons cache rest ih =>
    obtain held | ⟨offset, other, key, stored, cached, same⟩ := ih selects
    · obtain kept | ⟨key, cached, chosen⟩ := considerTrigger_cases start cache selected
      · exact .inl (kept ▸ held)
      · rw [chosen] at held
        cases held
        exact .inr ⟨0, cache, key, rfl, cached, rfl⟩
    · refine .inr ⟨offset + 1, other, key, stored, cached, ?_⟩
      rw [same, Nat.add_right_comm, Nat.add_assoc]

theorem selectTrigger_le {key : MotionEventKey S}
    (present : (∃ held, selected = some held ∧ held.key ≤ key) ∨
      ∃ cache ∈ caches, cache.event = some key) :
    ∃ found, selectTrigger start caches selected = some found ∧ found.key ≤ key := by
  induction caches generalizing start selected with
  | nil =>
    obtain held | ⟨cache, member, -⟩ := present
    · exact held
    · cases member
  | cons cache rest ih =>
    refine ih ?_
    obtain held | ⟨other, member, cached⟩ := present
    · exact .inl (considerTrigger_le (.inl held))
    · obtain same | later := List.mem_cons.mp member
      · subst same
        exact .inl (considerTrigger_le (.inr cached))
      · exact .inr ⟨other, later, cached⟩

def Selects (loop : MotionLoop S Effect Facts count) : MotionSelection S Effect Facts count → Prop
  | .geometry event => loop.solver.Caches event
  | .trigger index cache key => loop.caches[index]? = some cache ∧ cache.event = some key

theorem select_selects {loop : MotionLoop S Effect Facts count} (selects : loop.select = some selection) :
    loop.Selects selection := by
  obtain held | ⟨offset, cache, key, stored, cached, same⟩ := selectTrigger_eq_some selects
  · obtain ⟨event, found, same⟩ := Option.map_eq_some_iff.mp held
    subst same
    exact SolverState.nextGeometryEvent_caches found
  · subst same
    exact ⟨by rwa [Nat.zero_add], cached⟩

theorem select_earliest {loop : MotionLoop S Effect Facts count} (selects : loop.select = some selection) :
    (∀ event, loop.solver.Caches event → selection.key ≤ event.key) ∧
      ∀ cache ∈ loop.caches, ∀ key, cache.event = some key → selection.key ≤ key := by
  have least : ∀ key, (∃ held, loop.solver.nextGeometryEvent.map MotionSelection.geometry = some held ∧
      (held : MotionSelection S Effect Facts count).key ≤ key) ∨
      (∃ cache ∈ loop.caches, cache.event = some key) → selection.key ≤ key := by
    intro key present
    obtain ⟨found, chosen, earlier⟩ := selectTrigger_le present
    rw [show selectTrigger 0 loop.caches _ = some selection from selects] at chosen
    cases chosen
    exact earlier
  constructor
  · intro event cached
    obtain ⟨found, same, earlier⟩ := SolverState.nextGeometryEvent_le cached
    exact least event.key (.inl ⟨.geometry found, by rw [same]; rfl, earlier⟩)
  · intro cache member key cached
    exact least key (.inr ⟨cache, member, cached⟩)

end MotionLoop

end BlobRoyale.Simulation
