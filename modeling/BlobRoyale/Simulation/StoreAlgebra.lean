import BlobRoyale.Library.IndexedEntries
import BlobRoyale.Simulation.GameWorld

/-!
# The algebra of stores and rosters

The component stores as the vectors they are, with what the world does to them by index: insertion,
erasure, the destruction of an entity, the sweep of body-bound components, the join of two stores
and the roster. Every history of changes keeps the vectors those of a well-formed world.
-/

namespace BlobRoyale.Simulation

open IndexedEntries

section Walks

variable {V W : Type}

/-- The loop of `for_each_entity_with_both` over both indices. -/
def forEachEntityWithBoth (firsts : List (EntityId × V)) (seconds : List (EntityId × W))
    (firstIndex secondIndex : Nat) (visited : List (EntityId × V × W)) : List (EntityId × V × W) :=
  if inside : firstIndex < firsts.length ∧ secondIndex < seconds.length then
    let first := firsts[firstIndex]
    let second := seconds[secondIndex]
    if first.1 < second.1 then
      forEachEntityWithBoth firsts seconds (firstIndex + 1) secondIndex visited
    else if second.1 < first.1 then
      forEachEntityWithBoth firsts seconds firstIndex (secondIndex + 1) visited
    else
      forEachEntityWithBoth firsts seconds (firstIndex + 1) (secondIndex + 1)
        (visited ++ [(first.1, first.2, second.2)])
  else visited
  termination_by firsts.length - firstIndex + (seconds.length - secondIndex)

theorem joinEntries_nil (firsts : List (EntityId × V)) :
    joinEntries firsts ([] : List (EntityId × W)) = [] := by
  cases firsts <;> simp [joinEntries]

theorem forEachEntityWithBoth_eq (firsts : List (EntityId × V)) (seconds : List (EntityId × W))
    (firstIndex secondIndex : Nat) (visited : List (EntityId × V × W)) :
    forEachEntityWithBoth firsts seconds firstIndex secondIndex visited =
      visited ++ joinEntries (firsts.drop firstIndex) (seconds.drop secondIndex) := by
  fun_induction forEachEntityWithBoth firsts seconds firstIndex secondIndex visited with
  | case1 firstIndex secondIndex visited inside first second below ih =>
    rw [ih, List.drop_eq_getElem_cons inside.1, List.drop_eq_getElem_cons inside.2, joinEntries,
      if_pos below]
  | case2 firstIndex secondIndex visited inside first second below above ih =>
    rw [ih, List.drop_eq_getElem_cons inside.1, List.drop_eq_getElem_cons inside.2, joinEntries,
      if_neg below, if_pos above]
  | case3 firstIndex secondIndex visited inside first second below above ih =>
    rw [ih, List.drop_eq_getElem_cons inside.1, List.drop_eq_getElem_cons inside.2, joinEntries,
      if_neg below, if_neg above, List.append_assoc]
    rfl
  | case4 firstIndex secondIndex visited outside =>
    obtain past | past := not_and_or.mp outside
    · rw [List.drop_of_length_le (not_lt.mp past), joinEntries, List.append_nil]
    · rw [List.drop_of_length_le (not_lt.mp past), joinEntries_nil, List.append_nil]

/-- The loop of `roster_of` over the roster held and the ids added. -/
def mergeLoop (roster added : List EntityId) (held next : Nat) (merged : List EntityId) : List EntityId :=
  if inside : held < roster.length ∧ next < added.length then
    if roster[held] < added[next] then mergeLoop roster added (held + 1) next (merged ++ [roster[held]])
    else if added[next] < roster[held] then
      mergeLoop roster added held (next + 1) (merged ++ [added[next]])
    else mergeLoop roster added (held + 1) (next + 1) (merged ++ [roster[held]])
  else merged ++ roster.drop held ++ added.drop next
  termination_by roster.length - held + (added.length - next)

theorem mergeRosters_nil (roster : List EntityId) : GameWorld.mergeRosters roster [] = roster := by
  cases roster <;> simp [GameWorld.mergeRosters]

theorem mergeLoop_eq (roster added : List EntityId) (held next : Nat) (merged : List EntityId) :
    mergeLoop roster added held next merged =
      merged ++ GameWorld.mergeRosters (roster.drop held) (added.drop next) := by
  fun_induction mergeLoop roster added held next merged with
  | case1 held next merged inside below ih =>
    rw [ih, List.drop_eq_getElem_cons inside.1, List.drop_eq_getElem_cons inside.2,
      GameWorld.mergeRosters, if_pos below, List.append_assoc]
    rfl
  | case2 held next merged inside below above ih =>
    rw [ih, List.drop_eq_getElem_cons inside.1, List.drop_eq_getElem_cons inside.2,
      GameWorld.mergeRosters, if_neg below, if_pos above, List.append_assoc]
    rfl
  | case3 held next merged inside below above ih =>
    rw [ih, List.drop_eq_getElem_cons inside.1, List.drop_eq_getElem_cons inside.2,
      GameWorld.mergeRosters, if_neg below, if_neg above, List.append_assoc]
    rfl
  | case4 held next merged outside =>
    obtain past | past := not_and_or.mp outside
    · rw [List.drop_of_length_le (not_lt.mp past), GameWorld.mergeRosters, List.append_nil]
    · rw [List.drop_of_length_le (not_lt.mp past), mergeRosters_nil, List.append_nil]

end Walks

/-- One vector of entries a kind. -/
abbrev ComponentStores (S : Type) [Scalar S] := (kind : ComponentKind) → List (EntityId × kind.Value S)

namespace ComponentStores

variable {S : Type} [Scalar S]

def withEntries (stores : ComponentStores S) (kind : ComponentKind) (entries : List (EntityId × kind.Value S)) :
    ComponentStores S :=
  Function.update stores kind entries

/-- `insert_or_assign`, through the computed index. -/
def insertOrAssign (stores : ComponentStores S) (kind : ComponentKind) (entity : EntityId)
    (value : kind.Value S) : Validated (ComponentStores S) :=
  let entries := stores kind
  if holds entries entity then .ok (stores.withEntries kind (assign entries entity value))
  else if entries.length ≥ maximumEntityCount then
    reject .componentStoreLimitExceeded "component_store.entries"
      "component entry count exceeds the accepted limit"
  else .ok (stores.withEntries kind (insert entries entity value))

def erase (stores : ComponentStores S) (kind : ComponentKind) (entity : EntityId) : ComponentStores S :=
  stores.withEntries kind (IndexedEntries.erase (stores kind) entity)

/-- `destroy_entity`: the erasure from every kind's store in turn. -/
def destroyEntity (stores : ComponentStores S) (entity : EntityId) : ComponentStores S :=
  ComponentKind.all.foldl (fun stores kind => stores.erase kind entity) stores

/-- One kind's turn of `erase_body_bound_components_without_body`. -/
def eraseWithoutBody (stores : ComponentStores S) (kind : ComponentKind) : Option (ComponentStores S) :=
  if kind.boundToBody then
    let entries := stores kind
    (eraseFrom (fun entity => holds (stores .physicsBody) entity) (entries.length + 1) 0 entries).map
      (stores.withEntries kind)
  else some stores

/-- Nothing when some kind's loop does not end within one pass more than its entries. -/
def eraseBodyBoundComponentsWithoutBody (stores : ComponentStores S) : Option (ComponentStores S) :=
  ComponentKind.all.foldlM eraseWithoutBody stores

/-- One kind's turn of `roster_of`. -/
def addToRoster (roster added : List EntityId) : List EntityId :=
  if added.isEmpty then roster
  else if roster.isEmpty then added
  else mergeLoop roster added 0 0 []

def rosterOf (stores : ComponentStores S) : List EntityId :=
  ComponentKind.all.foldl (fun roster kind => addToRoster roster ((stores kind).map Prod.fst)) []

def rosterContains (stores : ComponentStores S) (entity : EntityId) : Bool :=
  ComponentKind.all.foldl (fun found kind => found || (find (stores kind) entity).isSome) false

def ofWorld (world : GameWorld S) : ComponentStores S := fun kind => (world.stores kind).entries

theorem addToRoster_eq (roster added : List EntityId) :
    addToRoster roster added = GameWorld.mergeRosters roster added := by
  unfold addToRoster
  split
  · next none => rw [List.isEmpty_iff.mp none, mergeRosters_nil]
  · split
    · next first => rw [List.isEmpty_iff.mp first, GameWorld.mergeRosters]
    · rw [mergeLoop_eq, List.drop_zero, List.drop_zero, List.nil_append]

theorem foldl_turns (change : (kind : ComponentKind) → List (EntityId × kind.Value S) →
      List (EntityId × kind.Value S)) {kinds : List ComponentKind} (distinct : kinds.Nodup)
    (stores : ComponentStores S) :
    kinds.foldl (fun stores kind => stores.withEntries kind (change kind (stores kind))) stores =
      fun kind => if kind ∈ kinds then change kind (stores kind) else stores kind := by
  induction kinds generalizing stores with
  | nil => rfl
  | cons kind rest ih =>
    obtain ⟨absent, others⟩ := List.nodup_cons.mp distinct
    rw [List.foldl_cons, ih others]
    funext other
    rw [withEntries]
    by_cases same : other = kind
    · subst same
      rw [if_neg absent, Function.update_self, if_pos List.mem_cons_self]
    · rw [Function.update_of_ne same]
      simp only [List.mem_cons, same, false_or]

/-- What the sweep leaves of one kind's entries. -/
def sweepEntries (bodies : List (EntityId × PhysicsBody S)) (kind : ComponentKind)
    (entries : List (EntityId × kind.Value S)) : List (EntityId × kind.Value S) :=
  if kind.boundToBody then entries.filter fun entry => holds bodies entry.1 else entries

theorem eraseWithoutBody_eq {stores : ComponentStores S} {kind : ComponentKind}
    (ascending : (stores kind).Pairwise fun first second => first.1 < second.1) :
    stores.eraseWithoutBody kind =
      some (stores.withEntries kind (sweepEntries (stores .physicsBody) kind (stores kind))) := by
  unfold eraseWithoutBody sweepEntries
  split
  · dsimp only
    rw [eraseFrom_eq ascending (Nat.lt_succ_of_le (Nat.sub_le _ _)), List.take_zero, List.nil_append,
      List.drop_zero]
    rfl
  · rw [withEntries, Function.update_eq_self]

theorem foldlM_eraseWithoutBody {kinds : List ComponentKind} {stores : ComponentStores S}
    (ascending : ∀ kind, (stores kind).Pairwise fun first second => first.1 < second.1) :
    kinds.foldlM eraseWithoutBody stores = some (kinds.foldl (fun after kind =>
      after.withEntries kind (sweepEntries (stores .physicsBody) kind (after kind))) stores) := by
  induction kinds generalizing stores with
  | nil => rfl
  | cons kind rest ih =>
    have bodies : stores.withEntries kind (sweepEntries (stores .physicsBody) kind (stores kind))
        .physicsBody = stores .physicsBody := by
      rw [withEntries]
      by_cases same : ComponentKind.physicsBody = kind
      · subst same
        exact Function.update_self ..
      · exact Function.update_of_ne same ..
    rw [List.foldlM_cons, eraseWithoutBody_eq (ascending kind), Option.bind_eq_bind, Option.bind_some, ih,
      List.foldl_cons, bodies]
    intro other
    rw [withEntries]
    by_cases same : other = kind
    · subst same
      rw [Function.update_self, sweepEntries]
      split
      · exact (ascending other).filter _
      · exact ascending other
    · rw [Function.update_of_ne same]
      exact ascending other

section World

variable (world : GameWorld S)

theorem ofWorld_withStore (kind : ComponentKind) (store : ComponentStore (kind.Value S)) :
    ofWorld (world.withStore kind store) = (ofWorld world).withEntries kind store.entries := by
  funext other
  by_cases same : other = kind
  · subst same
    rw [ofWorld, GameWorld.withStore_same, withEntries, Function.update_self]
  · rw [ofWorld, GameWorld.withStore_other store same, withEntries, Function.update_of_ne same, ofWorld]

theorem rosterOf_ofWorld : (ofWorld world).rosterOf = world.entities := by
  rw [rosterOf, GameWorld.entities]
  congr 1
  funext roster kind
  exact addToRoster_eq roster _

theorem find_ofWorld (kind : ComponentKind) (entity : EntityId) :
    find (ofWorld world kind) entity = (world.stores kind).find entity :=
  find_eq (world.stores kind).toSortedStore entity

theorem foldl_or (test : ComponentKind → Bool) (kinds : List ComponentKind) (found : Bool) :
    kinds.foldl (fun found kind => found || test kind) found = (found || kinds.any test) := by
  induction kinds generalizing found with
  | nil => simp
  | cons kind rest ih => rw [List.foldl_cons, ih, List.any_cons, Bool.or_assoc]

theorem rosterContains_ofWorld (entity : EntityId) :
    (ofWorld world).rosterContains entity = world.contains entity := by
  rw [rosterContains, foldl_or, Bool.false_or, GameWorld.contains]
  simp only [find_ofWorld]

theorem insertOrAssign_ofWorld (kind : ComponentKind) (entity : EntityId) (value : kind.Value S) :
    (ofWorld world).insertOrAssign kind entity value =
      ((world.stores kind).insertOrAssign entity value).map fun store => ofWorld (world.withStore kind store) := by
  have ascending := (world.stores kind).ascending
  have member : holds (world.stores kind).entries entity = true ↔ entity ∈ (world.stores kind).keys :=
    holds_iff ascending
  rw [insertOrAssign, ComponentStore.insertOrAssign]
  by_cases held : holds (world.stores kind).entries entity = true
  · rw [dif_pos (.inl (member.mp held)), Except.map, ofWorld_withStore]
    exact (if_pos held).trans (by rw [ofWorld, assign_eq ascending held]; rfl)
  · refine (if_neg held).trans ?_
    by_cases full : (world.stores kind).entries.length ≥ maximumEntityCount
    · have refused := not_or.mpr ⟨fun listed => held (member.mpr listed), not_lt.mpr full⟩
      exact (if_pos full).trans (by rw [dif_neg refused]; rfl)
    · rw [dif_pos (.inr (not_le.mp full)), Except.map, ofWorld_withStore]
      exact (if_neg full).trans (by rw [ofWorld, insert_eq (Bool.eq_false_iff.mpr held)]; rfl)

theorem erase_ofWorld (kind : ComponentKind) (entity : EntityId) :
    (ofWorld world).erase kind entity =
      ofWorld (world.withStore kind ((world.stores kind).erase entity)) := by
  rw [erase, ofWorld_withStore, ofWorld, erase_eq (world.stores kind).ascending]
  rfl

theorem destroyEntity_ofWorld (entity : EntityId) :
    (ofWorld world).destroyEntity entity = ofWorld (world.destroyEntity entity) := by
  refine (foldl_turns (fun kind entries => IndexedEntries.erase entries entity)
    (show ComponentKind.all.Nodup by decide) _).trans ?_
  funext kind
  rw [if_pos kind.mem_all, ofWorld, erase_eq (world.stores kind).ascending]
  rfl

theorem eraseBodyBoundComponentsWithoutBody_ofWorld :
    (ofWorld world).eraseBodyBoundComponentsWithoutBody =
      some (ofWorld world.eraseBodyBoundComponentsWithoutBody) := by
  have ascending (kind : ComponentKind) := (world.stores kind).ascending
  rw [eraseBodyBoundComponentsWithoutBody, @foldlM_eraseWithoutBody _ _ _ (ofWorld world) ascending,
    foldl_turns (sweepEntries _) (show ComponentKind.all.Nodup by decide)]
  refine congrArg some (funext fun kind => ?_)
  rw [if_pos kind.mem_all, sweepEntries]
  change _ = (world.eraseBodyBoundComponentsWithoutBody.stores kind).entries
  by_cases bound : kind.boundToBody = true
  · have swept : world.eraseBodyBoundComponentsWithoutBody.stores kind =
        (world.stores kind).filter fun entity _ => (world.bodies.find entity).isSome := if_pos bound
    rw [if_pos bound, swept]
    refine List.filter_congr fun entry member => ?_
    rw [Bool.eq_iff_iff, ← SortedStore.mem_keys_iff]
    exact holds_iff world.bodies.ascending
  · have spared : world.eraseBodyBoundComponentsWithoutBody.stores kind = world.stores kind := if_neg bound
    rw [if_neg bound, spared, ofWorld]

end World

end ComponentStores

/-- A change of a world's stores. -/
inductive StoreOperation (S : Type) [Scalar S] where
  | insertOrAssign (kind : ComponentKind) (entity : EntityId) (value : kind.Value S)
  | erase (kind : ComponentKind) (entity : EntityId)
  | destroyEntity (entity : EntityId)
  | eraseBodyBoundComponentsWithoutBody

/-- The stores a history of operations leaves, with the operations that were not refused, the last
one first. -/
structure StoreHistory (S : Type) [Scalar S] where
  stores : ComponentStores S
  performed : List (StoreOperation S)

namespace StoreOperation

variable {S : Type} [Scalar S]

def apply (stores : ComponentStores S) : StoreOperation S → Option (Validated (ComponentStores S))
  | insertOrAssign kind entity value => some (stores.insertOrAssign kind entity value)
  | erase kind entity => some (.ok (stores.erase kind entity))
  | destroyEntity entity => some (.ok (stores.destroyEntity entity))
  | eraseBodyBoundComponentsWithoutBody => stores.eraseBodyBoundComponentsWithoutBody.map .ok

/-- A refused insertion throws before it changes anything. -/
def perform (history : StoreHistory S) (operation : StoreOperation S) : Option (StoreHistory S) :=
  (operation.apply history.stores).map fun
    | .ok stores => ⟨stores, operation :: history.performed⟩
    | .error _ => history

/-- The last value assigned since the last removal, through the operations performed, the last one
first; a sweep removes the body-bound values of entities that have no body then. -/
def lastAssigned (initial : GameWorld S) (kind : ComponentKind) (entity : EntityId) :
    List (StoreOperation S) → Option (kind.Value S)
  | [] => (initial.stores kind).find entity
  | insertOrAssign assigned other value :: earlier =>
      if same : assigned = kind ∧ other = entity then some (same.1 ▸ value)
      else lastAssigned initial kind entity earlier
  | erase erased other :: earlier =>
      if erased = kind ∧ other = entity then none else lastAssigned initial kind entity earlier
  | destroyEntity destroyed :: earlier =>
      if destroyed = entity then none else lastAssigned initial kind entity earlier
  | eraseBodyBoundComponentsWithoutBody :: earlier =>
      if kind.boundToBody ∧ lastAssigned initial .physicsBody entity earlier = none then none
      else lastAssigned initial kind entity earlier

end StoreOperation

namespace StoreHistory

variable {S : Type} [Scalar S]

def start (world : GameWorld S) : StoreHistory S := ⟨.ofWorld world, []⟩

/-- The history's stores are those of a well-formed world, which holds what was last assigned. -/
def Follows (initial : GameWorld S) (history : StoreHistory S) : Prop :=
  ∃ world : GameWorld S, history.stores = .ofWorld world ∧
    ∀ kind entity, (world.stores kind).find entity =
      StoreOperation.lastAssigned initial kind entity history.performed

variable {initial : GameWorld S}

theorem find_withStore {world : GameWorld S} {kind : ComponentKind} (store : ComponentStore (kind.Value S))
    (other : ComponentKind) (entity : EntityId) :
    ((world.withStore kind store).stores other).find entity =
      if same : kind = other then same ▸ store.find entity else (world.stores other).find entity := by
  split
  · next same =>
    subst same
    rw [GameWorld.withStore_same]
  · next different => rw [GameWorld.withStore_other store (Ne.symm different)]

theorem follows_start (world : GameWorld S) : (start world).Follows world := ⟨world, rfl, fun _ _ => rfl⟩

theorem follows_insertOrAssign {history : StoreHistory S} (follows : history.Follows initial)
    (kind : ComponentKind) (entity : EntityId) (value : kind.Value S) :
    ∃ next, StoreOperation.perform history (.insertOrAssign kind entity value) = some next ∧
      next.Follows initial := by
  obtain ⟨world, stores, contents⟩ := follows
  rw [StoreOperation.perform, StoreOperation.apply, stores, ComponentStores.insertOrAssign_ofWorld]
  cases inserted : (world.stores kind).insertOrAssign entity value with
  | error refusal => exact ⟨history, rfl, world, stores, contents⟩
  | ok store =>
    refine ⟨_, rfl, world.withStore kind store, rfl, fun other named => ?_⟩
    change _ = StoreOperation.lastAssigned initial other named
      (.insertOrAssign kind entity value :: history.performed)
    rw [find_withStore, StoreOperation.lastAssigned]
    by_cases same : kind = other
    · subst same
      rw [dif_pos rfl, ComponentStore.find_of_insertOrAssign inserted]
      by_cases own : named = entity
      · rw [if_pos own, dif_pos ⟨rfl, own.symm⟩]
      · rw [if_neg own, dif_neg fun both => own both.2.symm, contents]
    · rw [dif_neg same, dif_neg fun both => same both.1, contents]

theorem follows_erase {history : StoreHistory S} (follows : history.Follows initial) (kind : ComponentKind)
    (entity : EntityId) : ∃ next, StoreOperation.perform history (.erase kind entity) = some next ∧
      next.Follows initial := by
  obtain ⟨world, stores, contents⟩ := follows
  rw [StoreOperation.perform, StoreOperation.apply, stores, ComponentStores.erase_ofWorld]
  refine ⟨_, rfl, world.withStore kind ((world.stores kind).erase entity), rfl, fun other named => ?_⟩
  rw [find_withStore, StoreOperation.lastAssigned]
  by_cases same : kind = other
  · subst same
    rw [dif_pos rfl, ComponentStore.find_erase]
    by_cases own : named = entity
    · rw [if_pos own, if_pos ⟨rfl, own.symm⟩]
    · rw [if_neg own, if_neg fun both => own both.2.symm, contents]
  · rw [dif_neg same, if_neg fun both => same both.1, contents]

theorem follows_destroyEntity {history : StoreHistory S} (follows : history.Follows initial)
    (entity : EntityId) : ∃ next, StoreOperation.perform history (.destroyEntity entity) = some next ∧
      next.Follows initial := by
  obtain ⟨world, stores, contents⟩ := follows
  rw [StoreOperation.perform, StoreOperation.apply, stores, ComponentStores.destroyEntity_ofWorld]
  refine ⟨_, rfl, world.destroyEntity entity, rfl, fun kind named => ?_⟩
  rw [GameWorld.destroyEntity_find, StoreOperation.lastAssigned]
  by_cases own : named = entity
  · rw [if_pos own, if_pos own.symm]
  · rw [if_neg own, if_neg (Ne.symm own), contents]

theorem follows_sweep {history : StoreHistory S} (follows : history.Follows initial) :
    ∃ next, StoreOperation.perform history .eraseBodyBoundComponentsWithoutBody = some next ∧
      next.Follows initial := by
  obtain ⟨world, stores, contents⟩ := follows
  rw [StoreOperation.perform, StoreOperation.apply, stores,
    ComponentStores.eraseBodyBoundComponentsWithoutBody_ofWorld]
  refine ⟨_, rfl, world.eraseBodyBoundComponentsWithoutBody, rfl, fun kind named => ?_⟩
  rw [StoreOperation.lastAssigned, ← contents, ← contents]
  rw [GameWorld.eraseBodyBoundComponentsWithoutBody]
  dsimp only
  by_cases bound : kind.boundToBody = true
  · rw [if_pos bound, ComponentStore.find_filter]
    by_cases bodyless : world.bodies.find named = none
    · rw [if_pos ⟨bound, bodyless⟩, bodyless]
      cases (world.stores kind).find named <;> rfl
    · rw [if_neg fun both => bodyless both.2, Option.isSome_iff_ne_none.mpr bodyless]
      cases (world.stores kind).find named <;> rfl
  · rw [if_neg bound, if_neg fun both => bound both.1]

theorem follows_perform {history : StoreHistory S} (follows : history.Follows initial)
    (operation : StoreOperation S) :
    ∃ next, operation.perform history = some next ∧ next.Follows initial := by
  cases operation with
  | insertOrAssign kind entity value => exact follows_insertOrAssign follows kind entity value
  | erase kind entity => exact follows_erase follows kind entity
  | destroyEntity entity => exact follows_destroyEntity follows entity
  | eraseBodyBoundComponentsWithoutBody => exact follows_sweep follows

theorem follows_run {history : StoreHistory S} (follows : history.Follows initial)
    (operations : List (StoreOperation S)) :
    ∃ last, operations.foldlM StoreOperation.perform history = some last ∧ last.Follows initial := by
  induction operations generalizing history with
  | nil => exact ⟨history, rfl, follows⟩
  | cons operation rest ih =>
    obtain ⟨next, performed, nextFollows⟩ := follows_perform follows operation
    obtain ⟨last, ran, lastFollows⟩ := ih nextFollows
    refine ⟨last, ?_, lastFollows⟩
    rw [List.foldlM_cons, performed]
    exact ran

/-- Every history runs to its end and keeps the algebra: ascending stores of what was last assigned,
joins and rosters of what the stores hold, and destruction and the sweep removing what they name. -/
theorem stores_keep_algebra (world : GameWorld S) (operations : List (StoreOperation S)) :
    ∃ history, operations.foldlM StoreOperation.perform (start world) = some history ∧
      (∀ kind, ((history.stores kind).map Prod.fst).Pairwise (· < ·)) ∧
      (∀ kind entity, find (history.stores kind) entity =
        StoreOperation.lastAssigned world kind entity history.performed) ∧
      (∀ first second,
        let visited := forEachEntityWithBoth (history.stores first) (history.stores second) 0 0 []
        (visited.map Prod.fst).Pairwise (· < ·) ∧ ∀ entity value other, (entity, value, other) ∈ visited ↔
          find (history.stores first) entity = some value ∧
            find (history.stores second) entity = some other) ∧
      (history.stores.rosterOf.Pairwise (· < ·) ∧ ∀ entity,
        (entity ∈ history.stores.rosterOf ↔ ∃ kind, entity ∈ (history.stores kind).map Prod.fst) ∧
        (entity ∈ history.stores.rosterOf ↔ history.stores.rosterContains entity = true)) ∧
      (∀ entity kind, history.stores.destroyEntity entity kind =
        (history.stores kind).filter fun entry => entry.1 ≠ entity) ∧
      history.stores.eraseBodyBoundComponentsWithoutBody = some fun kind =>
        if kind.boundToBody then
          (history.stores kind).filter fun entry =>
            (find (history.stores .physicsBody) entry.1).isSome
        else history.stores kind := by
  obtain ⟨history, ran, final, stores, contents⟩ := follows_run (follows_start world) operations
  refine ⟨history, ran, ?_⟩
  rw [stores]
  refine ⟨fun kind => (final.stores kind).keys_ascending, fun kind entity => ?_, fun first second => ?_, ?_,
    fun entity kind => ?_, ?_⟩
  · rw [ComponentStores.find_ofWorld, contents]
  · have visits : forEachEntityWithBoth (ComponentStores.ofWorld final first)
        (ComponentStores.ofWorld final second) 0 0 [] = (final.stores first).join (final.stores second) := by
      rw [forEachEntityWithBoth_eq, List.nil_append]
      rfl
    dsimp only
    rw [visits]
    refine ⟨List.pairwise_map.mpr (ComponentStore.join_ascending _ _), fun entity value other => ?_⟩
    rw [ComponentStore.mem_join, ComponentStores.find_ofWorld, ComponentStores.find_ofWorld]
  · rw [ComponentStores.rosterOf_ofWorld]
    obtain ⟨ascending, members⟩ := final.entities_roster
    refine ⟨ascending, fun entity => ⟨?_, ?_⟩⟩
    · rw [members, GameWorld.contains_iff]
      exact exists_congr fun kind => SortedStore.mem_keys_iff.symm
    · rw [members, ComponentStores.rosterContains_ofWorld]
  · rw [ComponentStores.destroyEntity_ofWorld]
    rfl
  · rw [ComponentStores.eraseBodyBoundComponentsWithoutBody_ofWorld]
    refine congrArg some (funext fun kind => ?_)
    rw [ComponentStores.ofWorld, GameWorld.eraseBodyBoundComponentsWithoutBody]
    dsimp only
    split
    · refine List.filter_congr fun entry member => ?_
      rw [ComponentStores.find_ofWorld]
    · rfl

end StoreHistory

end BlobRoyale.Simulation
