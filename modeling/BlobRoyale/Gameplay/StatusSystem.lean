import Mathlib.Order.Bounds.Basic
import BlobRoyale.Gameplay.GameplayValidation
import BlobRoyale.Simulation.AbilityWindows
import BlobRoyale.Simulation.SystemPipeline

/-!
# Status effects

The pass that turns the tick's stun requests into stuns. It first merges the requests by entity without
touching the world, then writes the merged windows, and last holds every stunned entity. A throw carries the
world it left behind.
-/

namespace BlobRoyale.Gameplay

open Simulation

variable {S : Type} [Scalar S]

/-- A throw and the world it leaves. -/
structure Thrown (S : Type) [Scalar S] where
  failure : Failure
  world : GameWorld S

abbrev Applied (S : Type) [Scalar S] := Except (Thrown S) (GameWorld S)

namespace Applied

/-- The world after the call, whether it returned or threw. -/
def worldAfter : Applied S → GameWorld S
  | .ok world => world
  | .error thrown => thrown.world

def returns : Applied S → Bool
  | .ok _ => true
  | .error _ => false

/-- A step's refusal, thrown from the world it was tried in. -/
def thrownFrom {α : Type} (world : GameWorld S) : Validated α → Except (Thrown S) α
  | .ok value => .ok value
  | .error error => .error ⟨.simulation error, world⟩

end Applied

namespace StatusSystem

/-- The requested window after one request, merged with the one before it. -/
def mergeWindow (tick : TickSequence) (previous : Option TickWindow) (window : TickWindow) :
    Validated TickWindow :=
  match previous with
  | none => .ok window
  | some previous =>
      if previous.contains tick then do
        let expiry := max previous.expiryTick.value window.expiryTick.value
        let merged ← TickWindow.create previous.activationTick (expiry - previous.activationTick.value)
        return merged
      else .ok window

/-- The requests merged so far, after one more event. -/
def aggregate (world : GameWorld S) (tick : TickSequence) (requested : SortedStore EntityId TickWindow) :
    WorldEvent S → Except Failure (SortedStore EntityId TickWindow)
  | .stunRequest entity durationTicks =>
      if durationTicks = 0 then .ok requested
      else
        match world.bodies.find entity with
        | none => .ok requested
        | some body =>
            if body.isStatic then .ok requested
            else if tick = .zero then
              .error (.gameplay ⟨.statusActivationTickZero, "status.activation_tick",
                "positive stun requests require a positive committing tick"⟩)
            else
              let existing := ((world.stores .stun).find entity).map (·.window)
              let previous := (requested.find entity).or existing
              match TickWindow.create tick durationTicks with
              | .error error => .error (.simulation error)
              | .ok window =>
                  match mergeWindow tick previous window with
                  | .error error => .error (.simulation error)
                  | .ok merged => .ok (requested.insertOrAssign entity merged)
  | _ => .ok requested

def eraseExpired (world : GameWorld S) (tick : TickSequence) : GameWorld S :=
  world.withStore .stun ((world.stores .stun).filter fun _ stun => !stun.window.expired tick)

def commit (tick : TickSequence) (world : GameWorld S) (entry : EntityId × TickWindow) : Applied S := do
  let stuns ← Applied.thrownFrom world ((world.stores .stun).insertOrAssign entry.1 ⟨entry.2⟩)
  let stunned := world.withStore .stun stuns
  return stunned.withControllables (stunned.controllables.modify entry.1 fun controllable =>
    { controllable with inputGeneration := some tick })

/-- An entity's component of one kind, replaced by its canceled one where it has it. -/
def cancelStored (kind : ComponentKind) (canceledAt : kind.Value S → Validated (kind.Value S))
    (world : GameWorld S) (entity : EntityId) : Applied S :=
  match (world.stores kind).find entity with
  | none => .ok world
  | some value => do
      let canceled ← Applied.thrownFrom world (canceledAt value)
      let stored ← Applied.thrownFrom world ((world.stores kind).insertOrAssign entity canceled)
      return world.withStore kind stored

def cancelCharge (tick : TickSequence) (world : GameWorld S) (entity : EntityId) : Applied S :=
  cancelStored .charge (fun charge => charge.canceledAt tick) world entity

def cancelShield (tick : TickSequence) (world : GameWorld S) (entity : EntityId) : Applied S :=
  cancelStored .shield (fun shield => shield.canceledAt tick) world entity

/-- The world with an entity's intent and acceleration at rest. -/
def atRest (zero : Vector2 S) (world : GameWorld S) (entity : EntityId) : GameWorld S :=
  let idle := world.withControllables (world.controllables.modify entity fun controllable =>
    { controllable with normalizedThrustIntent := some zero, brakingIntent := false })
  idle.withBodies (idle.bodies.modify entity fun body =>
    if body.isStatic then body else body.withAcceleration zero)

def hold (tick : TickSequence) (zero : Vector2 S) (world : GameWorld S) (entry : EntityId × Stun) : Applied S :=
  if entry.2.window.contains tick then do
    let canceled ← cancelCharge tick (atRest zero world entry.1) entry.1
    cancelShield tick canceled entry.1
  else .ok world

def settle (tick : TickSequence) (requested : SortedStore EntityId TickWindow) (world : GameWorld S) :
    Applied S := do
  let committed ← requested.entries.foldlM (commit tick) (eraseExpired world tick)
  let zero ← Applied.thrownFrom committed (Vector2.create 0 0)
  (committed.stores .stun).entries.foldlM (hold tick zero) committed

/-- `StatusSystem::apply`. -/
def apply (world : GameWorld S) (context : TickContext S) : Applied S :=
  match world.events.foldlM (aggregate world context.tickSequence) .empty with
  | .error failure => .error ⟨failure, world⟩
  | .ok requested => settle context.tickSequence requested world

end StatusSystem

end BlobRoyale.Gameplay

/-!
# Stun merging

The merged window of an entity ends at the greatest of its requested ends and of the end of its active stun.
That names no order of the requests, so the merge has none.
-/

namespace BlobRoyale.Gameplay

open Simulation

variable {S : Type} [Scalar S]

namespace StatusSystem

/-- A request the pass applies: positive, and for an entity with a dynamic body. -/
def Applies (world : GameWorld S) (events : List (WorldEvent S)) (entity : EntityId) (duration : Nat) : Prop :=
  .stunRequest entity duration ∈ events ∧ 0 < duration ∧
    ∃ body, world.bodies.find entity = some body ∧ body.isStatic = false

/-- An applicable request without a window to give. -/
def Invalid (tick : TickSequence) (duration : Nat) : Prop :=
  tick = .zero ∨ maximumProtocolSafeInteger < tick.value + duration

def ActiveStun (world : GameWorld S) (tick : TickSequence) (entity : EntityId) (stun : Stun) : Prop :=
  (world.stores .stun).find entity = some stun ∧ stun.window.contains tick = true

/-- Where an entity's window could end: at its requests' ends and at its active stun's. -/
def Ends (world : GameWorld S) (tick : TickSequence) (entity : EntityId) (durations : Set Nat) : Set Nat :=
  {expiry | (∃ duration ∈ durations, expiry = tick.value + duration) ∨
    ∃ stun, ActiveStun world tick entity stun ∧ expiry = stun.window.expiryTick.value}

structure MergedWindow (world : GameWorld S) (tick : TickSequence) (entity : EntityId) (durations : Set Nat)
    (window : TickWindow) : Prop where
  ends : IsGreatest (Ends world tick entity durations) window.expiryTick.value
  kept : ∀ stun, ActiveStun world tick entity stun → window.activationTick = stun.window.activationTick
  starts : (∀ stun, ¬ ActiveStun world tick entity stun) → window.activationTick = tick

/-- The request of an event, where the pass applies it. -/
def requestOf (world : GameWorld S) : WorldEvent S → Option (EntityId × Nat)
  | .stunRequest entity durationTicks =>
      if durationTicks = 0 then none
      else ((world.bodies.find entity).filter fun body => !body.isStatic).map fun _ => (entity, durationTicks)
  | _ => none

def requestsOf (world : GameWorld S) (events : List (WorldEvent S)) : List (EntityId × Nat) :=
  events.filterMap (requestOf world)

def mergeRequest (world : GameWorld S) (tick : TickSequence) (requested : SortedStore EntityId TickWindow)
    (request : EntityId × Nat) : Except Failure (SortedStore EntityId TickWindow) :=
  if tick = .zero then
    .error (.gameplay ⟨.statusActivationTickZero, "status.activation_tick",
      "positive stun requests require a positive committing tick"⟩)
  else
    match TickWindow.create tick request.2 with
    | .error error => .error (.simulation error)
    | .ok window =>
        match mergeWindow tick ((requested.find request.1).or
          (((world.stores .stun).find request.1).map (·.window))) window with
        | .error error => .error (.simulation error)
        | .ok merged => .ok (requested.insertOrAssign request.1 merged)

section Requests

variable {world : GameWorld S} {tick : TickSequence} {events : List (WorldEvent S)}

theorem mem_requestsOf {entity : EntityId} {duration : Nat} :
    (entity, duration) ∈ requestsOf world events ↔ Applies world events entity duration := by
  rw [requestsOf, List.mem_filterMap]
  constructor
  · rintro ⟨event, member, requested⟩
    unfold requestOf at requested
    split at requested
    · next named durationTicks =>
      split at requested
      · cases requested
      · next positive =>
        obtain ⟨body, found, same⟩ := Option.map_eq_some_iff.mp requested
        cases same
        obtain ⟨stored, dynamic⟩ := Option.filter_eq_some_iff.mp found
        exact ⟨member, Nat.pos_of_ne_zero positive, body, stored, by simpa using dynamic⟩
    · cases requested
  · rintro ⟨member, positive, body, stored, dynamic⟩
    refine ⟨_, member, ?_⟩
    simp only [requestOf, Nat.ne_of_gt positive, if_false, stored, Option.filter_some, dynamic, Bool.not_false,
      if_true, Option.map_some]

theorem aggregate_eq (requested : SortedStore EntityId TickWindow) (event : WorldEvent S) :
    aggregate world tick requested event = match requestOf world event with
      | none => .ok requested
      | some request => mergeRequest world tick requested request := by
  cases event with
  | stunRequest entity durationTicks =>
    simp only [aggregate, requestOf, mergeRequest]
    split
    · rfl
    · cases world.bodies.find entity with
      | none => rfl
      | some body =>
        dsimp only
        cases dynamic : body.isStatic with
        | true => simp [Option.filter, dynamic]
        | false =>
          have kept : Option.filter (fun body : PhysicsBody S => !body.isStatic) (some body) = some body :=
            Option.filter_eq_some_iff.mpr ⟨rfl, by rw [dynamic]; rfl⟩
          rw [if_neg Bool.false_ne_true, kept]
          rfl
  | contact pair normal speed rule => rfl
  | despawn entity => rfl
  | elimination entity => rfl
  | raceCheckpoint entity next offset => rfl
  | chargeContact attacker target activation outcome => rfl

theorem foldlM_aggregate (events : List (WorldEvent S)) (requested : SortedStore EntityId TickWindow) :
    events.foldlM (aggregate world tick) requested =
      (requestsOf world events).foldlM (mergeRequest world tick) requested := by
  induction events generalizing requested with
  | nil => rfl
  | cons event rest ih =>
    rw [List.foldlM_cons, aggregate_eq]
    cases named : requestOf world event with
    | none =>
      rw [show requestsOf world (event :: rest) = requestsOf world rest from List.filterMap_cons_none named]
      exact ih requested
    | some request =>
      rw [show requestsOf world (event :: rest) = request :: requestsOf world rest from
        List.filterMap_cons_some named, List.foldlM_cons]
      exact congrArg _ (funext ih)

end Requests

/-- The requests merged so far. -/
structure Merged (world : GameWorld S) (tick : TickSequence) (done : List (EntityId × Nat))
    (requested : SortedStore EntityId TickWindow) : Prop where
  absent : ∀ entity, requested.find entity = none → ∀ duration, (entity, duration) ∉ done
  present : ∀ entity window, requested.find entity = some window →
    (∃ duration, (entity, duration) ∈ done) ∧
      MergedWindow world tick entity {duration | (entity, duration) ∈ done} window

section Merging

variable {world : GameWorld S} {tick : TickSequence} {entity : EntityId} {window previous : TickWindow}
  {durations : Set Nat} {duration : Nat}

theorem ends_insert : Ends world tick entity (insert duration durations) =
    insert (tick.value + duration) (Ends world tick entity durations) := by
  ext expiry
  simp only [Ends, Set.mem_ofPred_eq, Set.mem_insert_iff, exists_eq_or_imp, or_assoc]

theorem mergeWindow_outside (outside : previous.contains tick = false) :
    mergeWindow tick (some previous) window = .ok window := by
  simp only [mergeWindow, outside, Bool.false_eq_true, if_false]

theorem mergeWindow_inside (window : TickWindow) (inside : previous.contains tick = true) : ∃ merged,
    mergeWindow tick (some previous) window = .ok merged ∧
      merged.activationTick = previous.activationTick ∧
      merged.expiryTick.value = max window.expiryTick.value previous.expiryTick.value := by
  have first := previous.expiryTick.le_maximum
  have second := window.expiryTick.le_maximum
  have ordered := previous.ordered
  have room : previous.activationTick.value + (max previous.expiryTick.value window.expiryTick.value -
      previous.activationTick.value) ≤ maximumProtocolSafeInteger := by omega
  obtain ⟨opened, created⟩ := TickWindow.create_returns room
  refine ⟨opened.val, ?_, opened.property, ?_⟩
  · simp only [mergeWindow, inside, if_true, created]
    rfl
  · rw [TickWindow.create_eq_ok.mp created]
    omega

theorem MergedWindow.contains (merged : MergedWindow world tick entity durations window)
    (requested : duration ∈ durations) (positive : 0 < duration) : window.contains tick = true := by
  have late : tick.value + duration ≤ window.expiryTick.value :=
    merged.ends.2 (.inl ⟨duration, requested, rfl⟩)
  refine TickWindow.contains_iff.mpr ⟨?_, by omega⟩
  by_cases active : ∃ stun, ActiveStun world tick entity stun
  · obtain ⟨stun, active⟩ := active
    rw [merged.kept stun active]
    exact (TickWindow.contains_iff.mp active.2).1
  · rw [merged.starts fun stun stunned => active ⟨stun, stunned⟩]

theorem mergeWindow_first (opens : window.activationTick = tick)
    (closes : window.expiryTick.value = tick.value + duration) : ∃ merged,
    mergeWindow tick (((world.stores .stun).find entity).map (·.window)) window = .ok merged ∧
      MergedWindow world tick entity {duration} merged := by
  have ended (expiry : Nat) : expiry ∈ Ends world tick entity {duration} ↔ expiry = window.expiryTick.value ∨
      ∃ stun, ActiveStun world tick entity stun ∧ expiry = stun.window.expiryTick.value := by
    simp only [Ends, Set.mem_ofPred_eq, Set.mem_singleton_iff, exists_eq_left, closes]
  have fresh (none : ∀ stun, ¬ ActiveStun world tick entity stun) :
      MergedWindow world tick entity {duration} window := by
    refine ⟨⟨(ended _).mpr (.inl rfl), fun expiry member => ?_⟩, fun stun active => absurd active (none stun),
      fun _ => opens⟩
    obtain rfl | ⟨stun, active, -⟩ := (ended expiry).mp member
    · exact le_refl _
    · exact absurd active (none stun)
  cases found : (world.stores .stun).find entity with
  | none => exact ⟨window, rfl, fresh fun stun active => by cases found.symm.trans active.1⟩
  | some stun =>
    cases inside : stun.window.contains tick with
    | false =>
      refine ⟨window, mergeWindow_outside inside, fresh fun other active => ?_⟩
      cases found.symm.trans active.1
      exact absurd active.2 (Bool.eq_false_iff.mp inside)
    | true =>
      obtain ⟨merged, same, activation, expiry⟩ := mergeWindow_inside window inside
      refine ⟨merged, same, ⟨?_, fun other member => ?_⟩, fun other active => ?_, fun none => ?_⟩
      · rw [ended, expiry]
        obtain less | less := le_total stun.window.expiryTick.value window.expiryTick.value
        · exact .inl (max_eq_left less)
        · exact .inr ⟨stun, ⟨found, inside⟩, max_eq_right less⟩
      · rw [expiry]
        obtain rfl | ⟨active, ⟨stored, -⟩, rfl⟩ := (ended other).mp member
        · exact le_max_left _ _
        · cases found.symm.trans stored
          exact le_max_right _ _
      · cases found.symm.trans active.1
        exact activation
      · exact absurd ⟨found, inside⟩ (none stun)

theorem mergeWindow_again (merged : MergedWindow world tick entity durations previous)
    (inside : previous.contains tick = true) (closes : window.expiryTick.value = tick.value + duration) :
    ∃ next, mergeWindow tick (some previous) window = .ok next ∧
      MergedWindow world tick entity (insert duration durations) next := by
  obtain ⟨next, same, activation, expiry⟩ := mergeWindow_inside window inside
  refine ⟨next, same, ?_, fun stun active => ?_, fun none => ?_⟩
  · rw [ends_insert, expiry, closes]
    exact merged.ends.insert _
  · rw [activation, merged.kept stun active]
  · rw [activation, merged.starts none]

theorem merged_empty : Merged world tick [] .empty :=
  ⟨fun _ _ _ => List.not_mem_nil, fun _ _ found => by cases found⟩

theorem Merged.step {done : List (EntityId × Nat)} {requested : SortedStore EntityId TickWindow}
    {request : EntityId × Nat} (merged : Merged world tick done requested)
    (positive : ∀ request ∈ done, 0 < request.2) (valid : ¬ Invalid tick request.2) : ∃ next,
    mergeRequest world tick requested request = .ok next ∧ Merged world tick (done ++ [request]) next := by
  obtain ⟨entity, duration⟩ := request
  have opensAt : tick ≠ .zero := fun zero => valid (.inl zero)
  have room : tick.value + duration ≤ maximumProtocolSafeInteger := not_lt.mp fun beyond => valid (.inr beyond)
  obtain ⟨opened, created⟩ := TickWindow.create_returns room
  have closes := TickWindow.create_eq_ok.mp created
  have own : {other | (entity, other) ∈ done ++ [(entity, duration)]} =
      insert duration {other | (entity, other) ∈ done} := by
    ext other
    simp only [Set.mem_ofPred_eq, List.mem_append, List.mem_singleton, Prod.mk.injEq, true_and,
      Set.mem_insert_iff, or_comm]
  have stepped : ∃ window, mergeWindow tick ((requested.find entity).or
      (((world.stores .stun).find entity).map (·.window))) opened = .ok window ∧
      MergedWindow world tick entity {other | (entity, other) ∈ done ++ [(entity, duration)]} window := by
    rw [own]
    cases found : requested.find entity with
    | none =>
      have nothing : {other | (entity, other) ∈ done} = (∅ : Set Nat) :=
        Set.eq_empty_iff_forall_notMem.mpr (merged.absent entity found)
      rw [nothing, insert_empty_eq]
      exact mergeWindow_first opened.property closes
    | some previous =>
      obtain ⟨⟨earlier, member⟩, held⟩ := merged.present entity previous found
      exact mergeWindow_again held (held.contains member (positive _ member)) closes
  obtain ⟨window, same, held⟩ := stepped
  have others {other : EntityId} (different : other ≠ entity) :
      {value | (other, value) ∈ done ++ [(entity, duration)]} = {value | (other, value) ∈ done} := by
    ext value
    simp [different]
  refine ⟨requested.insertOrAssign entity window, ?_, fun other none value member => ?_,
    fun other found present => ?_⟩
  · rw [mergeRequest, if_neg opensAt, created]
    dsimp only
    rw [same]
  · rw [SortedStore.find_insertOrAssign] at none
    split at none
    · cases none
    · next different =>
      have kept : value ∈ {value | (other, value) ∈ done} := others different ▸ member
      exact merged.absent other none value kept
  · rw [SortedStore.find_insertOrAssign] at present
    split at present
    · next named =>
      cases present
      cases named
      exact ⟨⟨duration, List.mem_append_right _ (List.mem_singleton_self _)⟩, held⟩
    · next different =>
      obtain ⟨⟨value, member⟩, kept⟩ := merged.present other found present
      exact ⟨⟨value, List.mem_append_left _ member⟩, by rw [others different]; exact kept⟩

theorem Merged.run {done rest : List (EntityId × Nat)} {requested : SortedStore EntityId TickWindow}
    (merged : Merged world tick done requested) (positive : ∀ request ∈ done ++ rest, 0 < request.2)
    (valid : ∀ request ∈ rest, ¬ Invalid tick request.2) : ∃ final,
    rest.foldlM (mergeRequest world tick) requested = .ok final ∧ Merged world tick (done ++ rest) final := by
  induction rest generalizing done requested with
  | nil => exact ⟨requested, rfl, by rwa [List.append_nil]⟩
  | cons request rest ih =>
    obtain ⟨next, stepped, held⟩ := merged.step
      (fun other member => positive other (List.mem_append_left _ member)) (valid request List.mem_cons_self)
    rw [List.append_cons] at positive
    obtain ⟨final, folded, kept⟩ := ih held positive
      fun other member => valid other (List.mem_cons_of_mem _ member)
    exact ⟨final, by rw [List.foldlM_cons, stepped]; exact folded, by rwa [List.append_cons]⟩

theorem mergeRequest_refuses {requested : SortedStore EntityId TickWindow} {request : EntityId × Nat}
    (invalid : Invalid tick request.2) : ∃ failure, mergeRequest world tick requested request = .error failure := by
  unfold mergeRequest
  split
  · exact ⟨_, rfl⟩
  · next begun =>
    obtain ⟨error, refused, -⟩ := TickWindow.create_refuses (invalid.resolve_left begun)
    rw [refused]
    exact ⟨_, rfl⟩

theorem merge_refuses {rest : List (EntityId × Nat)} {requested : SortedStore EntityId TickWindow}
    (invalid : ∃ request ∈ rest, Invalid tick request.2) :
    ∃ failure, rest.foldlM (mergeRequest world tick) requested = .error failure := by
  induction rest generalizing requested with
  | nil =>
    obtain ⟨request, member, -⟩ := invalid
    cases member
  | cons request rest ih =>
    rw [List.foldlM_cons]
    cases stepped : mergeRequest world tick requested request with
    | error failure => exact ⟨failure, rfl⟩
    | ok next =>
      obtain ⟨other, member, refused⟩ := invalid
      obtain rfl | member := List.mem_cons.mp member
      · have thrown : ∃ failure, mergeRequest world tick requested other = .error failure :=
          mergeRequest_refuses refused
        obtain ⟨failure, thrown⟩ := thrown
        cases stepped.symm.trans thrown
      · exact ih ⟨other, member, refused⟩

theorem Merged.unique {first second : List (EntityId × Nat)} {left right : SortedStore EntityId TickWindow}
    (same : ∀ request, request ∈ first ↔ request ∈ second) (merged : Merged world tick first left)
    (other : Merged world tick second right) : left = right := by
  refine SortedStore.ext_find fun entity => ?_
  have durations : {duration | (entity, duration) ∈ first} = {duration | (entity, duration) ∈ second} := by
    ext duration
    exact same (entity, duration)
  cases leftFound : left.find entity with
  | none =>
    cases rightFound : right.find entity with
    | none => rfl
    | some window =>
      obtain ⟨⟨duration, member⟩, -⟩ := other.present entity window rightFound
      exact absurd ((same _).mpr member) (merged.absent entity leftFound duration)
  | some window =>
    obtain ⟨⟨duration, member⟩, held⟩ := merged.present entity window leftFound
    cases rightFound : right.find entity with
    | none => exact absurd ((same _).mp member) (other.absent entity rightFound duration)
    | some second =>
      obtain ⟨-, otherHeld⟩ := other.present entity second rightFound
      rw [← durations] at otherHeld
      refine congrArg some (TickWindow.ext_ticks ?_ (held.ends.unique otherHeld.ends))
      by_cases active : ∃ stun, ActiveStun world tick entity stun
      · obtain ⟨stun, active⟩ := active
        rw [held.kept stun active, otherHeld.kept stun active]
      · have none := fun stun stunned => active ⟨stun, stunned⟩
        rw [held.starts none, otherHeld.starts none]

end Merging

end StatusSystem

end BlobRoyale.Gameplay
