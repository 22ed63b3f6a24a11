import BlobRoyale.Gameplay.StatusSettling

/-!
# The stun pass

The whole pass: it throws before it writes where a request has no window, and otherwise leaves a world that
names the requests only as a set.
-/

namespace BlobRoyale.Gameplay

open Simulation

variable {S : Type} [Scalar S]

namespace Applied

/-- The same outcome in a world whose tick had these events. -/
def withEvents (events : List (WorldEvent S)) : Applied S → Applied S
  | .ok world => .ok { world with events := events }
  | .error thrown => .error { thrown with world := { thrown.world with events := events } }

variable {events : List (WorldEvent S)}

theorem withEvents_bind {step : GameWorld S → Applied S}
    (same : ∀ world, step { world with events := events } = (step world).withEvents events) (applied : Applied S) :
    (applied.withEvents events >>= step) = Applied.withEvents events (applied >>= step) := by
  cases applied with
  | ok world => exact same world
  | error thrown => rfl

theorem withEvents_foldlM {Entry : Type} {step : GameWorld S → Entry → Applied S}
    (same : ∀ world entry, step { world with events := events } entry = (step world entry).withEvents events)
    (entries : List Entry) (world : GameWorld S) :
    entries.foldlM step { world with events := events } =
      Applied.withEvents events (entries.foldlM step world) := by
  induction entries generalizing world with
  | nil => rfl
  | cons entry rest ih =>
    rw [List.foldlM_cons, List.foldlM_cons, same]
    exact withEvents_bind ih (step world entry)

end Applied

namespace StatusSystem

section Events

variable {tick : TickSequence} {zero : Vector2 S} {events : List (WorldEvent S)}

theorem commit_withEvents (world : GameWorld S) (entry : EntityId × TickWindow) :
    commit tick { world with events := events } entry = (commit tick world entry).withEvents events := by
  unfold commit
  dsimp only
  cases (world.stores .stun).insertOrAssign entry.1 ⟨entry.2⟩ <;> rfl

theorem cancelStored_withEvents (kind : ComponentKind) (canceledAt : kind.Value S → Validated (kind.Value S))
    (world : GameWorld S) (entity : EntityId) :
    cancelStored kind canceledAt { world with events := events } entity =
      (cancelStored kind canceledAt world entity).withEvents events := by
  unfold cancelStored
  dsimp only
  cases (world.stores kind).find entity with
  | none => rfl
  | some value =>
    dsimp only
    cases canceledAt value with
    | error refusal => rfl
    | ok canceled =>
      simp only [Applied.thrownFrom, bind, Except.bind]
      cases (world.stores kind).insertOrAssign entity canceled <;> rfl

theorem hold_withEvents (world : GameWorld S) (entry : EntityId × Stun) :
    hold tick zero { world with events := events } entry = (hold tick zero world entry).withEvents events := by
  unfold hold
  split
  · have charged : cancelCharge tick (atRest zero { world with events := events } entry.1) entry.1 =
        (cancelCharge tick (atRest zero world entry.1) entry.1).withEvents events :=
      cancelStored_withEvents .charge _ (atRest zero world entry.1) entry.1
    rw [charged]
    exact Applied.withEvents_bind (fun world => cancelStored_withEvents .shield _ world entry.1) _
  · rfl

theorem settle_withEvents (requested : SortedStore EntityId TickWindow) (world : GameWorld S) :
    settle tick requested { world with events := events } = (settle tick requested world).withEvents events := by
  have committed : requested.entries.foldlM (commit tick) (eraseExpired { world with events := events } tick) =
      Applied.withEvents events (requested.entries.foldlM (commit tick) (eraseExpired world tick)) :=
    Applied.withEvents_foldlM commit_withEvents requested.entries (eraseExpired world tick)
  rw [settle, committed]
  refine Applied.withEvents_bind (fun world => ?_) _
  cases Vector2.create (0 : S) 0 with
  | error refusal => rfl
  | ok zero => exact Applied.withEvents_foldlM hold_withEvents (world.stores .stun).entries world

end Events

/-- An entity some applicable request of the tick names. -/
def Requested (world : GameWorld S) (entity : EntityId) : Prop :=
  ∃ duration, Applies world world.events entity duration

/-- An entity stunned once the requests are merged. -/
def Stunned (world : GameWorld S) (tick : TickSequence) (entity : EntityId) : Prop :=
  Requested world entity ∨ ∃ stun, ActiveStun world tick entity stun

/-- The world a returned call leaves. -/
structure StunOutcome (world next : GameWorld S) (tick : TickSequence) (zero : Vector2 S) : Prop where
  merged : ∀ entity, Requested world entity → ∃ stun, (next.stores .stun).find entity = some stun ∧
    MergedWindow world tick entity {duration | Applies world world.events entity duration} stun.window
  unrequested : ∀ entity, ¬ Requested world entity → (next.stores .stun).find entity =
    ((world.stores .stun).find entity).filter fun stun => !stun.window.expired tick
  live : ∀ entity stun, (next.stores .stun).find entity = some stun → stun.window.expired tick = false
  requestedLink : ∀ entity, Requested world entity → next.controllables.find entity =
    (world.controllables.find entity).map fun link =>
      { link with inputGeneration := some tick, normalizedThrustIntent := some zero, brakingIntent := false }
  stunnedLink : ∀ entity, ¬ Requested world entity → Stunned world tick entity →
    next.controllables.find entity = (world.controllables.find entity).map fun link =>
      { link with normalizedThrustIntent := some zero, brakingIntent := false }
  body : ∀ entity, Stunned world tick entity → next.bodies.find entity =
    (world.bodies.find entity).map fun body => if body.isStatic then body else body.withAcceleration zero
  charge : ∀ entity, Stunned world tick entity → (next.stores .charge).find entity =
    ((world.stores .charge).find entity).map fun charge => charge.cutAt tick
  shield : ∀ entity, Stunned world tick entity → (next.stores .shield).find entity =
    ((world.stores .shield).find entity).map fun shield => shield.cutAt tick
  disarmed : ∀ entity, Stunned world tick entity → ∀ later : TickSequence, tick.value ≤ later.value →
    (∀ charge, (next.stores .charge).find entity = some charge → charge.activeWindow.contains later = false) ∧
    ∀ shield, (next.stores .shield).find entity = some shield →
      shield.shieldWindow.contains later = false ∧ shield.perfectWindow.contains later = false
  free : ∀ entity, ¬ Stunned world tick entity → ∀ kind, kind ≠ .stun →
    (next.stores kind).find entity = (world.stores kind).find entity
  others : ∀ kind, kind ∉ [ComponentKind.stun, .controllable, .physicsBody, .charge, .shield] →
    next.stores kind = world.stores kind
  rest : GameWorld.SameRest world next

section Apply

variable {world next : GameWorld S} {context : TickContext S} {tick : TickSequence}
  {requested : SortedStore EntityId TickWindow} {entity : EntityId}

theorem apply_of_valid (valid : ∀ entity duration, Applies world world.events entity duration →
    ¬ Invalid context.tickSequence duration) : ∃ requested,
    Merged world context.tickSequence (requestsOf world world.events) requested ∧
      apply world context = settle context.tickSequence requested world := by
  have positive : ∀ request ∈ [] ++ requestsOf world world.events, 0 < request.2 := fun request member =>
    (mem_requestsOf.mp member).2.1
  have start : Merged world context.tickSequence [] .empty := merged_empty
  obtain ⟨requested, folded, merged⟩ := start.run positive fun request member =>
    valid request.1 request.2 (mem_requestsOf.mp member)
  refine ⟨requested, merged, ?_⟩
  rw [apply, foldlM_aggregate, folded]

theorem apply_of_invalid (invalid : ∃ entity duration, Applies world world.events entity duration ∧
    Invalid context.tickSequence duration) : ∃ failure, apply world context = .error ⟨failure, world⟩ := by
  obtain ⟨entity, duration, applies, refused⟩ := invalid
  have thrown : ∃ failure, (requestsOf world world.events).foldlM (mergeRequest world context.tickSequence) .empty =
      .error failure := merge_refuses ⟨(entity, duration), mem_requestsOf.mpr applies, refused⟩
  obtain ⟨failure, thrown⟩ := thrown
  exact ⟨failure, by rw [apply, foldlM_aggregate, thrown]⟩

theorem Merged.isSome_iff (merged : Merged world tick (requestsOf world world.events) requested) :
    (requested.find entity).isSome = true ↔ Requested world entity := by
  cases found : requested.find entity with
  | none =>
    refine iff_of_false (by simp) ?_
    rintro ⟨duration, applies⟩
    exact merged.absent entity found duration (mem_requestsOf.mpr applies)
  | some window =>
    obtain ⟨⟨duration, member⟩, -⟩ := merged.present entity window found
    exact iff_of_true rfl ⟨duration, mem_requestsOf.mp member⟩

theorem durations_of_requestsOf : {duration | (entity, duration) ∈ requestsOf world world.events} =
    {duration | Applies world world.events entity duration} := by
  ext duration
  exact mem_requestsOf

theorem find_eraseExpired : ((eraseExpired world tick).stores .stun).find entity =
    ((world.stores .stun).find entity).filter fun stun => !stun.window.expired tick := by
  rw [eraseExpired, GameWorld.withStore_same, ComponentStore.find_filter]

theorem eraseExpired_other {kind : ComponentKind} (other : kind ≠ .stun) :
    (eraseExpired world tick).stores kind = world.stores kind := GameWorld.withStore_other _ other

variable {committed : GameWorld S}

theorem stuns_of_requested (merged : Merged world tick (requestsOf world world.events) requested)
    (writes : Committed tick requested (eraseExpired world tick) committed) (named : Requested world entity) :
    ∃ stun, (committed.stores .stun).find entity = some stun ∧
      MergedWindow world tick entity {duration | Applies world world.events entity duration} stun.window ∧
      stun.window.contains tick = true := by
  obtain ⟨window, found⟩ := Option.isSome_iff_exists.mp (merged.isSome_iff.mpr named)
  obtain ⟨-, held⟩ := merged.present entity window found
  rw [durations_of_requestsOf] at held
  obtain ⟨duration, applies⟩ := named
  exact ⟨⟨window⟩, by rw [writes.stuns, found]; rfl, held, held.contains applies applies.2.1⟩

theorem stuns_of_unrequested (merged : Merged world tick (requestsOf world world.events) requested)
    (writes : Committed tick requested (eraseExpired world tick) committed) (unnamed : ¬ Requested world entity) :
    (committed.stores .stun).find entity =
      ((world.stores .stun).find entity).filter fun stun => !stun.window.expired tick := by
  have absent : requested.find entity = none := by
    rw [← Option.not_isSome_iff_eq_none, merged.isSome_iff]
    exact unnamed
  rw [writes.stuns, absent, find_eraseExpired]
  rfl

theorem stunnedAt_iff (merged : Merged world tick (requestsOf world world.events) requested)
    (writes : Committed tick requested (eraseExpired world tick) committed) :
    stunnedAt tick (committed.stores .stun).toSortedStore entity = true ↔ Stunned world tick entity := by
  unfold stunnedAt
  by_cases named : Requested world entity
  · obtain ⟨stun, found, -, inside⟩ := stuns_of_requested merged writes named
    rw [found]
    exact iff_of_true inside (.inl named)
  · rw [stuns_of_unrequested merged writes named]
    constructor
    · intro stunned
      obtain ⟨stun, found, inside⟩ := (Option.any_eq_true _ _).mp stunned
      exact .inr ⟨stun, (Option.filter_eq_some_iff.mp found).1, inside⟩
    · rintro (requests | ⟨stun, found, inside⟩)
      · exact absurd requests named
      · rw [found, Option.filter_some, TickWindow.not_expired_of_contains inside]
        exact inside

theorem begun_committed (writes : Committed tick requested (eraseExpired world tick) committed) :
    Begun committed tick entity ↔ Begun world tick entity := by
  have same {kind : ComponentKind} (notStun : kind ≠ .stun) (notLink : kind ≠ .controllable) :
      committed.stores kind = world.stores kind :=
    (writes.others kind notStun notLink).trans (eraseExpired_other notStun)
  rw [Begun, same (by decide) (by decide), same (by decide) (by decide)]
  rfl

theorem settle_eq_ok : settle tick requested world = .ok next ↔ ∃ committed zero,
    requested.entries.foldlM (commit tick) (eraseExpired world tick) = .ok committed ∧
      Vector2.create (0 : S) 0 = .ok zero ∧
      (committed.stores .stun).entries.foldlM (hold tick zero) committed = .ok next := by
  constructor
  · intro settled
    obtain ⟨committed, writes, later⟩ := bind_eq_ok.mp settled
    obtain ⟨zero, created, holds⟩ := bind_eq_ok.mp later
    exact ⟨committed, zero, writes, Applied.thrownFrom_eq_ok.mp created, holds⟩
  · rintro ⟨committed, zero, writes, created, holds⟩
    exact bind_eq_ok.mpr ⟨committed, writes, bind_eq_ok.mpr ⟨zero, Applied.thrownFrom_eq_ok.mpr created, holds⟩⟩

def StunsFit (world : GameWorld S) (tick : TickSequence) : Prop :=
  ∃ stunned : Finset EntityId, stunned.card ≤ maximumEntityCount ∧ ∀ entity, entity ∈ stunned ↔
    Requested world entity ∨
      ∃ stun, (world.stores .stun).find entity = some stun ∧ stun.window.expired tick = false

theorem stunsFit_iff (merged : Merged world tick (requestsOf world world.events) requested) :
    (((eraseExpired world tick).stores .stun).keys.toFinset ∪
      (requested.entries.map Prod.fst).toFinset).card ≤ maximumEntityCount ↔ StunsFit world tick := by
  have members (entity : EntityId) : entity ∈ ((eraseExpired world tick).stores .stun).keys.toFinset ∪
      (requested.entries.map Prod.fst).toFinset ↔ Requested world entity ∨
        ∃ stun, (world.stores .stun).find entity = some stun ∧ stun.window.expired tick = false := by
    rw [Finset.mem_union, List.mem_toFinset, List.mem_toFinset, SortedStore.mem_keys_iff, or_comm]
    refine or_congr (SortedStore.mem_keys_iff.trans merged.isSome_iff) ?_
    rw [find_eraseExpired, Option.isSome_iff_exists]
    refine exists_congr fun stun => ?_
    rw [Option.filter_eq_some_iff, Bool.not_eq_true']
  constructor
  · intro room
    exact ⟨_, room, members⟩
  · rintro ⟨stunned, room, named⟩
    have same : ((eraseExpired world tick).stores .stun).keys.toFinset ∪
        (requested.entries.map Prod.fst).toFinset = stunned := by
      ext entity
      exact (members entity).trans (named entity).symm
    rwa [same]

theorem settle_returns (merged : Merged world tick (requestsOf world world.events) requested) :
    (∃ next, settle tick requested world = .ok next) ↔ StunsFit world tick ∧
      (∃ zero, Vector2.create (0 : S) 0 = .ok zero) ∧
      ∀ entity, Stunned world tick entity → Begun world tick entity := by
  constructor
  · rintro ⟨next, settled⟩
    obtain ⟨committed, zero, folded, created, holds⟩ := settle_eq_ok.mp settled
    have writes := foldlM_commit requested.ascending folded
    refine ⟨(stunsFit_iff merged).mp (foldlM_commit_returns.mp ⟨committed, folded⟩), ⟨zero, created⟩,
      fun entity stunned => (begun_committed writes).mp ?_⟩
    exact (foldlM_hold (committed.stores .stun).ascending).1.mp ⟨next, holds⟩ entity
      ((stunnedAt_iff merged writes).mpr stunned)
  · rintro ⟨room, ⟨zero, created⟩, begun⟩
    obtain ⟨committed, folded⟩ := foldlM_commit_returns.mpr ((stunsFit_iff merged).mpr room)
    have writes := foldlM_commit requested.ascending folded
    obtain ⟨next, holds⟩ := (foldlM_hold (committed.stores .stun).ascending).1.mpr fun entity stunned =>
      (begun_committed writes).mpr (begun entity ((stunnedAt_iff merged writes).mp stunned))
    exact ⟨next, settle_eq_ok.mpr ⟨committed, zero, folded, created, holds⟩⟩

theorem cutAt_disarms {window : TickWindow} {later : TickSequence} (begun : window.activationTick.value ≤ tick.value)
    (after : tick.value ≤ later.value) : (window.cutAt tick).contains later = false :=
  Bool.eq_false_iff.mpr fun inside =>
    absurd ((TickWindow.cutAt_contains begun later).mp inside).2 (not_lt.mpr after)

theorem outcome_of_settle (merged : Merged world tick (requestsOf world world.events) requested)
    (settled : settle tick requested world = .ok next) :
    ∃ zero, Vector2.create (0 : S) 0 = .ok zero ∧ StunOutcome world next tick zero := by
  obtain ⟨committed, zero, folded, created, holds⟩ := settle_eq_ok.mp settled
  have writes := foldlM_commit requested.ascending folded
  obtain ⟨stores, same⟩ := (foldlM_hold (committed.stores .stun).ascending).2 next holds
  have begun := ((settle_returns merged).mp ⟨next, settled⟩).2.2
  have stunnedStores (entity : EntityId) (stunned : Stunned world tick entity) (kind : ComponentKind) :
      (next.stores kind).find entity = ((committed.stores kind).find entity).map (held tick zero kind) :=
    (stores kind entity).trans (if_pos ((stunnedAt_iff merged writes).mpr stunned))
  have freeStores (entity : EntityId) (free : ¬ Stunned world tick entity) (kind : ComponentKind) :
      (next.stores kind).find entity = (committed.stores kind).find entity :=
    (stores kind entity).trans (if_neg fun stunned => free ((stunnedAt_iff merged writes).mp stunned))
  have stuns (entity : EntityId) : (next.stores .stun).find entity = (committed.stores .stun).find entity := by
    rw [stores]
    split
    · cases (committed.stores .stun).find entity <;> rfl
    · rfl
  have kept {kind : ComponentKind} (notStun : kind ≠ .stun) (notLink : kind ≠ .controllable) :
      committed.stores kind = world.stores kind :=
    (writes.others kind notStun notLink).trans (eraseExpired_other notStun)
  have links (entity : EntityId) : committed.controllables.find entity =
      if (requested.find entity).isSome then (world.controllables.find entity).map (marked tick)
      else world.controllables.find entity := by
    have before : (eraseExpired world tick).controllables = world.controllables :=
      eraseExpired_other (by decide)
    rw [writes.links, before]
  refine ⟨zero, created, ⟨fun entity named => ?_, fun entity unnamed => ?_, fun entity stun found => ?_,
    fun entity named => ?_, fun entity unnamed stunned => ?_, fun entity stunned => ?_, fun entity stunned => ?_,
    fun entity stunned => ?_, fun entity stunned later after => ?_, fun entity free kind notStun => ?_,
    fun kind other => ?_, writes.rest.trans same⟩⟩
  · obtain ⟨stun, found, window, -⟩ := stuns_of_requested merged writes named
    exact ⟨stun, (stuns entity).trans found, window⟩
  · rw [stuns, stuns_of_unrequested merged writes unnamed]
  · rw [stuns] at found
    by_cases named : Requested world entity
    · obtain ⟨other, again, -, inside⟩ := stuns_of_requested merged writes named
      cases found.symm.trans again
      exact TickWindow.not_expired_of_contains inside
    · rw [stuns_of_unrequested merged writes named] at found
      simpa using (Option.filter_eq_some_iff.mp found).2
  · rw [GameWorld.controllables, stunnedStores entity (.inl named), ← GameWorld.controllables, links,
      if_pos (merged.isSome_iff.mpr named), Option.map_map]
    rfl
  · rw [GameWorld.controllables, stunnedStores entity stunned, ← GameWorld.controllables, links,
      if_neg fun named => unnamed (merged.isSome_iff.mp named)]
    rfl
  · rw [GameWorld.bodies, stunnedStores entity stunned, kept (by decide) (by decide)]
    rfl
  · rw [stunnedStores entity stunned, kept (by decide) (by decide)]
    rfl
  · rw [stunnedStores entity stunned, kept (by decide) (by decide)]
    rfl
  · obtain ⟨charges, shields⟩ := begun entity stunned
    refine ⟨fun charge found => ?_, fun shield found => ?_⟩
    · rw [stunnedStores entity stunned, kept (by decide) (by decide)] at found
      obtain ⟨before, stored, rfl⟩ := Option.map_eq_some_iff.mp found
      have first := charges before stored
      rw [Charge.activationTick, ← before.aligned] at first
      exact cutAt_disarms first after
    · rw [stunnedStores entity stunned, kept (by decide) (by decide)] at found
      obtain ⟨before, stored, rfl⟩ := Option.map_eq_some_iff.mp found
      have first := shields before stored
      refine ⟨cutAt_disarms first after, ?_⟩
      rw [Shield.activationTick, ← before.perfectAligned] at first
      exact cutAt_disarms first after
  · rw [freeStores entity free]
    by_cases link : kind = .controllable
    · subst link
      exact (links entity).trans (if_neg fun named => free (.inl (merged.isSome_iff.mp named)))
    · rw [kept notStun link]
  · refine ComponentStore.ext_find fun entity => ?_
    have notStun : kind ≠ .stun := fun named => other (by simp [named])
    have notLink : kind ≠ .controllable := fun named => other (by simp [named])
    rw [← kept notStun notLink, stores]
    split
    · have same : held tick zero kind = id := by
        cases kind <;> first | rfl | exact absurd (by decide) other
      rw [same, Option.map_id]
      rfl
    · rfl

theorem apply_returns_iff : (∃ next, apply world context = .ok next) ↔
    (∀ entity duration, Applies world world.events entity duration →
      ¬ Invalid context.tickSequence duration) ∧
    StunsFit world context.tickSequence ∧ (∃ zero, Vector2.create (0 : S) 0 = .ok zero) ∧
    ∀ entity, Stunned world context.tickSequence entity → Begun world context.tickSequence entity := by
  constructor
  · rintro ⟨next, applied⟩
    have valid : ∀ entity duration, Applies world world.events entity duration →
        ¬ Invalid context.tickSequence duration := fun entity duration applies invalid => by
      obtain ⟨failure, thrown⟩ := apply_of_invalid ⟨entity, duration, applies, invalid⟩
      cases applied.symm.trans thrown
    obtain ⟨requested, merged, same⟩ := apply_of_valid valid
    exact ⟨valid, (settle_returns merged).mp ⟨next, same.symm.trans applied⟩⟩
  · rintro ⟨valid, settles⟩
    obtain ⟨requested, merged, same⟩ := apply_of_valid valid
    rw [same]
    exact (settle_returns merged).mpr settles

theorem apply_reordered {events : List (WorldEvent S)} (reordered : world.events.Perm events) :
    (apply { world with events := events } context).returns = (apply world context).returns ∧
      (apply { world with events := events } context).worldAfter =
        { (apply world context).worldAfter with events := events } := by
  have same (entity : EntityId) (duration : Nat) :
      Applies { world with events := events } events entity duration ↔ Applies world world.events entity duration :=
    and_congr_left' reordered.symm.mem_iff
  by_cases invalid : ∃ entity duration, Applies world world.events entity duration ∧
      Invalid context.tickSequence duration
  · obtain ⟨failure, thrown⟩ := apply_of_invalid invalid
    obtain ⟨entity, duration, applies, refused⟩ := invalid
    have again : ∃ failure, apply { world with events := events } context =
        .error ⟨failure, { world with events := events }⟩ :=
      apply_of_invalid ⟨entity, duration, (same entity duration).mpr applies, refused⟩
    obtain ⟨other, again⟩ := again
    rw [thrown, again]
    exact ⟨rfl, rfl⟩
  · have valid : ∀ entity duration, Applies world world.events entity duration →
        ¬ Invalid context.tickSequence duration := fun entity duration applies refused =>
      invalid ⟨entity, duration, applies, refused⟩
    obtain ⟨requested, merged, applied⟩ := apply_of_valid valid
    have again : ∃ requested, Merged { world with events := events } context.tickSequence
        (requestsOf { world with events := events } events) requested ∧
        apply { world with events := events } context =
          settle context.tickSequence requested { world with events := events } :=
      apply_of_valid fun entity duration applies => valid entity duration ((same entity duration).mp applies)
    obtain ⟨other, otherMerged, otherApplied⟩ := again
    have otherMerged : Merged world context.tickSequence (requestsOf { world with events := events } events)
        other := ⟨otherMerged.absent, fun entity window found =>
      ⟨(otherMerged.present entity window found).1, (otherMerged.present entity window found).2.ends,
        (otherMerged.present entity window found).2.kept, (otherMerged.present entity window found).2.starts⟩⟩
    have stores : other = requested := otherMerged.unique
      (fun request => mem_requestsOf.trans ((same request.1 request.2).trans mem_requestsOf.symm)) merged
    rw [otherApplied, applied, stores, settle_withEvents]
    cases settle context.tickSequence requested world with
    | ok next => exact ⟨rfl, rfl⟩
    | error thrown => exact ⟨rfl, rfl⟩

end Apply

end StatusSystem

open StatusSystem in
/-- Stuns merge by the set of their requests, and a request without a window changes nothing. -/
theorem stun_merge_order_independent_and_atomic (world : GameWorld S) (context : TickContext S) :
    (∀ events, world.events.Perm events →
      (apply { world with events := events } context).returns = (apply world context).returns ∧
      (apply { world with events := events } context).worldAfter =
        { (apply world context).worldAfter with events := events }) ∧
    ((∃ entity duration, Applies world world.events entity duration ∧
      Invalid context.tickSequence duration) → ∃ failure, apply world context = .error ⟨failure, world⟩) ∧
    ((∃ next, apply world context = .ok next) ↔
      (∀ entity duration, Applies world world.events entity duration →
        ¬ Invalid context.tickSequence duration) ∧
      StunsFit world context.tickSequence ∧ (∃ zero, Vector2.create (0 : S) 0 = .ok zero) ∧
      ∀ entity, Stunned world context.tickSequence entity → Begun world context.tickSequence entity) ∧
    ∀ next, apply world context = .ok next → ∃ zero : Vector2 S, zero.x = 0 ∧ zero.y = 0 ∧
      StunOutcome world next context.tickSequence zero := by
  refine ⟨fun events => apply_reordered, apply_of_invalid, apply_returns_iff, fun next applied => ?_⟩
  obtain ⟨requested, merged, same⟩ := apply_of_valid (apply_returns_iff.mp ⟨next, applied⟩).1
  obtain ⟨zero, created, outcome⟩ := outcome_of_settle merged (same.symm.trans applied)
  obtain ⟨x, y⟩ := Vector2.createForOperation_eq_ok created
  exact ⟨zero, x, y, outcome⟩

end BlobRoyale.Gameplay
