import BlobRoyale.Motion.Certificates

/-!
# Sound solver states

Cached events never lie before now. What keeps this through a change of motion: a body whose motion
changed is anchored at now until the caches are rebuilt, and a body pressing on a wall has a wall event
tied to now.
-/

namespace BlobRoyale.Simulation

open Passes

variable {S : Type} [Scalar S] {count : Nat}

namespace SolverState

variable {state next : SolverState S count} {index : Fin count}

section Invariant

/-- What a rebuild establishes and only a change of motion disturbs. -/
structure Settled (state : SolverState S count) : Prop where
  revisions : ∀ pair ∈ state.pairs, pair.firstRevision = (state.bodies pair.first).revision ∧
    pair.secondRevision = (state.bodies pair.second).revision
  livePairs : ∀ pair ∈ state.pairs, pair.event ≠ none →
    (state.bodies pair.first).disposition = .continues ∧ (state.bodies pair.second).disposition = .continues
  liveWalls : ∀ place, state.walls place ≠ none → state.folds place.1 = true
  tied : ∀ place : Fin count × MotionAxis, state.folds place.1 = true →
    state.overlapsOutward (state.bodies place.1).subject.2 place.2 →
      ∃ event, state.walls place = some event ∧ event.key.time = state.now

structure Sound (state : SolverState S count) : Prop where
  anchors : ∀ index, (state.bodies index).anchor ≤ state.now
  pairs : ∀ pair ∈ state.pairs, ∀ event, pair.event = some event →
    state.now ≤ event.key.time ∧ state.CertifiesPair pair.first pair.second event
  walls : ∀ place event, state.walls place = some event →
    state.now ≤ event.key.time ∧ state.CertifiesWall place event
  firstMoved : ∀ pair ∈ state.pairs, pair.firstRevision ≠ (state.bodies pair.first).revision →
    (state.bodies pair.first).anchor = state.now
  secondMoved : ∀ pair ∈ state.pairs, pair.secondRevision ≠ (state.bodies pair.second).revision →
    (state.bodies pair.second).anchor = state.now
  outward : ∀ place : Fin count × MotionAxis, state.folds place.1 = true →
    state.overlapsOutward (state.bodies place.1).subject.2 place.2 →
      (state.bodies place.1).anchor = state.now
  settled : state.dirty = false → state.Settled

/-- What a solve keeps of its bodies: identities, static ones in place, terminated ones as they were. -/
structure Descends (before after : SolverState S count) : Prop where
  limits : after.limits = before.limits
  entities : ∀ index, (after.bodies index).subject.1 = (before.bodies index).subject.1
  isStatic : ∀ index, (after.bodies index).subject.2.isStatic = (before.bodies index).subject.2.isStatic
  unmoved : ∀ index, (before.bodies index).subject.2.isStatic = true →
    (after.bodies index).subject.2.position = (before.bodies index).subject.2.position
  terminal : ∀ index, (before.bodies index).disposition = .terminate →
    after.bodies index = before.bodies index
  paths : ∀ path ∈ after.paths, path ∈ before.paths ∨ ∃ index,
    path.entity = (before.bodies index).subject.1 ∧ (before.bodies index).subject.2.isStatic = false

/-- What no operation of one event changes. -/
structure Evolves (before after : SolverState S count) : Prop extends Descends before after where
  now : after.now = before.now
  events : after.events = before.events
  eventCount : after.work.events = before.work.events

end Invariant

section Evolution

variable {before middle after : SolverState S count}

theorem Descends.refl (state : SolverState S count) : state.Descends state :=
  ⟨rfl, fun _ => rfl, fun _ => rfl, fun _ _ => rfl, fun _ _ => rfl, fun _ member => .inl member⟩

theorem Descends.trans (first : before.Descends middle) (second : middle.Descends after) :
    before.Descends after := by
  constructor
  · exact second.limits.trans first.limits
  · exact fun index => (second.entities index).trans (first.entities index)
  · exact fun index => (second.isStatic index).trans (first.isStatic index)
  · intro index static
    exact (second.unmoved index ((first.isStatic index).trans static)).trans (first.unmoved index static)
  · intro index terminated
    have kept := first.terminal index terminated
    exact (second.terminal index (kept ▸ terminated)).trans kept
  · intro path member
    obtain earlier | ⟨index, named, moving⟩ := second.paths path member
    · exact first.paths path earlier
    · exact .inr ⟨index, named.trans (first.entities index), (first.isStatic index).symm.trans moving⟩

theorem Evolves.refl (state : SolverState S count) : state.Evolves state := ⟨.refl state, rfl, rfl, rfl⟩

theorem Evolves.trans (first : before.Evolves middle) (second : middle.Evolves after) :
    before.Evolves after :=
  ⟨first.toDescends.trans second.toDescends, second.now.trans first.now, second.events.trans first.events,
    second.eventCount.trans first.eventCount⟩

theorem CertifiesPair.of_entities {first second : Fin count} {event : MotionGeometryEvent S count}
    (certified : before.CertifiesPair first second event)
    (entities : ∀ index, (after.bodies index).subject.1 = (before.bodies index).subject.1) :
    after.CertifiesPair first second event := by
  refine ⟨certified.first_eq, certified.second_eq, ?_⟩
  rw [entities, entities]
  exact certified.identity

theorem CertifiesWall.of_entities {place : Fin count × MotionAxis} {event : MotionGeometryEvent S count}
    (certified : before.CertifiesWall place event)
    (entities : ∀ index, (after.bodies index).subject.1 = (before.bodies index).subject.1) :
    after.CertifiesWall place event :=
  ⟨certified.first_eq, certified.second_eq, certified.entity.trans (entities _).symm, certified.priority⟩

end Evolution

section Begin

variable {key : MotionEventKey S}

theorem beginEvent_eq_ok (begun : state.beginEvent key = .ok next) :
    state.now ≤ key.time ∧ state.work.events + 1 ≤ state.limits.events ∧ next = { state with
      work := { state.work with events := state.work.events + 1 }
      now := key.time
      events := state.events ++ [key] } := by
  unfold beginEvent at begun
  split at begun
  · cases begun
  · next ahead =>
    obtain ⟨⟨⟩, budget, rest⟩ := bind_eq_ok.mp begun
    cases rest
    unfold requireMotionBudget at budget
    split at budget
    · cases budget
    · next within => exact ⟨le_of_not_gt ahead, Nat.le_of_not_lt within, rfl⟩

theorem Sound.beginEvent (sound : state.Sound) (clean : state.dirty = false)
    (pairs : ∀ pair ∈ state.pairs, ∀ event, pair.event = some event → key ≤ event.key)
    (walls : ∀ place event, state.walls place = some event → key ≤ event.key)
    (begun : state.beginEvent key = .ok next) : next.Sound := by
  obtain ⟨ahead, -, result⟩ := beginEvent_eq_ok begun
  have settled := sound.settled clean
  have still : ∀ place : Fin count × MotionAxis, state.folds place.1 = true →
      state.overlapsOutward (state.bodies place.1).subject.2 place.2 → key.time = state.now := by
    intro place folds overlaps
    obtain ⟨event, cached, tied⟩ := settled.tied place folds overlaps
    have earliest := MotionEventKey.time_le (walls place event cached)
    exact le_antisymm (tied ▸ earliest) ahead
  subst result
  constructor
  · intro index
    exact le_trans (sound.anchors index) ahead
  · intro pair member event cached
    exact ⟨MotionEventKey.time_le (pairs pair member event cached), (sound.pairs pair member event cached).2.of_entities fun _ => rfl⟩
  · intro place event cached
    exact ⟨MotionEventKey.time_le (walls place event cached),
      (sound.walls place event cached).2.of_entities fun _ => rfl⟩
  · intro pair member mismatch
    exact absurd (settled.revisions pair member).1 mismatch
  · intro pair member mismatch
    exact absurd (settled.revisions pair member).2 mismatch
  · intro place folds overlaps
    exact (sound.outward place folds overlaps).trans (still place folds overlaps).symm
  · intro _
    refine ⟨settled.revisions, settled.livePairs, settled.liveWalls, ?_⟩
    intro place folds overlaps
    obtain ⟨event, cached, tied⟩ := settled.tied place folds overlaps
    exact ⟨event, cached, tied.trans (still place folds overlaps).symm⟩

end Begin

section Replace

/-- A body after a replacement: only its place and motion are new. -/
def carried (body : PhysicsBody S) (position velocity acceleration : Vector2 S) : PhysicsBody S :=
  ((body.withPosition position).withVelocity velocity).withAcceleration acceleration

theorem addPath_eq_ok {finish : MotionTime S} (added : state.addPath index finish = .ok next) :
    ∃ paths, next = { state with paths := paths } ∧ ∀ path ∈ paths, path ∈ state.paths ∨
      (path.entity = (state.bodies index).subject.1 ∧ (state.bodies index).subject.2.isStatic = false) := by
  unfold addPath at added
  dsimp only at added
  split at added
  · cases added
    exact ⟨state.paths, rfl, fun path member => .inl member⟩
  · next moves =>
    obtain ⟨_, -, rest⟩ := bind_eq_ok.mp added
    obtain ⟨endpoint, -, rest⟩ := bind_eq_ok.mp rest
    cases rest
    refine ⟨_, rfl, ?_⟩
    intro path member
    obtain earlier | new := List.mem_append.mp member
    · exact .inl earlier
    · rw [List.mem_singleton.mp new]
      rw [Bool.or_eq_true, not_or, Bool.not_eq_true] at moves
      exact .inr ⟨rfl, moves.1⟩

/-- A replacement starts a new epoch, or leaves the motion as it is. -/
inductive Replaces (state : SolverState S count) (index : Fin count) (next : SolverState S count) : Prop
  | changed (position velocity acceleration : Vector2 S) (disposition : MotionDisposition)
      (paths : List (MotionPathSegment S))
      (placed : ∃ current, state.subjectAt index state.now = .ok current ∧ position = current.2.position)
      (added : ∀ path ∈ paths, path ∈ state.paths ∨
        (path.entity = (state.bodies index).subject.1 ∧ (state.bodies index).subject.2.isStatic = false))
      (result : next = { state with
        bodies := Function.update state.bodies index { state.bodies index with
          subject := ((state.bodies index).subject.1,
            carried (state.bodies index).subject.2 position velocity acceleration)
          anchor := state.now
          revision := (state.bodies index).revision + 1
          disposition := disposition }
        paths := paths
        dirty := true })
  | kept (velocity acceleration : Vector2 S)
      (unchanged : (state.bodies index).subject.2.isStatic = false →
        velocity = (state.bodies index).subject.2.velocity)
      (result : next = { state with
        bodies := Function.update state.bodies index { state.bodies index with
          subject := ((state.bodies index).subject.1, carried (state.bodies index).subject.2
            (state.bodies index).subject.2.position velocity acceleration) } })

theorem replace_eq_ok {replacement : MotionBodyResult S} (replaced : state.replace index replacement = .ok next) :
    state.Replaces index next := by
  unfold replace at replaced
  obtain ⟨current, evaluated, rest⟩ := bind_eq_ok.mp replaced
  obtain ⟨-, carriedOver, -⟩ := subjectAt_eq_ok evaluated
  dsimp only at rest
  split at rest
  · next keeps =>
    have body : replacement.body = carried (state.bodies index).subject.2 current.2.position
        replacement.body.velocity replacement.body.acceleration := by
      unfold keepsGeometry at keeps
      rw [← keeps, carriedOver]
      rfl
    split at rest
    · obtain ⟨moved, added, rest⟩ := bind_eq_ok.mp rest
      obtain ⟨paths, same, fresh⟩ := addPath_eq_ok added
      subst same
      cases rest
      refine .changed current.2.position replacement.body.velocity replacement.body.acceleration
        replacement.disposition paths ⟨current, evaluated, rfl⟩ fresh ?_
      rw [← body]
    · next same =>
      cases rest
      refine .kept replacement.body.velocity replacement.body.acceleration ?_ rfl
      intro moving
      rw [Bool.or_eq_true, not_or, Bool.and_eq_true, not_and, decide_eq_true_eq, decide_eq_true_eq,
        not_not] at same
      have velocity : current.2.velocity = (state.bodies index).subject.2.velocity := by
        rw [carriedOver]
        rfl
      have static : current.2.isStatic = (state.bodies index).subject.2.isStatic := by
        rw [carriedOver]
        rfl
      rw [← velocity]
      exact (same.1 (by rw [static, moving]; rfl)).symm
  · cases rest

theorem Replaces.evolves (replaces : state.Replaces index next)
    (live : (state.bodies index).disposition = .continues) : state.Evolves next := by
  have apart : ∀ other, (state.bodies other).disposition = .terminate → other ≠ index := by
    intro other terminated same
    rw [same, live] at terminated
    cases terminated
  cases replaces with
  | changed position velocity acceleration disposition paths placed added result =>
    subst result
    refine ⟨⟨rfl, ?_, ?_, ?_, ?_, ?_⟩, rfl, rfl, rfl⟩
    · intro other
      by_cases same : other = index
      · subst same
        simp only [Function.update_self]
      · simp only [Function.update_of_ne same]
    · intro other
      by_cases same : other = index
      · subst same
        simp only [Function.update_self]
        rfl
      · simp only [Function.update_of_ne same]
    · intro other static
      by_cases same : other = index
      · subst same
        simp only [Function.update_self]
        obtain ⟨current, evaluated, position⟩ := placed
        rw [(subjectAt_eq_ok evaluated).2.2 static] at position
        exact position
      · simp only [Function.update_of_ne same]
    · intro other terminated
      exact Function.update_of_ne (apart other terminated) ..
    · intro path member
      obtain earlier | ⟨named, moving⟩ := added path member
      · exact .inl earlier
      · exact .inr ⟨index, named, moving⟩
  | kept velocity acceleration unchanged result =>
    subst result
    refine ⟨⟨rfl, ?_, ?_, ?_, ?_, fun path member => .inl member⟩, rfl, rfl, rfl⟩
    · intro other
      by_cases same : other = index
      · subst same
        simp only [Function.update_self]
      · simp only [Function.update_of_ne same]
    · intro other
      by_cases same : other = index
      · subst same
        simp only [Function.update_self]
        rfl
      · simp only [Function.update_of_ne same]
    · intro other static
      by_cases same : other = index
      · subst same
        simp only [Function.update_self]
        rfl
      · simp only [Function.update_of_ne same]
    · intro other terminated
      exact Function.update_of_ne (apart other terminated) ..

theorem Replaces.other (replaces : state.Replaces index next) {other : Fin count} (different : other ≠ index) :
    next.bodies other = state.bodies other := by
  cases replaces with
  | changed _ _ _ _ _ _ _ result =>
    subst result
    exact Function.update_of_ne different ..
  | kept _ _ _ result =>
    subst result
    exact Function.update_of_ne different ..

theorem folds_moves (folds : state.folds index = true) : (state.bodies index).subject.2.isStatic = false := by
  cases static : (state.bodies index).subject.2.isStatic with
  | false => rfl
  | true =>
    unfold SolverState.folds at folds
    simp [static] at folds

theorem Replaces.sound (replaces : state.Replaces index next) (sound : state.Sound)
    (live : (state.bodies index).disposition = .continues) : next.Sound := by
  have entities := (replaces.evolves live).entities
  cases replaces with
  | changed position velocity acceleration disposition paths placed added result =>
    subst result
    constructor
    · intro other
      by_cases same : other = index
      · subst same
        simp only [Function.update_self]
        exact le_refl _
      · simp only [Function.update_of_ne same]
        exact sound.anchors other
    · intro pair member event cached
      obtain ⟨ahead, certified⟩ := sound.pairs pair member event cached
      exact ⟨ahead, certified.of_entities entities⟩
    · intro place event cached
      obtain ⟨ahead, certified⟩ := sound.walls place event cached
      exact ⟨ahead, certified.of_entities entities⟩
    · intro pair member
      by_cases same : pair.first = index
      · simp only [same, Function.update_self, implies_true]
      · simp only [Function.update_of_ne same]
        exact sound.firstMoved pair member
    · intro pair member
      by_cases same : pair.second = index
      · simp only [same, Function.update_self, implies_true]
      · simp only [Function.update_of_ne same]
        exact sound.secondMoved pair member
    · intro place
      by_cases same : place.1 = index
      · simp only [same, Function.update_self, implies_true]
      · simp only [folds, Function.update_of_ne same]
        exact sound.outward place
    · intro clean
      cases clean
  | kept velocity acceleration unchanged result =>
    have bodies : ∀ other, ∃ body, next.bodies other =
        { state.bodies other with subject := ((state.bodies other).subject.1, body) } ∧
        body.isStatic = (state.bodies other).subject.2.isStatic ∧
        body.crossesBounds = (state.bodies other).subject.2.crossesBounds ∧
        (body.isStatic = false → ∀ axis, next.overlapsOutward body axis ↔
          state.overlapsOutward (state.bodies other).subject.2 axis) := by
      intro other
      subst result
      by_cases same : other = index
      · subst same
        simp only [Function.update_self]
        refine ⟨_, rfl, rfl, rfl, ?_⟩
        intro moving axis
        rw [unchanged moving]
        rfl
      · simp only [Function.update_of_ne same]
        exact ⟨(state.bodies other).subject.2, rfl, rfl, rfl, fun _ _ => Iff.rfl⟩
    have folding : ∀ other, next.folds other = state.folds other := by
      intro other
      obtain ⟨body, updated, static, crosses, -⟩ := bodies other
      simp only [folds, updated, static, crosses]
    have pressing : ∀ place : Fin count × MotionAxis, state.folds place.1 = true →
        next.overlapsOutward (next.bodies place.1).subject.2 place.2 →
          state.overlapsOutward (state.bodies place.1).subject.2 place.2 := by
      intro place folds overlaps
      obtain ⟨body, updated, static, -, same⟩ := bodies place.1
      rw [updated] at overlaps
      exact (same (static.trans (folds_moves folds)) place.2).mp overlaps
    have anchors : ∀ other, (next.bodies other).anchor = (state.bodies other).anchor := by
      intro other
      obtain ⟨body, updated, -⟩ := bodies other
      rw [updated]
    have revisions : ∀ other, (next.bodies other).revision = (state.bodies other).revision := by
      intro other
      obtain ⟨body, updated, -⟩ := bodies other
      rw [updated]
    have dispositions : ∀ other, (next.bodies other).disposition = (state.bodies other).disposition := by
      intro other
      obtain ⟨body, updated, -⟩ := bodies other
      rw [updated]
    have now : next.now = state.now := by rw [result]
    have pairs : next.pairs = state.pairs := by rw [result]
    have walls : next.walls = state.walls := by rw [result]
    have dirty : next.dirty = state.dirty := by rw [result]
    constructor
    · intro other
      rw [anchors, now]
      exact sound.anchors other
    · rw [pairs, now]
      intro pair member event cached
      obtain ⟨ahead, certified⟩ := sound.pairs pair member event cached
      exact ⟨ahead, certified.of_entities entities⟩
    · rw [walls, now]
      intro place event cached
      obtain ⟨ahead, certified⟩ := sound.walls place event cached
      exact ⟨ahead, certified.of_entities entities⟩
    · rw [pairs, now]
      intro pair member
      rw [revisions, anchors]
      exact sound.firstMoved pair member
    · rw [pairs, now]
      intro pair member
      rw [revisions, anchors]
      exact sound.secondMoved pair member
    · intro place folds overlaps
      rw [folding] at folds
      rw [anchors, now]
      exact sound.outward place folds (pressing place folds overlaps)
    · rw [dirty]
      intro clean
      have settled := sound.settled clean
      constructor
      · rw [pairs]
        intro pair member
        rw [revisions, revisions]
        exact settled.revisions pair member
      · rw [pairs]
        intro pair member
        rw [dispositions, dispositions]
        exact settled.livePairs pair member
      · rw [walls]
        intro place cached
        rw [folding]
        exact settled.liveWalls place cached
      · rw [walls, now]
        intro place folds overlaps
        rw [folding] at folds
        exact settled.tied place folds (pressing place folds overlaps)

end Replace

end SolverState

end BlobRoyale.Simulation
