import BlobRoyale.Motion.PairReach
import BlobRoyale.Motion.SolverMoves

/-!
# Cached contacts stay within reach

A cached contact that is tied to now, or whose bodies have not changed their motion since, is within
reach. Every move of the solver keeps this, the layout of the pairs and the revisions it rests on.
-/

namespace BlobRoyale.Simulation

open Passes

namespace SolverState

variable {count : Nat} {state next : SolverState ℝ count} {index : Fin count}

/-- What the refinement of the broad phase rests on in every state of a solve. -/
structure Tracked (state : SolverState ℝ count) : Prop where
  laid : state.Laid
  anchors : ∀ index, (state.bodies index).anchor ≤ state.now
  settled : state.dirty = false → ∀ pair ∈ state.pairs,
    pair.firstRevision = (state.bodies pair.first).revision ∧
      pair.secondRevision = (state.bodies pair.second).revision
  revised : ∀ pair ∈ state.pairs, pair.event ≠ none →
    pair.firstRevision ≤ (state.bodies pair.first).revision ∧
      pair.secondRevision ≤ (state.bodies pair.second).revision
  firstMoved : ∀ pair ∈ state.pairs, pair.firstRevision ≠ (state.bodies pair.first).revision →
    (state.bodies pair.first).anchor = state.now
  secondMoved : ∀ pair ∈ state.pairs, pair.secondRevision ≠ (state.bodies pair.second).revision →
    (state.bodies pair.second).anchor = state.now
  reaches : ∀ pair ∈ state.pairs, ∀ event, pair.event = some event →
    (event.key.time = state.now ∨ (pair.firstRevision = (state.bodies pair.first).revision ∧
      pair.secondRevision = (state.bodies pair.second).revision)) →
    state.Reaches pair.first pair.second event.key.time

section Replace

/-- A replacement in exact arithmetic: a new epoch from where the body is now, or the same motion. -/
structure Reepoch (state next : SolverState ℝ count) (index : Fin count) : Prop where
  now : next.now = state.now
  pairs : next.pairs = state.pairs
  others : ∀ other, other ≠ index → next.bodies other = state.bodies other
  radius : next.radius = state.radius
  bodyRadius : (next.bodies index).subject.2.radius = (state.bodies index).subject.2.radius
  place : ∀ axis, (next.bodies index).placeAt axis state.now = (state.bodies index).placeAt axis state.now
  epoch : ((next.bodies index).anchor = state.now ∧
      (next.bodies index).revision = (state.bodies index).revision + 1 ∧ next.dirty = true) ∨
    ((next.bodies index).anchor = (state.bodies index).anchor ∧
      (next.bodies index).revision = (state.bodies index).revision ∧ next.dirty = state.dirty ∧
        ∀ axis time, (next.bodies index).placeAt axis time = (state.bodies index).placeAt axis time)

theorem Replaces.reepoch (replaces : state.Replaces index next)
    (live : (state.bodies index).disposition = .continues) : state.Reepoch next index := by
  have others : ∀ other, other ≠ index → next.bodies other = state.bodies other :=
    fun other different => replaces.other different
  cases replaces with
  | changed position velocity acceleration disposition paths placed added result =>
    obtain ⟨current, evaluated, same⟩ := placed
    obtain ⟨-, place⟩ := subjectAt_place live evaluated
    subst result
    have body := Function.update_self index ({ state.bodies index with
      subject := ((state.bodies index).subject.1,
        carried (state.bodies index).subject.2 position velocity acceleration)
      anchor := state.now
      revision := (state.bodies index).revision + 1
      disposition := disposition } : EpochBody ℝ) state.bodies
    refine ⟨rfl, rfl, others, rfl, ?_, ?_, .inl ⟨?_, ?_, rfl⟩⟩
    · dsimp only
      rw [body]
      rfl
    · intro axis
      dsimp only
      rw [body, ← place axis, ← same]
      exact EpochBody.placeAt_anchor _ axis
    · dsimp only
      rw [body]
    · dsimp only
      rw [body]
  | kept velocity acceleration unchanged result =>
    subst result
    have body := Function.update_self index ({ state.bodies index with
      subject := ((state.bodies index).subject.1, carried (state.bodies index).subject.2
        (state.bodies index).subject.2.position velocity acceleration) } : EpochBody ℝ) state.bodies
    have motion : ∀ axis time, ({ state.bodies index with
        subject := ((state.bodies index).subject.1, carried (state.bodies index).subject.2
          (state.bodies index).subject.2.position velocity acceleration) } : EpochBody ℝ).placeAt axis time =
        (state.bodies index).placeAt axis time := by
      intro axis time
      unfold EpochBody.placeAt EpochBody.travel
      cases static : (state.bodies index).subject.2.isStatic with
      | true =>
        have carriedStatic : (carried (state.bodies index).subject.2 (state.bodies index).subject.2.position
            velocity acceleration).isStatic = true := static
        rw [carriedStatic]
        rfl
      | false =>
        rw [unchanged static]
        have carriedStatic : (carried (state.bodies index).subject.2 (state.bodies index).subject.2.position
            (state.bodies index).subject.2.velocity acceleration).isStatic = false := static
        rw [carriedStatic]
        rfl
    refine ⟨rfl, rfl, others, rfl, ?_, ?_, .inr ⟨?_, ?_, rfl, ?_⟩⟩
    · dsimp only
      rw [body]
      rfl
    · intro axis
      dsimp only
      rw [body]
      exact motion axis state.now
    · dsimp only
      rw [body]
    · dsimp only
      rw [body]
    · intro axis time
      dsimp only
      rw [body]
      exact motion axis time

theorem Reepoch.reach (reepoch : state.Reepoch next index) (other : Fin count) :
    next.reach other = state.reach other := by
  unfold SolverState.reach effectiveRadius
  by_cases same : other = index
  · subst same
    rw [reepoch.radius, reepoch.bodyRadius]
  · rw [reepoch.others other same, reepoch.radius]

theorem Reepoch.body (reepoch : state.Reepoch next index) {other : Fin count} {time : MotionTime ℝ} {revision : Nat}
    (revised : revision ≤ (state.bodies other).revision)
    (tied : time = state.now ∨ revision = (next.bodies other).revision) :
    (time = state.now ∨ revision = (state.bodies other).revision) ∧
      ((state.bodies other).anchor ≤ time → (next.bodies other).anchor ≤ time) ∧
      ∀ axis, (next.bodies other).placeAt axis time = (state.bodies other).placeAt axis time := by
  by_cases same : other = index
  · subst same
    obtain ⟨anchor, later, -⟩ | ⟨anchor, kept, -, places⟩ := reepoch.epoch
    · obtain tied | matched := tied
      · subst tied
        exact ⟨.inl rfl, fun _ => le_of_eq anchor, reepoch.place⟩
      · omega
    · rw [anchor, ← kept]
      exact ⟨tied, id, fun axis => places axis time⟩
  · rw [reepoch.others other same] at tied ⊢
    exact ⟨tied, id, fun _ => rfl⟩

theorem Tracked.reepoch (tracked : state.Tracked) (reepoch : state.Reepoch next index) : next.Tracked := by
  have revisions : ∀ other, (state.bodies other).revision ≤ (next.bodies other).revision := by
    intro other
    by_cases same : other = index
    · subst same
      obtain ⟨-, later, -⟩ | ⟨-, kept, -⟩ := reepoch.epoch <;> omega
    · rw [reepoch.others other same]
  have moved : ∀ other revision, (revision ≠ (state.bodies other).revision →
      (state.bodies other).anchor = state.now) → revision ≠ (next.bodies other).revision →
        (next.bodies other).anchor = state.now := by
    intro other revision before mismatch
    by_cases same : other = index
    · subst same
      obtain ⟨anchor, -⟩ | ⟨anchor, kept, -⟩ := reepoch.epoch
      · exact anchor
      · rw [kept] at mismatch
        exact anchor.trans (before mismatch)
    · rw [reepoch.others other same] at mismatch ⊢
      exact before mismatch
  constructor
  · unfold Laid
    rw [reepoch.pairs]
    exact tracked.laid
  · intro other
    rw [reepoch.now]
    by_cases same : other = index
    · subst same
      obtain ⟨anchor, -⟩ | ⟨anchor, -⟩ := reepoch.epoch
      · exact le_of_eq anchor
      · exact anchor ▸ tracked.anchors other
    · rw [reepoch.others other same]
      exact tracked.anchors other
  · intro clean pair member
    obtain ⟨-, -, dirty⟩ | ⟨-, kept, same, -⟩ := reepoch.epoch
    · rw [dirty] at clean
      cases clean
    · have unchanged : ∀ other, (next.bodies other).revision = (state.bodies other).revision := by
        intro other
        by_cases same : other = index
        · exact same ▸ kept
        · rw [reepoch.others other same]
      rw [reepoch.pairs] at member
      rw [unchanged, unchanged]
      exact tracked.settled (same ▸ clean) pair member
  · rw [reepoch.pairs]
    intro pair member cached
    obtain ⟨first, second⟩ := tracked.revised pair member cached
    exact ⟨first.trans (revisions _), second.trans (revisions _)⟩
  · rw [reepoch.pairs, reepoch.now]
    intro pair member
    exact moved pair.first pair.firstRevision (tracked.firstMoved pair member)
  · rw [reepoch.pairs, reepoch.now]
    intro pair member
    exact moved pair.second pair.secondRevision (tracked.secondMoved pair member)
  · rw [reepoch.pairs, reepoch.now]
    intro pair member event cached tied
    obtain ⟨firstRevised, secondRevised⟩ := tracked.revised pair member (by rw [cached]; exact Option.some_ne_none _)
    obtain ⟨firstTied, firstEpoch, firstPlace⟩ := reepoch.body firstRevised (tied.imp id And.left)
    obtain ⟨secondTied, secondEpoch, secondPlace⟩ := reepoch.body secondRevised (tied.imp id And.right)
    have before : state.Reaches pair.first pair.second event.key.time := by
      refine tracked.reaches pair member event cached ?_
      obtain now | first := firstTied
      · exact .inl now
      · exact secondTied.imp id fun second => ⟨first, second⟩
    refine ⟨firstEpoch before.firstEpoch, secondEpoch before.secondEpoch, ?_⟩
    intro axis
    rw [firstPlace, secondPlace, reepoch.reach, reepoch.reach]
    exact before.near axis

end Replace

section Moves

variable {circle : CircleSweepQuery ℝ} {queries : SolverQueries ℝ count}

theorem Reaches.of_bodies {first second : Fin count} {time : MotionTime ℝ} (reaches : state.Reaches first second time)
    (bodies : next.bodies = state.bodies) (radius : next.radius = state.radius) :
    next.Reaches first second time := by
  obtain ⟨firstEpoch, secondEpoch, near⟩ := reaches
  refine ⟨by rw [bodies]; exact firstEpoch, by rw [bodies]; exact secondEpoch, ?_⟩
  unfold SolverState.reach at near ⊢
  rw [bodies, radius]
  exact near

theorem Tracked.begun {key : MotionEventKey ℝ} (tracked : state.Tracked) (clean : state.dirty = false)
    (begins : state.beginEvent key = .ok next) : next.Tracked := by
  obtain ⟨ahead, -, result⟩ := beginEvent_eq_ok begins
  have settled := tracked.settled clean
  subst result
  constructor
  · exact tracked.laid
  · exact fun index => (tracked.anchors index).trans ahead
  · exact fun _ => settled
  · exact tracked.revised
  · exact fun pair member mismatch => absurd (settled pair member).1 mismatch
  · exact fun pair member mismatch => absurd (settled pair member).2 mismatch
  · intro pair member event cached _
    exact (tracked.reaches pair member event cached (.inr (settled pair member))).of_bodies rfl rfl

theorem Tracked.marked (tracked : state.Tracked) {work : MotionWorkCounts} {pairs : List (PairCache ℝ count)}
    {walls : Fin count × MotionAxis → Option (MotionGeometryEvent ℝ count)}
    (marks : List.Forall₂ (fun before after => after = { before with candidate := after.candidate })
      state.pairs pairs) :
    ({ state with work := work, pairs := pairs, walls := walls, dirty := true } : SolverState ℝ count).Tracked := by
  constructor
  · refine tracked.laid.of_named (marks.imp ?_)
    intro before after same
    rw [same]
    rfl
  · exact tracked.anchors
  · intro clean
    cases clean
  · intro pair member
    obtain ⟨before, inside, same⟩ := exists_of_forall₂ marks member
    rw [same]
    exact tracked.revised before inside
  · intro pair member
    obtain ⟨before, inside, same⟩ := exists_of_forall₂ marks member
    rw [same]
    exact tracked.firstMoved before inside
  · intro pair member
    obtain ⟨before, inside, same⟩ := exists_of_forall₂ marks member
    rw [same]
    exact tracked.secondMoved before inside
  · intro pair member event
    obtain ⟨before, inside, same⟩ := exists_of_forall₂ marks member
    rw [same]
    intro cached tied
    exact (tracked.reaches before inside event cached tied).of_bodies rfl rfl

theorem Tracked.worked (tracked : state.Tracked) (work : MotionWorkCounts) :
    ({ state with work := work } : SolverState ℝ count).Tracked :=
  ⟨tracked.laid, tracked.anchors, tracked.settled, tracked.revised, tracked.firstMoved, tracked.secondMoved,
    fun pair member event cached tied => (tracked.reaches pair member event cached tied).of_bodies rfl rfl⟩

theorem suppressPair_named (event : MotionGeometryEvent ℝ count) (secondIndex : Fin count) :
    List.Forall₂ (fun before after => PairCache.named after = PairCache.named before) state.pairs
      (state.suppressPair event secondIndex).pairs := by
  unfold suppressPair
  rw [List.forall₂_iff_get]
  refine ⟨(List.length_modify ..).symm, ?_⟩
  intro position _ _
  simp only [List.get_eq_getElem, List.getElem_modify]
  split <;> rfl

theorem Tracked.suppressed (tracked : state.Tracked) (event : MotionGeometryEvent ℝ count) (secondIndex : Fin count) :
    (state.suppressPair event secondIndex).Tracked := by
  have before : ∀ pair ∈ (state.suppressPair event secondIndex).pairs, ∃ former ∈ state.pairs,
      pair.first = former.first ∧ pair.second = former.second ∧ pair.firstRevision = former.firstRevision ∧
        pair.secondRevision = former.secondRevision ∧ (pair.event = none ∨ pair.event = former.event) :=
    fun pair member => mem_suppressPair member
  constructor
  · exact tracked.laid.of_named (suppressPair_named event secondIndex)
  · exact tracked.anchors
  · intro clean pair member
    obtain ⟨former, inside, first, second, firstRevision, secondRevision, -⟩ := before pair member
    rw [first, second, firstRevision, secondRevision]
    exact tracked.settled clean former inside
  · intro pair member cached
    obtain ⟨former, inside, first, second, firstRevision, secondRevision, dropped | kept⟩ := before pair member
    · exact absurd dropped cached
    · rw [first, second, firstRevision, secondRevision]
      exact tracked.revised former inside (kept ▸ cached)
  · intro pair member
    obtain ⟨former, inside, first, -, firstRevision, -⟩ := before pair member
    rw [first, firstRevision]
    exact tracked.firstMoved former inside
  · intro pair member
    obtain ⟨former, inside, -, second, -, secondRevision, -⟩ := before pair member
    rw [second, secondRevision]
    exact tracked.secondMoved former inside
  · intro pair member cachedEvent cached
    obtain ⟨former, inside, first, second, firstRevision, secondRevision, dropped | kept⟩ := before pair member
    · rw [dropped] at cached
      cases cached
    · rw [first, second, firstRevision, secondRevision]
      intro tied
      exact (tracked.reaches former inside cachedEvent (kept ▸ cached) tied).of_bodies rfl rfl

theorem refreshedEvent_reaches (exactly : ExactCircleQuery circle) (tracked : state.Tracked)
    {pair : PairCache ℝ count} (member : pair ∈ state.pairs) {work charged : MotionWorkCounts}
    {event : MotionGeometryEvent ℝ count}
    (refreshes : state.refreshedEvent circle work pair = .ok (charged, some event)) :
    state.Reaches pair.first pair.second event.key.time := by
  unfold refreshedEvent at refreshes
  dsimp only at refreshes
  split at refreshes
  · cases refreshes
  · next open' =>
    rw [Bool.or_eq_true, not_or, Bool.not_eq_true, Bool.not_eq_false', Bool.and_eq_true, decide_eq_true_eq,
      decide_eq_true_eq] at open'
    obtain ⟨firstLive, secondLive⟩ := open'.1
    split at refreshes
    · next tied =>
      rw [Except.ok.injEq, Prod.mk.injEq] at refreshes
      have cached := refreshes.2
      unfold tiedAt at tied
      rw [cached, Option.any_some, decide_eq_true_eq] at tied
      exact tracked.reaches pair member event cached (.inl tied)
    · split at refreshes
      · cases refreshes
      · split at refreshes
        · exact pairEvent_reaches exactly firstLive secondLive refreshes
        · next matched =>
          rw [Except.ok.injEq, Prod.mk.injEq] at refreshes
          simp only [Bool.or_eq_true, decide_eq_true_eq, not_or, not_not] at matched
          exact tracked.reaches pair member event refreshes.2 (.inr matched)

theorem Tracked.refreshCaches (exactly : ExactCircleQuery circle) (tracked : state.Tracked)
    (refreshes : state.refreshCaches circle = .ok next) : next.Tracked := by
  obtain ⟨⟨spent, pairs⟩, threaded, rest⟩ := bind_eq_ok.mp refreshes
  obtain ⟨⟨left, walls⟩, -, rest⟩ := bind_eq_ok.mp rest
  cases rest
  obtain ⟨-, refreshed⟩ := threadM_forall₂ (P := fun _ => True)
    (R := fun before after => PairCache.named after = PairCache.named before ∧
      after.firstRevision = (state.bodies before.first).revision ∧
      after.secondRevision = (state.bodies before.second).revision ∧
      ∀ event, after.event = some event → state.Reaches before.first before.second event.key.time)
    (fun before pair after answer member _ visited => by
      obtain ⟨⟨charged, event⟩, found, rest⟩ := bind_eq_ok.mp visited
      cases rest
      refine ⟨trivial, rfl, rfl, rfl, ?_⟩
      intro cachedEvent cached
      dsimp only at cached
      rw [cached] at found
      exact refreshedEvent_reaches exactly tracked member found) trivial threaded
  have matched : ∀ pair ∈ pairs, pair.firstRevision = (state.bodies pair.first).revision ∧
      pair.secondRevision = (state.bodies pair.second).revision := by
    intro pair member
    obtain ⟨before, -, named, first, second, -⟩ := exists_of_forall₂ refreshed member
    obtain ⟨sameFirst, sameSecond⟩ := Prod.mk.inj named
    rw [sameFirst, sameSecond]
    exact ⟨first, second⟩
  constructor
  · exact tracked.laid.of_named (refreshed.imp fun _ _ one => one.1)
  · exact tracked.anchors
  · exact fun _ => matched
  · intro pair member _
    exact ⟨le_of_eq (matched pair member).1, le_of_eq (matched pair member).2⟩
  · exact fun pair member mismatch => absurd (matched pair member).1 mismatch
  · exact fun pair member mismatch => absurd (matched pair member).2 mismatch
  · intro pair member event cached _
    obtain ⟨before, -, named, -, -, reaches⟩ := exists_of_forall₂ refreshed member
    obtain ⟨sameFirst, sameSecond⟩ := Prod.mk.inj named
    rw [sameFirst, sameSecond]
    exact (reaches event cached).of_bodies rfl rfl

theorem Tracked.rebuild {broadPhase : BroadPhase ℝ count} (exactly : ExactCircleQuery circle)
    (marksOnly : MarksOnly broadPhase) (tracked : state.Tracked)
    (rebuilt : state.rebuild circle broadPhase = .ok next) : next.Tracked := by
  unfold SolverState.rebuild at rebuilt
  split at rebuilt
  · cases rebuilt
    exact tracked
  · next dirty =>
    rw [Bool.not_eq_true', Bool.not_eq_false] at dirty
    obtain ⟨marked, marks, refreshes⟩ := bind_eq_ok.mp rebuilt
    obtain ⟨work, pairs, same, -, related⟩ := marksOnly _ _ marks
    subst same
    have held : ({ state with work := work, pairs := pairs, walls := state.walls, dirty := true } :
        SolverState ℝ count).Tracked := tracked.marked related
    rw [← dirty] at held
    exact held.refreshCaches exactly refreshes

theorem Tracked.move (exactly : ExactCircleQuery queries.circle) (marksOnly : MarksOnly queries.broadPhase)
    (tracked : state.Tracked) (move : SolverMove queries state next) : next.Tracked := by
  cases move with
  | worked work => exact tracked.worked work
  | begun key next clean begins => exact tracked.begun clean begins
  | replaced index replacement next live replaces =>
    exact tracked.reepoch ((replace_eq_ok replaces).reepoch live)
  | consumed place => exact tracked.marked (List.forall₂_same.mpr fun _ _ => rfl)
  | suppressed event secondIndex => exact tracked.suppressed event secondIndex
  | rebuilt next rebuilds => exact tracked.rebuild exactly marksOnly rebuilds

end Moves

end SolverState

end BlobRoyale.Simulation
