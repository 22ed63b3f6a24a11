import BlobRoyale.Motion.SolverSoundness

/-!
# Rebuilds and walls keep a solver sound

A rebuild settles a sound state whatever pairs its broad phase marks; reflecting a wall and suppressing
a processed pair keep it sound.
-/

namespace BlobRoyale.Simulation

open Passes

variable {S : Type} [Scalar S] {count : Nat}

/-- A broad phase that only marks candidates and counts its work. -/
def MarksOnly (broadPhase : BroadPhase S count) : Prop :=
  ∀ state marked, broadPhase state = .ok marked → ∃ work pairs,
    marked = { state with work := work, pairs := pairs } ∧ work.events = state.work.events ∧
      List.Forall₂ (fun before after => after = { before with candidate := after.candidate })
        state.pairs pairs

namespace SolverState

variable {state next : SolverState S count}

theorem exists_of_forall₂ {A B : Type} {R : A → B → Prop} {before : List A} {after : List B}
    (related : List.Forall₂ R before after) {answer : B} (member : answer ∈ after) :
    ∃ entry ∈ before, R entry answer := by
  induction related with
  | nil => cases member
  | cons first _ ih =>
    obtain same | later := List.mem_cons.mp member
    · subst same
      exact ⟨_, List.mem_cons_self, first⟩
    · obtain ⟨entry, inside, holds⟩ := ih later
      exact ⟨entry, List.mem_cons_of_mem _ inside, holds⟩

section BroadPhase

theorem Sweep.markCandidate_eq_ok {sweep marked : Sweep S count} {limits : MotionLimits}
    {first second : Fin count} (marks : sweep.markCandidate limits first second = .ok marked) :
    marked.pairs = sweep.pairs.modify (pairIndex first second) fun pair => { pair with candidate := true } := by
  obtain ⟨_, -, rest⟩ := bind_eq_ok.mp marks
  cases rest
  rfl

theorem modify_candidates (pairs : List (PairCache S count)) (place : Nat) :
    List.Forall₂ (fun before after => after = { before with candidate := after.candidate }) pairs
      (pairs.modify place fun pair => { pair with candidate := true }) := by
  rw [List.forall₂_iff_get]
  refine ⟨(List.length_modify ..).symm, ?_⟩
  intro position _ _
  simp only [List.get_eq_getElem, List.getElem_modify]
  split <;> rfl

theorem candidates_trans {first second third : List (PairCache S count)}
    (before : List.Forall₂ (fun before after => after = { before with candidate := after.candidate })
      first second)
    (after : List.Forall₂ (fun before after => after = { before with candidate := after.candidate })
      second third) :
    List.Forall₂ (fun before after => after = { before with candidate := after.candidate }) first third := by
  induction before generalizing third with
  | nil =>
    cases after
    exact .nil
  | cons same _ ih =>
    cases after with
    | cons next rest =>
      refine .cons ?_ (ih rest)
      rw [next, same]

theorem sweepRow_candidates {first : SweptAabb S count} {boxes : List (SweptAabb S count)}
    {sweep swept : Sweep S count} (sweeps : state.sweepRow first boxes sweep = .ok swept) :
    List.Forall₂ (fun before after => after = { before with candidate := after.candidate }) sweep.pairs
      swept.pairs := by
  induction boxes generalizing sweep with
  | nil =>
    cases sweeps
    exact List.forall₂_same.mpr fun _ _ => rfl
  | cons second rest ih =>
    rw [sweepRow] at sweeps
    obtain ⟨_, -, sweeps⟩ := bind_eq_ok.mp sweeps
    dsimp only at sweeps
    split at sweeps
    · cases sweeps
      exact List.forall₂_same.mpr fun _ _ => rfl
    · split at sweeps
      · obtain ⟨marked, marks, sweeps⟩ := bind_eq_ok.mp sweeps
        have modified := modify_candidates sweep.pairs (pairIndex first.body second.body)
        rw [← Sweep.markCandidate_eq_ok marks] at modified
        exact candidates_trans modified (ih sweeps)
      · have later := ih sweeps
        exact later

theorem sweepRows_candidates {boxes : List (SweptAabb S count)} {sweep swept : Sweep S count}
    (sweeps : state.sweepRows boxes sweep = .ok swept) :
    List.Forall₂ (fun before after => after = { before with candidate := after.candidate }) sweep.pairs
      swept.pairs := by
  induction boxes generalizing sweep with
  | nil =>
    cases sweeps
    exact List.forall₂_same.mpr fun _ _ => rfl
  | cons first rest ih =>
    rw [sweepRows] at sweeps
    obtain ⟨row, rows, sweeps⟩ := bind_eq_ok.mp sweeps
    exact candidates_trans (sweepRow_candidates rows) (ih sweeps)

theorem sweepAndPrune_marksOnly : MarksOnly (sweepAndPrune : BroadPhase S count) := by
  intro state marked marks
  obtain ⟨boxes, -, rest⟩ := bind_eq_ok.mp marks
  obtain ⟨sweep, sweeps, rest⟩ := bind_eq_ok.mp rest
  cases rest
  refine ⟨_, _, rfl, rfl, candidates_trans ?_ (sweepRows_candidates sweeps)⟩
  rw [List.forall₂_map_right_iff]
  exact List.forall₂_same.mpr fun _ _ => rfl

end BroadPhase

variable [UnitInterval S]

section Rebuild

variable {circleQuery : CircleSweepQuery S} {broadPhase : BroadPhase S count}

omit [UnitInterval S] in
theorem Sound.marked {work : MotionWorkCounts} {pairs : List (PairCache S count)} (sound : state.Sound)
    (marks : List.Forall₂ (fun before after => after = { before with candidate := after.candidate })
      state.pairs pairs) :
    let marked : SolverState S count := { state with work := work, pairs := pairs, dirty := true }
    marked.Sound := by
  intro marked
  constructor
  · exact sound.anchors
  · intro pair member event cached
    obtain ⟨before, inside, same⟩ := exists_of_forall₂ marks member
    rw [same] at cached ⊢
    obtain ⟨ahead, certified⟩ := sound.pairs before inside event cached
    exact ⟨ahead, certified.of_entities fun _ => rfl⟩
  · intro place event cached
    obtain ⟨ahead, certified⟩ := sound.walls place event cached
    exact ⟨ahead, certified.of_entities fun _ => rfl⟩
  · intro pair member
    obtain ⟨before, inside, same⟩ := exists_of_forall₂ marks member
    rw [same]
    exact sound.firstMoved before inside
  · intro pair member
    obtain ⟨before, inside, same⟩ := exists_of_forall₂ marks member
    rw [same]
    exact sound.secondMoved before inside
  · exact sound.outward
  · intro clean
    cases clean

/-- What a refreshed pair holds. -/
structure RefreshedPair (state : SolverState S count) (before after : PairCache S count) : Prop where
  first : after.first = before.first
  second : after.second = before.second
  firstRevision : after.firstRevision = (state.bodies before.first).revision
  secondRevision : after.secondRevision = (state.bodies before.second).revision
  event : ∀ event, after.event = some event →
    (state.now ≤ event.key.time ∧ state.CertifiesPair before.first before.second event) ∧
      (state.bodies before.first).disposition = .continues ∧
      (state.bodies before.second).disposition = .continues

theorem refreshedEvent_spec {pair : PairCache S count} {work charged : MotionWorkCounts}
    {refreshed : Option (MotionGeometryEvent S count)} (sound : state.Sound) (member : pair ∈ state.pairs)
    (refreshes : state.refreshedEvent circleQuery work pair = .ok (charged, refreshed)) :
    charged.events = work.events ∧ ∀ event, refreshed = some event →
      (state.now ≤ event.key.time ∧ state.CertifiesPair pair.first pair.second event) ∧
        (state.bodies pair.first).disposition = .continues ∧
        (state.bodies pair.second).disposition = .continues := by
  have nothing : ∀ {P : MotionGeometryEvent S count → Prop} event, none = some event → P event := by
    intro P event impossible
    cases impossible
  unfold refreshedEvent at refreshes
  dsimp only at refreshes
  split at refreshes
  · cases refreshes
    exact ⟨rfl, nothing⟩
  · next open' =>
    rw [Bool.or_eq_true, not_or, Bool.not_eq_true, Bool.not_eq_false', Bool.and_eq_true, decide_eq_true_eq,
      decide_eq_true_eq] at open'
    have live := open'.1
    split at refreshes
    · cases refreshes
      exact ⟨rfl, fun event cached => ⟨sound.pairs pair member event cached, live⟩⟩
    · split at refreshes
      · cases refreshes
        exact ⟨rfl, nothing⟩
      · split at refreshes
        · next moved =>
          refine ⟨pairEvent_events refreshes, ?_⟩
          intro event same
          subst same
          obtain ⟨certified, ahead⟩ := pairEvent_eq_some refreshes
          refine ⟨⟨?_, certified⟩, live⟩
          obtain atBegin | ahead := ahead
          · rw [Bool.or_eq_true, decide_eq_true_eq, decide_eq_true_eq] at moved
            rw [atBegin]
            obtain first | second := moved
            · exact le_max_of_le_left (le_of_eq (sound.firstMoved pair member first).symm)
            · exact le_max_of_le_right (le_of_eq (sound.secondMoved pair member second).symm)
          · exact ahead
        · cases refreshes
          exact ⟨rfl, fun event cached => ⟨sound.pairs pair member event cached, live⟩⟩

theorem refreshPair_spec {pair refreshed : PairCache S count} {work charged : MotionWorkCounts}
    (sound : state.Sound) (member : pair ∈ state.pairs)
    (refreshes : state.refreshPair circleQuery work pair = .ok (charged, refreshed)) :
    charged.events = work.events ∧ state.RefreshedPair pair refreshed := by
  obtain ⟨⟨spent, event⟩, found, rest⟩ := bind_eq_ok.mp refreshes
  cases rest
  obtain ⟨kept, events⟩ := refreshedEvent_spec sound member found
  exact ⟨kept, rfl, rfl, rfl, rfl, events⟩

/-- What a refreshed wall holds. -/
structure RefreshedWall (state : SolverState S count) (place : Fin count × MotionAxis)
    (after : Option (MotionGeometryEvent S count)) : Prop where
  event : ∀ event, after = some event →
    (state.now ≤ event.key.time ∧ state.CertifiesWall place event) ∧ state.folds place.1 = true
  tied : state.folds place.1 = true → state.overlapsOutward (state.bodies place.1).subject.2 place.2 →
    ∃ event, after = some event ∧ event.key.time = state.now

theorem refreshWall_spec {place : Fin count × MotionAxis} {work charged : MotionWorkCounts}
    {refreshed : Option (MotionGeometryEvent S count)} (sound : state.Sound)
    (refreshes : state.refreshWall work place (state.walls place) = .ok (charged, refreshed)) :
    charged.events = work.events ∧ state.RefreshedWall place refreshed := by
  unfold refreshWall at refreshes
  split at refreshes
  · next loose =>
    cases refreshes
    refine ⟨rfl, ?_, ?_⟩
    · intro event impossible
      cases impossible
    · intro folds
      rw [folds] at loose
      cases loose
  · next folding =>
    rw [Bool.not_eq_true, Bool.not_eq_false'] at folding
    split at refreshes
    · next tied =>
      cases refreshes
      refine ⟨rfl, fun event cached => ⟨sound.walls place event cached, folding⟩, fun _ _ => ?_⟩
      unfold tiedAt at tied
      obtain ⟨event, cached, same⟩ := Option.any_eq_true _ _ |>.mp tied
      exact ⟨event, cached, of_decide_eq_true same⟩
    · obtain ⟨kept, certified, times⟩ := nextWall_eq_ok refreshes
      refine ⟨kept, ?_, ?_⟩
      · intro event computed
        refine ⟨⟨?_, certified event computed⟩, folding⟩
        split at times
        · next outward =>
          obtain ⟨made, same, atAnchor⟩ := times
          rw [same] at computed
          cases computed
          rw [atAnchor, sound.outward place folding outward]
        · exact times event computed
      · intro _ outward
        rw [if_pos outward] at times
        obtain ⟨made, same, atAnchor⟩ := times
        exact ⟨made, same, atAnchor.trans (sound.outward place folding outward)⟩

theorem refreshCaches_spec (sound : state.Sound)
    (refreshes : state.refreshCaches circleQuery = .ok next) :
    next.Sound ∧ next.Settled ∧ state.Evolves next ∧ next.dirty = false := by
  obtain ⟨⟨spent, pairs⟩, threaded, rest⟩ := bind_eq_ok.mp refreshes
  obtain ⟨⟨left, walls⟩, updated, rest⟩ := bind_eq_ok.mp rest
  cases rest
  obtain ⟨pairEvents, refreshedPairs⟩ := threadM_forall₂ (P := fun work => work.events = state.work.events)
    (R := state.RefreshedPair) (fun before pair after answer member held visited => by
      obtain ⟨kept, refreshed⟩ := refreshPair_spec sound member visited
      exact ⟨kept.trans held, refreshed⟩) rfl threaded
  obtain ⟨wallEvents, refreshedWalls, -⟩ := updateM_spec (P := fun work => work.events = state.work.events)
    (R := state.RefreshedWall) wallPlaces_nodup (fun before place after answer _ held visited => by
      obtain ⟨kept, refreshed⟩ := refreshWall_spec sound visited
      exact ⟨kept.trans held, refreshed⟩) pairEvents updated
  have settled : ({ state with work := left, pairs := pairs, walls := walls, dirty := false } :
      SolverState S count).Settled := by
    constructor
    · intro pair member
      obtain ⟨before, -, refreshed⟩ := exists_of_forall₂ refreshedPairs member
      rw [refreshed.first, refreshed.second]
      exact ⟨refreshed.firstRevision, refreshed.secondRevision⟩
    · intro pair member cached
      obtain ⟨before, -, refreshed⟩ := exists_of_forall₂ refreshedPairs member
      obtain ⟨event, present⟩ := Option.ne_none_iff_exists'.mp cached
      rw [refreshed.first, refreshed.second]
      exact (refreshed.event event present).2
    · intro place cached
      obtain ⟨event, present⟩ := Option.ne_none_iff_exists'.mp cached
      exact ((refreshedWalls place (mem_wallPlaces place)).event event present).2
    · intro place
      exact (refreshedWalls place (mem_wallPlaces place)).tied
  refine ⟨?_, settled, ?_, rfl⟩
  · constructor
    · exact sound.anchors
    · intro pair member event cached
      obtain ⟨before, -, refreshed⟩ := exists_of_forall₂ refreshedPairs member
      obtain ⟨ahead, certified⟩ := (refreshed.event event cached).1
      rw [refreshed.first, refreshed.second]
      exact ⟨ahead, certified.of_entities fun _ => rfl⟩
    · intro place event cached
      obtain ⟨ahead, certified⟩ := ((refreshedWalls place (mem_wallPlaces place)).event event cached).1
      exact ⟨ahead, certified.of_entities fun _ => rfl⟩
    · intro pair member mismatch
      exact absurd (settled.revisions pair member).1 mismatch
    · intro pair member mismatch
      exact absurd (settled.revisions pair member).2 mismatch
    · exact sound.outward
    · exact fun _ => settled
  · exact ⟨⟨rfl, fun _ => rfl, fun _ => rfl, fun _ _ => rfl, fun _ _ => rfl, fun _ member => .inl member⟩,
      rfl, rfl, wallEvents⟩

theorem rebuild_keeps (marksOnly : MarksOnly broadPhase)
    (rebuilt : state.rebuild circleQuery broadPhase = .ok next) :
    next.bodies = state.bodies ∧ next.now = state.now ∧ next.radius = state.radius ∧
      next.paths = state.paths ∧ next.events = state.events := by
  unfold SolverState.rebuild at rebuilt
  split at rebuilt
  · cases rebuilt
    exact ⟨rfl, rfl, rfl, rfl, rfl⟩
  · obtain ⟨marked, marks, refreshes⟩ := bind_eq_ok.mp rebuilt
    obtain ⟨work, pairs, same, -, -⟩ := marksOnly _ _ marks
    subst same
    obtain ⟨⟨spent, pairs⟩, -, rest⟩ := bind_eq_ok.mp refreshes
    obtain ⟨⟨left, walls⟩, -, rest⟩ := bind_eq_ok.mp rest
    cases rest
    exact ⟨rfl, rfl, rfl, rfl, rfl⟩

theorem Sound.rebuild (sound : state.Sound) (marksOnly : MarksOnly broadPhase)
    (rebuilt : state.rebuild circleQuery broadPhase = .ok next) :
    next.Sound ∧ state.Evolves next ∧ next.dirty = false := by
  unfold SolverState.rebuild at rebuilt
  split at rebuilt
  · next clean =>
    cases rebuilt
    rw [Bool.not_eq_true'] at clean
    exact ⟨sound, .refl state, clean⟩
  · next dirty =>
    rw [Bool.not_eq_true', Bool.not_eq_false] at dirty
    obtain ⟨marked, marks, refreshes⟩ := bind_eq_ok.mp rebuilt
    obtain ⟨work, pairs, same, events, related⟩ := marksOnly _ _ marks
    subst same
    have marked : ({ state with work := work, pairs := pairs, dirty := true } : SolverState S count).Sound :=
      sound.marked related
    rw [← dirty] at marked
    obtain ⟨holds, -, evolves, clean⟩ := refreshCaches_spec marked refreshes
    refine ⟨holds, ?_, clean⟩
    exact ⟨⟨evolves.limits, evolves.entities, evolves.isStatic, evolves.unmoved, evolves.terminal,
      evolves.paths⟩, evolves.now, evolves.events, evolves.eventCount.trans events⟩

end Rebuild

section Walls

variable {event : MotionGeometryEvent S count}

omit [UnitInterval S] in
theorem Sound.consumed (sound : state.Sound) (place : Fin count × MotionAxis) :
    ({ state with walls := Function.update state.walls place none, dirty := true } :
      SolverState S count).Sound := by
  constructor
  · exact sound.anchors
  · intro pair member event cached
    obtain ⟨ahead, certified⟩ := sound.pairs pair member event cached
    exact ⟨ahead, certified.of_entities fun _ => rfl⟩
  · intro other event cached
    dsimp only at cached
    by_cases same : other = place
    · rw [same, Function.update_self] at cached
      cases cached
    · rw [Function.update_of_ne same] at cached
      obtain ⟨ahead, certified⟩ := sound.walls other event cached
      exact ⟨ahead, certified.of_entities fun _ => rfl⟩
  · exact sound.firstMoved
  · exact sound.secondMoved
  · exact sound.outward
  · intro clean
    cases clean

omit [UnitInterval S] in
theorem Sound.reflectWall (sound : state.Sound) (live : (state.bodies event.first).disposition = .continues)
    (reflected : state.reflectWall event = .ok next) : next.Sound ∧ state.Evolves next := by
  have evolves : state.Evolves { state with
      walls := Function.update state.walls (event.first, eventAxis event.key) none, dirty := true } :=
    ⟨⟨rfl, fun _ => rfl, fun _ => rfl, fun _ _ => rfl, fun _ _ => rfl, fun _ member => .inl member⟩,
      rfl, rfl, rfl⟩
  unfold SolverState.reflectWall at reflected
  dsimp only at reflected
  obtain ⟨current, -, rest⟩ := bind_eq_ok.mp reflected
  split at rest
  · cases rest
    exact ⟨sound.consumed _, evolves⟩
  · obtain ⟨velocity, -, replaced⟩ := bind_eq_ok.mp rest
    have replaces := replace_eq_ok replaced
    exact ⟨replaces.sound (sound.consumed _) live, evolves.trans (replaces.evolves live)⟩

end Walls

section Suppress

variable {event : MotionGeometryEvent S count} {secondIndex : Fin count}

omit [UnitInterval S] in
theorem mem_suppressPair {pair : PairCache S count} (member : pair ∈ (state.suppressPair event secondIndex).pairs) :
    ∃ before ∈ state.pairs, pair.first = before.first ∧ pair.second = before.second ∧
      pair.firstRevision = before.firstRevision ∧ pair.secondRevision = before.secondRevision ∧
      (pair.event = none ∨ pair.event = before.event) := by
  obtain ⟨position, within, same⟩ := List.getElem_of_mem member
  unfold suppressPair at within same
  simp only [List.length_modify] at within
  refine ⟨state.pairs[position], List.getElem_mem within, ?_⟩
  simp only [List.getElem_modify] at same
  split at same <;> subst same
  · exact ⟨rfl, rfl, rfl, rfl, .inl rfl⟩
  · exact ⟨rfl, rfl, rfl, rfl, .inr rfl⟩

omit [UnitInterval S] in
theorem Sound.suppressPair (sound : state.Sound) : (state.suppressPair event secondIndex).Sound := by
  have cachedBefore : ∀ pair ∈ (state.suppressPair event secondIndex).pairs, pair.event ≠ none →
      ∃ before ∈ state.pairs, pair.first = before.first ∧ pair.second = before.second ∧
        pair.event = before.event := by
    intro pair member cached
    obtain ⟨before, inside, first, second, -, -, dropped | kept⟩ := mem_suppressPair member
    · exact absurd dropped cached
    · exact ⟨before, inside, first, second, kept⟩
  constructor
  · exact sound.anchors
  · intro pair member cachedEvent cached
    obtain ⟨before, inside, first, second, kept⟩ := cachedBefore pair member (by rw [cached]; exact Option.some_ne_none _)
    obtain ⟨ahead, certified⟩ := sound.pairs before inside cachedEvent (kept ▸ cached)
    rw [first, second]
    exact ⟨ahead, certified.of_entities fun _ => rfl⟩
  · intro place cachedEvent cached
    obtain ⟨ahead, certified⟩ := sound.walls place cachedEvent cached
    exact ⟨ahead, certified.of_entities fun _ => rfl⟩
  · intro pair member
    obtain ⟨before, inside, first, -, revision, -⟩ := mem_suppressPair member
    rw [first, revision]
    exact sound.firstMoved before inside
  · intro pair member
    obtain ⟨before, inside, -, second, -, revision, -⟩ := mem_suppressPair member
    rw [second, revision]
    exact sound.secondMoved before inside
  · exact sound.outward
  · intro clean
    have settled := sound.settled clean
    refine ⟨?_, ?_, settled.liveWalls, settled.tied⟩
    · intro pair member
      obtain ⟨before, inside, first, second, firstRevision, secondRevision, -⟩ := mem_suppressPair member
      rw [first, second, firstRevision, secondRevision]
      exact settled.revisions before inside
    · intro pair member cached
      obtain ⟨before, inside, first, second, kept⟩ := cachedBefore pair member cached
      rw [first, second]
      exact settled.livePairs before inside (kept ▸ cached)

end Suppress

theorem Sound.finishEvent {queries : SolverQueries S count}
    {processed : Option (MotionGeometryEvent S count)} (sound : state.Sound)
    (marksOnly : MarksOnly queries.broadPhase) (finished : state.finishEvent queries processed = .ok next) :
    next.Sound ∧ state.Evolves next ∧ next.dirty = false := by
  unfold SolverState.finishEvent at finished
  split at finished
  · exact sound.rebuild marksOnly finished
  · split at finished
    · exact sound.rebuild marksOnly finished
    · next event _ secondIndex _ =>
      have suppressed : (state.suppressPair event secondIndex).Sound := sound.suppressPair
      obtain ⟨holds, evolves, clean⟩ := suppressed.rebuild marksOnly finished
      refine ⟨holds, ?_, clean⟩
      exact ⟨⟨evolves.limits, evolves.entities, evolves.isStatic, evolves.unmoved, evolves.terminal,
        evolves.paths⟩, evolves.now, evolves.events, evolves.eventCount⟩

end SolverState

end BlobRoyale.Simulation
