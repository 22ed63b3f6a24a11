import BlobRoyale.Motion.RebuildSoundness
import BlobRoyale.Motion.Selection

/-!
# One iteration, soundly

An iteration of a sound loop advances to an event no earlier than now, records it, hands its effects
on in order, and touches no terminated body.
-/

namespace BlobRoyale.Simulation

open Passes SolverState

variable {S : Type} [Scalar S] {Effect Facts : Type} {count : Nat}

theorem CandidatePair.create_eq_ok {first second : EntityId} {pair : CandidatePair}
    (created : CandidatePair.create first second = .ok pair) :
    (pair.lowerId = first ∧ pair.higherId = second) ∨ (pair.lowerId = second ∧ pair.higherId = first) := by
  unfold CandidatePair.create at created
  split at created
  · cases created
    exact .inl ⟨rfl, rfl⟩
  · split at created
    · cases created
      exact .inr ⟨rfl, rfl⟩
    · cases created

namespace MotionLoop

/-- A trigger's cache names its body, its event is not past, its cursor is within bounds. -/
structure SoundCache (solver : SolverState S count) (cache : TriggerCache S Effect Facts count) : Prop where
  entity : cache.trigger.entity = (solver.bodies cache.body).subject.1
  event : ∀ key, cache.event = some key → solver.now ≤ key.time ∧
    key.firstEntity = cache.trigger.entity ∧ key.priority ≠ .bodyContact
  cursor : cache.trigger.initialCursor ≤ cache.cursor ∧ cache.cursor ≤ cache.trigger.cursorLimit

structure Sound (loop : MotionLoop S Effect Facts count) : Prop where
  solver : loop.solver.Sound
  clean : loop.solver.dirty = false
  distinct : Function.Injective fun index => (loop.solver.bodies index).subject.1
  caches : ∀ cache ∈ loop.caches, SoundCache loop.solver cache

/-- A trigger keeps its declaration and never loses progress. -/
structure CacheAdvances (before after : TriggerCache S Effect Facts count) : Prop where
  trigger : after.trigger = before.trigger
  body : after.body = before.body
  cursor : before.cursor ≤ after.cursor

theorem CacheAdvances.refl (cache : TriggerCache S Effect Facts count) : CacheAdvances cache cache :=
  ⟨rfl, rfl, Nat.le_refl _⟩

theorem CacheAdvances.trans {first second third : TriggerCache S Effect Facts count}
    (before : CacheAdvances first second) (after : CacheAdvances second third) :
    CacheAdvances first third :=
  ⟨after.trigger.trans before.trigger, after.body.trans before.body,
    Nat.le_trans before.cursor after.cursor⟩

theorem forall₂_trans {first second third : List (TriggerCache S Effect Facts count)}
    (before : List.Forall₂ CacheAdvances first second) (after : List.Forall₂ CacheAdvances second third) :
    List.Forall₂ CacheAdvances first third := by
  induction before generalizing third with
  | nil =>
    cases after
    exact .nil
  | cons one _ ih =>
    cases after with
    | cons next rest => exact .cons (one.trans next) (ih rest)

theorem SoundCache.evolves {before after : SolverState S count} {cache : TriggerCache S Effect Facts count}
    (sound : SoundCache before cache) (evolves : before.Evolves after) : SoundCache after cache := by
  refine ⟨sound.entity.trans (evolves.entities cache.body).symm, ?_, sound.cursor⟩
  rw [evolves.now]
  exact sound.event

variable {problem : MotionProblem S Effect Facts} {loop ready next : MotionLoop S Effect Facts count}

section Refresh

theorem charged_sound {solver : SolverState S count} (sound : solver.Sound) (work : MotionWorkCounts) :
    ({ solver with work := work } : SolverState S count).Sound := by
  refine ⟨sound.anchors, ?_, ?_, sound.firstMoved, sound.secondMoved, sound.outward, ?_⟩
  · intro pair member event cached
    obtain ⟨ahead, certified⟩ := sound.pairs pair member event cached
    exact ⟨ahead, certified.of_entities fun _ => rfl⟩
  · intro place event cached
    obtain ⟨ahead, certified⟩ := sound.walls place event cached
    exact ⟨ahead, certified.of_entities fun _ => rfl⟩
  · intro clean
    have settled := sound.settled clean
    exact ⟨settled.revisions, settled.livePairs, settled.liveWalls, settled.tied⟩

variable {solver : SolverState S count} {cache refreshed : TriggerCache S Effect Facts count}
  {work charged : MotionWorkCounts}

/-- What a refreshed cache holds. -/
structure RefreshedCache (solver : SolverState S count) (before after : TriggerCache S Effect Facts count) :
    Prop where
  trigger : after.trigger = before.trigger
  body : after.body = before.body
  cursor : after.cursor = before.cursor
  sound : SoundCache solver after
  live : after.event ≠ none → (solver.bodies after.body).disposition = .continues

theorem proposedEvent_eq_some {proposal : Option (MotionTriggerProposal S)} {key : MotionEventKey S}
    (proposed : proposedEvent solver.now cache proposal = .ok (some key)) :
    solver.now ≤ key.time ∧ key.firstEntity = cache.trigger.entity ∧ key.priority ≠ .bodyContact := by
  unfold proposedEvent at proposed
  split at proposed
  · cases proposed
  · next proposal =>
    split at proposed
    · cases proposed
    · next admitted =>
      obtain ⟨created, creates, rest⟩ := bind_eq_ok.mp proposed
      cases rest
      obtain ⟨same, boundary⟩ := MotionEventKey.boundary_eq_ok creates
      subst same
      rw [Bool.or_eq_true, not_or, decide_eq_true_eq] at admitted
      exact ⟨le_of_not_gt admitted.1, rfl, boundary⟩

theorem chargeTrigger_events {limits : MotionLimits} (charges : work.chargeTrigger limits = .ok charged) :
    charged.events = work.events := by
  obtain ⟨_, -, rest⟩ := bind_eq_ok.mp charges
  cases rest
  rfl

theorem chargeQuery_events {limits : MotionLimits} {charges : MotionQueryCharges}
    (spends : work.chargeQuery limits charges = .ok charged) : charged.events = work.events := by
  obtain ⟨spent, roots, rest⟩ := bind_eq_ok.mp spends
  obtain ⟨_, -, rest⟩ := bind_eq_ok.mp rest
  cases rest
  have kept := chargeRoots_events roots
  exact kept

theorem refreshTrigger_spec (sound : SoundCache solver cache)
    (refreshes : refreshTrigger problem solver work cache = .ok (charged, refreshed)) :
    charged.events = work.events ∧ RefreshedCache solver cache refreshed := by
  unfold refreshTrigger at refreshes
  split at refreshes
  · cases refreshes
    refine ⟨rfl, rfl, rfl, rfl, ⟨sound.entity, ?_, sound.cursor⟩, fun impossible => absurd rfl impossible⟩
    intro key impossible
    cases impossible
  · next running =>
    have live : (solver.bodies cache.body).disposition = .continues := by
      unfold SolverState.terminated at running
      cases disposition : (solver.bodies cache.body).disposition with
      | continues => rfl
      | terminate => exact absurd (decide_eq_true disposition) running
    split at refreshes
    · cases refreshes
      exact ⟨rfl, rfl, rfl, rfl, sound, fun _ => live⟩
    · obtain ⟨spent, charges, rest⟩ := bind_eq_ok.mp refreshes
      obtain ⟨motion, -, rest⟩ := bind_eq_ok.mp rest
      obtain ⟨subject, -, rest⟩ := bind_eq_ok.mp rest
      obtain ⟨⟨asked, proposal⟩, -, rest⟩ := bind_eq_ok.mp rest
      obtain ⟨total, spends, rest⟩ := bind_eq_ok.mp rest
      obtain ⟨event, proposed, rest⟩ := bind_eq_ok.mp rest
      cases rest
      have kept := (chargeQuery_events spends).trans (chargeTrigger_events charges)
      refine ⟨kept, rfl, rfl, rfl, ⟨sound.entity, ?_, sound.cursor⟩, fun _ => live⟩
      intro key same
      dsimp only at same
      subst same
      exact proposedEvent_eq_some proposed

theorem refreshTriggers_spec (sound : loop.Sound) (refreshes : loop.refreshTriggers problem = .ok ready) :
    ready.Sound ∧ loop.solver.Evolves ready.solver ∧ ready.effects = loop.effects ∧
      List.Forall₂ (RefreshedCache ready.solver) loop.caches ready.caches := by
  obtain ⟨⟨left, caches⟩, threaded, rest⟩ := bind_eq_ok.mp refreshes
  cases rest
  obtain ⟨events, refreshed⟩ := threadM_forall₂ (P := fun work => work.events = loop.solver.work.events)
    (R := RefreshedCache loop.solver) (fun before cache after answer member held visited => by
      obtain ⟨kept, refreshed⟩ := refreshTrigger_spec (sound.caches cache member) visited
      exact ⟨kept.trans held, refreshed⟩) rfl threaded
  have evolves : loop.solver.Evolves { loop.solver with work := left } :=
    ⟨⟨rfl, fun _ => rfl, fun _ => rfl, fun _ _ => rfl, fun _ _ => rfl, fun _ member => .inl member⟩,
      rfl, rfl, events⟩
  have renewed : List.Forall₂ (RefreshedCache { loop.solver with work := left }) loop.caches caches := by
    refine refreshed.imp ?_
    intro before after one
    exact ⟨one.trigger, one.body, one.cursor, one.sound.evolves evolves, one.live⟩
  refine ⟨⟨?_, sound.clean, sound.distinct, ?_⟩, evolves, rfl, renewed⟩
  · exact charged_sound sound.solver left
  · intro cache member
    obtain ⟨before, -, one⟩ := exists_of_forall₂ renewed member
    exact one.sound

end Refresh

section Process

variable {queries : SolverQueries S count} {key : MotionEventKey S}

theorem appendEffects_eq_ok {effects : List Effect} (appended : loop.appendEffects key effects = .ok next) :
    next = { loop with effects := loop.effects ++ effects.map fun effect => ⟨key, effect⟩ } := by
  unfold appendEffects at appended
  split at appended
  · cases appended
  · cases appended
    rfl

/-- What applying one event leaves. -/
structure Processed (begun : MotionLoop S Effect Facts count) (key : MotionEventKey S)
    (next : MotionLoop S Effect Facts count) : Prop where
  solver : next.solver.Sound
  clean : next.solver.dirty = false
  evolves : begun.solver.Evolves next.solver
  effects : ∃ emitted : List Effect, next.effects = begun.effects ++ emitted.map fun effect => ⟨key, effect⟩
  caches : List.Forall₂ CacheAdvances begun.caches next.caches
  sound : ∀ cache ∈ next.caches, SoundCache next.solver cache

theorem advances_set {caches : List (TriggerCache S Effect Facts count)} {index : Nat}
    {cache renewed : TriggerCache S Effect Facts count} (stored : caches[index]? = some cache)
    (advances : CacheAdvances cache renewed) :
    List.Forall₂ CacheAdvances caches (caches.set index renewed) := by
  rw [List.forall₂_iff_get]
  refine ⟨(List.length_set ..).symm, ?_⟩
  intro position within _
  simp only [List.get_eq_getElem, List.getElem_set]
  split
  · next same =>
    subst same
    rw [List.getElem?_eq_getElem within] at stored
    cases stored
    exact advances
  · exact .refl _

theorem processTrigger_spec [UnitInterval S] {index : Nat} {cache : TriggerCache S Effect Facts count}
    (marksOnly : MarksOnly queries.broadPhase) (sound : loop.solver.Sound)
    (caches : ∀ cache ∈ loop.caches, SoundCache loop.solver cache) (stored : loop.caches[index]? = some cache)
    (live : (loop.solver.bodies cache.body).disposition = .continues)
    (processed : loop.processTrigger problem queries index cache key = .ok next) :
    Processed loop key next := by
  unfold processTrigger at processed
  obtain ⟨current, -, rest⟩ := bind_eq_ok.mp processed
  obtain ⟨response, -, rest⟩ := bind_eq_ok.mp rest
  split at rest
  · next progresses =>
    obtain ⟨appended, appends, rest⟩ := bind_eq_ok.mp rest
    have same := appendEffects_eq_ok appends
    subst same
    obtain ⟨replaced, replaces, rest⟩ := bind_eq_ok.mp rest
    obtain ⟨solver, finishes, rest⟩ := bind_eq_ok.mp rest
    cases rest
    have replaces := replace_eq_ok replaces
    obtain ⟨holds, finished, clean⟩ := (replaces.sound sound live).finishEvent marksOnly finishes
    have evolves : loop.solver.Evolves solver := (replaces.evolves live).trans finished
    unfold triggerProgresses at progresses
    simp only [Bool.not_eq_true', Bool.or_eq_false_iff, decide_eq_false_iff_not, Nat.not_lt] at progresses
    have one := caches cache (List.mem_of_getElem? stored)
    refine ⟨holds, clean, evolves, ⟨response.effects, rfl⟩,
      advances_set stored ⟨rfl, rfl, progresses.1.1⟩, ?_⟩
    intro other member
    obtain inside | same := List.mem_or_eq_of_mem_set member
    · exact (caches other inside).evolves evolves
    · subst same
      refine ⟨one.entity.trans (evolves.entities cache.body).symm, ?_,
        Nat.le_trans one.cursor.1 progresses.1.1, progresses.1.2⟩
      intro key impossible
      cases impossible
  · cases rest

theorem processContact_spec {event : MotionGeometryEvent S count} {secondIndex : Fin count}
    {observation : PairContactObservation S} (sound : loop.solver.Sound)
    (first : (loop.solver.bodies event.first).disposition = .continues)
    (second : (loop.solver.bodies secondIndex).disposition = .continues) (apart : secondIndex ≠ event.first)
    (processed : loop.processContact problem event secondIndex observation = .ok next) :
    next.solver.Sound ∧ loop.solver.Evolves next.solver ∧ next.caches = loop.caches ∧
      ∃ emitted : List Effect,
        next.effects = loop.effects ++ emitted.map fun effect => ⟨event.key, effect⟩ := by
  unfold processContact at processed
  obtain ⟨firstSubject, -, rest⟩ := bind_eq_ok.mp processed
  obtain ⟨secondSubject, -, rest⟩ := bind_eq_ok.mp rest
  obtain ⟨response, -, rest⟩ := bind_eq_ok.mp rest
  obtain ⟨appended, appends, rest⟩ := bind_eq_ok.mp rest
  have same := appendEffects_eq_ok appends
  subst same
  obtain ⟨replaced, firstReplaces, rest⟩ := bind_eq_ok.mp rest
  obtain ⟨solver, secondReplaces, rest⟩ := bind_eq_ok.mp rest
  cases rest
  have firstReplaces := replace_eq_ok firstReplaces
  have secondReplaces := replace_eq_ok secondReplaces
  have still : (replaced.bodies secondIndex).disposition = .continues := by
    rw [firstReplaces.other apart]
    exact second
  exact ⟨secondReplaces.sound (firstReplaces.sound sound first) still,
    (firstReplaces.evolves first).trans (secondReplaces.evolves still), rfl, response.effects, rfl⟩

theorem contact_events {solver : SolverState S count} {circleQuery : CircleSweepQuery S}
    {event : MotionGeometryEvent S count} {secondIndex : Fin count} {work : MotionWorkCounts}
    {observation : Option (PairContactObservation S)}
    (observes : solver.contact circleQuery event secondIndex = .ok (work, observation)) :
    work.events = solver.work.events := by
  unfold SolverState.contact at observes
  obtain ⟨first, -, rest⟩ := bind_eq_ok.mp observes
  obtain ⟨second, -, rest⟩ := bind_eq_ok.mp rest
  obtain ⟨⟨charged, admitted⟩, admits, rest⟩ := bind_eq_ok.mp rest
  obtain ⟨speed, -, rest⟩ := bind_eq_ok.mp rest
  have kept : charged.events = solver.work.events := by
    unfold SolverState.impactAdmitted at admits
    split at admits
    · cases admits
      rfl
    · obtain ⟨_, -, admits⟩ := bind_eq_ok.mp admits
      obtain ⟨_, -, admits⟩ := bind_eq_ok.mp admits
      obtain ⟨_, -, admits⟩ := bind_eq_ok.mp admits
      obtain ⟨spent, charges, admits⟩ := bind_eq_ok.mp admits
      obtain ⟨_, -, admits⟩ := bind_eq_ok.mp admits
      obtain ⟨_, -, admits⟩ := bind_eq_ok.mp admits
      cases admits
      exact chargeRoots_events charges
  dsimp only at rest
  split at rest
  · cases rest
    exact kept
  · obtain ⟨touch, -, rest⟩ := bind_eq_ok.mp rest
    cases rest
    exact kept

theorem processGeometry_spec [UnitInterval S] {event : MotionGeometryEvent S count}
    (marksOnly : MarksOnly queries.broadPhase) (sound : loop.solver.Sound)
    (caches : ∀ cache ∈ loop.caches, SoundCache loop.solver cache)
    (first : (loop.solver.bodies event.first).disposition = .continues)
    (second : ∀ index, event.second = some index →
      (loop.solver.bodies index).disposition = .continues ∧ index ≠ event.first)
    (processed : loop.processGeometry problem queries event = .ok next) :
    Processed loop event.key next := by
  have whole : ∀ (middle : MotionLoop S Effect Facts count) {solver : SolverState S count}
      {finished : Option (MotionGeometryEvent S count)}, middle.solver.Sound →
      loop.solver.Evolves middle.solver → middle.caches = loop.caches →
      (∃ emitted : List Effect, middle.effects = loop.effects ++ emitted.map fun effect => ⟨event.key, effect⟩) →
      middle.solver.finishEvent queries finished = .ok solver →
        Processed loop event.key { middle with solver := solver } := by
    intro middle solver finished holds evolves same emitted finishes
    obtain ⟨final, last, clean⟩ := holds.finishEvent marksOnly finishes
    have whole := evolves.trans last
    refine ⟨final, clean, whole, emitted, ?_, ?_⟩
    · dsimp only
      rw [same]
      exact List.forall₂_same.mpr fun cache _ => .refl cache
    · dsimp only
      rw [same]
      intro cache member
      exact (caches cache member).evolves whole
  unfold processGeometry at processed
  split at processed
  · next secondIndex named =>
    obtain ⟨⟨work, observation⟩, observes, rest⟩ := bind_eq_ok.mp processed
    have spent : loop.solver.Evolves { loop.solver with work := work } :=
      ⟨⟨rfl, fun _ => rfl, fun _ => rfl, fun _ _ => rfl, fun _ _ => rfl, fun _ member => .inl member⟩,
        rfl, rfl, contact_events observes⟩
    cases observation with
    | none =>
      obtain ⟨responded, responds, rest⟩ := bind_eq_ok.mp rest
      obtain ⟨solver, finishes, rest⟩ := bind_eq_ok.mp rest
      cases responds
      cases rest
      exact whole _ (charged_sound sound work) spent rfl ⟨[], (List.append_nil _).symm⟩ finishes
    | some observed =>
      obtain ⟨responded, responds, rest⟩ := bind_eq_ok.mp rest
      obtain ⟨solver, finishes, rest⟩ := bind_eq_ok.mp rest
      cases rest
      obtain ⟨live, apart⟩ := second secondIndex named
      have charged : ({ loop with solver := { loop.solver with work := work } } :
          MotionLoop S Effect Facts count).solver.Sound := charged_sound sound work
      obtain ⟨holds, evolves, same, emitted⟩ := processContact_spec charged first live apart responds
      exact whole _ holds (spent.trans evolves) same emitted finishes
  · obtain ⟨reflected, reflects, rest⟩ := bind_eq_ok.mp processed
    obtain ⟨solver, finishes, rest⟩ := bind_eq_ok.mp rest
    cases rest
    obtain ⟨holds, evolves⟩ := sound.reflectWall first reflects
    exact whole { loop with solver := reflected } holds evolves rfl ⟨[], (List.append_nil _).symm⟩ finishes

end Process

end MotionLoop

end BlobRoyale.Simulation
