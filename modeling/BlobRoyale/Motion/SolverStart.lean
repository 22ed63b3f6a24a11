import BlobRoyale.Motion.LoopSoundness
import BlobRoyale.Library.Transition

/-!
# How the loop advances

The inversion of one iteration: it ends the loop with what it refreshed, or it advances to the earliest
event, which is not past and involves live bodies only.
-/

namespace BlobRoyale.Simulation

open Passes SolverState

variable {S : Type} [Scalar S] {Effect Facts : Type} {count : Nat}

namespace MotionLoop

variable {problem : MotionProblem S Effect Facts} {loop ready next : MotionLoop S Effect Facts count}
  {selection : MotionSelection S Effect Facts count} {key : MotionEventKey S}

theorem Sound.involved_of_pair (sound : ready.Sound) {pair : PairCache S count}
    (member : pair ∈ ready.solver.pairs) {event : MotionGeometryEvent S count}
    (cached : pair.event = some event) :
    event.first = pair.first ∧ event.second = some pair.second ∧ pair.second ≠ pair.first ∧
      (ready.solver.bodies pair.first).disposition = .continues ∧
      (ready.solver.bodies pair.second).disposition = .continues ∧
      ∀ entity, event.key.Involves entity → ∃ index, (ready.solver.bodies index).subject.1 = entity ∧
        (ready.solver.bodies index).disposition = .continues := by
  obtain ⟨first, second⟩ := (sound.solver.settled sound.clean).livePairs pair member
    (by rw [cached]; exact Option.some_ne_none _)
  obtain ⟨-, firstEq, secondEq, identity, created, sameKey⟩ := sound.solver.pairs pair member event cached
  refine ⟨firstEq, secondEq, ?_, first, second, ?_⟩
  · intro same
    rw [same] at created
    have ordered := identity.ordered
    obtain ⟨lower, higher⟩ | ⟨lower, higher⟩ := CandidatePair.create_eq_ok created
    · rw [lower, higher] at ordered
      exact lt_irrefl _ ordered
    · rw [lower, higher] at ordered
      exact lt_irrefl _ ordered
  · intro entity involves
    have named : identity.lowerId = entity ∨ identity.higherId = entity := by
      rw [sameKey] at involves
      obtain lower | ⟨-, higher⟩ := involves
      · exact .inl lower
      · refine .inr ?_
        exact Identity.ext_value higher
    obtain ⟨lower, higher⟩ | ⟨lower, higher⟩ := CandidatePair.create_eq_ok created
    · obtain named | named := named
      · exact ⟨pair.first, lower.symm.trans named, first⟩
      · exact ⟨pair.second, higher.symm.trans named, second⟩
    · obtain named | named := named
      · exact ⟨pair.second, lower.symm.trans named, second⟩
      · exact ⟨pair.first, higher.symm.trans named, first⟩

theorem folds_live {solver : SolverState S count} {index : Fin count} (folds : solver.folds index = true) :
    (solver.bodies index).disposition = .continues := by
  cases disposition : (solver.bodies index).disposition with
  | continues => rfl
  | terminate =>
    unfold SolverState.folds at folds
    simp [disposition] at folds

theorem Sound.involved_of_wall (sound : ready.Sound) {place : Fin count × MotionAxis}
    {event : MotionGeometryEvent S count} (cached : ready.solver.walls place = some event) :
    event.first = place.1 ∧ event.second = none ∧
      (ready.solver.bodies place.1).disposition = .continues ∧
      ∀ entity, event.key.Involves entity → ∃ index, (ready.solver.bodies index).subject.1 = entity ∧
        (ready.solver.bodies index).disposition = .continues := by
  have live := folds_live ((sound.solver.settled sound.clean).liveWalls place
    (by rw [cached]; exact Option.some_ne_none _))
  obtain ⟨-, first, second, entity, priority⟩ := sound.solver.walls place event cached
  refine ⟨first, second, live, ?_⟩
  intro other involves
  obtain same | ⟨contact, -⟩ := involves
  · exact ⟨place.1, entity.symm.trans same, live⟩
  · rw [priority] at contact
    cases axis : place.2 with
    | x =>
      rw [axis] at contact
      cases contact
    | y =>
      rw [axis] at contact
      cases contact

theorem Sound.selected_live (sound : ready.Sound)
    (fresh : ∀ cache ∈ ready.caches, cache.event ≠ none →
      (ready.solver.bodies cache.body).disposition = .continues)
    (selects : ready.Selects selection) {entity : EntityId} (involves : selection.key.Involves entity) :
    ∃ index, (ready.solver.bodies index).subject.1 = entity ∧
      (ready.solver.bodies index).disposition = .continues := by
  cases selection with
  | geometry event =>
    obtain ⟨pair, member, cached⟩ | ⟨place, cached⟩ := selects
    · exact (sound.involved_of_pair member cached).2.2.2.2.2 entity involves
    · exact (sound.involved_of_wall cached).2.2.2 entity involves
  | trigger index cache key =>
    obtain ⟨stored, cached⟩ := selects
    have member := List.mem_of_getElem? stored
    have one := sound.caches cache member
    obtain ⟨-, named, boundary⟩ := one.event key cached
    obtain same | ⟨contact, -⟩ := involves
    · exact ⟨cache.body, one.entity.symm.trans (named.symm.trans same),
        fresh cache member (by rw [cached]; exact Option.some_ne_none _)⟩
    · exact absurd contact boundary

/-- The earliest event is not past, so beginning it is refused by the event budget alone. -/
theorem Sound.selected_ahead (sound : ready.Sound) (selects : ready.Selects selection) :
    ready.solver.now ≤ selection.key.time := by
  cases selection with
  | geometry event =>
    obtain ⟨pair, member, cached⟩ | ⟨place, cached⟩ := selects
    · exact (sound.solver.pairs pair member event cached).1
    · exact (sound.solver.walls place event cached).1
  | trigger index cache key =>
    obtain ⟨stored, cached⟩ := selects
    exact ((sound.caches cache (List.mem_of_getElem? stored)).event key cached).1

/-- One advanced iteration. -/
structure Advances (before : MotionLoop S Effect Facts count) (key : MotionEventKey S)
    (after : MotionLoop S Effect Facts count) : Prop where
  sound : after.Sound
  ahead : before.solver.now ≤ key.time
  now : after.solver.now = key.time
  events : after.solver.events = before.solver.events ++ [key]
  counted : after.solver.work.events = before.solver.work.events + 1
  within : after.solver.work.events ≤ before.solver.limits.events
  descends : before.solver.Descends after.solver
  live : ∀ index, (before.solver.bodies index).disposition = .terminate →
    ¬ key.Involves (before.solver.bodies index).subject.1
  caches : List.Forall₂ CacheAdvances before.caches after.caches
  effects : ∃ emitted : List Effect, after.effects = before.effects ++ emitted.map fun effect => ⟨key, effect⟩

variable [UnitInterval S] {queries : SolverQueries S count}

theorem Sound.process (sound : ready.Sound)
    (fresh : ∀ cache ∈ ready.caches, cache.event ≠ none →
      (ready.solver.bodies cache.body).disposition = .continues)
    (marksOnly : MarksOnly queries.broadPhase) (selects : ready.select = some selection)
    {begun : SolverState S count} (begins : ready.solver.beginEvent selection.key = .ok begun)
    (processed : ({ ready with solver := begun } : MotionLoop S Effect Facts count).process problem queries
      selection = .ok next) :
    Processed { ready with solver := begun } selection.key next := by
  have selected := select_selects selects
  obtain ⟨earliestEvent, earliestTrigger⟩ := select_earliest selects
  obtain ⟨-, -, result⟩ := SolverState.beginEvent_eq_ok begins
  have began : begun.Sound := sound.solver.beginEvent sound.clean
    (fun pair member event cached => earliestEvent event (.inl ⟨pair, member, cached⟩))
    (fun place event cached => earliestEvent event (.inr ⟨place, cached⟩)) begins
  have bodies : begun.bodies = ready.solver.bodies := by rw [result]
  have now : begun.now = selection.key.time := by rw [result]
  have caches : ∀ cache ∈ ready.caches, SoundCache begun cache := by
    intro cache member
    have one := sound.caches cache member
    refine ⟨by rw [bodies]; exact one.entity, ?_, one.cursor⟩
    intro key cached
    rw [now]
    exact ⟨MotionEventKey.time_le (earliestTrigger cache member key cached), (one.event key cached).2⟩
  cases selection with
  | geometry event =>
    obtain ⟨pair, member, cached⟩ | ⟨place, cached⟩ := selected
    · obtain ⟨first, second, apart, firstLive, secondLive, -⟩ := sound.involved_of_pair member cached
      refine processGeometry_spec marksOnly began caches ?_ ?_ processed
      · dsimp only
        rw [bodies, first]
        exact firstLive
      · intro index named
        rw [second] at named
        cases named
        dsimp only
        rw [bodies, first]
        exact ⟨secondLive, apart⟩
    · obtain ⟨first, second, live, -⟩ := sound.involved_of_wall cached
      refine processGeometry_spec marksOnly began caches ?_ ?_ processed
      · dsimp only
        rw [bodies, first]
        exact live
      · intro index named
        rw [second] at named
        cases named
  | trigger index cache key =>
    obtain ⟨stored, cached⟩ := selected
    refine processTrigger_spec marksOnly began caches stored ?_ processed
    dsimp only
    rw [bodies]
    exact fresh cache (List.mem_of_getElem? stored) (by rw [cached]; exact Option.some_ne_none _)

theorem iterate_advanced (sound : loop.Sound) (marksOnly : MarksOnly queries.broadPhase)
    (iterates : loop.iterate problem queries = .ok (.advanced key next)) : Advances loop key next := by
  obtain ⟨ready, refreshes, rest⟩ := bind_eq_ok.mp iterates
  obtain ⟨renewed, evolves, sameEffects, refreshed⟩ := refreshTriggers_spec sound refreshes
  have fresh : ∀ cache ∈ ready.caches, cache.event ≠ none →
      (ready.solver.bodies cache.body).disposition = .continues := by
    intro cache member
    obtain ⟨before, -, one⟩ := exists_of_forall₂ refreshed member
    exact one.live
  split at rest
  · cases rest
  · next selection selects =>
    obtain ⟨begun, begins, rest⟩ := bind_eq_ok.mp rest
    obtain ⟨processed, processes, rest⟩ := bind_eq_ok.mp rest
    cases rest
    obtain ⟨holds, clean, through, emitted, advanced, caches⟩ :=
      renewed.process fresh marksOnly selects begins processes
    obtain ⟨ahead, within, result⟩ := SolverState.beginEvent_eq_ok begins
    have began : ready.solver.Descends begun := by
      rw [result]
      exact ⟨rfl, fun _ => rfl, fun _ => rfl, fun _ _ => rfl, fun _ _ => rfl, fun _ member => .inl member⟩
    have descends := evolves.toDescends.trans (began.trans through.toDescends)
    constructor
    · refine ⟨holds, clean, ?_, caches⟩
      intro first second same
      refine sound.distinct ?_
      dsimp only at same ⊢
      rw [← descends.entities, ← descends.entities]
      exact same
    · rw [← evolves.now]
      exact ahead
    · rw [through.now]
      dsimp only
      rw [result]
    · rw [through.events, ← evolves.events]
      dsimp only
      rw [result]
    · rw [through.eventCount, ← evolves.eventCount]
      dsimp only
      rw [result]
    · rw [through.eventCount, ← evolves.limits]
      dsimp only
      rw [result]
      exact within
    · exact descends
    · intro index terminated involves
      rw [← evolves.entities index] at involves
      obtain ⟨other, same, live⟩ := renewed.selected_live fresh (select_selects selects) involves
      have alike := renewed.distinct same
      rw [alike, evolves.terminal index terminated, terminated] at live
      cases live
    · refine forall₂_trans ?_ advanced
      refine refreshed.imp ?_
      intro before after one
      exact ⟨one.trigger, one.body, Nat.le_of_eq one.cursor.symm⟩
    · rw [← sameEffects]
      exact emitted

theorem iterate_finished (sound : loop.Sound)
    (iterates : loop.iterate problem queries = .ok (.finished next)) :
    next.Sound ∧ loop.solver.Evolves next.solver ∧ next.effects = loop.effects ∧
      List.Forall₂ CacheAdvances loop.caches next.caches := by
  obtain ⟨ready, refreshes, rest⟩ := bind_eq_ok.mp iterates
  split at rest
  · cases rest
    obtain ⟨renewed, evolves, effects, refreshed⟩ := refreshTriggers_spec sound refreshes
    refine ⟨renewed, evolves, effects, refreshed.imp ?_⟩
    intro before after one
    exact ⟨one.trigger, one.body, Nat.le_of_eq one.cursor.symm⟩
  · obtain ⟨begun, -, rest⟩ := bind_eq_ok.mp rest
    obtain ⟨processed, -, rest⟩ := bind_eq_ok.mp rest
    cases rest

end MotionLoop

end BlobRoyale.Simulation

/-!
# A solve starts soundly

An accepted body list gives distinct bodies in entity order, each on an epoch that begins with the
tick, and the triggers are bound to them.
-/

namespace BlobRoyale.Simulation

open Passes Transition SolverState

variable {S : Type} [Scalar S] {Effect Facts : Type}

namespace SolverState

section Bodies

variable {bounds : ArenaBounds S} {radius : S}

theorem validateBodies_ascending {subjects : List (ContactSubject S)} {previous : Option EntityId}
    (sorted : subjects.Pairwise fun first second => first.1 ≤ second.1)
    (after : ∀ entity, previous = some entity → ∀ subject ∈ subjects, entity ≤ subject.1)
    (validated : validateBodies bounds radius previous subjects = .ok ()) :
    (∀ entity, previous = some entity → ∀ subject ∈ subjects, entity < subject.1) ∧
      subjects.Pairwise fun first second => first.1 < second.1 := by
  induction subjects generalizing previous with
  | nil =>
    refine ⟨?_, .nil⟩
    intro entity _ subject member
    cases member
  | cons subject rest ih =>
    rw [List.pairwise_cons] at sorted
    rw [validateBodies] at validated
    split at validated
    · cases validated
    · next fresh =>
      split at validated
      · cases validated
      · cases validated
      · obtain ⟨beyond, ascending⟩ := ih sorted.2 (fun entity same other member => by
          cases same
          exact sorted.1 other member) validated
        refine ⟨?_, List.pairwise_cons.mpr ⟨fun other member => beyond _ rfl other member, ascending⟩⟩
        intro entity same other member
        have first : entity < subject.1 := by
          refine lt_of_le_of_ne (after entity same subject List.mem_cons_self) ?_
          intro equal
          exact fresh (equal ▸ same)
        obtain here | later := List.mem_cons.mp member
        · subst here
          exact first
        · exact lt_trans first (beyond _ rfl other later)

theorem sortedSubjects_sorted (input : List (ContactSubject S)) :
    (sortedSubjects input).Pairwise fun first second => first.1 ≤ second.1 := by
  have trans : IsTrans (ContactSubject S) fun first second => first.1 ≤ second.1 :=
    ⟨fun _ _ _ before after => le_trans before after⟩
  have total : Std.Total fun first second : ContactSubject S => first.1 ≤ second.1 :=
    ⟨fun first second => le_total first.1 second.1⟩
  exact List.pairwise_insertionSort _ input

end Bodies

variable [UnitInterval S] {input : List (ContactSubject S)} {context : TickContext S} {limits : MotionLimits}
  {policies : List (EntityId × ContactEffectPolicy)}

/-- A created solver is the unbuilt one with effect policies. -/
structure Created (input : List (ContactSubject S)) (context : TickContext S) (limits : MotionLimits)
    (state : SolverState S (sortedSubjects input).length) : Prop where
  state_eq : state = { unbuilt input context limits with bodies := state.bodies }
  bodies : ∀ index, ∃ policy,
    state.bodies index = { EpochBody.atStart ((sortedSubjects input).get index) with effectPolicy := policy }

theorem assignPolicy_created {pass next : SolverState S (sortedSubjects input).length ×
      List (Fin (sortedSubjects input).length)} {policy : EntityId × ContactEffectPolicy}
    (created : Created input context limits pass.1) (assigned : assignPolicy pass policy = .ok next) :
    Created input context limits next.1 := by
  obtain ⟨index, -, rest⟩ := bind_eq_ok.mp assigned
  split at rest
  · cases rest
  · cases rest
    refine ⟨?_, ?_⟩
    · dsimp only
      rw [created.state_eq]
    · intro other
      dsimp only
      by_cases same : other = index
      · subst same
        obtain ⟨former, body⟩ := created.bodies other
        rw [Function.update_self, body]
        exact ⟨policy.2, rfl⟩
      · rw [Function.update_of_ne same]
        exact created.bodies other

theorem create_eq_ok {state : SolverState S (sortedSubjects input).length}
    (creates : create input context limits policies = .ok state) :
    Created input context limits state ∧
      (sortedSubjects input).Pairwise fun first second => first.1 < second.1 := by
  obtain ⟨_, -, rest⟩ := bind_eq_ok.mp creates
  obtain ⟨_, -, rest⟩ := bind_eq_ok.mp rest
  obtain ⟨⟨⟩, validated, rest⟩ := bind_eq_ok.mp rest
  have ascending := (validateBodies_ascending (sortedSubjects_sorted input) (by
    intro entity impossible
    cases impossible) validated).2
  split at rest
  · cases rest
  · obtain ⟨⟨assigned, taken⟩, folded, rest⟩ := bind_eq_ok.mp rest
    cases rest
    refine ⟨?_, ascending⟩
    exact @foldlM_preserves _ _ _ _ (fun pass => Created input context limits pass.1) policies _ _
      (fun entry _ before after held stepped => assignPolicy_created held stepped)
      ⟨rfl, fun index => ⟨.closingImpact, rfl⟩⟩ folded

omit [UnitInterval S] in
theorem mem_allPairs {count : Nat} {pair : PairCache S count} (member : pair ∈ allPairs count) :
    pair = .unexamined pair.first pair.second := by
  obtain ⟨first, -, inside⟩ := List.mem_flatMap.mp member
  obtain ⟨second, -, same⟩ := List.mem_map.mp inside
  subst same
  rfl

theorem Created.sound {state : SolverState S (sortedSubjects input).length}
    (created : Created input context limits state) : state.Sound := by
  have now : state.now = .start := by rw [created.state_eq]; rfl
  have pairs : state.pairs = allPairs _ := by rw [created.state_eq]; rfl
  have walls : ∀ place, state.walls place = none := by
    intro place
    rw [created.state_eq]
    rfl
  have anchors : ∀ index, (state.bodies index).anchor = .start := by
    intro index
    obtain ⟨policy, body⟩ := created.bodies index
    rw [body]
    rfl
  constructor
  · intro index
    rw [anchors, now]
  · intro pair member event cached
    rw [pairs] at member
    rw [mem_allPairs member] at cached
    cases cached
  · intro place event cached
    rw [walls] at cached
    cases cached
  · intro pair _ _
    rw [anchors, now]
  · intro pair _ _
    rw [anchors, now]
  · intro place _ _
    rw [anchors, now]
  · intro clean
    rw [created.state_eq] at clean
    cases clean

theorem Created.distinct {state : SolverState S (sortedSubjects input).length}
    (created : Created input context limits state)
    (ascending : (sortedSubjects input).Pairwise fun first second => first.1 < second.1) :
    Function.Injective fun index => (state.bodies index).subject.1 := by
  intro first second same
  obtain ⟨firstPolicy, firstBody⟩ := created.bodies first
  obtain ⟨secondPolicy, secondBody⟩ := created.bodies second
  dsimp only at same
  rw [firstBody, secondBody] at same
  rw [List.pairwise_iff_get] at ascending
  obtain before | equal | after := lt_trichotomy first second
  · exact absurd same (ne_of_lt (ascending first second before))
  · exact equal
  · exact absurd same (ne_of_gt (ascending second first after))

end SolverState

namespace MotionLoop

theorem indexOf_eq_ok {count : Nat} {solver : SolverState S count} {entity : EntityId} {index : Fin count}
    (found : solver.indexOf entity = .ok index) : (solver.bodies index).subject.1 = entity := by
  unfold SolverState.indexOf at found
  split at found
  · next other finds =>
    cases found
    simpa only [decide_eq_true_eq] using List.find?_some finds
  · cases found

def Bound {count : Nat} (solver : SolverState S count) (caches : List (TriggerCache S Effect Facts count)) :
    Prop :=
  ∀ cache ∈ caches, SoundCache solver cache ∧ cache.cursor = cache.trigger.initialCursor

theorem bindTrigger_bound {count : Nat} {solver : SolverState S count}
    {caches next : List (TriggerCache S Effect Facts count)} {trigger : MotionTrigger S Effect Facts}
    (bound : Bound solver caches) (binds : bindTrigger solver caches trigger = .ok next) :
    Bound solver next ∧ next.map (·.trigger) = caches.map (·.trigger) ++ [trigger] := by
  unfold bindTrigger at binds
  split at binds
  · cases binds
  · next admitted =>
    split at binds
    · cases binds
    · obtain ⟨body, found, rest⟩ := bind_eq_ok.mp binds
      cases rest
      simp only [Bool.or_eq_true, not_or, decide_eq_true_eq, Nat.not_lt] at admitted
      refine ⟨?_, by simp⟩
      intro cache member
      obtain earlier | same := List.mem_append.mp member
      · exact bound cache earlier
      · rw [List.mem_singleton.mp same]
        refine ⟨⟨(indexOf_eq_ok found).symm, ?_, Nat.le_refl _, admitted.1.1⟩, rfl⟩
        intro key impossible
        cases impossible

theorem bindTriggers_bound {count : Nat} {solver : SolverState S count}
    {caches next : List (TriggerCache S Effect Facts count)} {triggers : List (MotionTrigger S Effect Facts)}
    (bound : Bound solver caches) (binds : triggers.foldlM (bindTrigger solver) caches = .ok next) :
    Bound solver next ∧ next.map (·.trigger) = caches.map (·.trigger) ++ triggers := by
  induction triggers generalizing caches with
  | nil =>
    cases binds
    exact ⟨bound, (List.append_nil _).symm⟩
  | cons trigger rest ih =>
    rw [List.foldlM_cons] at binds
    obtain ⟨middle, first, binds⟩ := bind_eq_ok.mp binds
    obtain ⟨held, named⟩ := bindTrigger_bound bound first
    obtain ⟨final, all⟩ := ih held binds
    refine ⟨final, ?_⟩
    rw [all, named, List.append_assoc, List.singleton_append]

end MotionLoop

section Start

variable [UnitInterval S] {geometry : SolverGeometry S} {input : List (ContactSubject S)}
  {context : TickContext S} {triggers : List (MotionTrigger S Effect Facts)} {limits : MotionLimits}
  {policies : List (EntityId × ContactEffectPolicy)}

/-- What a started solve holds. -/
structure Started (input : List (ContactSubject S)) (triggers : List (MotionTrigger S Effect Facts))
    (limits : MotionLimits) (loop : MotionLoop S Effect Facts (sortedSubjects input).length) : Prop where
  sound : loop.Sound
  limits_eq : loop.solver.limits = limits
  subjects : ∀ index, (loop.solver.bodies index).subject.1 = ((sortedSubjects input).get index).1 ∧
    (loop.solver.bodies index).subject.2.isStatic = ((sortedSubjects input).get index).2.isStatic ∧
    (((sortedSubjects input).get index).2.isStatic = true →
      (loop.solver.bodies index).subject.2.position = ((sortedSubjects input).get index).2.position)
  paths : ∀ path ∈ loop.solver.paths, ∃ index, path.entity = (loop.solver.bodies index).subject.1 ∧
    (loop.solver.bodies index).subject.2.isStatic = false
  events : loop.solver.events = []
  counted : loop.solver.work.events = 0
  effects : loop.effects = []
  triggers_eq : loop.caches.map (·.trigger) = triggers
  cursors : ∀ cache ∈ loop.caches, cache.cursor = cache.trigger.initialCursor

theorem startMotion_eq_ok {loop : MotionLoop S Effect Facts (sortedSubjects input).length}
    (marksOnly : MarksOnly (geometry.broadPhase (sortedSubjects input).length))
    (starts : startMotion geometry input context triggers limits policies = .ok loop) :
    Started input triggers limits loop := by
  obtain ⟨_, -, rest⟩ := bind_eq_ok.mp starts
  obtain ⟨created, creates, rest⟩ := bind_eq_ok.mp rest
  obtain ⟨solver, rebuilds, rest⟩ := bind_eq_ok.mp rest
  obtain ⟨caches, binds, rest⟩ := bind_eq_ok.mp rest
  cases rest
  obtain ⟨made, ascending⟩ := create_eq_ok creates
  obtain ⟨sound, evolves, clean⟩ := made.sound.rebuild marksOnly rebuilds
  have nobody : MotionLoop.Bound solver ([] : List (TriggerCache S Effect Facts _)) := by
    intro cache member
    cases member
  obtain ⟨bound, named⟩ := MotionLoop.bindTriggers_bound nobody binds
  constructor
  · refine ⟨sound, clean, ?_, fun cache member => (bound cache member).1⟩
    intro first second same
    refine made.distinct ascending ?_
    dsimp only at same ⊢
    rw [← evolves.entities, ← evolves.entities]
    exact same
  · dsimp only
    rw [evolves.limits, made.state_eq]
    rfl
  · intro index
    obtain ⟨policy, body⟩ := made.bodies index
    dsimp only
    rw [evolves.entities, evolves.isStatic, body]
    refine ⟨rfl, rfl, ?_⟩
    intro static
    rw [evolves.unmoved index (by rw [body]; exact static), body]
    rfl
  · intro path member
    obtain earlier | ⟨index, named, moves⟩ := evolves.paths path member
    · rw [made.state_eq] at earlier
      cases earlier
    · exact ⟨index, named.trans (evolves.entities index).symm, (evolves.isStatic index).trans moves⟩
  · dsimp only
    rw [evolves.events, made.state_eq]
    rfl
  · dsimp only
    rw [evolves.eventCount, made.state_eq]
    rfl
  · rfl
  · exact named
  · exact fun cache member => (bound cache member).2

end Start

end BlobRoyale.Simulation
