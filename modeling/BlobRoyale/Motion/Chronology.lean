import BlobRoyale.Motion.SolverStart
import BlobRoyale.Simulation.GameSimulation

/-!
# Chronology and termination of a solve

Over every solve: the loop ends within its event budget, its events and effects are in order of time,
triggers only progress, a terminated body is out of every later event, and a static body never moves.
-/

namespace BlobRoyale.Simulation

open Passes Transition SolverState

variable {S : Type} [Scalar S] {Effect Facts : Type} {count : Nat}

/-- The effects of events, in the events' order. -/
def orderedEffects (events : List (MotionEventKey S)) (emitted : List (List Effect)) :
    List (OrderedMotionEffect S Effect) :=
  (List.zipWith (fun key effects => effects.map fun effect => ⟨key, effect⟩) events emitted).flatten

namespace MotionLoop

variable {problem : MotionProblem S Effect Facts} {start loop next final : MotionLoop S Effect Facts count}
  {key : MotionEventKey S}

/-- What a loop has recorded since its start. -/
structure Chronicle (start loop : MotionLoop S Effect Facts count) : Prop where
  sound : loop.Sound
  descends : start.solver.Descends loop.solver
  sorted : (loop.solver.events.map (·.time)).Pairwise (· ≤ ·)
  past : ∀ key ∈ loop.solver.events, key.time ≤ loop.solver.now
  effects : ∃ emitted : List (List Effect), emitted.length = loop.solver.events.length ∧
    loop.effects = orderedEffects loop.solver.events emitted
  caches : List.Forall₂ CacheAdvances start.caches loop.caches

theorem Chronicle.advance (chronicle : Chronicle start loop) (advances : Advances loop key next) :
    Chronicle start next := by
  obtain ⟨emitted, counted, ordered⟩ := chronicle.effects
  obtain ⟨latest, appended⟩ := advances.effects
  constructor
  · exact advances.sound
  · exact chronicle.descends.trans advances.descends
  · rw [advances.events, List.map_append, List.pairwise_append]
    refine ⟨chronicle.sorted, List.pairwise_singleton _ _, ?_⟩
    intro earlier member later last
    obtain ⟨event, inside, same⟩ := List.mem_map.mp member
    rw [List.map_singleton, List.mem_singleton] at last
    subst same last
    exact le_trans (chronicle.past event inside) advances.ahead
  · rw [advances.events, advances.now]
    intro event member
    obtain earlier | same := List.mem_append.mp member
    · exact le_trans (chronicle.past event earlier) advances.ahead
    · rw [List.mem_singleton.mp same]
  · refine ⟨emitted ++ [latest], ?_, ?_⟩
    · rw [advances.events, List.length_append, List.length_append, counted]
      rfl
    · rw [advances.events, appended, ordered, orderedEffects, orderedEffects,
        List.zipWith_append counted.symm, List.flatten_append]
      simp
  · exact forall₂_trans chronicle.caches advances.caches

variable [UnitInterval S] {queries : SolverQueries S count}

theorem Chronicle.finished (chronicle : Chronicle start loop)
    (iterates : loop.iterate problem queries = .ok (.finished final)) : Chronicle start final := by
  obtain ⟨sound, evolves, effects, caches⟩ := iterate_finished chronicle.sound iterates
  constructor
  · exact sound
  · exact chronicle.descends.trans evolves.toDescends
  · rw [evolves.events]
    exact chronicle.sorted
  · rw [evolves.events, evolves.now]
    exact chronicle.past
  · rw [evolves.events, effects]
    exact chronicle.effects
  · exact forall₂_trans chronicle.caches caches

theorem Chronicle.iterations (chronicle : Chronicle start loop) (marksOnly : MarksOnly queries.broadPhase)
    {fuel : Nat} (ends : loop.iterations problem queries fuel = .ok (some final)) : Chronicle start final := by
  induction fuel generalizing loop with
  | zero => cases ends
  | succ fuel ih =>
    rw [MotionLoop.iterations] at ends
    obtain ⟨progress, iterates, ends⟩ := bind_eq_ok.mp ends
    cases progress with
    | finished ready =>
      cases ends
      exact chronicle.finished iterates
    | advanced key next => exact ih (chronicle.advance (iterate_advanced chronicle.sound marksOnly iterates)) ends

theorem Sound.iterations_suffice (sound : loop.Sound) (marksOnly : MarksOnly queries.broadPhase) {fuel : Nat}
    (enough : loop.solver.limits.events - loop.solver.work.events < fuel) :
    loop.iterations problem queries fuel ≠ .ok none := by
  induction fuel generalizing loop with
  | zero => omega
  | succ fuel ih =>
    intro exhausted
    rw [MotionLoop.iterations] at exhausted
    obtain ⟨progress, iterates, exhausted⟩ := bind_eq_ok.mp exhausted
    cases progress with
    | finished ready => cases exhausted
    | advanced key next =>
      have advances := iterate_advanced sound marksOnly iterates
      have counted := advances.counted
      have within := advances.within
      refine ih advances.sound ?_ exhausted
      rw [advances.descends.limits]
      omega

def Step (problem : MotionProblem S Effect Facts) (queries : SolverQueries S count)
    (before : MotionLoop S Effect Facts count) (key : MotionEventKey S)
    (after : MotionLoop S Effect Facts count) : Prop :=
  before.iterate problem queries = .ok (.advanced key after)

section Runs

variable {length : Nat} (run : Run (Step problem queries) length) (sound : (run.state 0).Sound)
  (marksOnly : MarksOnly queries.broadPhase)

include sound marksOnly

theorem run_sound : ∀ position, position ≤ length → (run.state position).Sound :=
  run.invariant (P := fun loop => loop.Sound) sound
    fun holds stepped => (iterate_advanced holds marksOnly stepped).sound

theorem run_advances (position : Nat) (within : position < length) :
    Advances (run.state position) (run.label position) (run.state (position + 1)) :=
  iterate_advanced (run_sound run sound marksOnly position (Nat.le_of_lt within)) marksOnly
    (run.steps position within)

theorem run_descends {first last : Nat} (ordered : first ≤ last) (within : last ≤ length) :
    (run.state first).solver.Descends (run.state last).solver ∧
      List.Forall₂ CacheAdvances (run.state first).caches (run.state last).caches := by
  refine run.persists (P := fun loop => (run.state first).solver.Descends loop.solver ∧
    List.Forall₂ CacheAdvances (run.state first).caches loop.caches) ordered within ?_ ?_
  · exact ⟨.refl _, List.forall₂_same.mpr fun cache _ => .refl cache⟩
  · intro position lower upper held _
    have advances := run_advances run sound marksOnly position (by omega)
    exact ⟨held.1.trans advances.descends, forall₂_trans held.2 advances.caches⟩

theorem run_terminal {first last : Nat} (ordered : first ≤ last) (within : last < length) {index : Fin count}
    (terminated : ((run.state first).solver.bodies index).disposition = .terminate) :
    ¬ (run.label last).Involves ((run.state 0).solver.bodies index).subject.1 := by
  have descends := (run_descends run sound marksOnly ordered (Nat.le_of_lt within)).1
  have still := descends.terminal index terminated
  rw [← (run_descends run sound marksOnly (Nat.zero_le last) (Nat.le_of_lt within)).1.entities index]
  exact (run_advances run sound marksOnly last within).live index (still ▸ terminated)

end Runs

end MotionLoop

section Finish

variable [UnitInterval S] {state moved : SolverState S count}

/-- A body carried to the end of the tick, static ones where they were. -/
def CarriesTo (state : SolverState S count) (index : Fin count) (resolved : MotionResolvedBody S) : Prop :=
  resolved.entity = (state.bodies index).subject.1 ∧
    ((state.bodies index).subject.2.isStatic = true →
      resolved.result.body.position = (state.bodies index).subject.2.position)

theorem resolveBody_eq_ok {pass next : SolverState S count × List (MotionResolvedBody S)} {index : Fin count}
    (resolves : SolverState.resolveBody pass index = .ok next) :
    ∃ resolved paths, next = ({ pass.1 with paths := paths }, pass.2 ++ [resolved]) ∧
      CarriesTo pass.1 index resolved ∧ ∀ path ∈ paths, path ∈ pass.1.paths ∨
        (path.entity = (pass.1.bodies index).subject.1 ∧
          (pass.1.bodies index).subject.2.isStatic = false) := by
  unfold resolveBody at resolves
  dsimp only at resolves
  have moves : ∃ moved paths, moved = { pass.1 with paths := paths } ∧
      (∀ path ∈ paths, path ∈ pass.1.paths ∨ (path.entity = (pass.1.bodies index).subject.1 ∧
        (pass.1.bodies index).subject.2.isStatic = false)) ∧ ∃ final, moved.subjectAt index .finish = .ok final ∧
          next = (moved, pass.2 ++ [⟨(pass.1.bodies index).subject.1,
            ⟨final.2, (pass.1.bodies index).disposition⟩⟩]) := by
    split at resolves
    · obtain ⟨moved, moves, rest⟩ := bind_eq_ok.mp resolves
      obtain ⟨final, evaluated, rest⟩ := bind_eq_ok.mp rest
      cases rest
      obtain ⟨paths, same, fresh⟩ := SolverState.addPath_eq_ok moves
      exact ⟨moved, paths, same, fresh, final, evaluated, rfl⟩
    · obtain ⟨moved, same, rest⟩ := bind_eq_ok.mp resolves
      cases same
      obtain ⟨final, evaluated, rest⟩ := bind_eq_ok.mp rest
      cases rest
      exact ⟨pass.1, pass.1.paths, rfl, fun path member => .inl member, final, evaluated, rfl⟩
  obtain ⟨moved, paths, same, fresh, final, evaluated, rest⟩ := moves
  subst same rest
  obtain ⟨-, -, fixed⟩ := SolverState.subjectAt_eq_ok evaluated
  refine ⟨_, paths, rfl, ⟨rfl, ?_⟩, fresh⟩
  intro static
  dsimp only
  rw [fixed static]

theorem resolveBodies_spec {indices : List (Fin count)} {pass next : SolverState S count × List (MotionResolvedBody S)}
    (resolves : indices.foldlM SolverState.resolveBody pass = .ok next) :
    ∃ resolved paths, next = ({ pass.1 with paths := paths }, pass.2 ++ resolved) ∧
      List.Forall₂ (CarriesTo pass.1) indices resolved ∧ ∀ path ∈ paths, path ∈ pass.1.paths ∨ ∃ index,
        path.entity = (pass.1.bodies index).subject.1 ∧ (pass.1.bodies index).subject.2.isStatic = false := by
  induction indices generalizing pass with
  | nil =>
    cases resolves
    exact ⟨[], next.1.paths, by rw [List.append_nil], .nil, fun path member => .inl member⟩
  | cons index rest ih =>
    rw [List.foldlM_cons] at resolves
    obtain ⟨middle, first, resolves⟩ := bind_eq_ok.mp resolves
    obtain ⟨resolved, paths, same, carried, fresh⟩ := resolveBody_eq_ok first
    subst same
    obtain ⟨others, final, result, carries, added⟩ := ih resolves
    refine ⟨resolved :: others, final, ?_, .cons carried carries, ?_⟩
    · rw [result, List.append_assoc, List.singleton_append]
    · intro path member
      obtain earlier | ⟨other, named, moves⟩ := added path member
      · obtain before | ⟨named, moves⟩ := fresh path earlier
        · exact .inl before
        · exact .inr ⟨index, named, moves⟩
      · exact .inr ⟨other, named, moves⟩

theorem finish_eq_ok {result : MotionGeometryResult S} (finishes : state.finish = .ok result) :
    List.Forall₂ (CarriesTo state) (List.finRange count) result.bodies ∧ result.events = state.events ∧
      ∀ path ∈ result.paths, path ∈ state.paths ∨ ∃ index,
        path.entity = (state.bodies index).subject.1 ∧ (state.bodies index).subject.2.isStatic = false := by
  obtain ⟨⟨moved, bodies⟩, folded, rest⟩ := bind_eq_ok.mp finishes
  obtain ⟨resolved, paths, same, carries, added⟩ := resolveBodies_spec folded
  cases same
  cases rest
  exact ⟨carries, rfl, added⟩

end Finish

section Solve

variable [UnitInterval S] (circle : CircleSweepQuery S) (problem : MotionProblem S Effect Facts)
  (input : List (ContactSubject S)) (triggers : List (MotionTrigger S Effect Facts)) (limits : MotionLimits)
  (policies : List (EntityId × ContactEffectPolicy))

/-- The solver with its sweep-and-prune broad phase. -/
def sweptGeometry (circle : CircleSweepQuery S) : SolverGeometry S := ⟨circle, fun _ => SolverState.sweepAndPrune⟩

/-- What a returned solve recorded. -/
structure SolvedMotion.Chronological (solved : SolvedMotion S Effect) (input : List (ContactSubject S))
    (triggers : List (MotionTrigger S Effect Facts)) : Prop where
  sorted : (solved.motion.events.map (·.time)).Pairwise (· ≤ ·)
  effects : ∃ emitted : List (List Effect), emitted.length = solved.motion.events.length ∧
    solved.effects = orderedEffects solved.motion.events emitted
  cursors : List.Forall₂ (fun trigger cursor => trigger.initialCursor ≤ cursor ∧ cursor ≤ trigger.cursorLimit)
    triggers solved.triggerCursors
  statics : List.Forall₂ (fun subject resolved => resolved.entity = subject.1 ∧
    (subject.2.isStatic = true → resolved.result.body.position = subject.2.position))
      (SolverState.sortedSubjects input) solved.motion.bodies
  paths : ∀ path ∈ solved.motion.paths, ∃ subject ∈ input,
    path.entity = subject.1 ∧ subject.2.isStatic = false

variable {circle problem input triggers limits policies}

omit [UnitInterval S] in
theorem Started.chronicle {loop : MotionLoop S Effect Facts (SolverState.sortedSubjects input).length}
    (started : Started input triggers limits loop) : MotionLoop.Chronicle loop loop := by
  refine ⟨started.sound, .refl _, ?_, ?_, ⟨[], ?_, ?_⟩, List.forall₂_same.mpr fun cache _ => .refl cache⟩
  · rw [started.events]
    exact .nil
  · rw [started.events]
    intro key member
    cases member
  · rw [started.events]
    rfl
  · rw [started.events, started.effects]
    rfl

theorem Started.chronological {start final : MotionLoop S Effect Facts (SolverState.sortedSubjects input).length}
    (started : Started input triggers limits start) (chronicle : MotionLoop.Chronicle start final)
    {solved : SolvedMotion S Effect} (solves : final.solved = .ok solved) : solved.Chronological input triggers := by
  obtain ⟨motion, finishes, rest⟩ := bind_eq_ok.mp solves
  cases rest
  obtain ⟨carries, events, added⟩ := finish_eq_ok finishes
  have descends := chronicle.descends
  constructor
  · dsimp only
    rw [events]
    exact chronicle.sorted
  · dsimp only
    rw [events]
    exact chronicle.effects
  · dsimp only
    rw [← started.triggers_eq, List.forall₂_map_left_iff, List.forall₂_map_right_iff]
    refine List.forall₂_iff_zip.mpr ⟨chronicle.caches.length_eq, ?_⟩
    intro before after member
    have advances := (List.forall₂_iff_zip.mp chronicle.caches).2 member
    have one := chronicle.sound.caches after (List.of_mem_zip member).2
    have cursor := one.cursor
    rw [advances.trigger] at cursor
    exact cursor
  · dsimp only
    have listed : SolverState.sortedSubjects input =
        (List.finRange (SolverState.sortedSubjects input).length).map (SolverState.sortedSubjects input).get := by
      rw [List.map_get_finRange]
    rw [listed, List.forall₂_map_left_iff]
    refine carries.imp ?_
    rintro index resolved ⟨entity, fixed⟩
    obtain ⟨named, static, position⟩ := started.subjects index
    refine ⟨entity.trans ((descends.entities index).trans named), ?_⟩
    intro still
    rw [fixed ((descends.isStatic index).trans (static.trans still)),
      descends.unmoved index (static.trans still)]
    exact position still
  · intro path member
    have moving : ∃ index, path.entity = (start.solver.bodies index).subject.1 ∧
        (start.solver.bodies index).subject.2.isStatic = false := by
      obtain earlier | ⟨index, named, moves⟩ := added path member
      · obtain before | moved := descends.paths path earlier
        · exact started.paths path before
        · exact moved
      · exact ⟨index, named.trans (descends.entities index), (descends.isStatic index).symm.trans moves⟩
    obtain ⟨index, named, moves⟩ := moving
    obtain ⟨entity, static, -⟩ := started.subjects index
    refine ⟨(SolverState.sortedSubjects input).get index, ?_, named.trans entity, static.symm.trans moves⟩
    exact (List.mem_insertionSort _).mp (List.get_mem _ index)

theorem MotionLoop.iterations_run {problem : MotionProblem S Effect Facts} {queries : SolverQueries S count}
    {loop final : MotionLoop S Effect Facts count} {fuel : Nat}
    (ends : loop.iterations problem queries fuel = .ok (some final)) :
    ∃ length, length < fuel ∧ ∃ run : Run (MotionLoop.Step problem queries) length, run.state 0 = loop ∧
      (run.state length).iterate problem queries = .ok (.finished final) := by
  induction fuel generalizing loop with
  | zero => cases ends
  | succ fuel ih =>
    rw [MotionLoop.iterations] at ends
    obtain ⟨progress, iterates, ends⟩ := bind_eq_ok.mp ends
    cases progress with
    | finished ready =>
      cases ends
      exact ⟨0, Nat.succ_pos fuel, .empty loop default, rfl, iterates⟩
    | advanced key next =>
      obtain ⟨length, shorter, run, starts, finishes⟩ := ih ends
      exact ⟨length + 1, Nat.succ_lt_succ shorter, run.cons (starts ▸ iterates), rfl, finishes⟩

/-- What every run of a solve's loop keeps. -/
structure MotionLoop.RunChronological (problem : MotionProblem S Effect Facts) (queries : SolverQueries S count)
    {length : Nat} (run : Run (MotionLoop.Step problem queries) length) : Prop where
  ahead : ∀ position, position ≤ length → ∀ ready selection,
    (run.state position).refreshTriggers problem = .ok ready → ready.select = some selection →
      ready.solver.now ≤ selection.key.time
  cursors : ∀ first last, first ≤ last → last ≤ length → List.Forall₂
    (fun before after => after.trigger = before.trigger ∧ before.trigger.initialCursor ≤ before.cursor ∧
      before.cursor ≤ after.cursor ∧ after.cursor ≤ after.trigger.cursorLimit)
    (run.state first).caches (run.state last).caches
  terminal : ∀ first last, first ≤ last → last < length → ∀ index,
    ((run.state first).solver.bodies index).disposition = .terminate →
      ¬ (run.label last).Involves ((run.state 0).solver.bodies index).subject.1
  events : (run.state length).solver.events =
    (run.state 0).solver.events ++ (List.range length).map run.label
  budget : length ≤ (run.state 0).solver.limits.events - (run.state 0).solver.work.events

theorem MotionLoop.Sound.runChronological {problem : MotionProblem S Effect Facts}
    {queries : SolverQueries S count} {length : Nat} {run : Run (MotionLoop.Step problem queries) length}
    (sound : (run.state 0).Sound) (marksOnly : MarksOnly queries.broadPhase) :
    MotionLoop.RunChronological problem queries run := by
  have sounds := MotionLoop.run_sound run sound marksOnly
  constructor
  · intro position within ready selection refreshes selects
    obtain ⟨renewed, -, -, -⟩ := MotionLoop.refreshTriggers_spec (sounds position within) refreshes
    exact renewed.selected_ahead (MotionLoop.select_selects selects)
  · intro first last ordered within
    obtain ⟨-, caches⟩ := MotionLoop.run_descends run sound marksOnly ordered within
    refine List.forall₂_iff_zip.mpr ⟨caches.length_eq, ?_⟩
    intro before after member
    have advances := (List.forall₂_iff_zip.mp caches).2 member
    have earlier := (sounds first (by omega)).caches before (List.of_mem_zip member).1
    have later := (sounds last within).caches after (List.of_mem_zip member).2
    exact ⟨advances.trigger, earlier.cursor.1, advances.cursor, later.cursor.2⟩
  · intro first last ordered within index terminated
    exact MotionLoop.run_terminal run sound marksOnly ordered within terminated
  · have appended : ∀ position, position ≤ length → (run.state position).solver.events =
        (run.state 0).solver.events ++ (List.range position).map run.label := by
      intro position within
      induction position with
      | zero => exact (List.append_nil _).symm
      | succ position ih =>
        rw [(MotionLoop.run_advances run sound marksOnly position within).events, ih (Nat.le_of_lt within),
          List.range_succ, List.map_append, List.append_assoc]
        rfl
    exact appended length (Nat.le_refl length)
  · have counted : ∀ position, position ≤ length →
        (run.state position).solver.work.events = (run.state 0).solver.work.events + position := by
      intro position within
      induction position with
      | zero => rfl
      | succ position ih =>
        rw [(MotionLoop.run_advances run sound marksOnly position within).counted, ih (Nat.le_of_lt within)]
        omega
    cases length with
    | zero => exact Nat.zero_le _
    | succ last =>
      have advances := MotionLoop.run_advances run sound marksOnly last (Nat.lt_succ_self last)
      have descends := (MotionLoop.run_descends run sound marksOnly (Nat.zero_le last) (Nat.le_succ last)).1
      have within := advances.within
      rw [counted (last + 1) (Nat.le_refl _), descends.limits] at within
      omega

/-- The loop of a solve ends, what it returns is chronological, and so is every run of it. -/
theorem solver_chronology_and_termination (circle : CircleSweepQuery S)
    (problem : MotionProblem S Effect Facts) (input : List (ContactSubject S))
    (triggers : List (MotionTrigger S Effect Facts)) (limits : MotionLimits)
    (policies : List (EntityId × ContactEffectPolicy)) :
    solveMotionWithin (limits.events + 1) (sweptGeometry circle) problem input triggers limits policies ≠ .ok none ∧
      (∀ fuel solved,
        solveMotionWithin fuel (sweptGeometry circle) problem input triggers limits policies = .ok (some solved) →
          solved.Chronological input triggers ∧ ∃ start,
            startMotion (sweptGeometry circle) input problem.context triggers limits policies = .ok start ∧
              ∃ length, length ≤ limits.events ∧ ∃ run : Run (MotionLoop.Step problem
                ((sweptGeometry circle).queries (SolverState.sortedSubjects input).length)) length,
                  run.state 0 = start ∧ solved.motion.events = (List.range length).map run.label) ∧
      ∀ start, startMotion (sweptGeometry circle) input problem.context triggers limits policies = .ok start →
        ∀ length (run : Run (MotionLoop.Step problem
          ((sweptGeometry circle).queries (SolverState.sortedSubjects input).length)) length),
            run.state 0 = start → MotionLoop.RunChronological problem
              ((sweptGeometry circle).queries (SolverState.sortedSubjects input).length) run := by
  have marksOnly : MarksOnly ((sweptGeometry circle).queries (SolverState.sortedSubjects input).length).broadPhase :=
    SolverState.sweepAndPrune_marksOnly
  refine ⟨?_, ?_, ?_⟩
  · intro exhausted
    obtain ⟨start, starts, rest⟩ := bind_eq_ok.mp exhausted
    obtain ⟨reached, iterates, rest⟩ := bind_eq_ok.mp rest
    have started := startMotion_eq_ok marksOnly starts
    cases reached with
    | none =>
      refine started.sound.iterations_suffice marksOnly ?_ iterates
      rw [started.limits_eq]
      omega
    | some final =>
      obtain ⟨solved, -, impossible⟩ := bind_eq_ok.mp rest
      cases impossible
  · intro fuel solved solves
    obtain ⟨start, starts, rest⟩ := bind_eq_ok.mp solves
    obtain ⟨reached, iterates, rest⟩ := bind_eq_ok.mp rest
    have started := startMotion_eq_ok marksOnly starts
    cases reached with
    | none => cases rest
    | some final =>
      obtain ⟨returned, finishes, same⟩ := bind_eq_ok.mp rest
      cases same
      have chronicle := started.chronicle.iterations marksOnly iterates
      obtain ⟨length, shorter, run, starting, ends⟩ := MotionLoop.iterations_run iterates
      have sound : (run.state 0).Sound := starting ▸ started.sound
      have chronological := sound.runChronological marksOnly
      obtain ⟨-, evolves, -, -⟩ := MotionLoop.iterate_finished
        (MotionLoop.run_sound run sound marksOnly length (Nat.le_refl length)) ends
      have listed := evolves.events.trans chronological.events
      rw [starting, started.events, List.nil_append] at listed
      have budget := chronological.budget
      rw [starting, started.limits_eq, started.counted] at budget
      refine ⟨started.chronological chronicle finishes, start, starts, length, budget, run, starting, ?_⟩
      · obtain ⟨motion, moves, same⟩ := bind_eq_ok.mp finishes
        cases same
        exact (finish_eq_ok moves).2.1.trans listed
  · intro start starts length run starting
    have started := startMotion_eq_ok marksOnly starts
    exact (starting ▸ started.sound : (run.state 0).Sound).runChronological marksOnly

section StillArena

/-- A circle query that finds every start apart and every line stationary. -/
def stillCircle : CircleSweepQuery ℚ := fun _ _ _ _ => .ok ⟨[], .outside, .stationary, .orthogonal, false⟩

/-- An empty one-cell arena whose contacts change nothing. -/
def stillProblem : MotionProblem ℚ Unit Unit where
  world := .empty 0
  context := ⟨.zero, GameSimulation.oneCell, ⟨"square", GameSimulation.squareArena, [], [], fun _ _ => .ok true⟩,
    ⟨GameSimulation.oneCell, GameSimulation.squareArena, [[]], []⟩⟩
  facts := ()
  pairResponse _ first second _ _ _ := .ok ⟨⟨first.2, .continues⟩, ⟨second.2, .continues⟩, []⟩

theorem solver_chronology_and_termination_still :
    solveMotionWithin (MotionLimits.ceilings.events + 1) (sweptGeometry stillCircle) stillProblem [] [] .ceilings []
      ≠ .ok none :=
  (solver_chronology_and_termination stillCircle stillProblem [] [] .ceilings []).1

end StillArena

end Solve

end BlobRoyale.Simulation
