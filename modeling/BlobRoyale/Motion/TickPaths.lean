import BlobRoyale.Motion.PathLedger

/-!
# The paths of a tick

Over every solve that returns: the segments of each body in motion account for the whole tick, or for the part of it
up to the event that terminated the body.
-/

namespace BlobRoyale.Simulation

open Passes Transition SolverState Itinerary

variable {S : Type} [Scalar S] {Effect Facts : Type} {count : Nat}

section Termination

variable {begun state next : SolverState S count} {index : Fin count}

/-- While no other event begins, whatever ends does so now. -/
structure EndsNow (begun state : SolverState S count) : Prop where
  later : begun.events.length ≤ state.events.length
  now : state.events.length = begun.events.length → state.now = begun.now
  ended : state.events.length = begun.events.length → ∀ index, (state.bodies index).disposition = .terminate →
    (begun.bodies index).disposition = .terminate ∨ (state.bodies index).anchor = begun.now

theorem EndsNow.of_frame (ends : EndsNow begun state) (bodies : next.bodies = state.bodies)
    (now : next.now = state.now) (events : next.events = state.events) : EndsNow begun next := by
  refine ⟨?_, ?_, ?_⟩
  · rw [events]
    exact ends.later
  · rw [events, now]
    exact ends.now
  · rw [events, bodies]
    exact ends.ended

variable [UnitInterval S] {queries : SolverQueries S count}

theorem EndsNow.move (marksOnly : MarksOnly queries.broadPhase) (ends : EndsNow begun state)
    (move : SolverMove queries state next) : EndsNow begun next := by
  cases move with
  | worked work => exact ends.of_frame rfl rfl rfl
  | begun key next clean begins =>
    obtain ⟨-, -, result⟩ := beginEvent_eq_ok begins
    subst result
    have later := ends.later
    refine ⟨?_, ?_, ?_⟩
    · rw [List.length_append]
      omega
    · intro same
      rw [List.length_append, List.length_singleton] at same
      omega
    · intro same
      rw [List.length_append, List.length_singleton] at same
      omega
  | replaced index replacement next live replaces =>
    cases replace_eq_ok replaces with
    | changed position velocity acceleration disposition paths placed added result =>
      subst result
      refine ⟨ends.later, ends.now, ?_⟩
      intro same other
      by_cases here : other = index
      · subst here
        simp only [Function.update_self]
        exact fun _ => .inr (ends.now same)
      · simp only [Function.update_of_ne here]
        exact ends.ended same other
    | kept velocity acceleration unchanged result =>
      subst result
      refine ⟨ends.later, ends.now, ?_⟩
      intro same other
      by_cases here : other = index
      · subst here
        simp only [Function.update_self]
        exact ends.ended same other
      · simp only [Function.update_of_ne here]
        exact ends.ended same other
  | consumed place => exact ends.of_frame rfl rfl rfl
  | suppressed event secondIndex => exact ends.of_frame rfl rfl rfl
  | rebuilt next rebuilds =>
    obtain ⟨bodies, now, -, -, events⟩ := rebuild_keeps marksOnly rebuilds
    exact ends.of_frame bodies now events

end Termination

variable [UnitInterval S]

namespace MotionLoop

variable {problem : MotionProblem S Effect Facts} {queries : SolverQueries S count}
  {loop next final : MotionLoop S Effect Facts count} {key : MotionEventKey S} {index : Fin count}

theorem iterate_terminates (sound : loop.Sound) (marksOnly : MarksOnly queries.broadPhase)
    (iterates : loop.iterate problem queries = .ok (.advanced key next))
    (live : (loop.solver.bodies index).disposition = .continues)
    (ended : (next.solver.bodies index).disposition = .terminate) :
    (next.solver.bodies index).anchor = key.time := by
  obtain ⟨work, begun, begins, moves⟩ := iterate_begins sound iterates
  obtain ⟨-, -, result⟩ := beginEvent_eq_ok begins
  have same : next.solver.events.length = begun.events.length := by
    rw [(iterate_advanced sound marksOnly iterates).events, result]
  have ends : EndsNow begun next.solver := by
    refine moves.preserves (fun _ _ held move => held.move marksOnly move) ?_
    exact ⟨le_refl _, fun _ => rfl, fun _ _ terminated => .inl terminated⟩
  have started : (begun.bodies index).disposition = .continues := by
    rw [result]
    exact live
  obtain before | now := ends.ended same index ended
  · rw [started] at before
    cases before
  · rw [now, result]

/-- The run terminates a body at a time: that of the event over which it stopped being live. -/
def TerminatesAt {length : Nat} (run : Run (Step problem queries) length) (index : Fin count)
    (close : MotionTime S) : Prop :=
  ∃ position, position < length ∧ ((run.state position).solver.bodies index).disposition = .continues ∧
    ((run.state (position + 1)).solver.bodies index).disposition = .terminate ∧
      (run.label position).time = close

theorem run_terminates {length : Nat} (run : Run (Step problem queries) length) (sound : (run.state 0).Sound)
    (marksOnly : MarksOnly queries.broadPhase) (live : ((run.state 0).solver.bodies index).disposition = .continues)
    (ended : ((run.state length).solver.bodies index).disposition = .terminate) :
    TerminatesAt run index ((run.state length).solver.bodies index).anchor := by
  obtain ⟨position, -, within, before, lost⟩ := run.exists_loss
    (P := fun loop => (loop.solver.bodies index).disposition = .continues) (Nat.zero_le length) (Nat.le_refl length)
    live (by rw [ended]; exact fun impossible => by cases impossible)
  have terminated : ((run.state (position + 1)).solver.bodies index).disposition = .terminate := by
    cases disposition : ((run.state (position + 1)).solver.bodies index).disposition with
    | continues => exact absurd disposition lost
    | terminate => rfl
  have kept := (run_descends run sound marksOnly within (Nat.le_refl length)).1.terminal index terminated
  refine ⟨position, within, before, terminated, ?_⟩
  rw [kept]
  exact (iterate_terminates (run_sound run sound marksOnly position (Nat.le_of_lt within)) marksOnly
    (run.steps position within) before terminated).symm

theorem run_recorded {length : Nat} (run : Run (Step problem queries) length) (sound : (run.state 0).Sound)
    (marksOnly : MarksOnly queries.broadPhase) {origins : Fin count → Vector2 S}
    (recorded : Recorded origins (run.state 0).solver) : Recorded origins (run.state length).solver := by
  have both := run.invariant (P := fun loop => loop.Sound ∧ Recorded origins loop.solver) ⟨sound, recorded⟩
    fun held stepped => ⟨(iterate_advanced held.1 marksOnly stepped).sound,
      (iterate_moves held.1 stepped).preserves (fun _ _ before move => before.move marksOnly move) held.2⟩
  exact (both length (Nat.le_refl length)).2

theorem iterate_finished_solver (iterates : loop.iterate problem queries = .ok (.finished final)) :
    final.solver = { loop.solver with work := final.solver.work } := by
  obtain ⟨ready, refreshes, rest⟩ := bind_eq_ok.mp iterates
  obtain ⟨⟨left, caches⟩, -, ready⟩ := bind_eq_ok.mp refreshes
  cases ready
  split at rest
  · cases rest
    rfl
  · obtain ⟨_, -, rest⟩ := bind_eq_ok.mp rest
    obtain ⟨_, -, rest⟩ := bind_eq_ok.mp rest
    cases rest

end MotionLoop

section Solve

variable {problem : MotionProblem S Effect Facts} {input : List (ContactSubject S)}
  {triggers : List (MotionTrigger S Effect Facts)} {limits : MotionLimits}
  {policies : List (EntityId × ContactEffectPolicy)} {geometry : SolverGeometry S} {context : TickContext S}

theorem startMotion_fresh {loop : MotionLoop S Effect Facts (sortedSubjects input).length}
    (marksOnly : MarksOnly (geometry.broadPhase (sortedSubjects input).length))
    (starts : startMotion geometry input context triggers limits policies = .ok loop) :
    loop.solver.paths = [] ∧ ∀ index, ∃ policy, loop.solver.bodies index =
      { EpochBody.atStart ((sortedSubjects input).get index) with effectPolicy := policy } := by
  obtain ⟨_, -, rest⟩ := bind_eq_ok.mp starts
  obtain ⟨created, creates, rest⟩ := bind_eq_ok.mp rest
  obtain ⟨solver, rebuilds, rest⟩ := bind_eq_ok.mp rest
  obtain ⟨caches, -, rest⟩ := bind_eq_ok.mp rest
  cases rest
  obtain ⟨made, -⟩ := create_eq_ok creates
  obtain ⟨bodies, -, -, paths, -⟩ := rebuild_keeps marksOnly rebuilds
  dsimp only
  rw [paths, bodies, made.state_eq]
  exact ⟨rfl, made.bodies⟩

theorem Started.recorded {loop : MotionLoop S Effect Facts (sortedSubjects input).length}
    (started : Started input triggers limits loop) (unrecorded : loop.solver.paths = [])
    (fresh : ∀ index, ∃ policy, loop.solver.bodies index =
      { EpochBody.atStart ((sortedSubjects input).get index) with effectPolicy := policy }) :
    Recorded (fun index => ((sortedSubjects input).get index).2.position) loop.solver := by
  refine ⟨started.sound.distinct, ?_, ?_, ?_⟩
  · rw [unrecorded]
    intro segment member
    cases member
  · rw [unrecorded]
    exact fun _ _ => rfl
  · rw [unrecorded]
    intro index _
    obtain ⟨policy, body⟩ := fresh index
    rw [epochPoint, body]
    exact .stay _

/-- What the segments of one body in motion account for. -/
structure AccountsFor (segments : List (MotionPathSegment S)) (origin final : Vector2 S) (close : MotionTime S) :
    Prop where
  begins : ∀ segment, segments.head? = some segment → segment.begin = .start ∧ segment.startPosition = origin
  contiguous : segments.IsChain fun before after =>
    after.begin = before.finish ∧ after.startPosition = before.finishPosition
  forward : ∀ segment ∈ segments, segment.begin < segment.finish
  ends : ∀ segment, segments.getLast? = some segment → segment.finish = close ∧ segment.finishPosition = final
  unmoved : segments = [] → close = .start ∧ final = origin
  covers : ∀ time, time < close → ∃ segment ∈ segments, segment.begin ≤ time ∧ time < segment.finish

theorem accountsFor_of_leads {segments : List (MotionPathSegment S)} {origin final : Vector2 S} {close : MotionTime S}
    (leads : Leads MotionPathSegment.departure MotionPathSegment.arrival (.start, origin) segments (close, final))
    (forward : ∀ segment ∈ segments, segment.begin < segment.finish) : AccountsFor segments origin final close := by
  constructor
  · intro segment first
    exact Prod.mk.inj (leads.departs first)
  · exact leads.chain.imp fun before after same => Prod.mk.inj same
  · exact forward
  · intro segment last
    exact Prod.mk.inj (leads.arrives last)
  · rintro rfl
    exact Prod.mk.inj leads.stays
  · intro time before
    exact leads.covers Prod.fst (show (0 : S) ≤ time.value from time.within.1) before

/-- What the paths of a returned solve say of one body. -/
structure TickPath {count length : Nat} {problem : MotionProblem S Effect Facts} {queries : SolverQueries S count}
    (run : Run (MotionLoop.Step problem queries) length) (paths : List (MotionPathSegment S)) (index : Fin count)
    (subject : ContactSubject S) (resolved : MotionResolvedBody S) : Prop where
  entity : resolved.entity = subject.1
  still : subject.2.isStatic = true →
    segmentsOf subject.1 paths = [] ∧ resolved.result.body.position = subject.2.position
  moving : subject.2.isStatic = false → ∃ close,
    AccountsFor (segmentsOf subject.1 paths) subject.2.position resolved.result.body.position close ∧
      (resolved.result.disposition = .continues → close = .finish) ∧
      (resolved.result.disposition = .terminate → MotionLoop.TerminatesAt run index close)

/-- Every solve that returns accounts for the whole tick of every body. -/
theorem path_ledger (circle : CircleSweepQuery S) (problem : MotionProblem S Effect Facts)
    (input : List (ContactSubject S)) (triggers : List (MotionTrigger S Effect Facts)) (limits : MotionLimits)
    (policies : List (EntityId × ContactEffectPolicy)) (fuel : Nat) (solved : SolvedMotion S Effect)
    (solves : solveMotionWithin fuel (sweptGeometry circle) problem input triggers limits policies =
      .ok (some solved)) :
    ∃ start, startMotion (sweptGeometry circle) input problem.context triggers limits policies = .ok start ∧
      ∃ (length : Nat) (run : Run (MotionLoop.Step problem
          ((sweptGeometry circle).queries (sortedSubjects input).length)) length),
        run.state 0 = start ∧ solved.motion.events = (List.range length).map run.label ∧
          ∀ index, ∃ resolved, solved.motion.bodies[index.val]? = some resolved ∧
            TickPath run solved.motion.paths index ((sortedSubjects input).get index) resolved := by
  have marksOnly : MarksOnly ((sweptGeometry circle).queries (sortedSubjects input).length).broadPhase :=
    SolverState.sweepAndPrune_marksOnly
  obtain ⟨start, starts, rest⟩ := bind_eq_ok.mp solves
  obtain ⟨reached, iterates, rest⟩ := bind_eq_ok.mp rest
  cases reached with
  | none => cases rest
  | some final =>
    obtain ⟨returned, finishes, same⟩ := bind_eq_ok.mp rest
    cases same
    have started := startMotion_eq_ok marksOnly starts
    obtain ⟨unrecorded, fresh⟩ := startMotion_fresh marksOnly starts
    obtain ⟨length, -, run, starting, ends⟩ := MotionLoop.iterations_run iterates
    have sound : (run.state 0).Sound := starting ▸ started.sound
    have chronological := started.chronological (started.chronicle.iterations marksOnly iterates) finishes
    obtain ⟨motion, moves, same⟩ := bind_eq_ok.mp finishes
    cases same
    have closing := MotionLoop.run_recorded run sound marksOnly (starting ▸ started.recorded unrecorded fresh)
    have last := MotionLoop.iterate_finished_solver ends
    have bodies : final.solver.bodies = (run.state length).solver.bodies := by rw [last]
    obtain ⟨reached, ledger, settled⟩ := (closing.of_bodies bodies (by rw [last])).finish moves
    refine ⟨start, starts, length, run, starting, ?_, ?_⟩
    · rw [(finish_eq_ok moves).2.1, last, (sound.runChronological marksOnly).events, starting, started.events]
      rfl
    · intro index
      obtain ⟨counted, each⟩ := List.forall₂_iff_get.mp settled
      obtain ⟨statics, fixed⟩ := List.forall₂_iff_get.mp chronological.statics
      rw [List.length_finRange] at counted
      have inside : index.val < motion.bodies.length := counted ▸ index.isLt
      have settles := each index.val (by rw [List.length_finRange]; exact index.isLt) inside
      obtain ⟨named, unmoved⟩ := fixed index.val index.isLt inside
      rw [List.get_finRange] at settles
      have settles : Resolves final.solver reached index _ := settles
      have here : (final.solver.bodies index).subject.1 = ((sortedSubjects input).get index).1 :=
        settles.entity.symm.trans named
      have static : (final.solver.bodies index).subject.2.isStatic =
          ((sortedSubjects input).get index).2.isStatic := by
        have kept := (MotionLoop.run_descends run sound marksOnly (Nat.zero_le length) (Nat.le_refl length)).1
        rw [bodies, kept.isStatic, starting]
        exact (started.subjects index).2.1
      refine ⟨_, List.getElem?_eq_getElem inside, ⟨named, ?_, ?_⟩⟩
      · intro still
        exact ⟨here ▸ ledger.still index (static.trans still), unmoved still⟩
      · intro moving
        have leads := ledger.led index (static.trans moving)
        rw [here, settles.reached] at leads
        refine ⟨_, accountsFor_of_leads leads (fun segment member => ledger.forward segment (List.mem_of_mem_filter member)), ?_, ?_⟩
        · intro continues
          exact if_pos (settles.disposition.symm.trans continues)
        · intro terminated
          have ended := settles.disposition.symm.trans terminated
          rw [if_neg (by rw [ended]; decide), bodies]
          refine MotionLoop.run_terminates run sound marksOnly ?_ (bodies ▸ ended)
          obtain ⟨policy, body⟩ := fresh index
          rw [starting, body]
          rfl

section Passing

theorem zero_validComponent : ValidComponent (0 : ℚ) := by decide

theorem fast_validComponent : ValidComponent (400 : ℚ) := by decide

theorem unit_admittedMass : AdmittedMass (1 : ℚ) false := by decide

theorem unit_admittedRestitution : AdmittedRestitution (1 : ℚ) := by decide

theorem unit_admittedDragScale : AdmittedDragScale (1 : ℚ) := by decide

def tickOrigin : Vector2 ℚ := ⟨0, 0, zero_validComponent, zero_validComponent⟩

/-- A body that crosses the arena's bounds, a unit to the right in a tick. -/
def passingBody : PhysicsBody ℚ :=
  ⟨tickOrigin, ⟨400, 0, fast_validComponent, zero_validComponent⟩, tickOrigin, 1, 1, 1, 1, 1, 1, false, .cross,
    .floating, unit_admittedMass, unit_admittedRestitution, unit_admittedDragScale⟩

theorem path_ledger_passing : ∃ solved close final,
    solveMotionWithin 1 (sweptGeometry stillCircle) stillProblem [(.first, passingBody)] [] .ceilings [] =
      .ok (some solved) ∧
    AccountsFor (segmentsOf .first solved.motion.paths) tickOrigin final close := by
  obtain ⟨solved, solves⟩ : ∃ solved, solveMotionWithin 1 (sweptGeometry stillCircle) stillProblem
      [(.first, passingBody)] [] .ceilings [] = .ok (some solved) := by
    have some : (solveMotionWithin 1 (sweptGeometry stillCircle) stillProblem
      [(.first, passingBody)] [] .ceilings []).toOption.join.isSome = true := by decide +kernel
    cases result : solveMotionWithin 1 (sweptGeometry stillCircle) stillProblem [(.first, passingBody)] [] .ceilings []
      with
    | error failure =>
      rw [result] at some
      cases some
    | ok reached =>
      cases reached with
      | none =>
        rw [result] at some
        cases some
      | some solved => exact ⟨solved, rfl⟩
  obtain ⟨_, _, _, _, _, _, each⟩ := path_ledger stillCircle stillProblem [(.first, passingBody)] [] .ceilings [] 1
    solved solves
  obtain ⟨resolved, -, path⟩ := each ⟨0, by decide⟩
  obtain ⟨close, accounts, -⟩ := path.moving rfl
  exact ⟨solved, close, _, solves, accounts⟩

end Passing

end Solve

end BlobRoyale.Simulation
