import BlobRoyale.Library.Itinerary
import BlobRoyale.Motion.Chronology
import BlobRoyale.Motion.SolverMoves

/-!
# The path ledger

The segments a solve records of one body lead from where the tick found it to where its current epoch began, and
once the solve is over to where the body ended: at the end of the tick, or where and when it was terminated.
-/

namespace BlobRoyale.Simulation

open Passes Transition SolverState Itinerary

variable {S : Type} [Scalar S] {Effect Facts : Type} {count : Nat}

def MotionPathSegment.departure (segment : MotionPathSegment S) : MotionTime S × Vector2 S :=
  (segment.begin, segment.startPosition)

def MotionPathSegment.arrival (segment : MotionPathSegment S) : MotionTime S × Vector2 S :=
  (segment.finish, segment.finishPosition)

/-- The segments of one body, in order of emission. -/
def segmentsOf (entity : EntityId) (paths : List (MotionPathSegment S)) : List (MotionPathSegment S) :=
  paths.filter fun segment => segment.entity = entity

theorem segmentsOf_concat {entity : EntityId} (paths : List (MotionPathSegment S)) {segment : MotionPathSegment S}
    (named : segment.entity = entity) : segmentsOf entity (paths ++ [segment]) = segmentsOf entity paths ++ [segment] := by
  simp [segmentsOf, named]

theorem segmentsOf_concat_of_ne {entity : EntityId} (paths : List (MotionPathSegment S))
    {segment : MotionPathSegment S} (apart : segment.entity ≠ entity) :
    segmentsOf entity (paths ++ [segment]) = segmentsOf entity paths := by
  simp [segmentsOf, apart]

variable [UnitInterval S]

namespace SolverState

variable {origins : Fin count → Vector2 S} {reached : Fin count → MotionTime S × Vector2 S}
  {paths : List (MotionPathSegment S)} {state next : SolverState S count} {index : Fin count}

def epochPoint (state : SolverState S count) (index : Fin count) : MotionTime S × Vector2 S :=
  ((state.bodies index).anchor, (state.bodies index).subject.2.position)

/-- Paths that lead every body in motion from its origin to a point it reached, and no other body anywhere. -/
structure Ledger (origins : Fin count → Vector2 S) (state : SolverState S count)
    (paths : List (MotionPathSegment S)) (reached : Fin count → MotionTime S × Vector2 S) : Prop where
  distinct : Function.Injective fun index => (state.bodies index).subject.1
  forward : ∀ segment ∈ paths, segment.begin < segment.finish
  still : ∀ index, (state.bodies index).subject.2.isStatic = true →
    segmentsOf (state.bodies index).subject.1 paths = []
  led : ∀ index, (state.bodies index).subject.2.isStatic = false →
    Leads MotionPathSegment.departure MotionPathSegment.arrival (.start, origins index)
      (segmentsOf (state.bodies index).subject.1 paths) (reached index)

theorem Ledger.of_bodies (ledger : Ledger origins state paths reached)
    (entities : ∀ index, (next.bodies index).subject.1 = (state.bodies index).subject.1)
    (statics : ∀ index, (next.bodies index).subject.2.isStatic = (state.bodies index).subject.2.isStatic) :
    Ledger origins next paths reached := by
  constructor
  · intro first second same
    dsimp only at same
    rw [entities, entities] at same
    exact ledger.distinct same
  · exact ledger.forward
  · intro index static
    rw [entities]
    exact ledger.still index ((statics index).symm.trans static)
  · intro index moving
    rw [entities]
    exact ledger.led index ((statics index).symm.trans moving)

/-- A body's path up to a time of its epoch leads it where it is then, and no other body anywhere. -/
theorem Ledger.addPath {finish : MotionTime S} {current : ContactSubject S}
    (ledger : Ledger origins state state.paths reached) (here : reached index = state.epochPoint index)
    (evaluated : state.subjectAt index finish = .ok current) (added : state.addPath index finish = .ok next) :
    next = { state with paths := next.paths } ∧
      Ledger origins state next.paths (Function.update reached index (finish, current.2.position)) := by
  unfold SolverState.addPath at added
  dsimp only at added
  split at added
  · next idle =>
    cases added
    refine ⟨rfl, ledger.distinct, ledger.forward, ledger.still, ?_⟩
    intro other moving
    by_cases same : other = index
    · subst same
      rw [Bool.or_eq_true, moving, decide_eq_true_eq] at idle
      have anchored : finish = (state.bodies other).anchor := idle.resolve_left (by decide)
      have place : current = (state.bodies other).subject := by
        unfold subjectAt at evaluated
        dsimp only at evaluated
        rw [if_neg (by rw [anchored]; exact lt_irrefl _), if_pos (by rw [decide_eq_true anchored, Bool.or_true])]
          at evaluated
        exact (Except.ok.inj evaluated).symm
      have onward := ledger.led other moving
      rw [here] at onward
      rw [Function.update_self, place, anchored]
      exact onward
    · rw [Function.update_of_ne same]
      exact ledger.led other moving
  · next travels =>
    rw [Bool.or_eq_true, not_or, Bool.not_eq_true, decide_eq_true_eq] at travels
    obtain ⟨_, -, added⟩ := bind_eq_ok.mp added
    obtain ⟨endpoint, again, added⟩ := bind_eq_ok.mp added
    cases added
    cases again.symm.trans evaluated
    have later : (state.bodies index).anchor < finish := by
      unfold subjectAt at evaluated
      dsimp only at evaluated
      split at evaluated
      · cases evaluated
      · next reachable => exact lt_of_le_of_ne (le_of_not_gt reachable) (Ne.symm travels.2)
    refine ⟨rfl, ledger.distinct, ?_, ?_, ?_⟩
    · intro segment member
      obtain earlier | latest := List.mem_append.mp member
      · exact ledger.forward segment earlier
      · rw [List.mem_singleton.mp latest]
        exact later
    · intro other static
      have apart : (state.bodies index).subject.1 ≠ (state.bodies other).subject.1 := by
        intro same
        rw [ledger.distinct same, static] at travels
        cases travels.1
      dsimp only
      rw [segmentsOf_concat_of_ne state.paths apart]
      exact ledger.still other static
    · intro other moving
      by_cases same : other = index
      · subst same
        have onward := ledger.led other moving
        rw [here] at onward
        dsimp only
        rw [Function.update_self, @segmentsOf_concat _ _ (state.bodies other).subject.1 state.paths _ rfl]
        exact onward.concat
      · have apart : (state.bodies index).subject.1 ≠ (state.bodies other).subject.1 := by
          intro equal
          exact same (ledger.distinct equal).symm
        dsimp only
        rw [Function.update_of_ne same, segmentsOf_concat_of_ne state.paths apart]
        exact ledger.led other moving

/-- Every body's segments lead to where its epoch began. -/
abbrev Recorded (origins : Fin count → Vector2 S) (state : SolverState S count) : Prop :=
  Ledger origins state state.paths state.epochPoint

theorem Ledger.updated {body : EpochBody S}
    (ledger : Ledger origins state next.paths
      (Function.update state.epochPoint index (body.anchor, body.subject.2.position)))
    (bodies : next.bodies = Function.update state.bodies index body)
    (entity : body.subject.1 = (state.bodies index).subject.1)
    (static : body.subject.2.isStatic = (state.bodies index).subject.2.isStatic) : Recorded origins next := by
  have reaches : Function.update state.epochPoint index (body.anchor, body.subject.2.position) = next.epochPoint := by
    funext other
    unfold epochPoint
    rw [bodies]
    by_cases same : other = index
    · subst same
      rw [Function.update_self, Function.update_self]
    · rw [Function.update_of_ne same, Function.update_of_ne same]
  rw [reaches] at ledger
  refine ledger.of_bodies ?_ ?_
  · intro other
    rw [bodies]
    by_cases same : other = index
    · subst same
      rw [Function.update_self, entity]
    · rw [Function.update_of_ne same]
  · intro other
    rw [bodies]
    by_cases same : other = index
    · subst same
      rw [Function.update_self, static]
    · rw [Function.update_of_ne same]

theorem Recorded.replace (recorded : Recorded origins state) {replacement : MotionBodyResult S}
    (replaced : state.replace index replacement = .ok next) : Recorded origins next := by
  unfold SolverState.replace at replaced
  obtain ⟨current, evaluated, replaced⟩ := bind_eq_ok.mp replaced
  obtain ⟨-, carried, -⟩ := subjectAt_eq_ok evaluated
  dsimp only at replaced
  split at replaced
  · next keeps =>
    split at replaced
    · obtain ⟨moved, added, replaced⟩ := bind_eq_ok.mp replaced
      obtain ⟨same, ledger⟩ := recorded.addPath rfl evaluated added
      have place : current.2.position = replacement.body.position := by
        rw [← keeps]
        rfl
      rw [same] at replaced
      cases replaced
      rw [place] at ledger
      refine @Ledger.updated _ _ _ _ _ state _ index _ ledger rfl rfl ?_
      dsimp only
      rw [← keeps, carried]
      rfl
    · cases replaced
      refine @Ledger.updated _ _ _ _ _ state _ index _ ?_ rfl rfl rfl
      have same := Function.update_eq_self index state.epochPoint
      unfold Recorded at recorded
      rw [← same] at recorded
      exact recorded
  · cases replaced

theorem Recorded.of_bodies (recorded : Recorded origins state) (bodies : next.bodies = state.bodies)
    (paths : next.paths = state.paths) : Recorded origins next := by
  unfold Recorded epochPoint at recorded ⊢
  rw [bodies, paths]
  exact Ledger.of_bodies recorded (fun _ => by rw [bodies]) fun _ => by rw [bodies]

theorem Recorded.move {queries : SolverQueries S count} (marksOnly : MarksOnly queries.broadPhase)
    (recorded : Recorded origins state) (move : SolverMove queries state next) : Recorded origins next := by
  cases move with
  | worked work => exact recorded.of_bodies rfl rfl
  | begun key next clean begins =>
    obtain ⟨-, -, result⟩ := beginEvent_eq_ok begins
    subst result
    exact recorded.of_bodies rfl rfl
  | replaced index replacement next live replaces => exact recorded.replace replaces
  | consumed place => exact recorded.of_bodies rfl rfl
  | suppressed event secondIndex => exact recorded.of_bodies rfl rfl
  | rebuilt next rebuilds =>
    obtain ⟨bodies, -, -, paths, -⟩ := rebuild_keeps marksOnly rebuilds
    exact recorded.of_bodies bodies paths

section Finish

/-- What the end of a solve makes of a body. -/
structure Resolves (state : SolverState S count) (reached : Fin count → MotionTime S × Vector2 S)
    (index : Fin count) (resolved : MotionResolvedBody S) : Prop where
  entity : resolved.entity = (state.bodies index).subject.1
  disposition : resolved.result.disposition = (state.bodies index).disposition
  reached : reached index = (if (state.bodies index).disposition = .continues then .finish
    else (state.bodies index).anchor, resolved.result.body.position)

theorem resolveBody_ledger {pass moved : SolverState S count × List (MotionResolvedBody S)}
    (ledger : Ledger origins pass.1 pass.1.paths reached) (here : reached index = pass.1.epochPoint index)
    (resolves : resolveBody pass index = .ok moved) :
    ∃ resolved point, moved = ({ pass.1 with paths := moved.1.paths }, pass.2 ++ [resolved]) ∧
      Ledger origins pass.1 moved.1.paths (Function.update reached index point) ∧
        Resolves pass.1 (Function.update reached index point) index resolved := by
  unfold resolveBody at resolves
  dsimp only at resolves
  split at resolves
  · next live =>
    obtain ⟨carried, added, resolves⟩ := bind_eq_ok.mp resolves
    obtain ⟨final, evaluated, resolves⟩ := bind_eq_ok.mp resolves
    cases resolves
    have frame : carried = { pass.1 with paths := carried.paths } := by
      obtain ⟨paths, same, -⟩ := addPath_eq_ok added
      rw [same]
    rw [frame] at evaluated
    have before : pass.1.subjectAt index .finish = .ok final := evaluated
    obtain ⟨same, extended⟩ := ledger.addPath here before added
    refine ⟨_, _, by rw [← frame], extended, rfl, rfl, ?_⟩
    rw [Function.update_self, if_pos live]
  · next ended =>
    obtain ⟨carried, same, resolves⟩ := bind_eq_ok.mp resolves
    cases same
    obtain ⟨final, evaluated, resolves⟩ := bind_eq_ok.mp resolves
    cases resolves
    have terminated : (pass.1.bodies index).disposition = .terminate := by
      cases disposition : (pass.1.bodies index).disposition with
      | continues => exact absurd disposition ended
      | terminate => rfl
    have place : final = (pass.1.bodies index).subject := by
      unfold subjectAt at evaluated
      dsimp only at evaluated
      split at evaluated
      · cases evaluated
      · rw [terminated, if_pos (by simp)] at evaluated
        exact (Except.ok.inj evaluated).symm
    refine ⟨_, reached index, rfl, by rw [Function.update_eq_self]; exact ledger, rfl, rfl, ?_⟩
    rw [Function.update_self, if_neg ended, here, place]
    rfl

theorem resolveBodies_ledger {indices : List (Fin count)} (nodup : indices.Nodup)
    {pass moved : SolverState S count × List (MotionResolvedBody S)}
    (ledger : Ledger origins pass.1 pass.1.paths reached)
    (pending : ∀ index ∈ indices, reached index = pass.1.epochPoint index)
    (resolves : indices.foldlM resolveBody pass = .ok moved) :
    ∃ resolved final, moved = ({ pass.1 with paths := moved.1.paths }, pass.2 ++ resolved) ∧
      Ledger origins pass.1 moved.1.paths final ∧ (∀ other ∉ indices, final other = reached other) ∧
        List.Forall₂ (Resolves pass.1 final) indices resolved := by
  induction indices generalizing pass reached with
  | nil =>
    cases resolves
    exact ⟨[], reached, by rw [List.append_nil], ledger, fun _ _ => rfl, .nil⟩
  | cons index rest ih =>
    rw [List.foldlM_cons] at resolves
    obtain ⟨middle, first, resolves⟩ := bind_eq_ok.mp resolves
    obtain ⟨fresh, distinct⟩ := List.nodup_cons.mp nodup
    obtain ⟨resolved, point, same, extended, settles⟩ :=
      resolveBody_ledger ledger (pending index List.mem_cons_self) first
    have bodies : middle.1.bodies = pass.1.bodies := by rw [same]
    have carried : Ledger origins middle.1 middle.1.paths (Function.update reached index point) :=
      extended.of_bodies (fun _ => by rw [bodies]) fun _ => by rw [bodies]
    have waiting : ∀ other ∈ rest, Function.update reached index point other = middle.1.epochPoint other := by
      intro other member
      have apart : other ≠ index := by
        rintro rfl
        exact fresh member
      rw [Function.update_of_ne apart, pending other (List.mem_cons_of_mem _ member)]
      unfold epochPoint
      rw [bodies]
    obtain ⟨others, final, result, complete, kept, settled⟩ := ih distinct carried waiting resolves
    refine ⟨resolved :: others, final, ?_, ?_, ?_, ?_⟩
    · rw [result, same, List.append_assoc, List.singleton_append]
    · exact complete.of_bodies (fun _ => by rw [bodies]) fun _ => by rw [bodies]
    · intro other outside
      rw [kept other fun member => outside (List.mem_cons_of_mem _ member), Function.update_of_ne]
      rintro rfl
      exact outside List.mem_cons_self
    · refine .cons ⟨settles.entity, settles.disposition, ?_⟩ (settled.imp ?_)
      · rw [kept index fresh]
        exact settles.reached
      · intro other answer one
        have state := one.reached
        rw [bodies] at state
        exact ⟨by rw [one.entity, bodies], by rw [one.disposition, bodies], state⟩

theorem Recorded.finish (recorded : Recorded origins state) {result : MotionGeometryResult S}
    (finishes : state.finish = .ok result) :
    ∃ reached, Ledger origins state result.paths reached ∧
      List.Forall₂ (Resolves state reached) (List.finRange count) result.bodies := by
  obtain ⟨⟨moved, bodies⟩, folded, rest⟩ := bind_eq_ok.mp finishes
  cases rest
  obtain ⟨resolved, final, same, ledger, -, settled⟩ :=
    resolveBodies_ledger (List.nodup_finRange count) recorded (fun _ _ => rfl) folded
  have listed : bodies = resolved := congrArg Prod.snd same
  exact ⟨final, ledger, listed ▸ settled⟩

end Finish

end SolverState

end BlobRoyale.Simulation
