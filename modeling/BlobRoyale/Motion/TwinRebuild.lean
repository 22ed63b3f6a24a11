import BlobRoyale.Motion.EveryPair

/-!
# Twin rebuilds

Rebuilding the caches behind a sweep and behind every admitted pair: what the sweep leaves out is
nowhere within reach, so it has no event to lose.
-/

namespace BlobRoyale.Simulation

open Passes Agreement Agrees SolverState

variable {count : Nat} {state first second : SolverState ℝ count} {circle : CircleSweepQuery ℝ}

namespace SolverState

/-- A state no solve returns from: a body astray, or radii a contact distance refuses. -/
def Lost (state : SolverState ℝ count) : Prop := state.Astray ∨ ¬ state.Measurable

theorem Lost.of_bodies {next : SolverState ℝ count} (lost : state.Lost) (bodies : next.bodies = state.bodies)
    (now : state.now ≤ next.now) (radius : next.radius = state.radius) : next.Lost := by
  obtain astray | unmeasured := lost
  · exact .inl (astray.of_bodies bodies now)
  · refine .inr fun measurable => unmeasured ?_
    exact measurable.of_bodies bodies.symm radius.symm

theorem Lost.move {queries : SolverQueries ℝ count} {next : SolverState ℝ count}
    (marksOnly : MarksOnly queries.broadPhase) (lost : state.Lost) (move : SolverMove queries state next) :
    next.Lost := by
  obtain astray | unmeasured := lost
  · exact .inl (astray.move marksOnly move)
  · obtain ⟨radius, reach⟩ := move_reach marksOnly move
    exact .inr fun measurable => unmeasured (measurable.of_reach radius.symm reach.symm)

section Refresh

variable {firstWork secondWork : MotionWorkCounts}

end Refresh

section Rebuild

end Rebuild

end SolverState

end BlobRoyale.Simulation
