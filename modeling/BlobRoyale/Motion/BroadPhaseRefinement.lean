import BlobRoyale.Motion.TwinLoops

/-!
# Solves behind two broad phases

An iteration, a loop and its result behind the sweep, and the same behind every admitted pair.
-/

namespace BlobRoyale.Simulation

open Passes Agreement Agrees SolverState

variable {Effect Facts : Type} {count : Nat} {circle : CircleSweepQuery ℝ} {problem : MotionProblem ℝ Effect Facts}

/-- Solves with the same bodies, paths, events, effects and trigger cursors. -/
structure SolvedMotion.Alike (first second : SolvedMotion ℝ Effect) : Prop where
  bodies : second.motion.bodies = first.motion.bodies
  paths : second.motion.paths = first.motion.paths
  events : second.motion.events = first.motion.events
  effects : second.effects = first.effects
  triggerCursors : second.triggerCursors = first.triggerCursors

namespace MotionLoop

variable {first second ready final : MotionLoop ℝ Effect Facts count}

section Iterate

end Iterate

section Iterations

end Iterations

section Solved

end Solved

end MotionLoop

end BlobRoyale.Simulation
