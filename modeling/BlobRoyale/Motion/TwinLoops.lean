import BlobRoyale.Motion.TwinRebuild

/-!
# Twin loops

A solve behind the sweep and one behind every admitted pair, iteration by iteration: the same triggers,
the same selections, the same responses.
-/

namespace BlobRoyale.Simulation

open Passes Agreement Agrees SolverState

variable {Effect Facts : Type} {count : Nat} {circle : CircleSweepQuery ℝ} {problem : MotionProblem ℝ Effect Facts}

namespace MotionLoop

variable {first second ready : MotionLoop ℝ Effect Facts count}

/-- Loops over twin solvers. -/
structure Twins (first second : MotionLoop ℝ Effect Facts count) : Prop where
  solver : Twin first.solver second.solver
  caches : second.caches = first.caches
  effects : second.effects = first.effects

def Lost (loop : MotionLoop ℝ Effect Facts count) : Prop := loop.solver.Lost

section Refresh

end Refresh

section Select

theorem nextGeometryEvent_twin {one two : SolverState ℝ count} (twin : Twin one two) :
    two.nextGeometryEvent = one.nextGeometryEvent := by
  obtain ⟨work, pairs, rfl, -, related⟩ := twin
  have folded : ∀ next : Option (MotionGeometryEvent ℝ count),
      pairs.foldl (fun next pair => earlierEvent next pair.event) next =
        one.pairs.foldl (fun next pair => earlierEvent next pair.event) next := by
    generalize one.pairs = before at related
    induction related with
    | nil =>
      intro next
      rfl
    | cons same _ ih =>
      intro next
      rw [List.foldl_cons, List.foldl_cons, ih, same]
  unfold nextGeometryEvent
  dsimp only
  rw [folded]

theorem Twins.select (twins : Twins first second) : second.select = first.select := by
  unfold MotionLoop.select
  rw [twins.caches, nextGeometryEvent_twin twins.solver]

end Select

section Process

variable {key : MotionEventKey ℝ}

end Process

end MotionLoop

end BlobRoyale.Simulation
