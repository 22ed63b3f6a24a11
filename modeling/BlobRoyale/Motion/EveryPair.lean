import BlobRoyale.Motion.Chronology
import BlobRoyale.Motion.ReachInvariant
import BlobRoyale.Library.Agreement

/-!
# Bodies gone astray

A live body whose epoch has left the places a vector can hold cannot be evaluated again: no move touches
it, and the end of the solve refuses it. Radii never change.
-/

namespace BlobRoyale.Simulation

open Passes

namespace SolverState

variable {count : Nat} {state next : SolverState ℝ count} {index : Fin count} {queries : SolverQueries ℝ count}

section Measurable

theorem Measurable.of_bodies (measurable : state.Measurable) (bodies : next.bodies = state.bodies)
    (radius : next.radius = state.radius) : next.Measurable := by
  refine ⟨by rw [radius]; exact measurable.configured, ?_⟩
  unfold SolverState.reach
  rw [bodies, radius]
  exact measurable.bodies

theorem move_reach (marksOnly : MarksOnly queries.broadPhase) (move : SolverMove queries state next) :
    next.radius = state.radius ∧ next.reach = state.reach := by
  have kept : next.bodies = state.bodies → next.radius = state.radius →
      next.radius = state.radius ∧ next.reach = state.reach := by
    intro bodies radius
    refine ⟨radius, ?_⟩
    funext index
    unfold SolverState.reach
    rw [bodies, radius]
  cases move with
  | worked work => exact kept rfl rfl
  | begun key next clean begins =>
    obtain ⟨-, -, result⟩ := beginEvent_eq_ok begins
    subst result
    exact kept rfl rfl
  | replaced index replacement next live replaces =>
    have reepoch := (replace_eq_ok replaces).reepoch live
    exact ⟨reepoch.radius, funext reepoch.reach⟩
  | consumed place => exact kept rfl rfl
  | suppressed event secondIndex => exact kept rfl rfl
  | rebuilt next rebuilds =>
    obtain ⟨bodies, -, radius, -⟩ := rebuild_keeps marksOnly rebuilds
    exact kept bodies radius

theorem Measurable.of_reach (measurable : state.Measurable) (radius : next.radius = state.radius)
    (reach : next.reach = state.reach) : next.Measurable :=
  ⟨by rw [radius]; exact measurable.configured, by rw [reach]; exact measurable.bodies⟩

end Measurable

section Astray

theorem Astray.of_bodies (astray : state.Astray) (bodies : next.bodies = state.bodies) (later : state.now ≤ next.now) :
    next.Astray := by
  obtain ⟨index, live, time, epoch, past, leaves⟩ := astray
  exact ⟨index, by rw [bodies]; exact live, time, by rw [bodies]; exact epoch, past.trans later,
    by rw [bodies]; exact leaves⟩

theorem staysWithin_of_subjectAt {time earlier : MotionTime ℝ} {subject : ContactSubject ℝ}
    (live : (state.bodies index).disposition = .continues) (evaluated : state.subjectAt index time = .ok subject)
    (epoch : (state.bodies index).anchor ≤ earlier) (past : earlier ≤ time) :
    (state.bodies index).StaysWithin earlier := by
  obtain ⟨-, place⟩ := subjectAt_place live evaluated
  have now : (state.bodies index).StaysWithin time := by
    intro axis
    rw [← place]
    exact axis.component_valid _
  exact (state.bodies index).staysWithin_between (state.bodies index).staysWithin_anchor now epoch past

theorem Astray.move (marksOnly : MarksOnly queries.broadPhase) (astray : state.Astray)
    (move : SolverMove queries state next) : next.Astray := by
  cases move with
  | worked work => exact astray.of_bodies rfl (le_refl _)
  | begun key next clean begins =>
    obtain ⟨ahead, -, result⟩ := beginEvent_eq_ok begins
    subst result
    exact astray.of_bodies rfl ahead
  | replaced index replacement next live replaces =>
    obtain ⟨current, evaluated, -⟩ := bind_eq_ok.mp replaces
    obtain ⟨other, otherLive, time, epoch, past, leaves⟩ := astray
    have different : other ≠ index := by
      intro same
      subst same
      exact leaves (staysWithin_of_subjectAt otherLive evaluated epoch past)
    have reepoch := (replace_eq_ok replaces).reepoch live
    have kept := reepoch.others other different
    exact ⟨other, by rw [kept]; exact otherLive, time, by rw [kept]; exact epoch, reepoch.now ▸ past,
      by rw [kept]; exact leaves⟩
  | consumed place => exact astray.of_bodies rfl (le_refl _)
  | suppressed event secondIndex => exact astray.of_bodies rfl (le_refl _)
  | rebuilt next rebuilds =>
    obtain ⟨bodies, now, -⟩ := rebuild_keeps marksOnly rebuilds
    exact astray.of_bodies bodies (le_of_eq now.symm)

end Astray

end SolverState

end BlobRoyale.Simulation

/-!
# Twin solvers

A solver whose broad phase marks every admitted pair, beside the one that sweeps: two states that differ
in their work and their candidates alone go through every operation alike.
-/

namespace BlobRoyale.Simulation

open Passes Agreement Agrees SolverState

variable {S : Type} [Scalar S] {Effect Facts : Type} {count : Nat}

/-- States that differ in their work and their candidates alone. -/
def Twin (first second : SolverState S count) : Prop :=
  ∃ work pairs, second = { first with work := work, pairs := pairs } ∧ work.events = first.work.events ∧
    List.Forall₂ (fun one other => other = { one with candidate := other.candidate }) first.pairs pairs

namespace SolverState

variable {first second : SolverState S count} {lost : SolverState S count → Prop}

theorem Twin.worked (twin : Twin first second) {firstWork secondWork : MotionWorkCounts}
    (events : secondWork.events = firstWork.events) :
    Twin { first with work := firstWork } { second with work := secondWork } := by
  obtain ⟨work, pairs, rfl, -, related⟩ := twin
  exact ⟨secondWork, pairs, rfl, events, related⟩

end SolverState

end BlobRoyale.Simulation
