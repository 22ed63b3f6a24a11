import BlobRoyale.Motion.SolverEvents

/-!
# What a cached event certifies

A computed contact names its pair, a computed wall its body and axis, and neither lies before now once
the motion it was computed from started at or before now.
-/

namespace BlobRoyale.Simulation

open Passes

variable {S : Type} [Scalar S]

namespace SolverState

variable {count : Nat} {state : SolverState S count}

theorem subjectAt_eq_ok {index : Fin count} {time : MotionTime S} {subject : ContactSubject S}
    (evaluated : state.subjectAt index time = .ok subject) :
    subject.1 = (state.bodies index).subject.1 ∧
      subject.2 = (state.bodies index).subject.2.withPosition subject.2.position ∧
      ((state.bodies index).subject.2.isStatic = true → subject = (state.bodies index).subject) := by
  unfold subjectAt at evaluated
  dsimp only at evaluated
  split at evaluated
  · cases evaluated
  · split at evaluated
    · cases evaluated
      exact ⟨rfl, rfl, fun _ => rfl⟩
    · next moving =>
      obtain ⟨displacement, -, rest⟩ := bind_eq_ok.mp evaluated
      obtain ⟨position, -, rest⟩ := bind_eq_ok.mp rest
      cases rest
      refine ⟨rfl, rfl, ?_⟩
      intro static
      rw [static] at moving
      exact absurd rfl moving

/-- The bodies a contact names. -/
structure CertifiesPair (state : SolverState S count) (first second : Fin count)
    (event : MotionGeometryEvent S count) : Prop where
  first_eq : event.first = first
  second_eq : event.second = some second
  identity : ∃ pair, CandidatePair.create (state.bodies first).subject.1 (state.bodies second).subject.1 =
    .ok pair ∧ event.key = .contact event.key.time pair

/-- The body and axis a wall names. -/
structure CertifiesWall (state : SolverState S count) (place : Fin count × MotionAxis)
    (event : MotionGeometryEvent S count) : Prop where
  first_eq : event.first = place.1
  second_eq : event.second = none
  entity : event.key.firstEntity = (state.bodies place.1).subject.1
  priority : event.key.priority = place.2.priority

theorem chargeRoots_events {work charged : MotionWorkCounts} {limits : MotionLimits} {count : Nat}
    (charges : work.chargeRoots limits count = .ok charged) : charged.events = work.events := by
  unfold MotionWorkCounts.chargeRoots at charges
  split at charges
  · cases charges
  · cases charges
    rfl

variable [UnitInterval S]

section Pairs

variable {circleQuery : CircleSweepQuery S} {pair : PairCache S count} {work charged : MotionWorkCounts}
  {event : MotionGeometryEvent S count}

omit [UnitInterval S] in
theorem makePairEvent_eq_some {observesTouch admitted : Bool} {time : MotionTime S}
    (made : state.makePairEvent pair observesTouch time admitted = .ok (some event)) :
    state.CertifiesPair pair.first pair.second event ∧ event.key.time = time := by
  unfold makePairEvent at made
  split at made
  · cases made
  · obtain ⟨first, evaluatedFirst, rest⟩ := bind_eq_ok.mp made
    obtain ⟨second, evaluatedSecond, rest⟩ := bind_eq_ok.mp rest
    obtain ⟨geometry, -, rest⟩ := bind_eq_ok.mp rest
    obtain ⟨speed, -, rest⟩ := bind_eq_ok.mp rest
    split at rest
    · cases rest
    · obtain ⟨identity, created, rest⟩ := bind_eq_ok.mp rest
      cases rest
      refine ⟨⟨rfl, rfl, identity, ?_, rfl⟩, rfl⟩
      rw [← (subjectAt_eq_ok evaluatedFirst).1, ← (subjectAt_eq_ok evaluatedSecond).1]
      exact created

theorem pairEvent_eq_some (computed : state.pairEvent circleQuery work pair = .ok (charged, some event)) :
    state.CertifiesPair pair.first pair.second event ∧
      (event.key.time = max (state.bodies pair.first).anchor (state.bodies pair.second).anchor ∨
        state.now ≤ event.key.time) := by
  unfold pairEvent at computed
  obtain ⟨first, -, rest⟩ := bind_eq_ok.mp computed
  obtain ⟨second, -, rest⟩ := bind_eq_ok.mp rest
  obtain ⟨distance, -, rest⟩ := bind_eq_ok.mp rest
  obtain ⟨firstVelocity, -, rest⟩ := bind_eq_ok.mp rest
  obtain ⟨secondVelocity, -, rest⟩ := bind_eq_ok.mp rest
  obtain ⟨displacement, -, rest⟩ := bind_eq_ok.mp rest
  obtain ⟨spent, -, rest⟩ := bind_eq_ok.mp rest
  obtain ⟨query, -, rest⟩ := bind_eq_ok.mp rest
  dsimp only at rest
  split at rest
  · obtain ⟨made, makes, rest⟩ := bind_eq_ok.mp rest
    cases rest
    obtain ⟨certified, atBegin⟩ := makePairEvent_eq_some makes
    exact ⟨certified, .inl atBegin⟩
  · split at rest
    · cases rest
    · split at rest
      · cases rest
      · obtain ⟨time, -, rest⟩ := bind_eq_ok.mp rest
        split at rest
        · next ahead =>
          obtain ⟨made, makes, rest⟩ := bind_eq_ok.mp rest
          cases rest
          obtain ⟨certified, atTime⟩ := makePairEvent_eq_some makes
          exact ⟨certified, .inr (atTime ▸ ahead)⟩
        · cases rest

theorem pairEvent_events {computed : Option (MotionGeometryEvent S count)}
    (computes : state.pairEvent circleQuery work pair = .ok (charged, computed)) :
    charged.events = work.events := by
  unfold pairEvent at computes
  obtain ⟨first, -, rest⟩ := bind_eq_ok.mp computes
  obtain ⟨second, -, rest⟩ := bind_eq_ok.mp rest
  obtain ⟨distance, -, rest⟩ := bind_eq_ok.mp rest
  obtain ⟨firstVelocity, -, rest⟩ := bind_eq_ok.mp rest
  obtain ⟨secondVelocity, -, rest⟩ := bind_eq_ok.mp rest
  obtain ⟨displacement, -, rest⟩ := bind_eq_ok.mp rest
  obtain ⟨spent, charges, rest⟩ := bind_eq_ok.mp rest
  obtain ⟨query, -, rest⟩ := bind_eq_ok.mp rest
  have kept := chargeRoots_events charges
  dsimp only at rest
  split at rest
  · obtain ⟨made, -, rest⟩ := bind_eq_ok.mp rest
    cases rest
    exact kept
  · split at rest
    · cases rest
      exact kept
    · split at rest
      · cases rest
        exact kept
      · obtain ⟨time, -, rest⟩ := bind_eq_ok.mp rest
        split at rest
        · obtain ⟨made, -, rest⟩ := bind_eq_ok.mp rest
          cases rest
          exact kept
        · cases rest
          exact kept

end Pairs

section Walls

variable {index : Fin count} {axis : MotionAxis} {work charged : MotionWorkCounts}
  {event : MotionGeometryEvent S count}

omit [UnitInterval S] in
theorem makeWall_eq_ok {time : MotionTime S} (made : state.makeWall index axis time = .ok event) :
    state.CertifiesWall (index, axis) event ∧ event.key.time = time := by
  unfold makeWall at made
  obtain ⟨normal, -, rest⟩ := bind_eq_ok.mp made
  obtain ⟨key, created, rest⟩ := bind_eq_ok.mp rest
  cases rest
  obtain ⟨same, -⟩ := MotionEventKey.boundary_eq_ok created
  subst same
  exact ⟨⟨rfl, rfl, rfl, rfl⟩, rfl⟩

theorem mapped_start (anchor : MotionTime S) : MotionTime.mapped .start anchor .finish = .ok anchor := by
  unfold MotionTime.mapped
  rw [if_neg (not_lt_of_ge (MotionTime.le_finish anchor)), if_pos rfl]

theorem firstTimeFrom_eq_some {now anchor time : MotionTime S} {roots : List (MotionTime S)}
    (found : firstTimeFrom now anchor roots = .ok (some time)) : now ≤ time := by
  induction roots with
  | nil => cases found
  | cons root rest ih =>
    rw [firstTimeFrom] at found
    obtain ⟨mapped, -, found⟩ := bind_eq_ok.mp found
    split at found
    · next ahead =>
      cases found
      exact ahead
    · exact ih found

/-- A computed wall of an outward overlap lies at the body's anchor; any other from now on. -/
theorem nextWall_eq_ok {computed : Option (MotionGeometryEvent S count)}
    (computes : state.nextWall work index axis = .ok (charged, computed)) :
    charged.events = work.events ∧
      (∀ event, computed = some event → state.CertifiesWall (index, axis) event) ∧
      if state.overlapsOutward (state.bodies index).subject.2 axis then
        ∃ event, computed = some event ∧ event.key.time = (state.bodies index).anchor
      else ∀ event, computed = some event → state.now ≤ event.key.time := by
  unfold nextWall at computes
  dsimp only at computes
  split at computes
  · next still =>
    cases computes
    refine ⟨rfl, ?_, ?_⟩
    · intro event impossible
      cases impossible
    · split
      · next outward =>
        obtain ⟨moves, -⟩ | ⟨moves, -⟩ := outward
        · exact absurd still (ne_of_lt moves)
        · exact absurd still (ne_of_gt moves)
      · intro event impossible
        cases impossible
  · split at computes
    · next outward =>
      rw [if_pos outward]
      obtain ⟨time, maps, rest⟩ := bind_eq_ok.mp computes
      rw [mapped_start] at maps
      cases maps
      obtain ⟨made, makes, rest⟩ := bind_eq_ok.mp rest
      cases rest
      obtain ⟨certified, atAnchor⟩ := makeWall_eq_ok makes
      refine ⟨rfl, ?_, made, rfl, atAnchor⟩
      intro event same
      cases same
      exact certified
    · next inward =>
      rw [if_neg inward]
      obtain ⟨spent, charges, rest⟩ := bind_eq_ok.mp computes
      obtain ⟨roots, -, rest⟩ := bind_eq_ok.mp rest
      obtain ⟨found, finds, rest⟩ := bind_eq_ok.mp rest
      have kept := chargeRoots_events charges
      cases found with
      | none =>
        cases rest
        refine ⟨kept, ?_, ?_⟩
        · intro event impossible
          cases impossible
        · intro event impossible
          cases impossible
      | some time =>
        obtain ⟨made, makes, rest⟩ := bind_eq_ok.mp rest
        cases rest
        obtain ⟨certified, atTime⟩ := makeWall_eq_ok makes
        refine ⟨kept, ?_, ?_⟩
        · intro event same
          cases same
          exact certified
        · intro event same
          cases same
          exact atTime ▸ firstTimeFrom_eq_some finds

theorem mem_wallPlaces (place : Fin count × MotionAxis) : place ∈ wallPlaces := by
  obtain ⟨index, axis⟩ := place
  refine List.mem_flatMap.mpr ⟨index, List.mem_finRange index, ?_⟩
  cases axis <;> simp

theorem wallPlaces_nodup : (wallPlaces : List (Fin count × MotionAxis)).Nodup := by
  refine List.nodup_flatMap.mpr ⟨?_, ?_⟩
  · intro index _
    simp
  · refine (List.nodup_finRange count).imp ?_
    intro first second different place member other
    simp only [List.mem_cons, List.not_mem_nil, or_false] at member other
    obtain same | same := member <;> obtain also | also := other <;>
      exact different (congrArg Prod.fst (same.symm.trans also))

end Walls

end SolverState

end BlobRoyale.Simulation
