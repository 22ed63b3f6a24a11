import Mathlib.Data.List.Nodup
import BlobRoyale.Library.Transition

/-!
# Queues served in arrival order

A client waits at the back of the queue, once; a grant goes to the front, or to anyone when nobody
waits; a client may leave from anywhere. A client ahead of another is served or leaves before the
other is served, over every run.
-/

namespace WaitQueue

variable {Client : Type} [DecidableEq Client]

inductive Event (Client : Type) where
  | wait (client : Client)
  | serve (client : Client)
  | leave (client : Client)
  | other

inductive Step : List Client → Event Client → List Client → Prop
  | join {queue : List Client} (client : Client) (absent : client ∉ queue) :
      Step queue (.wait client) (queue ++ [client])
  | keep {queue : List Client} (client : Client) (waiting : client ∈ queue) :
      Step queue (.wait client) queue
  | serveNext {queue : List Client} (client : Client) : Step (client :: queue) (.serve client) queue
  | serveDirect (client : Client) : Step [] (.serve client) []
  | leave {queue : List Client} (client : Client) : Step queue (.leave client) (queue.erase client)
  | other {queue : List Client} : Step queue .other queue

variable {queue next : List Client} {event : Event Client} {ahead behind : Client}

theorem Step.nodup (step : Step queue event next) (distinct : queue.Nodup) : next.Nodup := by
  cases step with
  | join _ absent => exact List.nodup_append.mpr ⟨distinct, List.nodup_singleton _, by
      intro first member second same
      rw [List.mem_singleton.mp same]
      exact ne_of_mem_of_not_mem member absent⟩
  | keep _ _ => exact distinct
  | serveNext _ => exact (List.nodup_cons.mp distinct).2
  | serveDirect _ => exact distinct
  | leave _ => exact distinct.erase _
  | other => exact distinct

theorem Step.mem_before (step : Step queue event next) {client : Client} (waits : client ∈ next) :
    client ∈ queue ∨ event = .wait client := by
  cases step with
  | join other absent =>
    obtain earlier | last := List.mem_append.mp waits
    · exact .inl earlier
    · exact .inr (congrArg Event.wait (List.mem_singleton.mp last).symm)
  | keep _ _ => exact .inl waits
  | serveNext _ => exact .inl (List.mem_cons_of_mem _ waits)
  | serveDirect _ => exact .inl waits
  | leave _ => exact .inl (List.mem_of_mem_erase waits)
  | other => exact .inl waits

theorem Step.mem_of_wait {client : Client} (step : Step queue (.wait client) next) : client ∈ next := by
  cases step with
  | join _ absent => exact List.mem_append_right _ (List.mem_singleton_self _)
  | keep _ waiting => exact waiting

theorem Step.not_mem_of_serve {client : Client} (step : Step queue (.serve client) next) (distinct : queue.Nodup) :
    client ∉ next := by
  cases step with
  | serveNext _ => exact (List.nodup_cons.mp distinct).1
  | serveDirect _ => exact List.not_mem_nil

theorem Step.not_mem_of_leave {client : Client} (step : Step queue (.leave client) next) (distinct : queue.Nodup) :
    client ∉ next := by
  cases step with
  | leave _ => exact distinct.not_mem_erase

def Event.client : Event Client → Option Client
  | wait client | serve client | leave client => some client
  | other => none

theorem Step.mem_iff_of_ne (step : Step queue event next) {client : Client} (different : event.client ≠ some client) :
    client ∈ next ↔ client ∈ queue := by
  cases step with
  | join about _ =>
    have apart : client ≠ about := fun same => different (congrArg some same.symm)
    simp [apart]
  | keep _ _ => rfl
  | serveNext about =>
    have apart : client ≠ about := fun same => different (congrArg some same.symm)
    simp [apart]
  | serveDirect _ => rfl
  | leave about =>
    have apart : client ≠ about := fun same => different (congrArg some same.symm)
    exact List.mem_erase_of_ne apart
  | other => rfl

/-- `ahead` waits, and `behind` does not wait in front of it. -/
def Precedes (ahead behind : Client) (queue : List Client) : Prop :=
  ahead ∈ queue ∧ (behind ∈ queue → [ahead, behind].Sublist queue)

theorem not_served_behind (precedes : Precedes ahead behind queue) (distinct : queue.Nodup)
    (step : Step queue (.serve behind) next) : False := by
  obtain ⟨waiting, ordered⟩ := precedes
  cases step with
  | serveNext _ =>
    have separate := List.nodup_cons.mp distinct
    cases ordered List.mem_cons_self with
    | cons _ later => exact separate.1 (later.subset (by simp))
    | cons_cons _ later => exact separate.1 (later.subset (by simp))
  | serveDirect _ => exact absurd waiting List.not_mem_nil

theorem Step.precedes (step : Step queue event next) (distinct : queue.Nodup)
    (unserved : event ≠ .serve ahead) (remains : event ≠ .leave ahead)
    (precedes : Precedes ahead behind queue) : Precedes ahead behind next := by
  obtain ⟨waiting, ordered⟩ := precedes
  cases step with
  | join client absent =>
    refine ⟨List.mem_append_left _ waiting, fun member => ?_⟩
    obtain earlier | last := List.mem_append.mp member
    · exact (ordered earlier).trans (List.sublist_append_left ..)
    · rw [List.mem_singleton] at last
      subst last
      exact (List.singleton_sublist.mpr waiting).append (List.Sublist.refl [behind])
  | keep _ _ => exact ⟨waiting, ordered⟩
  | serveNext client =>
    have different : ahead ≠ client := by
      intro same
      exact unserved (congrArg Event.serve same.symm)
    refine ⟨(List.mem_cons.mp waiting).resolve_left different, fun member => ?_⟩
    cases ordered (List.mem_cons_of_mem _ member) with
    | cons _ later => exact later
    | cons_cons _ later => exact absurd rfl different
  | serveDirect _ => exact absurd waiting List.not_mem_nil
  | leave client =>
    have different : ahead ≠ client := by
      intro same
      exact remains (congrArg Event.leave same.symm)
    refine ⟨(List.mem_erase_of_ne different).mpr waiting, fun member => ?_⟩
    have stays := distinct.mem_erase_iff.mp member
    have erased := (ordered stays.2).erase client
    rwa [List.erase_of_not_mem (by simp [different.symm, stays.1.symm])] at erased
  | other => exact ⟨waiting, ordered⟩

open Transition

theorem served_in_order {length : Nat} (run : Run (@Step Client _) length)
    (distinct : (run.state 0).Nodup) {first last : Nat} (ordered : first ≤ last) (within : last < length)
    (precedes : Precedes ahead behind (run.state first)) (served : run.label last = .serve behind) :
    ∃ position, first ≤ position ∧ position < last ∧
      (run.label position = .serve ahead ∨ run.label position = .leave ahead) := by
  by_contra waits
  have distinctAt := run.invariant distinct fun nodup step => Step.nodup step nodup
  have stillAhead : Precedes ahead behind (run.state last) := by
    refine run.persists ordered (Nat.le_of_lt within) precedes fun position lower upper holds step => ?_
    refine step.precedes (distinctAt position (by omega)) ?_ ?_ holds
    · intro grant
      exact waits ⟨position, lower, upper, .inl grant⟩
    · intro departure
      exact waits ⟨position, lower, upper, .inr departure⟩
  have step := run.steps last within
  rw [served] at step
  exact not_served_behind stillAhead (distinctAt last (Nat.le_of_lt within)) step

end WaitQueue
