import BlobRoyale.Library.Transition
import BlobRoyale.Server.HttpSessionSteps

/-!
# HTTP pipelining

In every run of a connection its responses go out in request order, each once; reading ends with an upgrade
or a closing response; an upgrade follows every response; and the connection never waits for nothing.
-/

namespace BlobRoyale.Server.HttpSession

open Transition

variable {Request Content : Type} {session : HttpSession Request Content}

/-- The pipelining contract of a connection, read from its log. -/
structure Pipelines (session : HttpSession Request Content) : Prop where
  /-- Every response is written once, in the order of the requests it answers. -/
  ordered : session.begun <+: session.routed
  completes : session.completed <+: session.begun
  delivered : session.finished = false → (session.outstanding.filterMap HttpOperation.written = []) →
    session.completed = session.routed
  /-- No bound of the response queue is overrun, and nothing absent is read. -/
  whole : .overflow ∉ session.transcript ∧ .undefined ∉ session.transcript
  oneRead : session.outstanding.countP HttpOperation.readsRequest ≤ 1
  oneWrite : (session.outstanding.filterMap HttpOperation.written).length ≤ 1
  readsFirst : ReadsFirst session.transcript
  upgradesLast : UpgradesLast session.transcript
  /-- At most one lease is taken, and it is pending, handed to a session or released. -/
  leased : session.taken.length ≤ 1 ∧
    (session.pendingWebsocketLease.toList ++ session.handed ++ session.released).Perm session.taken
  settled : session.finished = true ∨ session.outstanding = [] →
    (session.handed ++ session.released).Perm session.taken
  progress : session.finished = false → session.stopping = false → session.outstanding ≠ []

theorem Sound.pipelines (sound : session.Sound) : session.Pipelines := by
  have orderly := sound.orderly
  have writing : (session.outstanding.filterMap HttpOperation.written).length ≤ 1 := by
    rw [orderly.writing]
    split
    · exact List.length_take_le 1 _
    · exact Nat.zero_le _
  have routes : session.routed = session.completed ++ session.responseQueue := orderly.routes
  have ordered : session.begun <+: session.routed := by
    rw [routes]
    obtain ⟨begun, -⟩ | begun := orderly.writes
    · exact begun ▸ List.prefix_append _ _
    · rw [begun]
      exact (List.prefix_append_right_inj _).mpr (List.take_prefix _ _)
  have completes : session.completed <+: session.begun := by
    obtain ⟨begun, -⟩ | begun := orderly.writes
    · exact begun ▸ List.prefix_refl _
    · exact begun ▸ List.prefix_append _ _
  have faultless : ∀ {made : HttpCall Request Content}, made.faults = true → made ∉ session.transcript :=
    fun faults member => List.any_eq_false.mp orderly.whole _ member faults
  refine ⟨ordered, completes, ?_, ⟨faultless rfl, faultless rfl⟩, ?_, writing, orderly.readsFirst,
    orderly.upgradesLast, ⟨orderly.once, orderly.accounted⟩, fun done => ?_, ?_⟩
  · intro unfinished unwritten
    rw [orderly.writing] at unwritten
    have queue : session.responseQueue = [] := by
      by_contra nonempty
      split at unwritten
      · cases responses : session.responseQueue with
        | nil => exact nonempty responses
        | cons first rest =>
          rw [responses] at unwritten
          cases unwritten
      · next idle => exact nonempty (sound.queued unfinished (Bool.not_eq_true _ ▸ idle))
    rw [routes, queue, List.append_nil]
  · refine Nat.le_trans (List.countP_mono_left fun operation _ reads => ?_) orderly.single
    rw [HttpOperation.reads, reads, Bool.or_true]
  · have accounted := orderly.accounted
    rw [sound.settled done] at accounted
    exact accounted
  · intro unfinished running empty
    obtain writes | awaits := sound.lively unfinished running
    · have busy := orderly.writing
      rw [empty, writes] at busy
      cases responses : session.responseQueue with
      | nil => exact orderly.busy writes responses
      | cons first rest =>
        rw [responses] at busy
        cases busy
    · rw [awaitsRequest, empty] at awaits
      cases awaits

/-- Along every run of a connection's callbacks and stops its pipelining contract holds. -/
theorem pipelining_is_ordered {length : Nat} {stopping : Bool} (run : Run (@Step Request Content) length)
    (start : run.state 0 = admitted stopping) : ∀ position, position ≤ length → (run.state position).Pipelines :=
  fun position within => Sound.pipelines
    (run.invariant (start ▸ admitted_sound stopping) (fun sound step => sound.step step) position within)

section Answered

def readable : HeaderInspection := ⟨.ready, 8192⟩

def lastResponse : GameApiHttpResponse String := ⟨"config", false⟩

def answering : HttpInput String String := ⟨"/api/v1/config", false, some (.httpResponse lastResponse), readable, .ran⟩

/-- A connection whose only outstanding operation an event completes. -/
def answer (session : HttpSession String String) (event : HttpEvent String String) : HttpSession String String :=
  (perform { session with outstanding := [] } event).settle

def reading : HttpSession String String := answer (admitted false) (.start readable)

def writing : HttpSession String String := answer reading (.headerRead .succeeded answering)

/-- One request is answered with a response that closes the connection. -/
def answeredRun : Run (@Step String String) 3 :=
  have reads : Step (admitted false) (.callback (.start readable)) reading := .completes [] [] _ rfl rfl
  have routes : Step reading (.callback (.headerRead .succeeded answering)) writing := .completes [] [] _ rfl rfl
  have writes : Step writing (.callback (.responseWritten lastResponse .succeeded answering))
      (answer writing (.responseWritten lastResponse .succeeded answering)) := .completes [] [] _ rfl rfl
  ((Run.single writes).cons routes).cons reads

theorem pipelining_is_ordered_answered : (answeredRun.state 3).Pipelines :=
  have start : answeredRun.state 0 = admitted false := rfl
  pipelining_is_ordered answeredRun start 3 (Nat.le_refl 3)

end Answered

end BlobRoyale.Server.HttpSession
