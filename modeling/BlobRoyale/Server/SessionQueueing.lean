import BlobRoyale.Server.SessionEgress
import BlobRoyale.Server.SessionView

/-!
# A session in the egress queue

Whether a session waits is read from its own calls. A waiting session is open, writes and pings nothing and
still has what it waits to write; every callback but a presentation slot keeps that, or stops the waiting.
-/

namespace BlobRoyale.Server.SessionWebSocketSession

open BlobRoyale.Simulation BlobRoyale.Protocol BlobRoyale.Runtime

variable {S : Type} [Scalar S] {session next last : SessionWebSocketSession S}

/-- Whether a session waits for a reservation, by the answers to its own calls. -/
def waiting (session : SessionWebSocketSession S) : Bool := session.transcript.foldl SessionCall.waits false

def presentationWaits (session : SessionWebSocketSession S) : List OutstandingOperation :=
  session.outstanding.filter fun pending => pending.operation = .presentationWait

/-- No close is requested and none has happened. -/
def isOpen (session : SessionWebSocketSession S) : Prop := session.finished = false ∧ session.closeRequested = false

structure Queueing (session : SessionWebSocketSession S) : Prop where
  registered : session.finished = false → session.registered = true
  unseated : session.controller = none → session.currentEntity = none
  presenting : session.isOpen → session.presentationWaits.length ≤ 1 ∧
    ∀ pending ∈ session.presentationWaits, pending.cancelled = false
  openly : session.waiting = true → session.isOpen
  unpinged : session.waiting = true → session.controlWriteActive = false
  unwritten : session.waiting = true → session.dataWriteActive = false
  ready : session.waiting = true → session.welcomeDelivered = true → session.delivery.pendingSnapshot.isSome = true

/-- What leaves the queueing of a session alone, or ends it. -/
structure Quiet (session next : SessionWebSocketSession S) : Prop where
  waiting : next.waiting = true → session.waiting = true
  opening : next.isOpen → session.isOpen
  registered : next.finished = false → session.finished = false ∧ next.registered = session.registered
  unseated : (session.controller = none → session.currentEntity = none) →
    next.controller = none → next.currentEntity = none
  presenting : next.isOpen → next.presentationWaits = session.presentationWaits
  openly : next.waiting = true → session.isOpen → next.isOpen
  control : next.waiting = true → next.controlWriteActive = session.controlWriteActive
  data : next.waiting = true → next.dataWriteActive = session.dataWriteActive
  delivered : next.waiting = true → next.welcomeDelivered = session.welcomeDelivered
  pending : next.waiting = true → session.delivery.pendingSnapshot.isSome = true →
    next.delivery.pendingSnapshot.isSome = true

namespace Quiet

theorem refl : Quiet session session :=
  ⟨id, id, fun open' => ⟨open', rfl⟩, id, fun _ => rfl, fun _ => id, fun _ => rfl, fun _ => rfl, fun _ => rfl,
    fun _ => id⟩

theorem trans (first : Quiet session next) (second : Quiet next last) : Quiet session last := by
  refine ⟨fun waits => first.waiting (second.waiting waits), fun open' => first.opening (second.opening open'), ?_,
    fun unseated => second.unseated (first.unseated unseated), ?_, ?_, ?_, ?_, ?_, ?_⟩
  · intro unfinished
    obtain ⟨middle, same⟩ := second.registered unfinished
    obtain ⟨start, equal⟩ := first.registered middle
    exact ⟨start, same.trans equal⟩
  · intro open'
    exact (second.presenting open').trans (first.presenting (second.opening open'))
  · intro waits open'
    exact second.openly waits (first.openly (second.waiting waits) open')
  · intro waits
    exact (second.control waits).trans (first.control (second.waiting waits))
  · intro waits
    exact (second.data waits).trans (first.data (second.waiting waits))
  · intro waits
    exact (second.delivered waits).trans (first.delivered (second.waiting waits))
  · intro waits present
    exact second.pending waits (first.pending (second.waiting waits) present)

theorem queueing (quiet : Quiet session next) (queues : session.Queueing) : next.Queueing := by
  refine ⟨?_, quiet.unseated queues.unseated, ?_, ?_, ?_, ?_, ?_⟩
  · intro unfinished
    obtain ⟨start, same⟩ := quiet.registered unfinished
    exact same.trans (queues.registered start)
  · intro open'
    rw [quiet.presenting open']
    exact queues.presenting (quiet.opening open')
  · intro waits
    exact quiet.openly waits (queues.openly (quiet.waiting waits))
  · intro waits
    exact (quiet.control waits).trans (queues.unpinged (quiet.waiting waits))
  · intro waits
    exact (quiet.data waits).trans (queues.unwritten (quiet.waiting waits))
  · intro waits delivered
    exact quiet.pending waits (queues.ready (quiet.waiting waits) ((quiet.delivered waits).symm.trans delivered))

theorem of_idle (idle : next.waiting = false) (opening : next.isOpen → session.isOpen)
    (registered : next.finished = false → session.finished = false ∧ next.registered = session.registered)
    (unseated : (session.controller = none → session.currentEntity = none) →
      next.controller = none → next.currentEntity = none)
    (presenting : next.isOpen → next.presentationWaits = session.presentationWaits) : Quiet session next := by
  refine ⟨?_, opening, registered, unseated, presenting, ?_, ?_, ?_, ?_, ?_⟩ <;> intro waits <;>
    exact absurd (waits.symm.trans idle) (by decide)

end Quiet

section Primitives

@[simp] theorem waiting_call {made : SessionCall S} : (session.call made).waiting = made.waits session.waiting := by
  simp only [waiting, call, List.foldl_append, List.foldl_cons, List.foldl_nil]

theorem quiet_call (made : SessionCall S) (patient : made.waits session.waiting = true → session.waiting = true) :
    Quiet session (session.call made) := by
  refine ⟨?_, id, fun open' => ⟨open', rfl⟩, id, fun _ => rfl, fun _ => id, fun _ => rfl, fun _ => rfl, fun _ => rfl,
    fun _ => id⟩
  rw [waiting_call]
  exact patient

theorem presentationWaits_start {operation : SessionOperation} (other : operation ≠ .presentationWait) :
    (session.start operation).presentationWaits = session.presentationWaits := by
  simp only [presentationWaits, start, List.filter_append, List.filter_cons, other, decide_false, List.filter_nil,
    Bool.false_eq_true, if_false, List.append_nil]

theorem presentationWaits_cancelWait {operation : SessionOperation} (other : operation ≠ .presentationWait) :
    (session.cancelWait operation).presentationWaits = session.presentationWaits := by
  simp only [presentationWaits, cancelWait]
  induction session.outstanding with
  | nil => rfl
  | cons entry rest ih =>
    by_cases same : entry.operation = operation
    · simp [same, other, ih]
    · simp [same, List.filter_cons, ih]

theorem quiet_start {operation : SessionOperation} (other : operation ≠ .presentationWait) :
    Quiet session (session.start operation) :=
  ⟨id, id, fun open' => ⟨open', rfl⟩, id, fun _ => presentationWaits_start other, fun _ => id, fun _ => rfl,
    fun _ => rfl, fun _ => rfl, fun _ => id⟩

theorem quiet_cancelWait {operation : SessionOperation} (other : operation ≠ .presentationWait) :
    Quiet session (session.cancelWait operation) :=
  ⟨id, id, fun open' => ⟨open', rfl⟩, id, fun _ => presentationWaits_cancelWait other, fun _ => id, fun _ => rfl,
    fun _ => rfl, fun _ => rfl, fun _ => id⟩

theorem quiet_armWait {operation : SessionOperation} (other : operation ≠ .presentationWait) :
    Quiet session (session.armWait operation) := (quiet_cancelWait other).trans (quiet_start other)

theorem quiet_of_same (transcript : next.transcript = session.transcript)
    (outstanding : next.outstanding = session.outstanding) (finished : next.finished = session.finished)
    (closeRequested : next.closeRequested = session.closeRequested)
    (registered : next.registered = session.registered) (controller : next.controller = session.controller)
    (currentEntity : next.currentEntity = session.currentEntity)
    (control : next.controlWriteActive = session.controlWriteActive)
    (data : next.dataWriteActive = session.dataWriteActive)
    (delivered : next.welcomeDelivered = session.welcomeDelivered) (delivery : next.delivery = session.delivery) :
    Quiet session next := by
  have opening : next.isOpen = session.isOpen := by rw [isOpen, isOpen, finished, closeRequested]
  have waits : next.waiting = session.waiting := by rw [waiting, waiting, transcript]
  refine ⟨waits ▸ id, opening ▸ id, ?_, ?_, ?_, ?_, fun _ => control, fun _ => data, fun _ => delivered, ?_⟩
  · rw [finished]
    exact fun open' => ⟨open', registered⟩
  · rw [controller, currentEntity]
    exact id
  · intro _
    rw [presentationWaits, outstanding]
    rfl
  · intro _
    exact opening ▸ id
  · intro _
    rw [delivery]
    exact id

theorem releaseActivePayload_waiting : session.releaseActivePayload.waiting = session.waiting := by
  unfold releaseActivePayload
  split
  · rfl
  · next lease _ => exact (waiting_call : (session.call (.releaseLease lease)).waiting = _)

theorem quiet_releaseActivePayload : Quiet session session.releaseActivePayload := by
  unfold releaseActivePayload
  split
  · exact .refl
  · next lease _ =>
    have released : Quiet session (session.call (.releaseLease lease)) := quiet_call _ id
    exact released.trans (quiet_of_same rfl rfl rfl rfl rfl rfl rfl rfl rfl rfl rfl)

end Primitives

section Seats

def seat (session : SessionWebSocketSession S) : Option ControllerId × Option EntityId :=
  (session.controller, session.currentEntity)

theorem unseated_of_seat (same : next.seat = session.seat)
    (unseated : session.controller = none → session.currentEntity = none) :
    next.controller = none → next.currentEntity = none := by
  obtain ⟨controller, entity⟩ := Prod.mk.inj same
  rw [controller, entity]
  exact unseated

@[simp] theorem call_seat {made : SessionCall S} : (session.call made).seat = session.seat := rfl
@[simp] theorem call_registered {made : SessionCall S} : (session.call made).registered = session.registered := rfl

@[simp] theorem cancelWait_seat {operation : SessionOperation} :
    (session.cancelWait operation).seat = session.seat := rfl

@[simp] theorem cancelWait_registered {operation : SessionOperation} :
    (session.cancelWait operation).registered = session.registered := rfl

@[simp] theorem cancelWait_waiting {operation : SessionOperation} :
    (session.cancelWait operation).waiting = session.waiting := rfl

@[simp] theorem start_seat {operation : SessionOperation} : (session.start operation).seat = session.seat := rfl

@[simp] theorem start_registered {operation : SessionOperation} :
    (session.start operation).registered = session.registered := rfl

@[simp] theorem start_waiting {operation : SessionOperation} :
    (session.start operation).waiting = session.waiting := rfl

@[simp] theorem cancelTimers_seat : session.cancelTimers.seat = session.seat := by
  simp only [cancelTimers, cancelWait_seat]

@[simp] theorem cancelTimers_registered : session.cancelTimers.registered = session.registered := by
  simp only [cancelTimers, cancelWait_registered]

@[simp] theorem discardDelivery_seat : session.discardDelivery.seat = session.seat := rfl
@[simp] theorem discardDelivery_registered : session.discardDelivery.registered = session.registered := rfl

end Seats

section Closing

theorem leaveMatch_eq : session.leaveMatch = { session with
    leftMatch := session.leaveMatch.leftMatch, transcript := session.leaveMatch.transcript } := by
  unfold leaveMatch
  split
  · rfl
  · split <;> rfl

@[simp] theorem leaveMatch_waiting : session.leaveMatch.waiting = session.waiting := by
  unfold leaveMatch
  split
  · rfl
  · split
    · rfl
    · rw [waiting_call, waiting_call]
      rfl

theorem cancelWaiterIfRegistered_waiting (registered : session.registered = true) :
    session.cancelWaiterIfRegistered.waiting = false := by
  unfold cancelWaiterIfRegistered
  rw [if_pos registered, waiting_call]
  rfl

theorem cancelWaiterIfRegistered_eq : session.cancelWaiterIfRegistered =
    { session with transcript := session.cancelWaiterIfRegistered.transcript } := by
  unfold cancelWaiterIfRegistered
  split <;> rfl

theorem releaseActivePayload_eq : session.releaseActivePayload = { session with
    activeEgressLease := session.releaseActivePayload.activeEgressLease
    transcript := session.releaseActivePayload.transcript } := by
  unfold releaseActivePayload
  split <;> rfl

theorem releaseIdlePayload_waiting : session.releaseIdlePayload.waiting = session.waiting := by
  unfold releaseIdlePayload
  split
  · rfl
  · exact releaseActivePayload_waiting

theorem unregister_waiting : session.unregister.waiting = session.waiting := by
  unfold unregister
  split
  · exact (waiting_call : (session.call .unregister).waiting = _)
  · rfl

theorem finish_waiting (registered : session.registered = true) (opened : session.finished = false) :
    session.finish.waiting = false := by
  have still : (leaveMatch { session with finished := true }).registered = true := by
    rw [leaveMatch_eq]
    exact registered
  unfold finish
  rw [opened, if_neg Bool.false_ne_true]
  dsimp only
  generalize leaveMatch { session with finished := true } = departed at still ⊢
  have registered' : (departed.cancelTimers.call .closeSocket).discardDelivery.registered = true := by
    simpa using still
  rw [unregister_waiting, waiting_call, SessionCall.waits, releaseIdlePayload_waiting,
    cancelWaiterIfRegistered_waiting registered']

theorem finish_finished : session.finish.finished = true := by
  have seen : session.finish.finished = session.view.finish.finished :=
    congrArg SessionProtocol.finished view_finish
  rw [seen]
  cases opened : session.view.finished with
  | true =>
    unfold SessionProtocol.finish
    rw [if_pos opened]
    exact opened
  | false =>
    rw [SessionProtocol.finish_of_open opened, SessionProtocol.leave_eq]
    rfl

@[simp] theorem leaveMatch_seat : session.leaveMatch.seat = session.seat := by
  rw [leaveMatch_eq]
  rfl

@[simp] theorem cancelWaiterIfRegistered_seat : session.cancelWaiterIfRegistered.seat = session.seat := by
  rw [cancelWaiterIfRegistered_eq]
  rfl

@[simp] theorem releaseIdlePayload_seat : session.releaseIdlePayload.seat = session.seat := by
  unfold releaseIdlePayload
  split
  · rfl
  · rw [releaseActivePayload_eq]
    rfl

@[simp] theorem unregister_seat : session.unregister.seat = session.seat := by
  unfold unregister
  split <;> rfl

theorem finish_seat : session.finish.seat = session.seat := by
  unfold finish
  split
  · rfl
  · simp only [unregister_seat, call_seat, releaseIdlePayload_seat, cancelWaiterIfRegistered_seat,
      discardDelivery_seat, cancelTimers_seat, leaveMatch_seat]
    rfl

theorem quiet_finish (queues : session.Queueing) : Quiet session session.finish := by
  cases opened : session.finished with
  | true =>
    have same : session.finish = session := by
      unfold finish
      rw [opened]
      rfl
    rw [same]
    exact .refl
  | false =>
    have done : session.finish.finished = true := finish_finished
    have closed : ¬session.finish.isOpen := fun open' => absurd (open'.1.symm.trans done) (by decide)
    refine .of_idle (finish_waiting (queues.registered opened) opened) (fun open' => absurd open' closed) ?_ ?_
      fun open' => absurd open' closed
    · intro unfinished
      exact absurd (unfinished.symm.trans done) (by decide)
    · exact unseated_of_seat finish_seat

theorem beginIdleClose_cases (intended : session.requestedCloseIntent.isSome = true) :
    session.beginIdleClose = session ∨
      ∃ code reason, session.beginIdleClose =
        ({ session with closeStarted := true }.call (.close code reason)).start .close := by
  obtain ⟨intent, present⟩ := Option.isSome_iff_exists.mp intended
  unfold beginIdleClose beginClose
  split
  · exact .inl rfl
  · split
    · next same begins =>
      split at begins
      · cases begins
        exact .inl rfl
      · split at begins
        · cases begins
        · next intent' _ =>
          cases begins
          exact .inr ⟨intent'.code, intent'.reason, rfl⟩
    · next fails =>
      split at fails
      · cases fails
      · rw [present] at fails
        cases fails

/-- A session that has asked for a close and left, before the close begins. -/
def leaving (session : SessionWebSocketSession S) (intent : CloseIntent) : SessionWebSocketSession S :=
  ((session.markCloseRequested intent).cancelWaiterIfRegistered.intendClose intent).leaveMatch

theorem leaving_intended (session : SessionWebSocketSession S) (intent : CloseIntent) :
    (session.leaving intent).requestedCloseIntent.isSome = true := by
  rw [leaving, leaveMatch_eq]
  rfl

theorem leaving_waiting (intent : CloseIntent) (registered : session.registered = true) :
    (session.leaving intent).waiting = false := by
  have marked : (session.markCloseRequested intent).registered = true := registered
  rw [leaving, leaveMatch_waiting]
  exact cancelWaiterIfRegistered_waiting marked

theorem leaving_seat (intent : CloseIntent) : (session.leaving intent).seat = session.seat := by
  have intended : ∀ asking : SessionWebSocketSession S, (asking.intendClose intent).seat = asking.seat := fun _ => rfl
  rw [leaving, leaveMatch_seat, intended, cancelWaiterIfRegistered_seat]
  rfl

theorem leaving_registered (intent : CloseIntent) : (session.leaving intent).registered = session.registered := by
  have intended : ∀ asking : SessionWebSocketSession S,
    (asking.intendClose intent).registered = asking.registered := fun _ => rfl
  rw [leaving, leaveMatch_eq]
  dsimp only
  rw [intended, cancelWaiterIfRegistered_eq]
  rfl

theorem requestClose_of_open {intent : CloseIntent} (opened : session.isOpen) :
    session.requestClose intent = (session.leaving intent).beginIdleClose := by
  unfold requestClose
  rw [opened.1, opened.2]
  rfl

theorem requestClose_of_closed {intent : CloseIntent} (closed : ¬session.isOpen) :
    session.requestClose intent = session := by
  unfold requestClose
  rw [if_pos]
  rw [Bool.or_eq_true]
  by_contra neither
  simp only [not_or, Bool.not_eq_true] at neither
  exact closed neither

theorem requestClose_waiting (queues : session.Queueing) (intent : CloseIntent) :
    (session.requestClose intent).waiting = false := by
  by_cases opened : session.isOpen
  · have left := leaving_waiting intent (queues.registered opened.1)
    rw [requestClose_of_open opened]
    obtain same | ⟨code, reason, same⟩ := beginIdleClose_cases (leaving_intended session intent)
    · rw [same]
      exact left
    · rw [same, start_waiting, waiting_call]
      exact left
  · rw [requestClose_of_closed opened]
    by_contra waits
    rw [Bool.not_eq_false] at waits
    exact opened (queues.openly waits)

theorem quiet_requestClose (queues : session.Queueing) {intent : CloseIntent} :
    Quiet session (session.requestClose intent) := by
  have idle := requestClose_waiting queues intent
  by_cases opened : session.isOpen
  · have closed : ¬(session.requestClose intent).isOpen := by
      rintro ⟨-, unrequested⟩
      have asked : session.view.requestClose.closeRequested = true :=
        SessionProtocol.requestClose_closeRequested opened.1
      have seen : (session.requestClose intent).view = session.view.requestClose := view_requestClose
      rw [← seen] at asked
      exact absurd (asked.symm.trans unrequested) (by decide)
    refine .of_idle idle (fun open' => absurd open' closed) ?_ ?_ fun open' => absurd open' closed
    · intro _
      rw [requestClose_of_open opened]
      refine ⟨opened.1, ?_⟩
      obtain same | ⟨code, reason, same⟩ := beginIdleClose_cases (leaving_intended session intent)
      · rw [same]
        exact leaving_registered intent
      · rw [same, start_registered, call_registered]
        exact leaving_registered intent
    · refine unseated_of_seat ?_
      rw [requestClose_of_open opened]
      obtain same | ⟨code, reason, same⟩ := beginIdleClose_cases (leaving_intended session intent)
      · rw [same]
        exact leaving_seat intent
      · rw [same, start_seat, call_seat]
        exact leaving_seat intent
  · rw [requestClose_of_closed opened]
    exact .refl

theorem quiet_failServer : Quiet session session.failServer :=
  (quiet_call .fail id).trans (quiet_start (by decide))

theorem quiet_reportSessionFailure (queues : session.Queueing) : Quiet session session.reportSessionFailure :=
  (quiet_requestClose queues).trans quiet_failServer

theorem reportSessionFailure_waiting (queues : session.Queueing) : session.reportSessionFailure.waiting = false := by
  have closed := requestClose_waiting queues .internalFailure
  rw [reportSessionFailure, failServer, start_waiting, waiting_call]
  exact closed

theorem quiet_beginCloseUnguarded : Quiet session session.beginCloseUnguarded := by
  unfold beginCloseUnguarded beginClose
  split
  · next closing begins =>
    split at begins
    · cases begins
      exact .refl
    · split at begins
      · cases begins
      · cases begins
        have started : Quiet session { session with closeStarted := true } :=
          quiet_of_same rfl rfl rfl rfl rfl rfl rfl rfl rfl rfl rfl
        exact (started.trans (quiet_call (.close _ _) id)).trans (quiet_start (by decide))
  · exact quiet_call (.escape _) id

end Closing

end BlobRoyale.Server.SessionWebSocketSession
