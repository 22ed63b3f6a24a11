import BlobRoyale.Server.SessionQueueing
import BlobRoyale.Server.SessionSteps

/-!
# Callbacks that do not reserve

Every callback of a session but its presentation slot leaves its queueing alone, or ends it: a ping and a
close cancel the waiter, and what a write completes was never behind a waiting session.
-/

namespace BlobRoyale.Server.SessionWebSocketSession

open BlobRoyale.Simulation BlobRoyale.Protocol BlobRoyale.Runtime

variable {S : Type} [Scalar S] {session next : SessionWebSocketSession S} {completion : Completion}

section Idle

theorem quiet_of_idle (idle : session.waiting = false) (transcript : next.transcript = session.transcript)
    (outstanding : next.outstanding = session.outstanding) (finished : next.finished = session.finished)
    (closeRequested : next.closeRequested = session.closeRequested)
    (registered : next.registered = session.registered) (seat : next.seat = session.seat) : Quiet session next := by
  have opening : next.isOpen = session.isOpen := by rw [isOpen, isOpen, finished, closeRequested]
  refine .of_idle (by rw [waiting, transcript]; exact idle) (opening ▸ id) ?_ (unseated_of_seat seat) ?_
  · rw [finished]
    exact fun open' => ⟨open', registered⟩
  · intro _
    rw [presentationWaits, outstanding]
    rfl

theorem Quiet.idle (quiet : Quiet session next) (idle : session.waiting = false) : next.waiting = false := by
  by_contra waits
  rw [Bool.not_eq_false] at waits
  exact absurd ((quiet.waiting waits).symm.trans idle) (by decide)

theorem presentationWaits_completed {pending : OutstandingOperation} (other : pending.operation ≠ .presentationWait) :
    (session.completed pending).presentationWaits = session.presentationWaits := by
  simp only [presentationWaits, completed]
  induction session.outstanding with
  | nil => rfl
  | cons entry rest ih =>
    by_cases same : entry = pending
    · subst same
      simp [other]
    · rw [List.erase_cons_tail (by simpa using same), List.filter_cons, List.filter_cons, ih]

theorem quiet_completed {pending : OutstandingOperation} (other : pending.operation ≠ .presentationWait) :
    Quiet session (session.completed pending) :=
  ⟨id, id, fun open' => ⟨open', rfl⟩, id, fun _ => presentationWaits_completed other, fun _ => id, fun _ => rfl,
    fun _ => rfl, fun _ => rfl, fun _ => id⟩

end Idle

section Completions

variable (queues : session.Queueing)

theorem quiet_closeIfRequested :
    Quiet session (if session.closeRequested then session.beginCloseUnguarded else session) := by
  split
  · exact quiet_beginCloseUnguarded
  · exact .refl

include queues

theorem quiet_welcomeWritten (idle : session.waiting = false) : Quiet session (session.welcomeWritten completion) := by
  unfold welcomeWritten
  have lowered : Quiet session { session with welcomeWriteActive := false, snapshotWriteOperationActive := false } :=
    quiet_of_idle idle rfl rfl rfl rfl rfl rfl
  have landed : Quiet session (releaseActivePayload (cancelWait
      { session with welcomeWriteActive := false, snapshotWriteOperationActive := false } .writeDeadlineWait)) :=
    (lowered.trans (quiet_cancelWait (by decide))).trans quiet_releaseActivePayload
  generalize releaseActivePayload (cancelWait
    { session with welcomeWriteActive := false, snapshotWriteOperationActive := false } .writeDeadlineWait) = arrived
    at landed ⊢
  dsimp only
  split
  · exact landed
  · split
    · exact landed.trans (quiet_finish (landed.queueing queues))
    · have delivered : Quiet arrived { arrived with welcomeDelivered := true } :=
        quiet_of_idle (landed.idle idle) rfl rfl rfl rfl rfl rfl
      exact landed.trans (delivered.trans quiet_closeIfRequested)

theorem quiet_snapshotWritten (idle : session.waiting = false) :
    Quiet session (session.snapshotWritten completion) := by
  unfold snapshotWritten
  have lowered : Quiet session { session with snapshotWriteOperationActive := false } :=
    quiet_of_idle idle rfl rfl rfl rfl rfl rfl
  have landed : Quiet session (releaseActivePayload (cancelWait
      { session with snapshotWriteOperationActive := false } .writeDeadlineWait)) :=
    (lowered.trans (quiet_cancelWait (by decide))).trans quiet_releaseActivePayload
  generalize releaseActivePayload (cancelWait
    { session with snapshotWriteOperationActive := false } .writeDeadlineWait) = arrived at landed ⊢
  dsimp only
  split
  · exact landed
  · split
    · exact landed.trans (quiet_finish (landed.queueing queues))
    · split
      · exact landed.trans (quiet_reportSessionFailure (landed.queueing queues))
      · next completed _ =>
        have delivered : Quiet arrived { arrived with delivery := completed } :=
          quiet_of_idle (landed.idle idle) rfl rfl rfl rfl rfl rfl
        exact landed.trans (delivered.trans quiet_closeIfRequested)

theorem quiet_pingWritten (idle : session.waiting = false) : Quiet session (session.pingWritten completion) := by
  unfold pingWritten
  have landed : Quiet session { session with controlWriteActive := false } :=
    quiet_of_idle idle rfl rfl rfl rfl rfl rfl
  generalize ({ session with controlWriteActive := false } : SessionWebSocketSession S) = arrived at landed ⊢
  dsimp only
  split
  · exact landed
  · split
    · exact landed.trans (quiet_finish (landed.queueing queues))
    · split
      · exact landed.trans quiet_beginCloseUnguarded
      · have waits : Quiet arrived { arrived with waitingForPong := true } :=
          quiet_of_same rfl rfl rfl rfl rfl rfl rfl rfl rfl rfl rfl
        exact (landed.trans waits).trans (quiet_armWait (by decide))

theorem quiet_dataWriteTimedOut : Quiet session (session.dataWriteTimedOut completion) := by
  unfold dataWriteTimedOut
  split
  · exact .refl
  · have intended : Quiet session { session with requestedCloseIntent := some .slowConsumer } :=
      quiet_of_same rfl rfl rfl rfl rfl rfl rfl rfl rfl rfl rfl
    have closed : Quiet session ({ session with requestedCloseIntent := some .slowConsumer }.call .closeSocket) :=
      intended.trans (quiet_call .closeSocket id)
    exact closed.trans (quiet_finish (closed.queueing queues))

omit queues in
theorem quiet_armIdleWait : Quiet session session.armIdleWait := by
  have active : Quiet session { session with idleWaitActive := true } :=
    quiet_of_same rfl rfl rfl rfl rfl rfl rfl rfl rfl rfl rfl
  exact active.trans (quiet_armWait (by decide))

theorem quiet_idleCheck {now : Int} : Quiet session (session.idleCheck completion now) := by
  unfold idleCheck
  have checked : Quiet session { session with idleWaitActive := false } :=
    quiet_of_same rfl rfl rfl rfl rfl rfl rfl rfl rfl rfl rfl
  generalize ({ session with idleWaitActive := false } : SessionWebSocketSession S) = awake at checked ⊢
  dsimp only
  split
  · exact checked
  · split
    · exact checked.trans (quiet_finish (checked.queueing queues))
    · split
      · exact checked.trans quiet_armIdleWait
      · split
        · exact checked.trans quiet_armIdleWait
        · refine checked.trans ?_
          have cancelled : Quiet awake (call { awake with controlWriteActive := true } .cancelWaiter) := by
            refine .of_idle ?_ id (fun open' => ⟨open', rfl⟩) id fun _ => rfl
            rw [waiting_call]
            rfl
          exact (cancelled.trans (quiet_call .ping id)).trans (quiet_start (by decide))

theorem quiet_pongTimedOut : Quiet session (session.pongTimedOut completion) := by
  unfold pongTimedOut
  split
  · exact .refl
  · exact quiet_requestClose queues

omit queues in
theorem quiet_scheduleIdleCheck : Quiet session session.scheduleIdleCheck := by
  unfold scheduleIdleCheck
  split
  · exact .refl
  · exact quiet_armIdleWait

omit queues in
theorem quiet_observeControlFrame {pong rateAdmits : Bool} {now : Int} :
    Quiet session (session.observeControlFrame pong now rateAdmits) := by
  unfold observeControlFrame
  split
  · exact .refl
  · have received : Quiet session { session with lastReceivedFrameAt := now } :=
      quiet_of_same rfl rfl rfl rfl rfl rfl rfl rfl rfl rfl rfl
    generalize ({ session with lastReceivedFrameAt := now } : SessionWebSocketSession S) = heard at received ⊢
    have answered : Quiet heard (if pong && heard.waitingForPong then
        cancelWait { heard with waitingForPong := false } .pongWait else heard) := by
      split
      · have ponged : Quiet heard { heard with waitingForPong := false } :=
          quiet_of_same rfl rfl rfl rfl rfl rfl rfl rfl rfl rfl rfl
        exact ponged.trans (quiet_cancelWait (by decide))
      · exact .refl
    dsimp only
    generalize (if pong && heard.waitingForPong then cancelWait { heard with waitingForPong := false } .pongWait
      else heard) = answering at answered ⊢
    refine received.trans (answered.trans ?_)
    split
    · exact quiet_scheduleIdleCheck
    · exact (quiet_start (by decide)).trans quiet_scheduleIdleCheck

theorem quiet_requestStop {mode : SessionStopMode} : Quiet session (session.requestStop mode) := by
  cases mode with
  | immediate =>
    have closed : Quiet session (session.call .closeSocket) := quiet_call .closeSocket id
    exact closed.trans (quiet_finish (closed.queueing queues))
  | graceful => exact quiet_requestClose queues

end Completions

section ClientFrames

theorem quiet_readClientFrame : Quiet session session.readClientFrame := by
  unfold readClientFrame
  split
  · exact .refl
  · exact quiet_start (by decide)

theorem quiet_submitClientCommand (queues : session.Queueing) {command : Command S}
    {submitted : CommandSubmissionResult} : Quiet session (session.submitClientCommand command submitted) := by
  unfold submitClientCommand
  split
  · exact .refl
  · have asked : Quiet session (session.call (.submit command)) := quiet_call (.submit command) id
    dsimp only
    split
    · exact asked.trans (quiet_requestClose (asked.queueing queues))
    · exact asked.trans (quiet_requestClose (asked.queueing queues))
    · exact asked

theorem quiet_clientFrameRead (queues : session.Queueing) {frame : FrameRead S} :
    Quiet session (session.clientFrameRead frame) := by
  cases frame with
  | closedByPeer => exact quiet_finish queues
  | messageTooBig | badFramePayload | failed => exact quiet_requestClose queues
  | received now admission =>
    have noted : Quiet session { session with lastReceivedFrameAt := now } :=
      quiet_of_same rfl rfl rfl rfl rfl rfl rfl rfl rfl rfl rfl
    have heard := noted.trans quiet_scheduleIdleCheck
    refine Quiet.trans ?_ quiet_readClientFrame
    generalize scheduleIdleCheck { session with lastReceivedFrameAt := now } = listening at heard ⊢
    have queues' := heard.queueing queues
    refine heard.trans ?_
    unfold admitClientCommand
    split
    · exact quiet_requestClose queues'
    · split
      · exact quiet_requestClose queues'
      · exact quiet_submitClientCommand queues'

end ClientFrames

section Steps

theorem quiet_perform (queues : session.Queueing) {event : SessionEvent S}
    (silent : ∀ operation completion, event.completes = some (operation, completion) →
      operation ∉ [.presentationWait, .welcomeWrite, .snapshotWrite, .ping]) :
    Quiet session (session.perform event) := by
  cases event with
  | dataWriteTimedOut completion => exact quiet_dataWriteTimedOut queues
  | idleCheck completion now => exact quiet_idleCheck queues
  | pongTimedOut completion => exact quiet_pongTimedOut queues
  | clientFrameRead frame => exact quiet_clientFrameRead queues
  | closed completion => exact quiet_finish queues
  | controlRateClose => exact quiet_requestClose queues
  | serverFailure => exact (quiet_requestStop queues : Quiet session (session.requestStop .immediate))
  | controlFrame pong now rateAdmits => exact quiet_observeControlFrame
  | requestStop mode => exact quiet_requestStop queues
  | presentationSlot completion input => exact absurd (silent _ _ rfl) (by simp)
  | welcomeWritten completion | snapshotWritten completion | pingWritten completion =>
    exact absurd (silent _ _ rfl) (by simp)

theorem idle_of_pending (queues : session.Queueing) (sound : session.view.Sound)
    (pending : 0 < session.view.pendingWelcome + session.view.pendingSnapshot + session.view.pendingPing) :
    session.waiting = false := by
  by_contra waits
  rw [Bool.not_eq_false] at waits
  have opened := queues.openly waits
  have unwritten := queues.unwritten waits
  have quiet : session.welcomeWriteActive = false ∧ session.delivery.writeActive = false := by
    simpa only [dataWriteActive, Bool.or_eq_false_iff] using unwritten
  obtain ⟨welcome, snapshot, ping, -, -, -⟩ :=
    sound.idle opened.1 opened.2 quiet.1 quiet.2 (queues.unpinged waits)
  omega

theorem Step.quiet {event : SessionEvent S} (queues : session.Queueing) (sound : session.view.Sound)
    (step : Step session event next) (other : ∀ completion input, event ≠ .presentationSlot completion input) :
    Quiet session next := by
  cases step with
  | completes pending completion member ends abortable =>
    have unpresented : pending.operation ≠ .presentationWait := by
      intro presented
      rw [presented] at ends
      cases event with
      | presentationSlot completion input => exact other completion input rfl
      | welcomeWritten _ | snapshotWritten _ | dataWriteTimedOut _ | idleCheck _ _ | pingWritten _ | pongTimedOut _
      | clientFrameRead _ | closed _ => cases ends
      | controlRateClose | serverFailure => cases ends
      | controlFrame _ _ _ | requestStop _ => cases ends
    have landed : Quiet session (session.completed pending) := quiet_completed unpresented
    refine landed.trans ?_
    have queues' := landed.queueing queues
    by_cases silent : pending.operation ∈ [.presentationWait, .welcomeWrite, .snapshotWrite, .ping]
    · cases event with
      | welcomeWritten completion =>
        obtain ⟨awaited, -⟩ := view_completed_welcome member (Prod.mk.inj (Option.some.inj ends)).1.symm
        exact quiet_welcomeWritten queues' (landed.idle (idle_of_pending queues sound (by omega)))
      | snapshotWritten completion =>
        obtain ⟨awaited, -⟩ := view_completed_snapshot member (Prod.mk.inj (Option.some.inj ends)).1.symm
        exact quiet_snapshotWritten queues' (landed.idle (idle_of_pending queues sound (by omega)))
      | pingWritten completion =>
        obtain ⟨awaited, -⟩ := view_completed_ping member (Prod.mk.inj (Option.some.inj ends)).1.symm
        exact quiet_pingWritten queues' (landed.idle (idle_of_pending queues sound (by omega)))
      | presentationSlot completion input => exact absurd rfl (other completion input)
      | dataWriteTimedOut _ | idleCheck _ _ | pongTimedOut _ | clientFrameRead _ | closed _ =>
        rw [← (Prod.mk.inj (Option.some.inj ends)).1] at silent
        exact absurd silent (by decide)
      | controlRateClose | serverFailure =>
        rw [← (Prod.mk.inj (Option.some.inj ends)).1] at silent
        exact absurd silent (by decide)
      | controlFrame _ _ _ | requestStop _ => cases ends
    · refine quiet_perform queues' fun operation other' completes => ?_
      rw [ends] at completes
      cases completes
      exact silent
  | outside spontaneous =>
    refine quiet_perform queues fun operation completion completes => ?_
    rw [spontaneous] at completes
    cases completes

end Steps

end BlobRoyale.Server.SessionWebSocketSession
