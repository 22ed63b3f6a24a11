import BlobRoyale.Server.SessionRefinement

/-!
# Every callback is moves of the protocol

The remaining callbacks of a session, and one step of it: each is a sequence of the protocol's moves, so a
session stays sound.
-/

namespace BlobRoyale.Server.SessionWebSocketSession

open BlobRoyale.Simulation BlobRoyale.Protocol BlobRoyale.Runtime SessionProtocol Relation

variable {S : Type} [Scalar S] {session next : SessionWebSocketSession S} {protocol : SessionProtocol S}
variable {completion : Completion}

section Completions

theorem completes_of_pending (sound : protocol.Sound) (pending : 0 < protocol.pendingSnapshot)
    (opened : protocol.finished = false) : ∃ completed, protocol.delivery.completeActiveWrite = .ok completed := by
  have writing := sound.operating.written opened pending
  obtain ⟨active, present⟩ := Option.isSome_iff_exists.mp writing
  unfold SnapshotDeliveryState.completeActiveWrite
  rw [present]
  exact ⟨_, rfl⟩

theorem snapshotWritten_moves (sound : protocol.Sound) (pending : 0 < protocol.pendingSnapshot)
    (seen : session.view = { protocol with pendingSnapshot := protocol.pendingSnapshot - 1 }) :
    Moves protocol (session.snapshotWritten completion).view := by
  have landed : (releaseActivePayload (cancelWait
      { session with snapshotWriteOperationActive := false } .writeDeadlineWait)).view = protocol.landSnapshot := by
    rw [view_releaseActivePayload, view_cancelWait]
    calc _ = { session.view with snapshotWriteOperationActive := false } := rfl
      _ = _ := by rw [seen]; rfl
  unfold snapshotWritten
  generalize releaseActivePayload (cancelWait
    { session with snapshotWriteOperationActive := false } .writeDeadlineWait) = arrived at landed ⊢
  refine .single ?_
  dsimp only
  split
  · next finished =>
    rw [landed]
    exact .snapshotLandedLate pending ((congrArg SessionProtocol.finished landed).symm.trans finished)
  · next opened =>
    rw [Bool.not_eq_true] at opened
    have open' : protocol.finished = false := (congrArg SessionProtocol.finished landed).symm.trans opened
    split
    · rw [view_finish, landed]
      exact .snapshotLost pending
    · obtain ⟨completed, completes⟩ := completes_of_pending sound pending open'
      have same : arrived.delivery = protocol.delivery := congrArg SessionProtocol.delivery landed
      rw [same, completes]
      have delivered : ({ arrived with delivery := completed } : SessionWebSocketSession S).view =
          { protocol.landSnapshot with delivery := completed } :=
        congrArg (fun viewed => ({ viewed with delivery := completed } : SessionProtocol S)) landed
      have intended : arrived.closeRequested = true → arrived.requestedCloseIntent.isSome = true := by
        intro requested
        exact (congrArg SessionProtocol.closeIntended landed).trans
          (sound.operating.intended ((congrArg SessionProtocol.closeRequested landed).symm.trans requested))
      have closed := view_closeIfRequested { arrived with delivery := completed } intended
      rw [delivered] at closed
      refine closed.symm ▸ ?_
      exact .snapshotLanded pending open' completed completes

theorem pingWritten_moves (sound : protocol.Sound) (pending : 0 < protocol.pendingPing)
    (seen : session.view = { protocol with pendingPing := protocol.pendingPing - 1 }) :
    Moves protocol (session.pingWritten completion).view := by
  have landed : ({ session with controlWriteActive := false } : SessionWebSocketSession S).view =
      protocol.landPing := by
    calc _ = { session.view with controlWriteActive := false } := rfl
      _ = _ := by rw [seen]; rfl
  unfold pingWritten
  generalize ({ session with controlWriteActive := false } : SessionWebSocketSession S) = arrived at landed ⊢
  refine .single ?_
  dsimp only
  split
  · next finished =>
    rw [landed]
    exact .pingLandedLate pending ((congrArg SessionProtocol.finished landed).symm.trans finished)
  · split
    · rw [view_finish, landed]
      exact .pingLost pending
    · have seen' : Move protocol protocol.landPing.closeIfRequested := .pingLanded pending
      have requested : arrived.closeRequested = protocol.landPing.closeRequested :=
        congrArg SessionProtocol.closeRequested landed
      unfold closeIfRequested at seen'
      split
      · next asked =>
        rw [if_pos (requested ▸ asked)] at seen'
        rw [view_beginCloseUnguarded, landed]
        · exact seen'
        · exact (congrArg SessionProtocol.closeIntended landed).trans
            (sound.operating.intended (requested.symm.trans asked))
      · next unasked =>
        rw [if_neg (requested ▸ unasked)] at seen'
        rw [view_armWait (by decide)]
        exact (show ({ arrived with waitingForPong := true } : SessionWebSocketSession S).view = arrived.view
          from rfl) ▸ landed.symm ▸ seen'

theorem dataWriteTimedOut_moves : Moves session.view (session.dataWriteTimedOut completion).view := by
  unfold dataWriteTimedOut
  split
  · exact .refl
  · rw [view_finish, view_call_silent rfl]
    exact .single .timedOut

theorem idleCheck_moves {now : Int} : Moves session.view (session.idleCheck completion now).view := by
  unfold idleCheck
  dsimp only
  split
  · exact .refl
  · next runs =>
    simp only [Bool.or_eq_true, not_or, Bool.not_eq_true] at runs
    split
    · rw [view_finish]
      exact .single .finished
    · have armed : ∀ waits : SessionWebSocketSession S, waits.armIdleWait.view = waits.view := fun _ =>
        view_armWait (by decide)
      split
      · rw [armed]
        exact .refl
      · split
        · rw [armed]
          exact .refl
        · next idle =>
          simp only [Bool.or_eq_true, not_or, Bool.not_eq_true] at idle
          rw [view_start_ping, view_call rfl, view_call_silent rfl]
          exact .single (.pingStarted runs.1.2 runs.2 idle.1 idle.2)

theorem pongTimedOut_moves : Moves session.view (session.pongTimedOut completion).view := by
  unfold pongTimedOut
  split
  · exact .refl
  · rw [view_requestClose]
    exact .single .requested

theorem view_scheduleIdleCheck : session.scheduleIdleCheck.view = session.view := by
  unfold scheduleIdleCheck
  split
  · rfl
  · exact view_armWait (by decide)

theorem view_observeControlFrame {pong rateAdmits : Bool} {now : Int} :
    (session.observeControlFrame pong now rateAdmits).view = session.view := by
  unfold observeControlFrame
  split
  · rfl
  · have answered : (if pong && session.waitingForPong then
        cancelWait { session with lastReceivedFrameAt := now, waitingForPong := false } .pongWait
        else { session with lastReceivedFrameAt := now } : SessionWebSocketSession S).view = session.view := by
      split
      · rw [view_cancelWait]
        rfl
      · rfl
    dsimp only
    rw [view_scheduleIdleCheck]
    split
    · exact answered
    · rw [view_start_silent (by decide)]
      exact answered

theorem requestStop_moves {mode : SessionStopMode} : Moves session.view (session.requestStop mode).view := by
  cases mode with
  | immediate =>
    rw [requestStop, view_finish, view_call_silent rfl]
    exact .single .finished
  | graceful =>
    rw [requestStop, view_requestClose]
    exact .single .requested

end Completions

section ClientFrames

theorem view_readClientFrame : session.readClientFrame.view = session.view := by
  unfold readClientFrame
  split
  · rfl
  · exact view_start_silent (by decide)

theorem submitClientCommand_moves {command : Command S} {submitted : CommandSubmissionResult} :
    Moves session.view (session.submitClientCommand command submitted).view := by
  unfold submitClientCommand
  split
  · exact .refl
  · have asked : (session.call (.submit command)).view = session.view := view_call_silent rfl
    dsimp only
    split
    · rw [view_requestClose, asked]
      exact .single .requested
    · rw [view_requestClose, asked]
      exact .single .requested
    · rw [asked]

theorem admitClientCommand_moves {admission : FrameAdmission S} :
    Moves session.view (session.admitClientCommand admission).view := by
  unfold admitClientCommand
  split
  · rw [view_requestClose]
    exact .single .requested
  · split
    · rw [view_requestClose]
      exact .single .requested
    · exact submitClientCommand_moves

theorem clientFrameRead_moves {frame : FrameRead S} :
    Moves session.view (session.clientFrameRead frame).view := by
  cases frame with
  | closedByPeer =>
    rw [clientFrameRead, view_finish]
    exact .single .finished
  | messageTooBig | badFramePayload | failed =>
    rw [clientFrameRead, view_requestClose]
    exact .single .requested
  | received now admission =>
    have heard : (scheduleIdleCheck { session with lastReceivedFrameAt := now }).view = session.view :=
      view_scheduleIdleCheck
    rw [clientFrameRead, view_readClientFrame, ← heard]
    exact admitClientCommand_moves

end ClientFrames

section Steps

theorem perform_moves (sound : session.view.Sound) {event : SessionEvent S}
    (silent : ∀ operation completion, event.completes = some (operation, completion) →
      operation ∉ [.welcomeWrite, .snapshotWrite, .ping, .close, .serverFailure]) :
    Moves session.view (session.perform event).view := by
  cases event with
  | presentationSlot completion input => exact presentationSlot_moves sound
  | dataWriteTimedOut completion => exact dataWriteTimedOut_moves
  | idleCheck completion now => exact idleCheck_moves
  | pongTimedOut completion => exact pongTimedOut_moves
  | clientFrameRead frame => exact clientFrameRead_moves
  | controlRateClose =>
    rw [perform, view_requestClose]
    exact .single .requested
  | controlFrame pong now rateAdmits =>
    rw [perform, view_observeControlFrame]
  | requestStop mode => exact requestStop_moves
  | welcomeWritten completion | snapshotWritten completion | pingWritten completion | closed completion =>
    exact absurd (silent _ _ rfl) (by decide)
  | serverFailure => exact absurd (silent _ _ rfl) (by decide)

/-- A callback of an operation the protocol follows, once that operation has completed. -/
theorem completes_moves (sound : session.view.Sound) {event : SessionEvent S} {pending : OutstandingOperation}
    (member : pending ∈ session.outstanding) (ends : event.completes = some (pending.operation, completion)) :
    Moves session.view ((session.completed pending).perform event).view := by
  by_cases silent : pending.operation ∈ [.welcomeWrite, .snapshotWrite, .ping, .close, .serverFailure]
  · cases event with
    | welcomeWritten completion =>
      obtain ⟨awaited, seen⟩ := view_completed_welcome member (congrArg Prod.fst (Option.some.inj ends)).symm
      exact welcomeWritten_moves sound awaited seen
    | snapshotWritten completion =>
      obtain ⟨awaited, seen⟩ := view_completed_snapshot member (congrArg Prod.fst (Option.some.inj ends)).symm
      exact snapshotWritten_moves sound awaited seen
    | pingWritten completion =>
      obtain ⟨awaited, seen⟩ := view_completed_ping member (congrArg Prod.fst (Option.some.inj ends)).symm
      exact pingWritten_moves sound awaited seen
    | closed completion =>
      obtain ⟨awaited, seen⟩ := view_completed_close member (congrArg Prod.fst (Option.some.inj ends)).symm
      rw [perform, view_finish, seen]
      exact .single (.closeLanded awaited)
    | serverFailure =>
      obtain ⟨awaited, seen⟩ := view_completed_failure member (congrArg Prod.fst (Option.some.inj ends)).symm
      rw [perform, requestStop, view_finish, view_call_silent rfl, seen]
      exact .single (.failureLanded awaited)
    | presentationSlot completion input | idleCheck completion input | dataWriteTimedOut completion
    | pongTimedOut completion | clientFrameRead frame =>
      rw [← (Prod.mk.inj (Option.some.inj ends)).1] at silent
      exact absurd silent (by decide)
    | controlRateClose =>
      rw [← (Prod.mk.inj (Option.some.inj ends)).1] at silent
      exact absurd silent (by decide)
    | controlFrame pong now rateAdmits => cases ends
    | requestStop mode => cases ends
  · have same := view_completed_silent member silent
    rw [← same]
    refine perform_moves (same.symm ▸ sound) fun operation other completes => ?_
    rw [ends] at completes
    cases completes
    exact silent

theorem Step.moves {event : SessionEvent S} (sound : session.view.Sound) (step : Step session event next) :
    Moves session.view next.view := by
  cases step with
  | completes pending completion member ends abortable => exact completes_moves sound member ends
  | outside spontaneous =>
    refine perform_moves sound fun operation completion completes => ?_
    rw [spontaneous] at completes
    cases completes

end Steps

end BlobRoyale.Server.SessionWebSocketSession
