import BlobRoyale.Server.SessionProtocolMoves
import BlobRoyale.Server.SessionWebSocketSession

/-!
# A session seen as its protocol

The protocol's view of a session, and what each part of a callback does to it: most of a callback is
invisible, and the closing functions are the protocol's own.
-/

namespace BlobRoyale.Server

open BlobRoyale.Simulation BlobRoyale.Protocol BlobRoyale.Runtime

variable {S : Type} [Scalar S]

/-- What the protocol says of a call, if anything. -/
def SessionCall.protocolCall : SessionCall S → Option ProtocolCall
  | countSessionOut => some .countedOut
  | closeSession controller => some (.closedSession controller)
  | writeWelcome _ => some .welcome
  | writeSnapshot messageSequence tick => some (.snapshot messageSequence tick)
  | ping => some .ping
  | requestClose _ => some .requested
  | close .. => some .close
  | countSessionIn | submit _ | tryReserve .. | cancelWaiter | commitEncodedBytes .. | releaseLease _ | closeSocket
  | releaseAdmission | unregister | fail | escape _ => none

namespace SessionWebSocketSession

/-- How many operations of a kind are outstanding. -/
def pending (session : SessionWebSocketSession S) (operation : SessionOperation) : Nat :=
  (session.outstanding.map OutstandingOperation.operation).count operation

def view (session : SessionWebSocketSession S) : SessionProtocol S where
  delivery := session.delivery
  controller := session.controller
  closeIntended := session.requestedCloseIntent.isSome
  controlWriteActive := session.controlWriteActive
  welcomeWriteActive := session.welcomeWriteActive
  welcomeDelivered := session.welcomeDelivered
  snapshotWriteOperationActive := session.snapshotWriteOperationActive
  closeRequested := session.closeRequested
  closeStarted := session.closeStarted
  leftMatch := session.leftMatch
  finished := session.finished
  pendingWelcome := session.pending .welcomeWrite
  pendingSnapshot := session.pending .snapshotWrite
  pendingPing := session.pending .ping
  pendingClose := session.pending .close
  pendingFailure := session.pending .serverFailure
  said := session.transcript.filterMap SessionCall.protocolCall

variable {session : SessionWebSocketSession S}

section Primitives

theorem view_call_silent {made : SessionCall S} (silent : made.protocolCall = none) :
    (session.call made).view = session.view := by
  simp only [view, call, pending, List.filterMap_append, List.filterMap_cons, silent, List.filterMap_nil,
    List.append_nil]

theorem view_call {made : SessionCall S} {said : ProtocolCall} (spoken : made.protocolCall = some said) :
    (session.call made).view = session.view.say said := by
  simp only [view, call, pending, SessionProtocol.say, List.filterMap_append, List.filterMap_cons, spoken,
    List.filterMap_nil]

theorem pending_start {operation other : SessionOperation} :
    (session.start operation).pending other = session.pending other + if operation = other then 1 else 0 := by
  simp only [pending, start, List.map_append, List.count_append, List.map_cons, List.map_nil, List.count_singleton,
    beq_iff_eq]

theorem pending_cancelWait {operation other : SessionOperation} :
    (session.cancelWait operation).pending other = session.pending other := by
  have same : (session.cancelWait operation).outstanding.map OutstandingOperation.operation =
      session.outstanding.map OutstandingOperation.operation := by
    simp only [cancelWait, List.map_map]
    refine List.map_congr_left fun entry _ => ?_
    simp only [Function.comp]
    split <;> rfl
  rw [pending, same]
  rfl

theorem view_cancelWait {operation : SessionOperation} : (session.cancelWait operation).view = session.view := by
  simp only [view, pending_cancelWait]
  rfl

theorem view_start_silent {operation : SessionOperation}
    (silent : operation ∉ [.welcomeWrite, .snapshotWrite, .ping, .close, .serverFailure]) :
    (session.start operation).view = session.view := by
  simp only [List.mem_cons, List.not_mem_nil, or_false, not_or] at silent
  obtain ⟨welcome, snapshot, ping, close, failure⟩ := silent
  simp only [view, pending_start, welcome, snapshot, ping, close, failure, if_false, Nat.add_zero]
  rfl

theorem view_start_welcome : (session.start .welcomeWrite).view =
    { session.view with pendingWelcome := session.view.pendingWelcome + 1 } := by
  simp only [view, pending_start, reduceCtorEq, if_false, if_true, Nat.add_zero]
  rfl

theorem view_start_snapshot : (session.start .snapshotWrite).view =
    { session.view with pendingSnapshot := session.view.pendingSnapshot + 1 } := by
  simp only [view, pending_start, reduceCtorEq, if_false, if_true, Nat.add_zero]
  rfl

theorem view_start_ping : (session.start .ping).view =
    { session.view with pendingPing := session.view.pendingPing + 1 } := by
  simp only [view, pending_start, reduceCtorEq, if_false, if_true, Nat.add_zero]
  rfl

theorem view_start_close : (session.start .close).view =
    { session.view with pendingClose := session.view.pendingClose + 1 } := by
  simp only [view, pending_start, reduceCtorEq, if_false, if_true, Nat.add_zero]
  rfl

theorem view_start_failure : (session.start .serverFailure).view =
    { session.view with pendingFailure := session.view.pendingFailure + 1 } := by
  simp only [view, pending_start, reduceCtorEq, if_false, if_true, Nat.add_zero]
  rfl

theorem view_armWait {operation : SessionOperation}
    (silent : operation ∉ [.welcomeWrite, .snapshotWrite, .ping, .close, .serverFailure]) :
    (session.armWait operation).view = session.view := by
  rw [armWait, view_start_silent silent, view_cancelWait]

theorem view_releaseActivePayload : session.releaseActivePayload.view = session.view := by
  unfold releaseActivePayload
  split
  · rfl
  · next lease _ => exact (view_call_silent rfl : (session.call (.releaseLease lease)).view = session.view)

theorem view_cancelWaiterIfRegistered : session.cancelWaiterIfRegistered.view = session.view := by
  unfold cancelWaiterIfRegistered
  split
  · exact view_call_silent rfl
  · rfl

end Primitives

section Closing

theorem view_leaveMatch : session.leaveMatch.view = session.view.leave := by
  unfold leaveMatch SessionProtocol.leave
  by_cases left : session.leftMatch = true
  · rw [if_pos left, if_pos (show session.view.leftMatch = true from left)]
  · rw [if_neg left, if_neg (show ¬session.view.leftMatch = true from left)]
    cases held : session.controller with
    | none => rw [show session.view.controller = none from held]
    | some controller =>
      rw [show session.view.controller = some controller from held]
      dsimp only
      rw [view_call rfl, view_call rfl]
      simp only [view, held]
      rfl

theorem view_cancelTimers : session.cancelTimers.view = session.view := by
  rw [cancelTimers, view_cancelWait, view_cancelWait, view_cancelWait, view_cancelWait]

theorem view_releaseIdlePayload : session.releaseIdlePayload.view = session.view := by
  unfold releaseIdlePayload
  split
  · rfl
  · exact view_releaseActivePayload

theorem view_unregister : session.unregister.view = session.view := by
  unfold unregister
  split
  · exact (view_call_silent rfl : (session.call .unregister).view = session.view)
  · rfl

theorem view_finish : session.finish.view = session.view.finish := by
  unfold finish SessionProtocol.finish
  by_cases finished : session.finished = true
  · rw [if_pos finished, if_pos (show session.view.finished = true from finished)]
  · rw [if_neg finished, if_neg (show ¬session.view.finished = true from finished)]
    have left : (leaveMatch { session with finished := true }).view =
        SessionProtocol.leave { session.view with finished := true } := view_leaveMatch
    rw [← left]
    dsimp only
    generalize leaveMatch { session with finished := true } = departed
    have closed : (departed.cancelTimers.call .closeSocket).view = departed.view := by
      rw [view_call_silent rfl, view_cancelTimers]
    rw [view_unregister, view_call_silent rfl, view_releaseIdlePayload, view_cancelWaiterIfRegistered, ← closed]
    rfl

theorem view_beginClose (intended : session.requestedCloseIntent.isSome = true) :
    ∃ closing, session.beginClose = .ok closing ∧ closing.view = session.view.beginClose := by
  unfold beginClose SessionProtocol.beginClose
  by_cases stays : (session.finished || session.closeStarted || session.dataWriteActive ||
      session.controlWriteActive) = true
  · rw [if_pos stays, if_pos (show (session.view.finished || session.view.closeStarted ||
      session.view.dataWriteActive || session.view.controlWriteActive) = true from stays)]
    exact ⟨session, rfl, rfl⟩
  · rw [if_neg stays, if_neg (show ¬(session.view.finished || session.view.closeStarted ||
      session.view.dataWriteActive || session.view.controlWriteActive) = true from stays)]
    obtain ⟨intent, present⟩ := Option.isSome_iff_exists.mp intended
    refine ⟨({ session with closeStarted := true }.call (.close intent.code intent.reason)).start .close, ?_, ?_⟩
    · rw [present]
    · rw [view_start_close, view_call rfl]
      rfl

theorem view_failServer : session.failServer.view = session.view.fail := by
  unfold failServer
  rw [view_start_failure, view_call_silent rfl]
  rfl

/-- A requested close begins at once on an idle session, and otherwise waits for what is in flight. -/
theorem view_beginIdleClose (intended : session.requestedCloseIntent.isSome = true) :
    session.beginIdleClose.view = session.view.beginClose := by
  unfold beginIdleClose
  split
  · next busy =>
    obtain ⟨same, -⟩ | ⟨-, -, idle, unpinged, -⟩ := SessionProtocol.beginClose_cases session.view
    · exact same.symm
    · rw [Bool.or_eq_true] at busy
      obtain writing | pinging := busy
      · exact absurd (writing.symm.trans idle) (by decide)
      · exact absurd (pinging.symm.trans unpinged) (by decide)
  · obtain ⟨closing, begins, seen⟩ := view_beginClose intended
    rw [begins]
    exact seen

theorem view_markCloseRequested {intent : CloseIntent} : (session.markCloseRequested intent).view =
    { session.view.say .requested with closeRequested := true } := by
  calc (session.markCloseRequested intent).view
      = { (session.call (.requestClose intent)).view with closeRequested := true } := rfl
    _ = _ := by rw [view_call rfl]

theorem view_intendClose {intent : CloseIntent} : (session.intendClose intent).view =
    { session.view with closeIntended := true, delivery := session.view.delivery.discardPending } := by
  rw [intendClose, view_cancelWait, view_cancelWait, view_cancelWait]
  rfl

theorem view_requestClose {intent : CloseIntent} :
    (session.requestClose intent).view = session.view.requestClose := by
  unfold requestClose SessionProtocol.requestClose
  by_cases stays : (session.finished || session.closeRequested) = true
  · rw [if_pos stays, if_pos (show (session.view.finished || session.view.closeRequested) = true from stays)]
  · rw [if_neg stays, if_neg (show ¬(session.view.finished || session.view.closeRequested) = true from stays)]
    have left : ((session.markCloseRequested intent).cancelWaiterIfRegistered.intendClose intent).leaveMatch.view =
        session.view.request.leave := by
      rw [view_leaveMatch, view_intendClose, view_cancelWaiterIfRegistered, view_markCloseRequested]
      rfl
    refine (view_beginIdleClose ?_).trans (congrArg SessionProtocol.beginClose left)
    have intended := congrArg SessionProtocol.closeIntended left
    rw [SessionProtocol.leave_eq] at intended
    exact intended

theorem view_reportSessionFailure : session.reportSessionFailure.view = session.view.report := by
  unfold reportSessionFailure
  rw [view_failServer, view_requestClose]
  rfl

theorem view_beginCloseUnguarded (intended : session.requestedCloseIntent.isSome = true) :
    session.beginCloseUnguarded.view = session.view.beginClose := by
  obtain ⟨closing, begins, seen⟩ := view_beginClose intended
  unfold beginCloseUnguarded
  rw [begins]
  exact seen

end Closing

end SessionWebSocketSession

end BlobRoyale.Server
