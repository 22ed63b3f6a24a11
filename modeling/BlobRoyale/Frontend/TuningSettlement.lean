import BlobRoyale.Frontend.TuningSteps
import BlobRoyale.Library.Transition

/-!
# Every tuning request settles once

A step of a session keeps its exchanges unless it closes its socket with a code the socket refuses while a
request is pending: the exception then leaves the release before the request is marked unknown, and the
request stays pending on a session without a socket. A browser refuses the codes of an invalid frame.
-/

namespace BlobRoyale.Frontend.ClientState

section Steps

variable {Number Authority Frame : Type} [DecidableEq Number] {protocol : SessionProtocol Number Authority Frame}
variable {before state : ClientState Number Authority} {action : ClientAction Number Frame}

section Refusals

theorem handleSessionFrame_fails {socket : SessionSocket} {frame : Frame} {input : SocketInput}
    {error : SimulationApiErrorCode} (refused : state.refusal protocol frame = some error) :
    state.handleSessionFrame protocol socket frame input = state.failFrame protocol socket error input := by
  cases welcomed : state.api.sequenceState with
  | none =>
    cases admitted : protocol.validateSessionWelcomeMessage frame with
    | error =>
      simp only [refusal, welcomed, admitted, Option.some.injEq] at refused
      simp only [handleSessionFrame, welcomed, admitted, refused]
    | ok welcome => simp only [refusal, welcomed, admitted, reduceCtorEq] at refused
  | some sequence =>
    cases admitted : protocol.validateSessionSnapshotMessage frame sequence with
    | error =>
      simp only [refusal, welcomed, admitted, Option.some.injEq] at refused
      simp only [handleSessionFrame, welcomed, admitted, refused]
    | ok snapshot =>
      cases validated : validateSessionTuningResult snapshot (pendingRequest state.api.movementTuningState) with
      | error =>
        simp only [refusal, welcomed, admitted, validated, Option.some.injEq] at refused
        simp only [handleSessionFrame, welcomed, admitted, validated, refused]
      | ok result => simp only [refusal, welcomed, admitted, validated, reduceCtorEq] at refused

theorem receive_held {socket : SessionSocket} (found : before.api.socket = some socket) (event : SocketEvent Frame)
    (input : SocketInput) :
    before.receive protocol socket.identity event input =
      match event with
      | .open subprotocolMatches => before.onOpen protocol socket subprotocolMatches input
      | .message frame => before.handleSessionFrame protocol socket frame input
      | .error => before.onError protocol socket input
      | .close code reason wasClean => before.onClose socket code reason wasClean
      | .connectTimeout => before.onConnectTimeout protocol socket input := by
  cases event <;> simp only [receive, found, ne_eq, not_true_eq_false, if_false]

theorem receive_unsettled {socket code : Nat} {event : SocketEvent Frame} {input : SocketInput}
    (holds : before.held = some socket) (closes : before.eventCloseCode protocol socket event = some code)
    (pending : (pendingRequest before.api.movementTuningState).isSome)
    (refused : (input.closable && protocol.refusesClose code) = true) :
    ¬Settled (before.receive protocol socket event input) := by
  obtain ⟨held, found, rfl⟩ := Option.map_eq_some_iff.mp holds
  rw [receive_held found]
  cases event with
  | «open» subprotocolMatches =>
    cases subprotocolMatches <;> cases closes
    exact releaseSocket_unsettled holds pending refused _
  | message frame =>
    obtain ⟨error, failed, rfl⟩ := Option.map_eq_some_iff.mp closes
    simp only [handleSessionFrame_fails failed]
    exact releaseSocket_unsettled holds pending refused _
  | error =>
    cases closes
    exact releaseSocket_unsettled holds pending refused _
  | close code reason wasClean => cases closes
  | connectTimeout =>
    simp only [eventCloseCode] at closes
    split at closes <;> cases closes
    next armed =>
      simp only [onConnectTimeout, if_pos armed]
      exact releaseSocket_unsettled holds pending refused _

theorem perform_unsettled (unclean : ¬before.ClosesCleanly protocol action) :
    ¬Settled (before.perform protocol action) := by
  simp only [ClosesCleanly, not_forall, Bool.not_eq_false, Option.mem_def] at unclean
  obtain ⟨code, closes, pending, refused⟩ := unclean
  unfold closeCode at closes
  split at closes
  · next socket event input =>
      split at closes
      · next holds => exact receive_unsettled holds closes pending refused
      · cases closes
  · next input =>
      split at closes
      · cases closes
      · next undisposed =>
          cases closes
          simp only [Bool.or_eq_true, not_or, Option.isNone_iff_eq_none, Bool.not_eq_true] at undisposed
          obtain ⟨socket, holds⟩ := Option.ne_none_iff_exists'.mp undisposed.2
          obtain ⟨held, found, rfl⟩ := Option.map_eq_some_iff.mp holds
          have disposed : before.perform protocol (.invoke .dispose input) =
              ({ before with api := { before.api with disposed := true } } :
                ClientState Number Authority).releaseSocket protocol held.identity 1000 input .ended := by
            simp only [perform, invoke, dispose, undisposed.1, found, Bool.false_eq_true, if_false]
          rw [disposed]
          exact releaseSocket_unsettled (by exact holds) (by exact pending) (by exact refused) _
  · cases closes
  · cases closes
  · next input =>
      split at closes
      · next socket payload stack suspended =>
          split at closes <;> cases closes
          next sends =>
            obtain ⟨holds, throws⟩ := sends
            have resumed : before.perform protocol (.returns input) =
                ({ before with stack := stack } : ClientState Number Authority).releaseSocket protocol socket 4000
                  input (.disconnecting before.api.sessionCallbacks lostInTransport) := by
              simp only [perform, suspended, resume]
              rw [if_pos (by exact holds), send, if_pos throws]
            rw [resumed]
            exact releaseSocket_unsettled (by exact holds) (by exact pending) (by exact refused) _
      · cases closes
  · next error input =>
      have fails {socket : SessionSocket} {continuation : Continuation Number} {stack : List (Continuation Number)}
          (suspended : before.stack = continuation :: stack)
          (caught : rethrow protocol { before with stack := stack } continuation error input =
            failFrame protocol { before with stack := stack } socket error input)
          (closes : (if before.held = some socket.identity then some error.closeIntent.1 else none) = some code) :
          ¬Settled (before.perform protocol (.throws error input)) := by
        split at closes <;> cases closes
        next holds =>
          simp only [perform, suspended, caught]
          exact releaseSocket_unsettled (by exact holds) (by exact pending) (by exact refused) _
      split at closes
      · next suspended => exact fails suspended rfl closes
      · next suspended => exact fails suspended rfl closes
      · cases closes

end Refusals

variable {length : Nat}

theorem run_invariant (run : Transition.Run (Step protocol) length) (start : run.state 0 = initial)
    (clean : ∀ position, position < length → (run.state position).ClosesCleanly protocol (run.label position)) :
    ∀ position, position ≤ length → Invariant (run.state position) := by
  refine run.invariant_of_steps (start ▸ initial_invariant) fun position within invariant => ?_
  rw [run.steps position within]
  exact (invariant.performs (clean position within)).invariant

/-- Over a run that starts fresh, the exchanges settle at every position exactly where no step closes its
socket with a code that socket refuses while a request is pending. -/
theorem exchange_settles_iff (run : Transition.Run (Step protocol) length) (start : run.state 0 = initial) :
    ((∀ position, position ≤ length → Settled (run.state position)) ∧ ∀ position, position < length →
        Handles protocol (run.state position) (run.label position) (run.state (position + 1)) ∧
          Ends (run.state position) (run.label position) (run.state (position + 1))) ↔
      ∀ position, position < length → (run.state position).ClosesCleanly protocol (run.label position) := by
  constructor
  · rintro ⟨settled, -⟩ position within
    by_contra unclean
    refine perform_unsettled unclean ?_
    have stepped : run.state (position + 1) = _ := run.steps position within
    exact stepped ▸ settled (position + 1) within
  · intro clean
    have invariant := run_invariant run start clean
    refine ⟨fun position within => (invariant position within).toSettled, fun position within => ?_⟩
    have before := invariant position (Nat.le_of_lt within)
    have stepped : run.state (position + 1) = _ := run.steps position within
    rw [stepped]
    exact ⟨(before.performs (clean position within)).handles, before.toSettled.ends⟩

end Steps

section Browser

inductive ReceivedFrame where
  | malformed
  | welcome (welcome : SessionWelcome Unit)
  | snapshot (snapshot : SessionSnapshot Nat)

/-- A session in a browser, whose server sends a welcome and then snapshots, or a text no parser takes. -/
def browserProtocol : SessionProtocol Nat Unit ReceivedFrame where
  validateSessionWelcomeMessage
    | .welcome welcome => .ok welcome
    | .malformed | .snapshot _ => .error .sessionFrameInvalid
  validateSessionSnapshotMessage
    | .snapshot snapshot, sequence =>
        if snapshot.messageSequence = sequence.messageSequence + 1 then .ok snapshot
        else .error .sessionInvariantViolation
    | .malformed, _ | .welcome _, _ => .error .sessionFrameInvalid
  validateSessionCommand _ _ := true
  refusesClose := webSocketRefusesClose

def openSocket : SocketInput := ⟨true, false⟩

def firstTuning : SetMovementTuningPayload Nat := ⟨⟨600, 300, 2, 4, 4⟩, 1, 0⟩

/-- A request becomes pending on a welcomed session, and its socket delivers a frame. -/
def tuningActions (frame : ReceivedFrame) : Nat → ClientAction Nat ReceivedFrame
  | 0 => .invoke (.openSession 7 true) openSocket
  | 1 => .invoke (.event 0 (.open true)) openSocket
  | 2 => .returns openSocket
  | 3 => .invoke (.event 0 (.message (.welcome ⟨1, "welcome", (), ["set_movement_tuning"]⟩))) openSocket
  | 4 => .returns openSocket
  | 5 => .invoke (.sendCommand (.setMovementTuning firstTuning) true) openSocket
  | 6 => .returns openSocket
  | 7 => .returns openSocket
  | 8 => .invoke (.event 0 (.message frame)) openSocket
  | _ => .returns openSocket

def tuningRun (frame : ReceivedFrame) : Transition.Run (Step browserProtocol) 11 :=
  .ofLabels (fun state action => state.perform browserProtocol action) initial (tuningActions frame) 11

def answer : ReceivedFrame :=
  .snapshot ⟨2, "answer", 9, ⟨1, 10, firstTuning.toSessionMovementTuning⟩, some ⟨1, .applied, some 1, some 10⟩⟩

theorem exchange_settles_iff_answered :
    (∀ position, position ≤ 11 → Settled ((tuningRun answer).state position)) ∧
      ∀ position, position < 11 →
        Handles browserProtocol ((tuningRun answer).state position) ((tuningRun answer).label position)
            ((tuningRun answer).state (position + 1)) ∧
          Ends ((tuningRun answer).state position) ((tuningRun answer).label position)
            ((tuningRun answer).state (position + 1)) := by
  refine (exchange_settles_iff (tuningRun answer) rfl).mpr fun position within => ?_
  have unclosed : ∀ position, position < 11 → ((tuningRun answer).state position).closeCode browserProtocol
      ((tuningRun answer).label position) = none := by decide
  intro code closes
  rw [unclosed position within] at closes
  cases closes

/-- A malformed frame while a request is pending: the browser's socket throws on the close, and the request
stays pending on a session that has released its socket. -/
theorem exchange_stays_pending :
    (tuningRun .malformed).state 0 = initial ∧
      pendingRequest ((tuningRun .malformed).state 9).api.movementTuningState = some firstTuning ∧
      ((tuningRun .malformed).state 9).held = none ∧ ¬Settled ((tuningRun .malformed).state 9) := by
  have pending : pendingRequest ((tuningRun .malformed).state 9).api.movementTuningState = some firstTuning := by
    decide
  have unheld : ((tuningRun .malformed).state 9).held = none := by decide
  refine ⟨rfl, pending, unheld, fun settled => ?_⟩
  cases (settled.free unheld).symm.trans pending

end Browser

end BlobRoyale.Frontend.ClientState
