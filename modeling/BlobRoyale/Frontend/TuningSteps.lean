import BlobRoyale.Frontend.TuningExchange

/-!
# The steps of a tuning exchange

What a step does to the session it finds, whatever its callbacks called, where the close it makes is not
refused while a request is pending.
-/

namespace BlobRoyale.Frontend.ClientState

variable {Number Authority Frame : Type} (protocol : SessionProtocol Number Authority Frame)

section Conditions

variable [DecidableEq Number] (state : ClientState Number Authority)

def refusal (frame : Frame) : Option SimulationApiErrorCode :=
  match state.api.sequenceState with
  | none =>
      match protocol.validateSessionWelcomeMessage frame with
      | .error error => some error
      | .ok _ => none
  | some sequence =>
      match protocol.validateSessionSnapshotMessage frame sequence with
      | .error error => some error
      | .ok snapshot =>
          match validateSessionTuningResult snapshot (pendingRequest state.api.movementTuningState) with
          | .error error => some error
          | .ok _ => none

def eventCloseCode (socket : Nat) : SocketEvent Frame → Option Nat
  | .open subprotocolMatches => if subprotocolMatches then none else some 1002
  | .message frame => (state.refusal protocol frame).map fun error => error.closeIntent.1
  | .error => some 4000
  | .close .. => none
  | .connectTimeout => if state.api.socketConnectTimeout = some socket then some 4000 else none

/-- The code with which a step closes the socket it holds, if it does. -/
def closeCode : ClientAction Number Frame → Option Nat
  | .invoke (.event socket event) _ =>
      if state.held = some socket then state.eventCloseCode protocol socket event else none
  | .invoke .dispose _ => if state.api.disposed || state.held.isNone then none else some 1000
  | .invoke (.openSession ..) _ | .invoke (.sendCommand ..) _ => none
  | .returns input =>
      match state.stack with
      | .requested socket (.setMovementTuning _) :: _ =>
          if state.held = some socket ∧ input.sendThrows = true then some 4000 else none
      | _ => none
  | .throws error _ =>
      match state.stack with
      | .snapshotShown socket _ :: _ | .frameEnded socket :: _ =>
          if state.held = some socket.identity then some error.closeIntent.1 else none
      | _ => none

def ClientAction.input : ClientAction Number Frame → SocketInput
  | .invoke _ input | .returns input | .throws _ input => input

/-- Where a request is pending, the socket a step closes does not refuse the code. -/
def ClosesCleanly (action : ClientAction Number Frame) : Prop :=
  ∀ code ∈ state.closeCode protocol action, (pendingRequest state.api.movementTuningState).isSome →
    (action.input.closable && protocol.refusesClose code) = false

/-- What a step does to the session it finds: a held socket's sequence moves with a frame that passes every
validation, and a pending request stays, is resolved by its own result, or is unknown with its socket gone. -/
structure Handles (before : ClientState Number Authority) (action : ClientAction Number Frame)
    (after : ClientState Number Authority) : Prop where
  sequence : ∀ socket, before.held = some socket → after.held = some socket →
    after.api.sequenceState = before.api.sequenceState ∨
      ∃ frame input, action = .invoke (.event socket (.message frame)) input ∧ before.refusal protocol frame = none
  leaves : ∀ request, pendingRequest before.api.movementTuningState = some request →
    pendingRequest after.api.movementTuningState = some request ∨
      (∃ object result, after.api.movementTuningState = .resolved object request result ∧
        result.tuningRequestId = request.tuningRequestId ∧ after.held = before.held) ∨
      after.api.movementTuningState = .unknown request ∧ after.held = none ∧
        ∃ socket, before.held = some socket ∧ .released socket ∈ after.log

/-- No event of a socket reaches the session that has released it. -/
def Ends (before : ClientState Number Authority) (action : ClientAction Number Frame)
    (after : ClientState Number Authority) : Prop :=
  ∀ socket event input, action = .invoke (.event socket event) input → .released socket ∈ before.log →
    after = before

end Conditions

section Steps

variable [DecidableEq Number] {protocol} {before state after : ClientState Number Authority}
variable {action : ClientAction Number Frame}

/-- The exchanges stay sound over a step that handles them. -/
structure Advances (protocol : SessionProtocol Number Authority Frame) (before : ClientState Number Authority)
    (action : ClientAction Number Frame) (after : ClientState Number Authority) : Prop where
  invariant : Invariant after
  handles : Handles protocol before action after

theorem Handles.congr (handles : Handles protocol before action state) (same : after.api = state.api)
    (logged : ∀ entry ∈ state.log, entry ∈ after.log) : Handles protocol before action after where
  sequence := by
    have held : after.held = state.held := congrArg (fun api => api.socket.map SessionSocket.identity) same
    rw [held, same]
    exact handles.sequence
  leaves request pending := by
    have held : after.held = state.held := congrArg (fun api => api.socket.map SessionSocket.identity) same
    rw [held, same]
    rcases handles.leaves request pending with kept | resolved | ⟨unknown, unheld, socket, holds, released⟩
    · exact .inl kept
    · exact .inr (.inl resolved)
    · exact .inr (.inr ⟨unknown, unheld, socket, holds, logged _ released⟩)

theorem Advances.fire (advances : Advances protocol before action state) {callbacks : Nat}
    {callback : SessionCallback Number Authority} {following : Continuation Number}
    (admissible : SessionEntry.Admissible state.log (.fired callbacks callback)) :
    Advances protocol before action (state.fire callbacks callback following) where
  invariant := advances.invariant.fire admissible
  handles := advances.handles.congr rfl fun _ listed => List.mem_append_left _ listed

theorem Advances.conclude (advances : Advances protocol before action state) (following : Continuation Number) :
    Advances protocol before action (state.conclude following) where
  invariant := advances.invariant.conclude following
  handles := advances.handles.congr (conclude_api following) fun _ listed => mem_conclude_log listed following

theorem Handles.same
    (sequence : after.api.sequenceState = before.api.sequenceState)
    (tuning : after.api.movementTuningState = before.api.movementTuningState) :
    Handles protocol before action after where
  sequence _ _ _ := .inl sequence
  leaves _ pending := .inl (tuning ▸ pending)

theorem Invariant.advances (invariant : Invariant before) : Advances protocol before action before :=
  ⟨invariant, .same rfl rfl⟩

theorem Invariant.settles (invariant : Invariant before) {socket : Nat} (holds : before.held = some socket)
    (callbacks : Option Nat) (following : Continuation Number) :
    Advances protocol before action
      ((before.dropSocket socket).markPendingTuningUnknown socket callbacks following) := by
  refine ⟨invariant.markPendingTuningUnknown holds callbacks following, ?_⟩
  have released : .released socket ∈ (before.dropSocket socket).log := List.mem_append_right _ List.mem_cons_self
  cases pending : pendingRequest before.api.movementTuningState with
  | none =>
    have dropped : Handles protocol before action (before.dropSocket socket) := {
      sequence := fun other _ holds' => by cases holds'
      leaves := fun request asked => by cases pending.symm.trans asked }
    rw [markPendingTuningUnknown_unpending (by exact pending)]
    exact dropped.congr (conclude_api _) fun _ listed => mem_conclude_log listed _
  | some request =>
    have lost : Handles protocol before action (before.lose socket request) := {
      sequence := fun other _ holds' => by cases holds'
      leaves := fun asked pending' => by
        cases pending.symm.trans pending'
        exact .inr (.inr ⟨rfl, rfl, socket, holds, List.mem_append_left _ released⟩) }
    rw [markPendingTuningUnknown_pending pending]
    cases callbacks with
    | none => exact lost.congr (conclude_api _) fun _ listed => mem_conclude_log listed _
    | some callbacks => exact lost.congr rfl fun _ listed => List.mem_append_left _ listed

theorem Invariant.releases (invariant : Invariant before) {socket code : Nat} {input : SocketInput}
    (clean : before.held = some socket → (pendingRequest before.api.movementTuningState).isSome →
      (input.closable && protocol.refusesClose code) = false)
    (following : Continuation Number) :
    Advances protocol before action (before.releaseSocket protocol socket code input following) := by
  by_cases holds : before.held = some socket
  · cases refused : input.closable && protocol.refusesClose code with
    | false =>
      rw [releaseSocket_accepted holds refused]
      exact invariant.settles holds _ following
    | true =>
      have unpending : pendingRequest before.api.movementTuningState = none := by
        cases pending : pendingRequest before.api.movementTuningState with
        | none => rfl
        | some request =>
          have cleaned := clean holds (by rw [pending]; rfl)
          cases refused.symm.trans cleaned
      rw [releaseSocket_refused holds refused]
      refine ⟨invariant.dropSocket holds unpending, fun other _ holds' => ?_, fun request asked => ?_⟩
      · cases holds'
      · cases unpending.symm.trans asked
  · rw [releaseSocket_unheld holds]
    exact invariant.advances.conclude following

theorem Advances.unstack {stack : List (Continuation Number)}
    (advances : Advances protocol { before with stack := stack } action after) :
    Advances protocol before action after := ⟨advances.invariant, ⟨advances.handles.sequence, advances.handles.leaves⟩⟩

theorem validated_own {snapshot : SessionSnapshot Number} {request : SetMovementTuningPayload Number}
    {result : SessionTuningResult}
    (validated : validateSessionTuningResult snapshot (some request) = .ok (some result)) :
    result.tuningRequestId = request.tuningRequestId := by
  unfold validateSessionTuningResult at validated
  split at validated
  · cases validated
  · next found _ =>
      simp only at validated
      split at validated
      · cases validated
      · next own =>
          have same : found = result := by
            split at validated
            · split at validated
              · cases validated
              · split at validated
                · cases validated
                · cases validated
                  rfl
            · cases validated
              rfl
          exact same ▸ Decidable.not_not.mp own

theorem Invariant.receivesSnapshot (invariant : Invariant before) {socket : SessionSocket}
    {sequence : SessionSequenceState Authority} {snapshot : SessionSnapshot Number}
    {result : Option SessionTuningResult} {frame : Frame} {input : SocketInput}
    (holds : before.held = some socket.identity)
    (validated : validateSessionTuningResult snapshot (pendingRequest before.api.movementTuningState) = .ok result)
    (accepted : before.refusal protocol frame = none) :
    Advances protocol before (.invoke (.event socket.identity (.message frame)) input)
      (before.receiveSnapshot socket sequence snapshot result) := by
  have advanced : Invariant (before.advanceSequence sequence snapshot) :=
    invariant.congr ⟨rfl, rfl, rfl, rfl, rfl, rfl⟩
  have moved {state : ClientState Number Authority} :
      ∀ other, before.held = some other → state.held = some other →
        state.api.sequenceState = before.api.sequenceState ∨ ∃ frame' input',
          (ClientAction.invoke (.event socket.identity (.message frame)) input : ClientAction Number Frame) =
            .invoke (.event other (.message frame')) input' ∧ before.refusal protocol frame' = none := by
    intro other holds' _
    cases holds.symm.trans holds'
    exact .inr ⟨frame, input, rfl, accepted⟩
  have unresolved : Advances protocol before (.invoke (.event socket.identity (.message frame)) input)
      (before.advanceSequence sequence snapshot) := ⟨advanced, moved, fun request pending => .inl pending⟩
  unfold receiveSnapshot
  split
  · next answer request pending =>
      rw [pending] at validated
      have own := validated_own validated
      have resolved := advanced.resolve holds pending own
      have answers : Advances protocol before (.invoke (.event socket.identity (.message frame)) input)
          ((before.advanceSequence sequence snapshot).resolve socket.identity request answer) := by
        refine ⟨resolved, moved, fun asked pending' => ?_⟩
        cases pending.symm.trans pending'
        exact .inr (.inl ⟨_, answer, rfl, own, rfl⟩)
      exact answers.fire trivial
  · exact unresolved.fire trivial

theorem Invariant.handlesFrame (invariant : Invariant before) {socket : SessionSocket} {frame : Frame}
    {input : SocketInput} (holds : before.held = some socket.identity)
    (clean : before.ClosesCleanly protocol (.invoke (.event socket.identity (.message frame)) input)) :
    Advances protocol before (.invoke (.event socket.identity (.message frame)) input)
      (before.handleSessionFrame protocol socket frame input) := by
  have fails {error : SimulationApiErrorCode} (refused : before.refusal protocol frame = some error) :
      Advances protocol before (.invoke (.event socket.identity (.message frame)) input)
        (before.failFrame protocol socket error input) := by
    refine invariant.releases (fun _ pending => clean _ ?_ pending) _
    simp only [closeCode, if_pos holds, eventCloseCode, refused, Option.map_some, Option.mem_def]
  unfold handleSessionFrame
  split
  · next unwelcomed =>
      split
      · next error refused => exact fails (by simp only [refusal, unwelcomed, refused])
      · next welcome admitted =>
          have accepted : before.refusal protocol frame = none := by simp only [refusal, unwelcomed, admitted]
          have welcomed : Advances protocol before (.invoke (.event socket.identity (.message frame)) input)
              { before with api := { before.api with
                sequenceState := some ⟨welcome.messageSequence, welcome.requestId, none, welcome.authority⟩
                acceptedCommandKinds := some welcome.acceptedCommandKinds } } := by
            refine ⟨invariant.congr ⟨rfl, rfl, rfl, rfl, rfl, rfl⟩, fun other holds' _ => ?_, fun request pending =>
              .inl pending⟩
            cases holds.symm.trans holds'
            exact .inr ⟨frame, input, rfl, accepted⟩
          exact welcomed.fire trivial
  · next sequence welcomed =>
      split
      · next error refused => exact fails (by simp only [refusal, welcomed, refused])
      · next snapshot admitted =>
          split
          · next error refused => exact fails (by simp only [refusal, welcomed, admitted, refused])
          · next result validated =>
              refine invariant.receivesSnapshot holds validated ?_
              simp only [refusal, welcomed, admitted, validated]

theorem Invariant.opens (invariant : Invariant before) (callbacks : Nat) (admissible : Bool) :
    Advances protocol before action (before.openSession callbacks admissible) := by
  refine ⟨invariant.openSession callbacks admissible, ?_⟩
  unfold ClientState.openSession
  split
  · exact .same rfl rfl
  · next refused =>
      have unheld : before.held = none := by
        simp only [Bool.or_eq_true, not_or, Bool.not_eq_true, Option.isSome_eq_false_iff, Option.isNone_iff_eq_none]
          at refused
        rw [held, refused.1.2, Option.map_none]
      refine ⟨fun socket holds _ => ?_, fun request pending => ?_⟩
      · cases unheld.symm.trans holds
      · cases (invariant.free unheld).symm.trans pending

theorem Invariant.sends (invariant : Invariant before) {socket : Nat} {command : SessionCommand Number}
    {input : SocketInput}
    (clean : ∀ payload, command = .setMovementTuning payload → input.sendThrows = true →
      before.held = some socket → (pendingRequest before.api.movementTuningState).isSome →
      (input.closable && protocol.refusesClose 4000) = false) :
    Advances protocol before action (before.send protocol socket command input) := by
  unfold ClientState.send
  split
  · next throws =>
      cases command with
      | setMovementTuning payload => exact invariant.releases (clean payload rfl throws) _
      | other kind payload => exact invariant.advances
  · exact ⟨invariant.unstack _, .same rfl rfl⟩

theorem Invariant.sendsTuning (invariant : Invariant before) {socket : Nat} (holds : before.held = some socket)
    (payload : SetMovementTuningPayload Number) (input : SocketInput) :
    Advances protocol before action (before.sendTuning protocol socket payload input) := by
  unfold ClientState.sendTuning
  split
  · exact invariant.advances
  · next free =>
      simp only [Bool.or_eq_true, not_or, Bool.not_eq_true, Option.isSome_eq_false_iff, Option.isNone_iff_eq_none,
        decide_eq_true_eq, Nat.not_le] at free
      have requested := invariant.requestTuning holds free.1 free.2
      have advances : Advances protocol before action (before.requestTuning socket payload) := by
        refine ⟨requested, fun _ _ _ => .inl rfl, fun request pending => ?_⟩
        cases free.1.symm.trans pending
      cases called : before.api.sessionCallbacks with
      | none =>
        have answered := invariant.called socket holds
        rw [called] at answered
        cases answered
      | some callbacks => exact advances.fire trivial

theorem Invariant.sendsCommand (invariant : Invariant before) (command : SessionCommand Number) (socketOpen : Bool)
    (input : SocketInput) : Advances protocol before action (before.sendCommand protocol command socketOpen input) := by
  unfold ClientState.sendCommand
  split
  · next socket sequence kinds holds _ _ =>
      split
      · exact invariant.advances
      · cases command with
        | setMovementTuning payload =>
          exact invariant.sendsTuning (by rw [held, holds, Option.map_some]) payload input
        | other kind payload => exact invariant.sends fun _ tuning => by cases tuning
  · exact invariant.advances

theorem Invariant.disposes (invariant : Invariant before) {input : SocketInput}
    (clean : before.ClosesCleanly protocol (.invoke .dispose input : ClientAction Number Frame)) :
    Advances protocol before action (before.dispose protocol input) := by
  unfold ClientState.dispose
  split
  · exact invariant.advances
  · next undisposed =>
      have disposed : Invariant { before with api := { before.api with disposed := true } } :=
        invariant.congr ⟨rfl, rfl, rfl, rfl, rfl, rfl⟩
      split
      · exact ⟨disposed, .same rfl rfl⟩
      · next socket holds =>
          have released : Advances protocol { before with api := { before.api with disposed := true } } action
              (({ before with api := { before.api with disposed := true } } :
                ClientState Number Authority).releaseSocket protocol socket.identity 1000 input .ended) := by
            refine disposed.releases (fun holds' pending => clean 1000 ?_ pending) .ended
            have held : before.held = some socket.identity := holds'
            simp only [closeCode, held, Option.isNone_some, Bool.or_false, undisposed, Bool.false_eq_true, if_false,
              Option.mem_def]
          exact ⟨released.invariant, released.handles.sequence, released.handles.leaves⟩

theorem Invariant.receives (invariant : Invariant before) {identity : Nat} {event : SocketEvent Frame}
    {input : SocketInput} (clean : before.ClosesCleanly protocol (.invoke (.event identity event) input)) :
    Advances protocol before (.invoke (.event identity event) input)
      (before.receive protocol identity event input) := by
  unfold ClientState.receive
  split
  · exact invariant.advances
  · next socket holds =>
      split
      · exact invariant.advances
      · next same =>
          cases Decidable.not_not.mp same
          have held : before.held = some socket.identity := by rw [ClientState.held, holds, Option.map_some]
          have cleanly {code : Nat} (closes : before.eventCloseCode protocol socket.identity event = some code) :
              before.held = some socket.identity → (pendingRequest before.api.movementTuningState).isSome →
                (input.closable && protocol.refusesClose code) = false := fun _ =>
            clean code (by simpa only [closeCode, if_pos held, Option.mem_def] using closes)
          cases event with
          | «open» subprotocolMatches =>
            cases subprotocolMatches with
            | false => exact invariant.releases (cleanly rfl) _
            | true =>
              have connected : Advances protocol before (.invoke (.event socket.identity (.open true)) input)
                  { before with api := { before.api with
                    socketConnectTimeout := none, socket := some { socket with opened := true } } } :=
                ⟨invariant.congr ⟨held.symm, rfl, rfl, rfl, rfl, rfl⟩, .same rfl rfl⟩
              exact connected.fire trivial
          | message frame => exact invariant.handlesFrame held clean
          | error => exact invariant.releases (cleanly rfl) _
          | close code reason wasClean => exact invariant.settles held _ _
          | connectTimeout =>
            change Advances _ _ _ (before.onConnectTimeout protocol socket input)
            unfold onConnectTimeout
            split
            · next armed => exact invariant.releases (cleanly (if_pos armed)) _
            · exact invariant.advances

theorem Invariant.publishes (invariant : Invariant before) (socket : SessionSocket)
    (resolved : Option (MovementTuningExchangeState Number)) :
    Advances protocol before action (before.publishResolved socket resolved) := by
  unfold publishResolved
  split
  · exact invariant.advances
  · next resolved =>
      split
      · next current =>
          refine invariant.advances.fire ?_
          cases resolved with
          | resolved object request result => exact invariant.answers object request result current.1
          | idle => trivial
          | pending request => trivial
          | unknown request => trivial
      · exact invariant.advances

theorem Invariant.resumes (invariant : Invariant before) {continuation : Continuation Number}
    {stack : List (Continuation Number)} {input : SocketInput} (suspended : before.stack = continuation :: stack)
    (clean : before.ClosesCleanly protocol (.returns input : ClientAction Number Frame)) :
    Advances protocol before (.returns input)
      (resume protocol { before with stack := stack } continuation input) := by
  have unstacked := invariant.unstack stack
  cases continuation with
  | requested socket command =>
    change Advances _ _ _ (if before.held = some socket then _ else _)
    split
    · next holds =>
        refine (unstacked.sends fun payload tuning throws _ pending => ?_).unstack
        refine clean 4000 ?_ pending
        simp only [closeCode, suspended, tuning, holds, throws, and_self, if_true, Option.mem_def]
    · exact unstacked.advances.unstack
  | snapshotShown socket resolved => exact (unstacked.publishes socket resolved).unstack
  | frameEnded socket => exact unstacked.advances.unstack
  | failing callbacks error => exact (unstacked.advances.conclude (.failing callbacks error)).unstack
  | disconnecting callbacks disconnection =>
    exact (unstacked.advances.conclude (.disconnecting callbacks disconnection)).unstack
  | ended => exact unstacked.advances.unstack

theorem Invariant.rethrows (invariant : Invariant before) {continuation : Continuation Number}
    {stack : List (Continuation Number)} {error : SimulationApiErrorCode} {input : SocketInput}
    (suspended : before.stack = continuation :: stack)
    (clean : before.ClosesCleanly protocol (.throws error input : ClientAction Number Frame)) :
    Advances protocol before (.throws error input)
      (rethrow protocol { before with stack := stack } continuation error input) := by
  have unstacked := invariant.unstack stack
  have fails {socket : SessionSocket} (closes : before.held = some socket.identity →
      before.closeCode protocol (.throws error input : ClientAction Number Frame) = some error.closeIntent.1) :
      Advances protocol before (.throws error input)
        (failFrame protocol { before with stack := stack } socket error input) :=
    (unstacked.releases (fun holds pending => clean _ (closes holds) pending) _).unstack
  cases continuation with
  | snapshotShown socket resolved =>
    exact fails fun holds => by simp only [closeCode, suspended, if_pos holds]
  | frameEnded socket => exact fails fun holds => by simp only [closeCode, suspended, if_pos holds]
  | requested socket command => exact unstacked.advances.unstack
  | failing callbacks error => exact unstacked.advances.unstack
  | disconnecting callbacks disconnection => exact unstacked.advances.unstack
  | ended => exact unstacked.advances.unstack

theorem Invariant.performs (invariant : Invariant before) (clean : before.ClosesCleanly protocol action) :
    Advances protocol before action (before.perform protocol action) := by
  cases action with
  | invoke operation input =>
    cases operation with
    | openSession callbacks admissible => exact invariant.opens callbacks admissible
    | sendCommand command socketOpen => exact invariant.sendsCommand command socketOpen input
    | dispose => exact invariant.disposes clean
    | event socket event => exact invariant.receives clean
  | returns input =>
    simp only [perform]
    split
    · exact invariant.advances
    · next continuation stack suspended => exact invariant.resumes suspended clean
  | throws error input =>
    simp only [perform]
    split
    · exact invariant.advances
    · next continuation stack suspended => exact invariant.rethrows suspended clean

theorem Settled.ends (settled : Settled before) : Ends before action (before.perform protocol action) := by
  rintro socket event input rfl released
  change before.receive protocol socket event input = before
  unfold ClientState.receive
  split
  · rfl
  · next held holds =>
      split
      · rfl
      · next same =>
          refine absurd released (settled.unreleased socket ?_)
          rw [ClientState.held, holds, Option.map_some, Decidable.not_not.mp same]

end Steps

end BlobRoyale.Frontend.ClientState
