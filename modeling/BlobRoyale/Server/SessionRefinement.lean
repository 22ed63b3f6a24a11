import BlobRoyale.Server.SessionView

/-!
# A session moves as its protocol does

Every callback, seen as its protocol, is a sequence of the protocol's moves: the presentation slot observes,
then starts a welcome or a snapshot or reports a failure; a completion lands what it completes.
-/

namespace BlobRoyale.Server.SessionWebSocketSession

open BlobRoyale.Simulation BlobRoyale.Protocol BlobRoyale.Runtime SessionProtocol Relation

variable {S : Type} [Scalar S] {session : SessionWebSocketSession S} {protocol : SessionProtocol S}

theorem moves_report : Moves protocol protocol.report := (ReflTransGen.single .requested).tail .failed

section Seating

theorem view_observeOwnEntity {latest : WorldSnapshot S} : (session.observeOwnEntity latest).view = session.view := by
  unfold observeOwnEntity
  split
  · rfl
  · split <;> rfl

theorem view_requestBodyIfAbsent {observed : TickSequence} :
    (session.requestBodyIfAbsent observed).view = session.view := by
  unfold requestBodyIfAbsent
  split
  · rfl
  · split
    · rfl
    · rw [view_call_silent rfl]
      rfl

theorem view_requestSeatIfAbsent {latest : WorldSnapshot S} :
    (session.requestSeatIfAbsent latest).view = session.view ∨
      (session.requestSeatIfAbsent latest).view = session.view.requestClose := by
  unfold requestSeatIfAbsent
  split
  · exact .inl rfl
  · dsimp only
    split
    · exact .inl rfl
    · split
      · exact .inl rfl
      · split
        · exact .inr view_requestClose
        · split
          · exact .inl rfl
          · exact .inl (by rw [view_call_silent rfl]; rfl)

theorem view_schedulePresentationSlot : session.schedulePresentationSlot.view = session.view := by
  unfold schedulePresentationSlot
  split
  · rfl
  · exact view_armWait (by decide)

end Seating

section Slots

def SlotProgress.concluded : SlotProgress S → SessionWebSocketSession S
  | .proceeds presented => presented.schedulePresentationSlot
  | .returned presented => presented
  | .threw presented => presented.reportSessionFailure

theorem view_holdLease {lease : SnapshotEgressLease} : (session.holdLease lease).view = session.view :=
  view_releaseActivePayload

theorem commitEncoding_cases (session : SessionWebSocketSession S) (input : PresentationInput S)
    (lease : SnapshotEgressLease) :
    (∃ armed, session.commitEncoding input lease = .proceeds armed ∧ armed.view = session.view) ∨
      ∃ thrown, session.commitEncoding input lease = .threw thrown ∧ thrown.view = session.view := by
  unfold commitEncoding
  dsimp only
  split
  · exact .inr ⟨_, rfl, view_holdLease⟩
  · split
    · exact .inr ⟨_, rfl, by rw [view_call_silent rfl, view_holdLease]⟩
    · refine .inl ⟨_, rfl, ?_⟩
      rw [view_armWait (by decide)]
      exact (view_call_silent rfl).trans view_holdLease

variable {input : PresentationInput S} {lease : SnapshotEgressLease}

theorem startWelcomeWrite_moves (sound : session.view.Sound) (opened : session.finished = false)
    (unrequested : session.closeRequested = false) (undelivered : session.welcomeDelivered = false)
    (idle : session.dataWriteActive = false) (unpinged : session.controlWriteActive = false) {entity : EntityId} :
    Moves session.view (session.startWelcomeWrite input entity lease).concluded.view := by
  have quiet : session.welcomeWriteActive = false ∧ session.delivery.writeActive = false := by
    simpa only [dataWriteActive, Bool.or_eq_false_iff] using idle
  obtain ⟨-, -, -, -, -, noData⟩ := sound.idle opened unrequested quiet.1 quiet.2 unpinged
  unfold startWelcomeWrite
  obtain ⟨armed, commits, seen⟩ | ⟨thrown, commits, seen⟩ := commitEncoding_cases session input lease
  · rw [commits]
    dsimp only
    split
    · refine .single ?_
      have started : (({ armed with
          welcomeWriteActive := true
          snapshotWriteOperationActive := true }.call (.writeWelcome entity)).start .welcomeWrite).view =
          session.view.startWelcome.say .welcome := by
        rw [view_start_welcome, view_call rfl, ← seen]
        rfl
      simp only [SlotProgress.concluded, view_schedulePresentationSlot, started]
      exact .welcomeStarted opened unrequested undelivered idle unpinged
    · have lowered : ({ armed with
          welcomeWriteActive := false
          snapshotWriteOperationActive := false } : SessionWebSocketSession S).view = session.view := by
        calc ({ armed with
              welcomeWriteActive := false
              snapshotWriteOperationActive := false } : SessionWebSocketSession S).view
            = { armed.view with welcomeWriteActive := false, snapshotWriteOperationActive := false } := rfl
          _ = { session.view with
              welcomeWriteActive := session.view.welcomeWriteActive
              snapshotWriteOperationActive := session.view.snapshotWriteOperationActive } := by
            rw [seen, show session.view.welcomeWriteActive = false from quiet.1, noData]
          _ = session.view := rfl
      simp only [SlotProgress.concluded, view_reportSessionFailure, lowered]
      exact moves_report
  · rw [commits]
    simp only [SlotProgress.concluded, view_reportSessionFailure, seen]
    exact moves_report

theorem presentWelcome_moves (sound : session.view.Sound) (opened : session.finished = false)
    (unrequested : session.closeRequested = false) (undelivered : session.welcomeDelivered = false)
    (unpinged : session.controlWriteActive = false) :
    Moves session.view (session.presentWelcome input).concluded.view := by
  unfold presentWelcome
  split
  · simp only [SlotProgress.concluded, view_schedulePresentationSlot]
    exact .refl
  · split
    · simp only [SlotProgress.concluded, view_schedulePresentationSlot]
      exact .refl
    · next idle =>
      rw [Bool.not_eq_true] at idle
      have asked : (session.call (.tryReserve input.now input.reservation)).view = session.view :=
        view_call_silent rfl
      dsimp only
      split
      · simp only [SlotProgress.concluded, view_reportSessionFailure, asked]
        exact moves_report
      · simp only [SlotProgress.concluded, view_schedulePresentationSlot, asked]
        exact .refl
      · have kept := asked.symm ▸ sound
        rw [← asked]
        exact startWelcomeWrite_moves kept opened unrequested undelivered idle unpinged

theorem refused_moves (sound : protocol.Sound) (opened : protocol.finished = false)
    (unrequested : protocol.closeRequested = false) (welcomed : protocol.welcomeDelivered = true)
    (unpinged : protocol.controlWriteActive = false) (ready : protocol.delivery.readyToWrite = true)
    (seen : session.view = { protocol with delivery := (protocol.delivery.beginActiveWrite).2 } ∨
      session.view = protocol.refuseSnapshot (protocol.delivery.beginActiveWrite).2) :
    Moves protocol session.reportSessionFailure.view := by
  obtain ⟨_, inactive, -⟩ := SnapshotDeliveryState.beginActiveWrite_of_ready ready
  obtain ⟨ticks, delivering⟩ := sound.delivering
  obtain ⟨-, -, -, -, -, noData⟩ :=
    sound.idle opened unrequested (delivering.settled welcomed) (unwritten_of_inactive inactive) unpinged
  have same : session.view = protocol.refuseSnapshot (protocol.delivery.beginActiveWrite).2 := by
    obtain plain | lowered := seen
    · rw [plain, refuseSnapshot, ← noData]
    · exact lowered
  rw [view_reportSessionFailure, same]
  exact .single (.snapshotRefused opened unrequested welcomed unpinged ready)

theorem startSnapshotWrite_moves (sound : session.view.Sound) (opened : session.finished = false)
    (unrequested : session.closeRequested = false) (welcomed : session.welcomeDelivered = true)
    (unpinged : session.controlWriteActive = false) {delivered : SnapshotDelivery S}
    {begun : SnapshotDeliveryState S} (ready : session.delivery.readyToWrite = true)
    (begins : session.delivery.beginActiveWrite = (.ok (some delivered), begun)) :
    Moves session.view
      (startSnapshotWrite { session with delivery := begun } input delivered lease).concluded.view := by
  have after : (session.view.delivery.beginActiveWrite).2 = begun := congrArg Prod.snd begins
  have plain : ({ session with delivery := begun } : SessionWebSocketSession S).view =
      { session.view with delivery := (session.view.delivery.beginActiveWrite).2 } := by
    rw [after]
    rfl
  unfold startSnapshotWrite
  split
  · exact refused_moves sound opened unrequested welcomed unpinged ready (.inl (view_holdLease.trans plain))
  · obtain ⟨armed, commits, seen⟩ | ⟨thrown, commits, seen⟩ :=
      commitEncoding_cases { session with delivery := begun } input lease
    · rw [commits]
      dsimp only
      split
      · refine .single ?_
        have started : (({ armed with snapshotWriteOperationActive := true }.call
            (.writeSnapshot (delivered.messageSequence + welcomeMessageSequence)
              delivered.snapshot.tickSequence.value)).start .snapshotWrite).view =
            (session.view.startSnapshot begun).say
              (.snapshot (delivered.messageSequence + 1) delivered.snapshot.tickSequence.value) := by
          rw [view_start_snapshot, view_call rfl]
          calc _ = ({ armed.view with
                snapshotWriteOperationActive := true
                pendingSnapshot := armed.view.pendingSnapshot + 1 }.say
                (.snapshot (delivered.messageSequence + 1) delivered.snapshot.tickSequence.value)) := rfl
            _ = _ := by rw [seen]; rfl
        simp only [SlotProgress.concluded, view_schedulePresentationSlot, started]
        exact .snapshotStarted delivered begun opened unrequested welcomed unpinged begins
      · refine refused_moves sound opened unrequested welcomed unpinged ready (.inr ?_)
        calc ({ armed with snapshotWriteOperationActive := false } : SessionWebSocketSession S).view
            = { armed.view with snapshotWriteOperationActive := false } := rfl
          _ = _ := by rw [seen, after]; rfl
    · rw [commits]
      exact refused_moves sound opened unrequested welcomed unpinged ready (.inl (seen.trans plain))

theorem admitted_moves (sound : session.view.Sound) (opened : session.finished = false)
    (unrequested : session.closeRequested = false) (welcomed : session.welcomeDelivered = true)
    (unpinged : session.controlWriteActive = false) (ready : session.delivery.readyToWrite = true) :
    Moves session.view (match session.delivery.beginActiveWrite with
      | (.ok (some delivered), begun) => startSnapshotWrite { session with delivery := begun } input delivered lease
      | (_, begun) => .threw ({ session with delivery := begun }.call (.releaseLease lease))).concluded.view := by
  split
  · next delivered begun begins =>
    exact startSnapshotWrite_moves sound opened unrequested welcomed unpinged ready begins
  · next _ begun _ begins =>
    refine refused_moves sound opened unrequested welcomed unpinged ready (.inl ?_)
    rw [view_call_silent rfl, show (session.view.delivery.beginActiveWrite).2 = begun from congrArg Prod.snd begins]
    rfl

theorem presentSnapshot_moves (sound : session.view.Sound) (opened : session.finished = false)
    (unrequested : session.closeRequested = false) (welcomed : session.welcomeDelivered = true)
    (unpinged : session.controlWriteActive = false) {latest : WorldSnapshot S} :
    Moves session.view (session.presentSnapshot input latest).concluded.view := by
  unfold presentSnapshot
  cases observes : session.delivery.observe latest with
  | error refusal =>
    simp only [SlotProgress.concluded, view_reportSessionFailure]
    exact moves_report
  | ok observed =>
    have noticed : Moves session.view ({ session with delivery := observed } : SessionWebSocketSession S).view :=
      .single (.observed latest observed opened observes)
    have kept := sound.moves noticed
    dsimp only
    split
    · next ready =>
      have asked : (({ session with delivery := observed } : SessionWebSocketSession S).call
          (.tryReserve input.now input.reservation)).view =
          ({ session with delivery := observed } : SessionWebSocketSession S).view := view_call_silent rfl
      split
      · simp only [SlotProgress.concluded, view_reportSessionFailure, asked]
        exact noticed.trans moves_report
      · simp only [SlotProgress.concluded, view_schedulePresentationSlot, asked]
        exact noticed
      · refine noticed.trans ?_
        rw [← asked] at kept ⊢
        exact admitted_moves kept opened unrequested welcomed unpinged ready
    · simp only [SlotProgress.concluded, view_schedulePresentationSlot]
      exact noticed

theorem present_moves (sound : session.view.Sound) (opened : session.finished = false)
    (unrequested : session.closeRequested = false) (input : PresentationInput S) (latest : WorldSnapshot S) :
    Moves session.view (session.present input latest).concluded.view := by
  unfold present
  split
  · simp only [SlotProgress.concluded, view_schedulePresentationSlot]
    exact .refl
  · next unpinged =>
    rw [Bool.not_eq_true] at unpinged
    have observed : ((session.observeOwnEntity latest).requestBodyIfAbsent latest.tickSequence).view =
        session.view := view_requestBodyIfAbsent.trans view_observeOwnEntity
    dsimp only
    generalize (session.observeOwnEntity latest).requestBodyIfAbsent latest.tickSequence = asking at observed ⊢
    have seats : (asking.requestSeatIfAbsent latest).view = asking.view ∨ _ := view_requestSeatIfAbsent
    rw [observed] at seats
    generalize asking.requestSeatIfAbsent latest = seated at seats ⊢
    obtain same | requested := seats
    · have closing : seated.closeRequested = session.closeRequested := congrArg SessionProtocol.closeRequested same
      have welcomed : seated.welcomeDelivered = session.welcomeDelivered :=
        congrArg SessionProtocol.welcomeDelivered same
      rw [closing, unrequested, if_neg Bool.false_ne_true, ← same]
      have kept := same.symm ▸ sound
      have open' : seated.finished = false := (congrArg SessionProtocol.finished same).trans opened
      have quiet : seated.controlWriteActive = false :=
        (congrArg SessionProtocol.controlWriteActive same).trans unpinged
      split
      · next delivered => exact presentSnapshot_moves kept open' (closing.trans unrequested) delivered quiet
      · next undelivered =>
        rw [Bool.not_eq_true] at undelivered
        exact presentWelcome_moves kept open' (closing.trans unrequested) undelivered quiet
    · have closing : seated.closeRequested = true :=
        (congrArg SessionProtocol.closeRequested requested).trans (requestClose_closeRequested opened)
      rw [closing, if_pos rfl]
      simp only [SlotProgress.concluded, requested]
      exact .single .requested

theorem presentationSlot_moves (sound : session.view.Sound) {completion : Completion} :
    Moves session.view (session.presentationSlot completion input).view := by
  unfold presentationSlot
  split
  · exact .refl
  · next runs =>
    simp only [Bool.or_eq_true, not_or, Bool.not_eq_true] at runs
    split
    · rw [view_finish]
      exact .single .finished
    · split
      · rw [view_requestClose]
        exact .single .requested
      · next latest _ =>
        have moved := present_moves sound runs.1.2 runs.2 input latest
        generalize session.present input latest = progress at moved ⊢
        cases progress with
        | proceeds presented => exact moved
        | returned presented => exact moved
        | threw presented => exact moved

end Slots

section Completions

theorem pending_completed {pending : OutstandingOperation} (member : pending ∈ session.outstanding)
    (operation : SessionOperation) : session.pending operation =
      (session.completed pending).pending operation + if pending.operation = operation then 1 else 0 := by
  have same := ((List.perm_cons_erase member).map OutstandingOperation.operation).count_eq operation
  rw [SessionWebSocketSession.pending, same, List.map_cons, List.count_cons]
  simp only [beq_iff_eq]
  rfl

theorem view_completed_silent {pending : OutstandingOperation} (member : pending ∈ session.outstanding)
    (silent : pending.operation ∉ [.welcomeWrite, .snapshotWrite, .ping, .close, .serverFailure]) :
    (session.completed pending).view = session.view := by
  simp only [List.mem_cons, List.not_mem_nil, or_false, not_or] at silent
  obtain ⟨welcome, snapshot, ping, close, failure⟩ := silent
  simp only [view, pending_completed member, welcome, snapshot, ping, close, failure, if_false, Nat.add_zero]
  rfl

theorem view_completed_welcome {pending : OutstandingOperation} (member : pending ∈ session.outstanding)
    (welcome : pending.operation = .welcomeWrite) : 0 < session.view.pendingWelcome ∧
      (session.completed pending).view = { session.view with pendingWelcome := session.view.pendingWelcome - 1 } := by
  simp only [view, pending_completed member, welcome, reduceCtorEq, if_false, if_true, Nat.add_zero]
  exact ⟨Nat.succ_pos _, rfl⟩

theorem view_completed_snapshot {pending : OutstandingOperation} (member : pending ∈ session.outstanding)
    (snapshot : pending.operation = .snapshotWrite) : 0 < session.view.pendingSnapshot ∧
      (session.completed pending).view =
        { session.view with pendingSnapshot := session.view.pendingSnapshot - 1 } := by
  simp only [view, pending_completed member, snapshot, reduceCtorEq, if_false, if_true, Nat.add_zero]
  exact ⟨Nat.succ_pos _, rfl⟩

theorem view_completed_ping {pending : OutstandingOperation} (member : pending ∈ session.outstanding)
    (ping : pending.operation = .ping) : 0 < session.view.pendingPing ∧
      (session.completed pending).view = { session.view with pendingPing := session.view.pendingPing - 1 } := by
  simp only [view, pending_completed member, ping, reduceCtorEq, if_false, if_true, Nat.add_zero]
  exact ⟨Nat.succ_pos _, rfl⟩

theorem view_completed_close {pending : OutstandingOperation} (member : pending ∈ session.outstanding)
    (close : pending.operation = .close) : 0 < session.view.pendingClose ∧
      (session.completed pending).view = { session.view with pendingClose := session.view.pendingClose - 1 } := by
  simp only [view, pending_completed member, close, reduceCtorEq, if_false, if_true, Nat.add_zero]
  exact ⟨Nat.succ_pos _, rfl⟩

theorem view_completed_failure {pending : OutstandingOperation} (member : pending ∈ session.outstanding)
    (failure : pending.operation = .serverFailure) : 0 < session.view.pendingFailure ∧
      (session.completed pending).view =
        { session.view with pendingFailure := session.view.pendingFailure - 1 } := by
  simp only [view, pending_completed member, failure, reduceCtorEq, if_false, if_true, Nat.add_zero]
  exact ⟨Nat.succ_pos _, rfl⟩

variable {completion : Completion}

theorem view_closeIfRequested (session : SessionWebSocketSession S)
    (intended : session.closeRequested = true → session.requestedCloseIntent.isSome = true) :
    (if session.closeRequested then session.beginCloseUnguarded else session).view =
      session.view.closeIfRequested := by
  unfold closeIfRequested
  by_cases requested : session.closeRequested = true
  · rw [if_pos requested, if_pos (show session.view.closeRequested = true from requested)]
    exact view_beginCloseUnguarded (intended requested)
  · rw [if_neg requested, if_neg (show ¬session.view.closeRequested = true from requested)]

theorem welcomeWritten_moves (sound : protocol.Sound) (pending : 0 < protocol.pendingWelcome)
    (seen : session.view = { protocol with pendingWelcome := protocol.pendingWelcome - 1 }) :
    Moves protocol (session.welcomeWritten completion).view := by
  have landed : (releaseActivePayload (cancelWait
      { session with welcomeWriteActive := false, snapshotWriteOperationActive := false } .writeDeadlineWait)).view =
      protocol.landWelcome := by
    rw [view_releaseActivePayload, view_cancelWait]
    calc _ = { session.view with welcomeWriteActive := false, snapshotWriteOperationActive := false } := rfl
      _ = _ := by rw [seen]; rfl
  unfold welcomeWritten
  generalize releaseActivePayload (cancelWait
    { session with welcomeWriteActive := false, snapshotWriteOperationActive := false } .writeDeadlineWait) = arrived
    at landed ⊢
  refine .single ?_
  dsimp only
  split
  · next finished =>
    rw [landed]
    exact .welcomeLandedLate pending ((congrArg SessionProtocol.finished landed).symm.trans finished)
  · next opened =>
    rw [Bool.not_eq_true] at opened
    split
    · rw [view_finish, landed]
      exact .welcomeLost pending
    · have delivered : ({ arrived with welcomeDelivered := true } : SessionWebSocketSession S).view =
          { protocol.landWelcome with welcomeDelivered := true } :=
        congrArg (fun viewed => ({ viewed with welcomeDelivered := true } : SessionProtocol S)) landed
      have intended : arrived.closeRequested = true → arrived.requestedCloseIntent.isSome = true := by
        intro requested
        have intends := sound.operating.intended
        exact (congrArg SessionProtocol.closeIntended landed).trans
          (intends ((congrArg SessionProtocol.closeRequested landed).symm.trans requested))
      have closed := view_closeIfRequested { arrived with welcomeDelivered := true } intended
      rw [delivered] at closed
      rw [closed]
      exact .welcomeLanded pending ((congrArg SessionProtocol.finished landed).symm.trans opened)

end Completions

end BlobRoyale.Server.SessionWebSocketSession
