import BlobRoyale.Server.HttpSessionSoundness

/-!
# The callbacks of an HTTP connection

What each callback makes of the invariant: the operation that lands, the response it queues or completes,
and the upgrade it begins or leaves pending.
-/

namespace BlobRoyale.Server.HttpSession

variable {Request Content : Type} {session : HttpSession Request Content} {inHand : List WebSocketAdmissionLease}

section Landing

variable {before after : List (HttpOperation Content)} {operation : HttpOperation Content}

theorem countP_reads (pending : session.outstanding = before ++ operation :: after) :
    session.outstanding.countP HttpOperation.reads =
      (before ++ after).countP HttpOperation.reads + if operation.reads then 1 else 0 := by
  rw [pending, List.countP_append, List.countP_cons, List.countP_append]
  omega

theorem Orderly.alone (orderly : session.Orderly inHand) (pending : session.outstanding = before ++ operation :: after)
    (reads : operation.reads = true) : (before ++ after).any HttpOperation.reads = false := by
  have single := orderly.single
  rw [countP_reads pending, if_pos reads] at single
  have none : (before ++ after).countP HttpOperation.reads = 0 := by omega
  rw [List.countP_eq_zero] at none
  exact List.any_eq_false.mpr none

theorem Orderly.landRead (orderly : session.Orderly inHand)
    (pending : session.outstanding = before ++ operation :: after) (reads : operation.reads = true) :
    Orderly inHand { session with outstanding := before ++ after, readActive := false } := by
  have alone := orderly.alone pending reads
  have unwritten : operation.written = none := by cases operation <;> first | rfl | cases reads
  have silent : ∀ {kind : HttpOperation Content → Bool}, (∀ other, kind other = true → other.reads = true) →
      (before ++ after).any kind = false := by
    intro kind implies
    refine List.any_eq_false.mpr fun other member known => ?_
    exact List.any_eq_false.mp alone other member (implies other known)
  refine { orderly with
    single := ?_, active := silent fun other known => by rw [HttpOperation.reads, known, Bool.or_true]
    writing := ?_, fresh := ?_, room := fun impossible => by cases impossible
    unended := ?_, held := ?_, leaves := ?_ }
  · have single := orderly.single
    rw [countP_reads pending] at single
    exact Nat.le_trans (Nat.le_add_right _ _) single
  · have writing := orderly.writing
    rw [pending, List.filterMap_append, List.filterMap_cons, unwritten, ← List.filterMap_append] at writing
    exact writing
  · intro started
    rw [silent fun other known => by rw [HttpOperation.reads, known, Bool.true_or]] at started
    cases started
  · intro awaits
    rw [awaitsRequest, alone] at awaits
    cases awaits
  · intro held
    refine ⟨(orderly.held held).1, fun finished => ?_⟩
    have empty := (orderly.held held).2 finished
    rw [pending] at empty
    simp at empty
  · intro finished dispatching
    exact ⟨(orderly.leaves finished dispatching).1, fun impossible => by cases impossible⟩

theorem Orderly.ready (orderly : session.Orderly inHand) (pending : session.outstanding = before ++ operation :: after)
    (reads : operation.readsRequest = true) :
    Ready { session with outstanding := before ++ after, readActive := false } ∧ session.parser = true ∧
      session.readActive = true := by
  have leads : operation.reads = true := by rw [HttpOperation.reads, reads, Bool.or_true]
  have active : session.readActive = true := by
    rw [← orderly.active, pending]
    simp [reads]
  have awaits : session.awaitsRequest = true := by
    rw [awaitsRequest, pending]
    simp [leads]
  obtain ⟨room, parser⟩ := orderly.room active
  exact ⟨⟨rfl, orderly.alone pending leads, orderly.unended awaits, room,
    fun finished dispatching => (orderly.leaves finished dispatching).2 active⟩, parser, active⟩

theorem Orderly.landWrite (orderly : session.Orderly inHand) {response : GameApiHttpResponse Content}
    (pending : session.outstanding = before ++ .write response :: after) :
    Orderly inHand { session with outstanding := before ++ after, writeActive := false } ∧
      (∃ rest, session.responseQueue = response :: rest) ∧
      (before ++ after).any HttpOperation.isStart = false ∧
      session.begun = session.completed ++ [response] ∧
      (session.finished = true → session.dispatching = true →
        session.readActive = false ∧ session.pendingUpgrade = none) := by
  have writing := orderly.writing
  rw [pending, List.filterMap_append, List.filterMap_cons] at writing
  have active : session.writeActive = true := by
    by_contra idle
    rw [if_neg idle] at writing
    simp [HttpOperation.written] at writing
  rw [if_pos active] at writing
  have length := congrArg List.length writing
  simp only [HttpOperation.written, List.length_append, List.length_cons, List.length_take] at length
  have front : before.filterMap HttpOperation.written = [] := List.length_eq_zero_iff.mp (by omega)
  have back : after.filterMap HttpOperation.written = [] := List.length_eq_zero_iff.mp (by omega)
  rw [front, back] at writing
  obtain ⟨rest, queue⟩ : ∃ rest, session.responseQueue = response :: rest := by
    cases queue : session.responseQueue with
    | nil => exact absurd queue (orderly.busy active)
    | cons first rest =>
      rw [queue] at writing
      exact ⟨rest, by rw [(List.cons.inj writing).1]⟩
  have begun : session.begun = session.completed ++ [response] := by
    obtain ⟨-, idle⟩ | begun := orderly.writes
    · exact absurd (active.symm.trans idle) (by decide)
    · rw [begun, queue]
      rfl
  have unstarted : (before ++ after).any HttpOperation.isStart = false := by
    by_contra started
    rw [Bool.not_eq_false] at started
    have idle := orderly.fresh (by
      rw [pending]
      simpa [HttpOperation.isStart] using started)
    exact absurd (active.symm.trans idle) (by decide)
  have gone : session.finished = true → session.dispatching = true →
      session.readActive = false ∧ session.pendingUpgrade = none := by
    intro finished dispatching
    obtain ⟨pends, reads⟩ := orderly.leaves finished dispatching
    constructor
    · by_contra reading
      rw [Bool.not_eq_false] at reading
      exact absurd (active.symm.trans (reads reading).2) (by decide)
    · cases upgrade : session.pendingUpgrade with
      | none => rfl
      | some waiting => exact absurd (active.symm.trans (pends (by rw [upgrade]; rfl))) (by decide)
  have awaits : (before ++ after).any HttpOperation.reads = true → session.awaitsRequest = true := by
    intro awaits
    rw [awaitsRequest, pending]
    simpa [HttpOperation.reads, HttpOperation.isStart, HttpOperation.readsRequest] using awaits
  have reading : (before ++ after).any HttpOperation.readsRequest = session.readActive := by
    rw [← orderly.active, pending]
    simp [HttpOperation.readsRequest]
  refine ⟨{ orderly with
    single := ?_, active := reading, writing := ?_, busy := fun impossible => by cases impossible
    fresh := fun _ => rfl, unended := fun reads => orderly.unended (awaits reads), held := ?_, leaves := ?_
    writes := .inr ?_ }, ⟨rest, queue⟩, unstarted, begun, gone⟩
  · have single := orderly.single
    rw [countP_reads pending] at single
    exact Nat.le_trans (Nat.le_add_right _ _) single
  · change (before ++ after).filterMap HttpOperation.written = []
    rw [List.filterMap_append, front, back]
    rfl
  · intro held
    refine ⟨(orderly.held held).1, fun finished => ?_⟩
    have empty := (orderly.held held).2 finished
    rw [pending] at empty
    simp at empty
  · intro finished dispatching
    refine ⟨fun _ => rfl, fun reads => ?_⟩
    exact absurd (reads.symm.trans (gone finished dispatching).1) (by decide)
  · rw [show HttpSession.begun { session with outstanding := before ++ after, writeActive := false } = session.begun
      from rfl, begun]
    change session.completed ++ [response] = session.completed ++ session.responseQueue.take 1
    rw [queue]
    rfl

end Landing

section Queueing

variable {response : GameApiHttpResponse Content} {rest : List (GameApiHttpResponse Content)}

def queueResponse (session : HttpSession Request Content) (response : GameApiHttpResponse Content) :
    HttpSession Request Content :=
  call { session with responseQueue := session.responseQueue ++ [response] } (.enqueue response)

theorem queueResponse_ended : (session.queueResponse response).ended = (session.ended || !response.keepAlive) :=
  ended_call

theorem take_one_append {Value : Type} {values : List Value} (nonempty : values ≠ []) (value : Value) :
    (values ++ [value]).take 1 = values.take 1 := by
  cases values with
  | nil => exact absurd rfl nonempty
  | cons first others => rfl

theorem Orderly.queueResponse (orderly : session.Orderly inHand) (ready : session.Ready)
    (response : GameApiHttpResponse Content) :
    (session.queueResponse response).Orderly inHand := by
  have routed : (session.queueResponse response).routed = session.routed ++ [response] := logged rfl
  have begun : (session.queueResponse response).begun = session.begun := unlogged rfl
  have completed : (session.queueResponse response).completed = session.completed := unlogged rfl
  have taken : (session.queueResponse response).taken = session.taken := unlogged rfl
  have handed : (session.queueResponse response).handed = session.handed := unlogged rfl
  have released : (session.queueResponse response).released = session.released := unlogged rfl
  have queue : (session.queueResponse response).responseQueue = session.responseQueue ++ [response] := rfl
  have pending : session.pendingUpgrade.isSome = true → False := by
    intro pending
    rw [orderly.unpending ready.unended] at pending
    cases pending
  have reading : session.readActive = true → False := fun reading =>
    absurd (reading.symm.trans ready.idle) (by decide)
  refine { orderly with
    writing := ?_, busy := fun _ => ?_, room := fun reads => (reading reads).elim
    unended := fun awaits => absurd (awaits.symm.trans ready.unawaited) (by decide)
    upgrading := fun upgrade => (pending upgrade).elim
    leaves := fun _ _ => ⟨fun upgrade => (pending upgrade).elim, fun reads => (reading reads).elim⟩
    routes := ?_, writes := ?_
    whole := orderly.faultless rfl, readsFirst := orderly.readsFirst.concat fun impossible => by cases impossible
    upgradesLast := orderly.upgradesLast.concat fun impossible => by cases impossible
    accounted := ?_, once := ?_, untaken := ?_ }
  · change session.outstanding.filterMap HttpOperation.written =
      if session.writeActive then (session.responseQueue ++ [response]).take 1 else []
    rw [orderly.writing]
    split
    · next active => rw [take_one_append (orderly.busy active)]
    · rfl
  · rw [queue]
    exact List.append_ne_nil_of_right_ne_nil _ (List.cons_ne_nil _ _)
  · rw [routed, completed, queue, orderly.routes, List.append_assoc]
  · rw [begun, completed, queue]
    obtain left | begun := orderly.writes
    · exact .inl left
    · cases held : session.responseQueue with
      | nil =>
        refine .inl ⟨?_, ?_⟩
        · rw [begun, held]
          exact List.append_nil _
        · by_contra active
          rw [Bool.not_eq_false] at active
          exact orderly.busy active held
      | cons first others =>
        rw [held] at begun
        exact .inr begun
  · rw [handed, released, taken]
    exact orderly.accounted
  · rw [taken]
    exact orderly.once
  · rw [queueResponse_ended, taken, Bool.or_eq_false_iff]
    exact fun unended => orderly.untaken unended.1

def popResponse (session : HttpSession Request Content) (response : GameApiHttpResponse Content)
    (rest : List (GameApiHttpResponse Content)) : HttpSession Request Content :=
  call { session with responseQueue := rest } (.completeResponse response)

theorem Orderly.popResponse (orderly : session.Orderly inHand) (queue : session.responseQueue = response :: rest)
    (idle : session.writeActive = false) (begins : session.begun = session.completed ++ [response])
    (gone : session.finished = true → session.dispatching = true →
      session.readActive = false ∧ session.pendingUpgrade = none) : (session.popResponse response rest).Orderly inHand := by
  have routed : (session.popResponse response rest).routed = session.routed := unlogged rfl
  have begun : (session.popResponse response rest).begun = session.begun := unlogged rfl
  have completed : (session.popResponse response rest).completed = session.completed ++ [response] := logged rfl
  have ended : (session.popResponse response rest).ended = session.ended := unending rfl
  have taken : (session.popResponse response rest).taken = session.taken := unlogged rfl
  have handed : (session.popResponse response rest).handed = session.handed := unlogged rfl
  have released : (session.popResponse response rest).released = session.released := unlogged rfl
  refine { orderly with
    writing := ?_, busy := fun active => absurd (active.symm.trans idle) (by decide), room := fun reads => ?_
    unended := ?_, upgrading := ?_, leaves := ?_, routes := ?_, writes := .inl ⟨?_, idle⟩
    whole := orderly.faultless rfl, readsFirst := orderly.readsFirst.concat fun impossible => by cases impossible
    upgradesLast := orderly.upgradesLast.concat fun impossible => by cases impossible
    accounted := ?_, once := ?_, untaken := ?_ }
  · have writing := orderly.writing
    rw [idle] at writing
    change session.outstanding.filterMap HttpOperation.written = if session.writeActive then _ else []
    rw [writing, idle]
    rfl
  · obtain ⟨room, parser⟩ := orderly.room reads
    rw [queue] at room
    exact ⟨Nat.lt_of_succ_lt room, parser⟩
  · rw [ended]
    exact orderly.unended
  · rw [ended]
    exact orderly.upgrading
  · intro finished dispatching
    refine ⟨fun _ => idle, fun reads => ?_⟩
    exact absurd (reads.symm.trans (gone finished dispatching).1) (by decide)
  · rw [routed, completed, orderly.routes, queue, List.append_assoc]
    rfl
  · rw [begun, completed, begins]
  · rw [handed, released, taken]
    exact orderly.accounted
  · rw [taken]
    exact orderly.once
  · rw [ended, taken]
    exact orderly.untaken

end Queueing

section Upgrading

variable {lease : WebSocketAdmissionLease}

theorem Orderly.take (orderly : session.Orderly []) (ready : session.Ready) (lease : WebSocketAdmissionLease) :
    (session.call (.takeLease lease)).Orderly [lease] := by
  have routed : (session.call (.takeLease lease)).routed = session.routed := unlogged rfl
  have begun : (session.call (.takeLease lease)).begun = session.begun := unlogged rfl
  have completed : (session.call (.takeLease lease)).completed = session.completed := unlogged rfl
  have taken : (session.call (.takeLease lease)).taken = session.taken ++ [lease] := logged rfl
  have handed : (session.call (.takeLease lease)).handed = session.handed := unlogged rfl
  have released : (session.call (.takeLease lease)).released = session.released := unlogged rfl
  have ended : (session.call (.takeLease lease)).ended = true := by
    rw [ended_call]
    exact Bool.or_true _
  have untaken := orderly.untaken ready.unended
  refine { orderly with
    unended := fun awaits => absurd (awaits.symm.trans ready.unawaited) (by decide)
    upgrading := fun pending => ⟨ended, (orderly.upgrading pending).2⟩
    routes := by rw [routed, completed]; exact orderly.routes
    writes := by rw [begun, completed]; exact orderly.writes
    whole := orderly.faultless rfl, readsFirst := orderly.readsFirst.concat fun impossible => by cases impossible
    upgradesLast := orderly.upgradesLast.concat fun impossible => by cases impossible
    accounted := ?_, once := ?_, untaken := ?_ }
  · rw [handed, released, taken]
    exact (orderly.accounted.cons lease).trans (List.perm_append_singleton lease session.taken).symm
  · rw [taken, untaken]
    exact Nat.le_refl 1
  · rw [ended]
    intro impossible
    cases impossible

/-- An upgrade hands its lease to the session it builds, or releases it, and ends the connection. -/
theorem beginWebsocketUpgrade_orderly (orderly : session.Orderly [lease]) (drained : session.responseQueue = [])
    (unheld : session.pendingWebsocketLease = none) (leaves : session.Leaves) (request : Request)
    (upgrade : GameApiUpgrade) (outcome : UpgradeOutcome) :
    (session.beginWebsocketUpgrade request upgrade lease outcome).Orderly [] ∧
      (session.beginWebsocketUpgrade request upgrade lease outcome).finished = true := by
  have begun : (session.call (.beginUpgrade request upgrade)).Orderly [lease] := orderly.upgrade drained
  have moved : Orderly [lease] { session.call (.beginUpgrade request upgrade) with tcpLease := false } := { begun with }
  have handed := moved.hand.unregister
  have kept : HttpSession.pendingWebsocketLease (HttpSession.unregister (HttpSession.call
      { session.call (.beginUpgrade request upgrade) with tcpLease := false } (.handLease lease))) = none := by
    unfold HttpSession.unregister
    split <;> exact unheld
  have handedOver : (beginWebsocketUpgrade.handOver (session.call (.beginUpgrade request upgrade)) lease).Orderly [] := by
    have leaves' : HttpSession.Leaves (HttpSession.unregister (HttpSession.call
        { session.call (.beginUpgrade request upgrade) with tcpLease := false } (.handLease lease))) := by
      unfold HttpSession.unregister
      split <;> exact leaves
    exact handed.finishes leaves' kept
  have fails : ∀ {made : HttpSession Request Content}, made.Orderly [] → (made.call .fail).Orderly [] :=
    fun orderly => orderly.silent rfl
  unfold beginWebsocketUpgrade
  cases outcome with
  | constructionThrew =>
    exact ⟨(fails begun.release).finish leaves, finish_finished⟩
  | runThrew =>
    refine ⟨(fails handedOver).finish ?_, finish_finished⟩
    exact handedOver.leaves rfl
  | ran => exact ⟨handedOver, rfl⟩

end Upgrading

section Callbacks

/-- What holds of a connection when a callback ends, before it may be destroyed. -/
structure Holds (session : HttpSession Request Content) : Prop where
  orderly : session.Orderly []
  queued : session.finished = false → session.writeActive = false → session.responseQueue = []
  waits : session.finished = false → session.pendingUpgrade.isSome = true → session.responseQueue ≠ []
  ends : session.ended = true → session.finished = true ∨ session.pendingUpgrade.isSome = true ∨
    ∃ response ∈ session.responseQueue, response.keepAlive = false
  lively : session.Lively

theorem Orderly.holds (orderly : session.Orderly []) (finished : session.finished = true) : session.Holds := by
  have finishes : session.finished = false → False := fun unfinished =>
    absurd (finished.symm.trans unfinished) (by decide)
  exact ⟨orderly, fun unfinished => (finishes unfinished).elim, fun unfinished => (finishes unfinished).elim,
    fun _ => .inl finished, lively_of_finished finished⟩

theorem Orderly.finish_holds (orderly : session.Orderly []) (leaves : session.Leaves) : session.finish.Holds :=
  (orderly.finish leaves).holds finish_finished

/-- What a connection queues, writes and waits for, with whether it has finished or ended reading. -/
def queueing (session : HttpSession Request Content) :
    List (GameApiHttpResponse Content) × Bool × Option (Request × GameApiUpgrade) × Bool × Bool :=
  (session.responseQueue, session.writeActive, session.pendingUpgrade, session.finished, session.ended)

theorem Orderly.holds_of_queueing (orderly : session.Orderly []) (lively : session.Lively)
    {earlier : HttpSession Request Content} (same : session.queueing = earlier.queueing)
    (queued : earlier.finished = false → earlier.writeActive = false → earlier.responseQueue = [])
    (unended : earlier.ended = false) : session.Holds := by
  obtain ⟨queue, rest⟩ := Prod.mk.inj same
  obtain ⟨writing, rest⟩ := Prod.mk.inj rest
  obtain ⟨-, rest⟩ := Prod.mk.inj rest
  obtain ⟨finished, ended⟩ := Prod.mk.inj rest
  have open' : session.ended = false := ended.trans unended
  refine ⟨orderly, ?_, fun _ pending => ?_, fun ended => absurd (ended.symm.trans open') (by decide), lively⟩
  · rw [queue, writing, finished]
    exact queued
  · rw [orderly.unpending open'] at pending
    cases pending

theorem preflightHeader_queueing (session : HttpSession Request Content) (inspection : HeaderInspection) :
    (session.preflightHeader inspection).finished = true ∨
      (session.preflightHeader inspection).queueing = session.queueing := by
  have unending : ∀ {made : HttpCall Request Content} {operation : HttpOperation Content},
      made.endsReading = false → ((session.call made).start operation).queueing = session.queueing := by
    intro made operation unends
    have same : ((session.call made).start operation).ended = session.ended := unending unends
    rw [queueing, same]
    rfl
  unfold preflightHeader
  split
  · exact .inr (unending rfl)
  · exact .inl finish_finished
  · exact .inl finish_finished
  · split
    · exact .inl finish_finished
    · exact .inr (unending rfl)

theorem readNextRequest_queueing (inspection : HeaderInspection) :
    (session.readNextRequest inspection).finished = true ∨
      (session.readNextRequest inspection).queueing = session.queueing := by
  unfold readNextRequest
  split
  · exact .inr rfl
  · obtain finished | same := preflightHeader_queueing (HttpSession.call
      { session with parser := true, readActive := true } .beginRequest) inspection
    · exact .inl finished
    · refine .inr (same.trans ?_)
      have ended : HttpSession.ended (HttpSession.call { session with parser := true, readActive := true }
          .beginRequest) = session.ended := unending rfl
      rw [queueing, ended]
      rfl

theorem readNextRequest_holds (orderly : session.Orderly []) (unended : session.ended = false)
    (between : session.readActive = false → session.awaitsRequest = false)
    (queued : session.finished = false → session.writeActive = false → session.responseQueue = [])
    (inspection : HeaderInspection) : (session.readNextRequest inspection).Holds := by
  obtain ⟨orderly', lively⟩ := readNextRequest_orderly orderly unended between queued inspection
  obtain finished | same := session.readNextRequest_queueing inspection
  · exact orderly'.holds finished
  · exact orderly'.holds_of_queueing lively same queued unended

end Callbacks

section Routing

theorem enqueueResponse_eq (room : session.responseQueue.length < pipelinedResponseMaximumCount)
    (response : GameApiHttpResponse Content) : session.enqueueResponse response =
      .ok (if (session.queueResponse response).writeActive then session.queueResponse response
        else (session.queueResponse response).writeNextResponse) := by
  rw [enqueueResponse, if_neg (Nat.not_le_of_lt room)]
  rfl

/-- A connection once its response is queued, and written where nothing else is. -/
structure Queues (session next : HttpSession Request Content) (response : GameApiHttpResponse Content) : Prop where
  orderly : next.Orderly []
  idle : next.readActive = false
  unawaited : next.awaitsRequest = false
  ended : next.ended = !response.keepAlive
  writing : next.finished = false → next.writeActive = true
  queue : next.responseQueue = session.responseQueue ++ [response]
  unpending : next.pendingUpgrade = none

theorem enqueueResponse_queues (orderly : session.Orderly []) (ready : session.Ready)
    (queued : session.finished = false → session.writeActive = false → session.responseQueue = [])
    (response : GameApiHttpResponse Content) :
    ∃ next, session.enqueueResponse response = .ok next ∧ session.Queues next response := by
  refine ⟨_, enqueueResponse_eq ready.room response, ?_⟩
  have after := orderly.queueResponse ready response
  have ended : (session.queueResponse response).ended = !response.keepAlive := by
    rw [queueResponse_ended, ready.unended, Bool.false_or]
  have pending : session.pendingUpgrade = none := orderly.unpending ready.unended
  split
  · next active => exact ⟨after, ready.idle, ready.unawaited, ended, fun _ => active, rfl, pending⟩
  · next idle =>
    rw [Bool.not_eq_true] at idle
    have unstarted : session.outstanding.any HttpOperation.isStart = false := by
      refine List.any_eq_false.mpr fun operation member starts => ?_
      refine List.any_eq_false.mp ready.unawaited operation member ?_
      rw [HttpOperation.reads, starts, Bool.true_or]
    have caught : session.finished = false → session.writeActive = false →
        (session.queueResponse response).begun = (session.queueResponse response).completed := by
      intro unfinished _
      have begun : (session.queueResponse response).begun = session.begun := unlogged rfl
      have completed : (session.queueResponse response).completed = session.completed := unlogged rfl
      rw [begun, completed]
      obtain ⟨same, -⟩ | same := orderly.writes
      · exact same
      · rw [same, queued unfinished idle]
        exact List.append_nil _
    have written := writeNextResponse_orderly after unstarted caught
    obtain same | ⟨-, -, first, rest, -, same⟩ := (session.queueResponse response).writeNextResponse_cases
    · rw [same]
      refine ⟨after, ready.idle, ready.unawaited, ended, fun unfinished => ?_, rfl, pending⟩
      have writes : (session.queueResponse response).writeNextResponse.writeActive = true := by
        unfold writeNextResponse
        rw [unfinished, idle]
        have queue : (session.queueResponse response).responseQueue = session.responseQueue ++ [response] := rfl
        rw [queue, queued unfinished idle]
        rfl
      rw [same] at writes
      exact writes
    · rw [same] at written ⊢
      have ended' : ((session.queueResponse response).beginWrite first).ended =
          (session.queueResponse response).ended := unending rfl
      refine ⟨written, ready.idle, ?_, ended'.trans ended, fun _ => rfl, rfl, pending⟩
      rw [awaitsRequest, beginWrite, start, List.any_append]
      exact (Bool.or_false _).trans ready.unawaited

theorem respond_holds (orderly : session.Orderly []) (ready : session.Ready)
    (queued : session.finished = false → session.writeActive = false → session.responseQueue = [])
    (input : HttpInput Request Content) (response : GameApiHttpResponse Content) :
    ∃ next, session.respond input response = .ok next ∧ next.Holds := by
  obtain ⟨next, queues, after⟩ := enqueueResponse_queues orderly ready queued response
  rw [respond, queues]
  refine ⟨_, rfl, ?_⟩
  have idle : next.finished = false → next.writeActive = false → next.responseQueue = [] := fun unfinished idle =>
    absurd ((after.writing unfinished).symm.trans idle) (by decide)
  split
  · next keeps =>
    refine readNextRequest_holds after.orderly ?_ (fun _ => after.unawaited) idle input.inspection
    rw [after.ended, keeps]
    rfl
  · next closes =>
    refine ⟨after.orderly, idle, ?_, fun _ => .inr (.inr ⟨response, ?_, ?_⟩), ?_⟩
    · rw [after.unpending]
      intro _ impossible
      cases impossible
    · rw [after.queue]
      exact List.mem_append_right _ List.mem_cons_self
    · exact Bool.not_eq_true _ ▸ closes
    · exact fun unfinished _ => .inl (after.writing unfinished)

theorem Orderly.outstanding_nil (orderly : session.Orderly inHand) (unawaited : session.awaitsRequest = false)
    (idle : session.writeActive = false) : session.outstanding = [] := by
  have unwritten : session.outstanding.filterMap HttpOperation.written = [] := by
    rw [orderly.writing, idle]
    rfl
  refine List.eq_nil_iff_forall_not_mem.mpr fun operation member => ?_
  cases operation with
  | start => exact List.any_eq_false.mp unawaited _ member rfl
  | rawRead => exact List.any_eq_false.mp unawaited _ member rfl
  | headerRead => exact List.any_eq_false.mp unawaited _ member rfl
  | write response =>
    have written := List.filterMap_eq_nil_iff.mp unwritten _ member
    cases written

def awaitUpgrade (session : HttpSession Request Content) (upgrade : Request × GameApiUpgrade)
    (lease : WebSocketAdmissionLease) : HttpSession Request Content :=
  { session with pendingUpgrade := some upgrade, pendingWebsocketLease := some lease }

theorem Orderly.awaitUpgrade {lease : WebSocketAdmissionLease} (orderly : session.Orderly [lease])
    (ended : session.ended = true) (unheld : session.pendingWebsocketLease = none)
    (unawaited : session.awaitsRequest = false) (idle : session.readActive = false)
    (after : session.finished = true → session.writeActive = false) (upgrade : Request × GameApiUpgrade) :
    (session.awaitUpgrade upgrade lease).Orderly [] := by
  have accounted : ([] ++ [lease] ++ session.handed ++ session.released).Perm session.taken := by
    refine List.Perm.trans ?_ orderly.accounted
    rw [unheld]
    exact .refl _
  exact { orderly with
    upgrading := fun _ => ⟨ended, fun _ => rfl⟩
    held := fun _ => ⟨rfl, fun finished => orderly.outstanding_nil unawaited (after finished)⟩
    leaves := fun finished _ => ⟨fun _ => after finished, fun reads => absurd (reads.symm.trans idle) (by decide)⟩
    accounted := accounted }

theorem upgradeOrWait_holds (orderly : session.Orderly []) (ready : session.Ready)
    (queued : session.finished = false → session.writeActive = false → session.responseQueue = [])
    (dispatching : session.dispatching = true) (input : HttpInput Request Content) (upgrade : GameApiUpgrade)
    (lease : WebSocketAdmissionLease) : (session.upgradeOrWait input upgrade lease).Holds := by
  have unheld : session.pendingWebsocketLease = none := by
    cases held : session.pendingWebsocketLease with
    | none => rfl
    | some other =>
      have pending := (orderly.held (by rw [held]; rfl)).1
      rw [orderly.unpending ready.unended] at pending
      cases pending
  have taken := orderly.take ready lease
  have leaves : session.Leaves := ready.leaves' orderly
  have ended : (session.call (.takeLease lease)).ended = true := by
    rw [ended_call]
    exact Bool.or_true _
  unfold upgradeOrWait
  dsimp only
  split
  · next drained =>
    rw [Bool.and_eq_true, List.isEmpty_iff] at drained
    obtain ⟨orderly', finished⟩ := beginWebsocketUpgrade_orderly taken drained.1 unheld leaves
      input.request upgrade input.upgrading
    exact orderly'.holds finished
  · next busy =>
    have free : (session.call (.takeLease lease)).releasePendingLease = session.call (.takeLease lease) := by
      unfold releasePendingLease
      have same : (session.call (.takeLease lease)).pendingWebsocketLease = none := unheld
      rw [same]
    rw [free]
    have writes : session.finished = false → session.writeActive = true := by
      intro unfinished
      by_contra idle
      rw [Bool.not_eq_true] at idle
      refine busy ?_
      change (session.responseQueue.isEmpty && !session.writeActive) = true
      rw [queued unfinished idle, idle]
      rfl
    have waiting := taken.awaitUpgrade ended unheld ready.unawaited ready.idle
      (fun finished => (ready.leaves finished dispatching).2) (input.request, upgrade)
    refine ⟨waiting, ?_, ?_, fun _ => .inr (.inl rfl), fun unfinished _ => .inl (writes unfinished)⟩
    · exact fun unfinished idle => absurd ((writes unfinished).symm.trans idle) (by decide)
    · exact fun unfinished _ => taken.busy (writes unfinished)

end Routing

section Steps

variable {before after : List (HttpOperation Content)}

theorem start_holds (holds : session.Holds) (pending : session.outstanding = before ++ .start :: after)
    (inspection : HeaderInspection) :
    (readNextRequest { session with outstanding := before ++ after } inspection).Holds := by
  have alone := holds.orderly.alone pending rfl
  have idle : session.readActive = false := by
    rw [← holds.orderly.active, pending]
    simp only [List.any_append, List.any_cons, HttpOperation.readsRequest, Bool.false_or]
    rw [← List.any_append]
    refine List.any_eq_false.mpr fun operation member reads => List.any_eq_false.mp alone operation member ?_
    rw [HttpOperation.reads, reads, Bool.or_true]
  have landed := holds.orderly.landRead pending rfl
  have same : ({ session with outstanding := before ++ after, readActive := false } : HttpSession Request Content) =
      { session with outstanding := before ++ after } := by
    rw [← idle]
  rw [same] at landed
  have awaits : session.awaitsRequest = true := by
    rw [awaitsRequest, pending]
    simp [HttpOperation.reads, HttpOperation.isStart]
  exact readNextRequest_holds landed (holds.orderly.unended awaits) (fun _ => alone) holds.queued inspection

theorem rawHeaderBytesRead_holds (holds : session.Holds) (pending : session.outstanding = before ++ .rawRead :: after)
    (completion : Completion) (inspection : HeaderInspection) :
    (rawHeaderBytesRead { session with outstanding := before ++ after } completion inspection).Holds := by
  have landed := holds.orderly.landRead pending rfl
  obtain ⟨ready, parser, active⟩ := holds.orderly.ready pending rfl
  unfold rawHeaderBytesRead
  split
  · have reading : HttpSession.readActive { session with outstanding := before ++ after } = true := active
    obtain ⟨orderly, lively⟩ := preflightHeader_orderly reading parser landed ready inspection
    obtain finished | same := preflightHeader_queueing { session with outstanding := before ++ after } inspection
    · exact orderly.holds finished
    · exact orderly.holds_of_queueing lively same holds.queued ready.unended
  · exact landed.finish_holds (ready.leaves' landed)

theorem routeRequest_holds (orderly : session.Orderly []) (ready : session.Ready) (parser : session.parser = true)
    (queued : session.finished = false → session.writeActive = false → session.responseQueue = [])
    (dispatching : session.dispatching = true) (input : HttpInput Request Content) :
    (∃ next, session.routeRequest input = .ok next ∧ next.Holds) ∨
      ∃ thrown, session.routeRequest input = .error thrown ∧ thrown.Orderly [] ∧ thrown.Leaves := by
  have counted : Orderly [] { session with
      parsedRequestCount := session.parsedRequestCount + 1
      parser := false } := { orderly with
    room := fun reads => absurd (reads.symm.trans ready.idle) (by decide) }
  have counting : Ready { session with
      parsedRequestCount := session.parsedRequestCount + 1
      parser := false } := ⟨ready.idle, ready.unawaited, ready.unended, ready.room, ready.leaves⟩
  have parsed : (session.releaseRequest input.request).Orderly [] := counted.silent rfl
  have parsing : (session.releaseRequest input.request).Ready := counting.call rfl
  have leaves := parsing.leaves' parsed
  rw [routeRequest, if_pos parser]
  dsimp only
  cases input.result with
  | none => exact .inr ⟨_, rfl, parsed, leaves⟩
  | some result =>
    refine .inl ?_
    cases result with
    | closeWithoutResponse => exact ⟨_, rfl, parsed.finish_holds leaves⟩
    | websocketUpgrade upgrade lease =>
      exact ⟨_, rfl, upgradeOrWait_holds parsed parsing queued dispatching input upgrade lease⟩
    | httpResponse response => exact respond_holds parsed parsing queued input _

theorem routeGuarded_holds (orderly : session.Orderly []) (ready : session.Ready) (parser : session.parser = true)
    (queued : session.finished = false → session.writeActive = false → session.responseQueue = [])
    (dispatching : session.dispatching = true) (input : HttpInput Request Content) :
    (session.routeGuarded input).Holds := by
  obtain ⟨next, routes, after⟩ | ⟨thrown, routes, orderly', leaves⟩ :=
    routeRequest_holds orderly ready parser queued dispatching input
  · rw [routeGuarded, routes]
    exact after
  · rw [routeGuarded, routes]
    exact Orderly.finish_holds (orderly'.silent rfl) leaves

theorem headerRead_holds (holds : session.Holds) (pending : session.outstanding = before ++ .headerRead :: after)
    (dispatching : session.dispatching = true) (completion : Completion) (input : HttpInput Request Content) :
    (headerRead { session with outstanding := before ++ after } completion input).Holds := by
  have landed := holds.orderly.landRead pending rfl
  obtain ⟨ready, parser, -⟩ := holds.orderly.ready pending rfl
  unfold headerRead
  split
  · exact routeGuarded_holds landed ready parser holds.queued dispatching input
  · exact landed.finish_holds (ready.leaves' landed)

theorem Orderly.ended_of_closing (orderly : session.Orderly inHand) {response : GameApiHttpResponse Content}
    (queued : response ∈ session.responseQueue) (closes : response.keepAlive = false) : session.ended = true := by
  have routed : response ∈ session.routed := by
    rw [orderly.routes]
    exact List.mem_append_right _ queued
  obtain ⟨made, member, enqueues⟩ := List.mem_filterMap.mp routed
  refine List.any_eq_true.mpr ⟨made, member, ?_⟩
  cases made <;> cases enqueues
  rw [HttpCall.endsReading, closes]
  rfl

theorem Orderly.idle_of_ended (orderly : session.Orderly inHand) (ended : session.ended = true) :
    session.readActive = false := by
  by_contra active
  rw [Bool.not_eq_false, ← orderly.active, List.any_eq_true] at active
  obtain ⟨operation, member, reads⟩ := active
  have awaits : session.awaitsRequest = true := by
    refine List.any_eq_true.mpr ⟨operation, member, ?_⟩
    rw [HttpOperation.reads, reads, Bool.or_true]
  exact absurd (ended.symm.trans (orderly.unended awaits)) (by decide)

/-- Behind the last queued response the pending upgrade begins, or the next request is read. -/
theorem drained_holds (orderly : session.Orderly []) (queue : session.responseQueue = [])
    (ends : session.finished = false → session.ended = true → session.pendingUpgrade.isSome = true)
    (unstarted : session.outstanding.any HttpOperation.isStart = false)
    (gone : session.finished = true → session.pendingUpgrade = none) (input : HttpInput Request Content) :
    (session.drained input).Holds := by
  unfold drained
  split
  · next unpending =>
    cases finished : session.finished with
    | true =>
      have stays : session.readNextRequest input.inspection = session := by
        rw [readNextRequest, finished]
        rfl
      rw [stays]
      exact orderly.holds finished
    | false =>
      have unended : session.ended = false := by
        by_contra ended
        have pending := ends finished ((Bool.not_eq_false _).mp ended)
        rw [unpending] at pending
        cases pending
      refine readNextRequest_holds orderly unended (fun idle => ?_) (fun _ _ => queue) input.inspection
      refine List.any_eq_false.mpr fun operation member reads => ?_
      rw [HttpOperation.reads, Bool.or_eq_true] at reads
      obtain starts | reads := reads
      · exact List.any_eq_false.mp unstarted operation member starts
      · have none := orderly.active.trans idle
        exact List.any_eq_false.mp none operation member reads
  · next request upgrade pending =>
    have unfinished : session.finished = false := by
      by_contra finished
      rw [gone ((Bool.not_eq_false _).mp finished)] at pending
      cases pending
    obtain ⟨ended, held⟩ := orderly.upgrading (by rw [pending]; rfl)
    split
    · next unheld =>
      have holds := held unfinished
      rw [unheld] at holds
      cases holds
    · next lease holds =>
      have accounted : ([lease] ++ (none : Option WebSocketAdmissionLease).toList ++ session.handed ++
          session.released).Perm session.taken := by
        refine List.Perm.trans ?_ orderly.accounted
        rw [holds]
        exact .refl _
      have leaves : HttpSession.Leaves { session with pendingUpgrade := none, pendingWebsocketLease := none } := by
        intro _
        refine ⟨fun impossible => (by cases impossible), fun reads => ?_⟩
        exact absurd (reads.symm.trans (orderly.idle_of_ended ended)) (by decide)
      have begins : Orderly [lease] { session with pendingUpgrade := none, pendingWebsocketLease := none } :=
        { orderly with
          upgrading := fun impossible => by cases impossible
          held := fun impossible => by cases impossible
          leaves := fun finished => absurd (finished.symm.trans unfinished) (by decide)
          accounted := accounted }
      obtain ⟨orderly', finished⟩ := beginWebsocketUpgrade_orderly begins queue rfl leaves request upgrade
        input.upgrading
      exact orderly'.holds finished

theorem writeNextResponse_holds (orderly : session.Orderly []) (queue : session.responseQueue ≠ [])
    (idle : session.writeActive = false) (caught : session.begun = session.completed)
    (unstarted : session.outstanding.any HttpOperation.isStart = false)
    (ends : session.ended = true → session.finished = true ∨ session.pendingUpgrade.isSome = true ∨
      ∃ response ∈ session.responseQueue, response.keepAlive = false) : session.writeNextResponse.Holds := by
  have written := writeNextResponse_orderly orderly unstarted fun _ _ => caught
  obtain same | ⟨-, -, response, rest, -, same⟩ := session.writeNextResponse_cases
  · cases finished : session.finished with
    | true =>
      rw [same]
      exact orderly.holds finished
    | false =>
      have writes : session.writeNextResponse.writeActive = true := by
        unfold writeNextResponse
        rw [finished, idle]
        cases held : session.responseQueue with
        | nil => exact absurd held queue
        | cons response rest => rfl
      rw [same] at writes
      exact absurd (writes.symm.trans idle) (by decide)
  · rw [same] at written ⊢
    have ended : (session.beginWrite response).ended = session.ended := unending rfl
    refine ⟨written, fun _ impossible => (by cases impossible), fun _ _ => queue, ?_, fun _ _ => .inl rfl⟩
    rw [ended]
    exact ends

theorem responseSent_eq {response first : GameApiHttpResponse Content} {rest : List (GameApiHttpResponse Content)}
    (queue : session.responseQueue = first :: rest) (input : HttpInput Request Content) :
    session.responseSent response input =
      if !response.keepAlive then (session.popResponse response rest).finish
      else if rest.isEmpty then (session.popResponse response rest).drained input
      else (session.popResponse response rest).writeNextResponse := by
  rw [responseSent, queue]
  rfl

theorem responseSent_holds {response : GameApiHttpResponse Content} {rest : List (GameApiHttpResponse Content)}
    (orderly : session.Orderly []) (queue : session.responseQueue = response :: rest)
    (idle : session.writeActive = false) (begun : session.begun = session.completed ++ [response])
    (unstarted : session.outstanding.any HttpOperation.isStart = false)
    (gone : session.finished = true → session.readActive = false ∧ session.pendingUpgrade = none)
    (ends : session.ended = true → session.finished = true ∨ session.pendingUpgrade.isSome = true ∨
      ∃ response ∈ session.responseQueue, response.keepAlive = false)
    (input : HttpInput Request Content) : (session.responseSent response input).Holds := by
  have popped := orderly.popResponse queue idle begun fun finished _ => gone finished
  have ended : (session.popResponse response rest).ended = session.ended := unending rfl
  have completed : (session.popResponse response rest).completed = session.completed ++ [response] := logged rfl
  have unbegun : (session.popResponse response rest).begun = session.begun := unlogged rfl
  rw [responseSent_eq queue]
  split
  · next closes =>
    rw [Bool.not_eq_true'] at closes
    have hasEnded := orderly.ended_of_closing (queue ▸ List.mem_cons_self) closes
    refine popped.finish_holds fun _ => ⟨fun _ => idle, fun reads => ?_⟩
    exact absurd (reads.symm.trans (orderly.idle_of_ended hasEnded)) (by decide)
  · next keeps =>
    have remaining : session.ended = true → session.finished = true ∨ session.pendingUpgrade.isSome = true ∨
        ∃ response ∈ rest, response.keepAlive = false := by
      intro hasEnded
      refine (ends hasEnded).imp_right (Or.imp_right ?_)
      rintro ⟨other, member, closes⟩
      rw [queue, List.mem_cons] at member
      obtain rfl | member := member
      · rw [closes] at keeps
        exact absurd rfl keeps
      · exact ⟨other, member, closes⟩
    split
    · next empty =>
      rw [List.isEmpty_iff] at empty
      refine drained_holds popped empty ?_ unstarted (fun finished => (gone finished).2) input
      rw [ended]
      intro unfinished hasEnded
      obtain finished | pends | ⟨other, member, -⟩ := remaining hasEnded
      · exact absurd (finished.symm.trans unfinished) (by decide)
      · exact pends
      · rw [empty] at member
        cases member
    · next others =>
      rw [List.isEmpty_iff] at others
      refine writeNextResponse_holds popped others idle (unbegun.trans (begun.trans completed.symm)) unstarted ?_
      rw [ended]
      exact remaining

theorem responseWritten_holds (holds : session.Holds) {response : GameApiHttpResponse Content}
    (pending : session.outstanding = before ++ .write response :: after) (dispatching : session.dispatching = true)
    (completion : Completion) (input : HttpInput Request Content) :
    (responseWritten { session with outstanding := before ++ after } response completion input).Holds := by
  obtain ⟨landed, ⟨rest, queue⟩, unstarted, begun, gone⟩ := holds.orderly.landWrite pending
  unfold responseWritten
  split
  · exact responseSent_holds landed queue rfl begun unstarted (fun finished => gone finished dispatching) holds.ends
      input
  · refine landed.finish_holds fun _ => ⟨fun _ => rfl, fun _ => ⟨?_, rfl⟩⟩
    change session.responseQueue ≠ []
    rw [queue]
    exact List.cons_ne_nil _ _

theorem requestStop_graceful_holds (holds : session.Holds) (stopping : session.stopping = true) :
    (session.requestStop .graceful).Holds := by
  change HttpSession.Holds (if session.finished then session else session.call .closeSocket)
  split
  · exact holds
  · have closed : (session.call .closeSocket).Orderly [] := holds.orderly.silent rfl
    have ended : (session.call .closeSocket).ended = session.ended := unending rfl
    refine ⟨closed, holds.queued, holds.waits, ?_, fun _ running => absurd (stopping.symm.trans running) (by decide)⟩
    rw [ended]
    exact holds.ends

theorem stop_holds (holds : session.Holds) (mode : SessionStopMode) : (session.stop mode).Holds := by
  cases mode with
  | graceful =>
    change HttpSession.Holds (if session.stopping then session else
      requestStop { session with stopping := true } .graceful)
    split
    · exact holds
    · refine requestStop_graceful_holds ⟨?_, holds.queued, holds.waits, holds.ends, ?_⟩ rfl
      · exact { holds.orderly with }
      · exact fun _ impossible => by cases impossible
  | immediate =>
    have halted : Orderly [] { session with stopping := true, dispatching := false } := { holds.orderly with
      leaves := fun _ impossible => by cases impossible }
    exact halted.finish_holds fun impossible => by cases impossible

theorem perform_holds (holds : session.Holds) (dispatching : session.dispatching = true)
    (event : HttpEvent Request Content) (pending : session.outstanding = before ++ event.completes :: after) :
    (perform { session with outstanding := before ++ after } event).Holds := by
  cases event with
  | start inspection => exact start_holds holds pending inspection
  | rawHeaderBytesRead completion inspection => exact rawHeaderBytesRead_holds holds pending completion inspection
  | headerRead completion input => exact headerRead_holds holds pending dispatching completion input
  | responseWritten response completion input =>
    exact responseWritten_holds holds pending dispatching completion input

end Steps

section Settling

/-- What holds of a connection between its callbacks: it also holds no lease once it has finished, or once
nothing outstanding owns it. -/
structure Sound (session : HttpSession Request Content) : Prop extends Holds session where
  settled : session.finished = true ∨ session.outstanding = [] → session.pendingWebsocketLease = none

theorem Holds.releaseTcpLease (holds : session.Holds) : session.releaseTcpLease.Holds := by
  have released := holds.orderly.releaseTcpLease
  rw [HttpSession.releaseTcpLease] at released ⊢
  split at released
  · next owned =>
    rw [if_pos owned]
    have ended : (HttpSession.call { session with tcpLease := false } .releaseTcpLease).ended = session.ended :=
      unending rfl
    refine ⟨released, holds.queued, holds.waits, ?_, holds.lively⟩
    rw [ended]
    exact holds.ends
  · next disowned =>
    rw [if_neg disowned]
    exact holds

theorem Holds.finished_of_pending (holds : session.Holds) (empty : session.outstanding = [])
    (held : session.pendingWebsocketLease.isSome = true) : session.finished = true := by
  by_contra unfinished
  rw [Bool.not_eq_true] at unfinished
  have queue := holds.waits unfinished (holds.orderly.held held).1
  have writing := holds.orderly.writing
  rw [empty] at writing
  cases active : session.writeActive with
  | false => exact queue (holds.queued unfinished active)
  | true =>
    rw [active] at writing
    cases responses : session.responseQueue with
    | nil => exact queue responses
    | cons first rest =>
      rw [responses] at writing
      cases writing

theorem releaseTcpLease_lease : session.releaseTcpLease.pendingWebsocketLease = session.pendingWebsocketLease := by
  unfold releaseTcpLease
  split <;> rfl

theorem Holds.settle (holds : session.Holds) : session.settle.Sound := by
  unfold HttpSession.settle
  split
  · next empty =>
    rw [List.isEmpty_iff] at empty
    have released : session.releasePendingLease.Holds := by
      cases held : session.pendingWebsocketLease with
      | none =>
        have same : session.releasePendingLease = session := by rw [HttpSession.releasePendingLease, held]
        rw [same]
        exact holds
      | some lease =>
        have finished := holds.finished_of_pending empty (by rw [held]; rfl)
        have same : ({ session with finished := true } : HttpSession Request Content) = session := by rw [← finished]
        have abandoned := holds.orderly.abandon (holds.orderly.leaves finished)
        rw [same] at abandoned
        exact abandoned.holds (releasePendingLease_finished.trans finished)
    refine ⟨released.releaseTcpLease, fun _ => ?_⟩
    exact releaseTcpLease_lease.trans releasePendingLease_lease
  · next owned =>
    refine ⟨holds, fun ends => ?_⟩
    rw [List.isEmpty_iff] at owned
    cases held : session.pendingWebsocketLease with
    | none => rfl
    | some lease =>
      obtain finished | empty := ends
      · exact absurd ((holds.orderly.held (by rw [held]; rfl)).2 finished) owned
      · exact absurd empty owned

theorem Sound.step {action : HttpAction Request Content} {next : HttpSession Request Content} (sound : session.Sound)
    (step : Step session action next) : next.Sound := by
  cases step with
  | completes before after event dispatching pending =>
    exact (perform_holds sound.toHolds dispatching event pending).settle
  | stops mode dispatching alive => exact (stop_holds sound.toHolds mode).settle

theorem admitted_sound (stopping : Bool) : (admitted stopping : HttpSession Request Content).Sound := by
  have orderly : (admitted stopping : HttpSession Request Content).Orderly [] := {
    single := Nat.le_refl 1
    active := rfl
    writing := rfl
    busy := fun impossible => by cases impossible
    fresh := fun _ => rfl
    room := fun impossible => by cases impossible
    unended := fun _ => rfl
    upgrading := fun impossible => by cases impossible
    held := fun impossible => by cases impossible
    leaves := fun impossible => by cases impossible
    routes := rfl
    writes := .inr rfl
    whole := rfl
    readsFirst := List.Pairwise.nil
    upgradesLast := fun before request upgrade after split => by simp [admitted] at split
    accounted := .refl _
    once := Nat.zero_le _
    untaken := fun _ => rfl }
  exact ⟨⟨orderly, fun _ _ => rfl, fun _ impossible => (by cases impossible), fun impossible => (by cases impossible),
    fun _ _ => .inr rfl⟩, fun _ => rfl⟩

end Settling

end BlobRoyale.Server.HttpSession
