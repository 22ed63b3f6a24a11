import BlobRoyale.Server.HttpSession

/-!
# What an HTTP connection keeps

The invariant of a connection, between and within its callbacks: its flags match what it has outstanding,
its log orders the responses, and a lease it took is in exactly one place.
-/

namespace BlobRoyale.Server

variable {Request Content : Type}

namespace HttpOperation

def isStart : HttpOperation Content → Bool
  | start => true
  | rawRead | headerRead | write _ => false

def readsRequest : HttpOperation Content → Bool
  | rawRead | headerRead => true
  | start | write _ => false

/-- Whether an operation leads to the next request. -/
def reads (operation : HttpOperation Content) : Bool := operation.isStart || operation.readsRequest

def written : HttpOperation Content → Option (GameApiHttpResponse Content)
  | write response => some response
  | start | rawRead | headerRead => none

end HttpOperation

namespace HttpCall

def enqueued : HttpCall Request Content → Option (GameApiHttpResponse Content)
  | enqueue response => some response
  | _ => none

def begun : HttpCall Request Content → Option (GameApiHttpResponse Content)
  | writeResponse response => some response
  | _ => none

def completed : HttpCall Request Content → Option (GameApiHttpResponse Content)
  | completeResponse response => some response
  | _ => none

def taken : HttpCall Request Content → Option WebSocketAdmissionLease
  | takeLease lease => some lease
  | _ => none

def handed : HttpCall Request Content → Option WebSocketAdmissionLease
  | handLease lease => some lease
  | _ => none

def released : HttpCall Request Content → Option WebSocketAdmissionLease
  | releaseLease lease => some lease
  | _ => none

/-- An accepted upgrade, or a response that closes the connection. -/
def endsReading : HttpCall Request Content → Bool
  | takeLease _ => true
  | enqueue response => !response.keepAlive
  | _ => false

def reads : HttpCall Request Content → Bool
  | beginRequest | readSome | readHeader => true
  | _ => false

def faults : HttpCall Request Content → Bool
  | overflow | undefined => true
  | _ => false

def upgrades : HttpCall Request Content → Bool
  | beginUpgrade .. => true
  | _ => false

/-- Calls that concern neither a response, a lease nor a read. -/
def silent : HttpCall Request Content → Bool
  | route _ | closeSocket | releaseTcpLease | unregister | fail => true
  | _ => false

end HttpCall

namespace HttpSession

section Logs

variable (session : HttpSession Request Content)

def routed : List (GameApiHttpResponse Content) := session.transcript.filterMap HttpCall.enqueued
def begun : List (GameApiHttpResponse Content) := session.transcript.filterMap HttpCall.begun
def completed : List (GameApiHttpResponse Content) := session.transcript.filterMap HttpCall.completed
def taken : List WebSocketAdmissionLease := session.transcript.filterMap HttpCall.taken
def handed : List WebSocketAdmissionLease := session.transcript.filterMap HttpCall.handed
def released : List WebSocketAdmissionLease := session.transcript.filterMap HttpCall.released
def ended : Bool := session.transcript.any HttpCall.endsReading

/-- An operation that leads to the next request is outstanding. -/
def awaitsRequest : Bool := session.outstanding.any HttpOperation.reads

variable {session} {made : HttpCall Request Content}

@[simp] theorem routed_call : (session.call made).routed = session.routed ++ made.enqueued.toList := by
  cases enqueues : made.enqueued <;> simp [routed, call, enqueues]

@[simp] theorem begun_call : (session.call made).begun = session.begun ++ made.begun.toList := by
  cases begins : made.begun <;> simp [begun, call, begins]

@[simp] theorem completed_call : (session.call made).completed = session.completed ++ made.completed.toList := by
  cases completes : made.completed <;> simp [completed, call, completes]

@[simp] theorem taken_call : (session.call made).taken = session.taken ++ made.taken.toList := by
  cases takes : made.taken <;> simp [taken, call, takes]

@[simp] theorem handed_call : (session.call made).handed = session.handed ++ made.handed.toList := by
  cases hands : made.handed <;> simp [handed, call, hands]

@[simp] theorem released_call : (session.call made).released = session.released ++ made.released.toList := by
  cases releases : made.released <;> simp [released, call, releases]

@[simp] theorem ended_call : (session.call made).ended = (session.ended || made.endsReading) := by
  simp [ended, call]

end Logs

/-- Every upgrade in a log follows the completion of every response enqueued before it. -/
def UpgradesLast (transcript : List (HttpCall Request Content)) : Prop :=
  ∀ before request upgrade after, transcript = before ++ .beginUpgrade request upgrade :: after →
    before.filterMap HttpCall.completed = before.filterMap HttpCall.enqueued

theorem UpgradesLast.concat {transcript : List (HttpCall Request Content)} {made : HttpCall Request Content}
    (last : UpgradesLast transcript) (whole : made.upgrades = true →
      transcript.filterMap HttpCall.completed = transcript.filterMap HttpCall.enqueued) :
    UpgradesLast (transcript ++ [made]) := by
  intro before request upgrade after split
  rcases List.eq_nil_or_concat after with rfl | ⟨front, final, rfl⟩
  · obtain ⟨rfl, same⟩ := List.append_inj' split rfl
    obtain ⟨rfl, -⟩ := List.cons.inj same
    exact whole rfl
  · have split' : transcript ++ [made] = (before ++ .beginUpgrade request upgrade :: front) ++ [final] := by
      rw [split]
      simp
    obtain ⟨rfl, -⟩ := List.append_inj' split' rfl
    exact last before request upgrade front rfl

def ReadsFirst (transcript : List (HttpCall Request Content)) : Prop :=
  transcript.Pairwise fun earlier later => earlier.endsReading = true → later.reads = false

theorem ReadsFirst.concat {transcript : List (HttpCall Request Content)} {made : HttpCall Request Content}
    (first : ReadsFirst transcript)
    (unended : made.reads = true → transcript.any HttpCall.endsReading = false) :
    ReadsFirst (transcript ++ [made]) := by
  refine List.pairwise_append.mpr ⟨first, List.pairwise_singleton .., fun earlier member later last ends => ?_⟩
  rw [List.mem_singleton.mp last]
  by_contra reads
  have none := unended ((Bool.not_eq_false _).mp reads)
  rw [List.any_eq_false] at none
  exact none earlier member ends

/-- What a finished connection has left while its handlers are still dispatched. -/
def Leaves (session : HttpSession Request Content) : Prop :=
  session.dispatching = true → (session.pendingUpgrade.isSome = true → session.writeActive = false) ∧
    (session.readActive = true → session.responseQueue ≠ [] ∧ session.writeActive = false)

/-- The invariant, with the leases a callback has in hand. -/
structure Orderly (inHand : List WebSocketAdmissionLease) (session : HttpSession Request Content) : Prop where
  single : session.outstanding.countP HttpOperation.reads ≤ 1
  active : session.outstanding.any HttpOperation.readsRequest = session.readActive
  writing : session.outstanding.filterMap HttpOperation.written =
    if session.writeActive then session.responseQueue.take 1 else []
  busy : session.writeActive = true → session.responseQueue ≠ []
  fresh : session.outstanding.any HttpOperation.isStart = true → session.writeActive = false
  room : session.readActive = true →
    session.responseQueue.length < pipelinedResponseMaximumCount ∧ session.parser = true
  unended : session.awaitsRequest = true → session.ended = false
  upgrading : session.pendingUpgrade.isSome = true → session.ended = true ∧
    (session.finished = false → session.pendingWebsocketLease.isSome = true)
  held : session.pendingWebsocketLease.isSome = true → session.pendingUpgrade.isSome = true ∧
    (session.finished = true → session.outstanding = [])
  leaves : session.finished = true → session.Leaves
  routes : session.routed = session.completed ++ session.responseQueue
  writes : session.begun = session.completed ∧ session.writeActive = false ∨
    session.begun = session.completed ++ session.responseQueue.take 1
  whole : session.transcript.any HttpCall.faults = false
  readsFirst : ReadsFirst session.transcript
  upgradesLast : UpgradesLast session.transcript
  accounted : (inHand ++ session.pendingWebsocketLease.toList ++ session.handed ++ session.released).Perm session.taken
  once : session.taken.length ≤ 1
  untaken : session.ended = false → session.taken = []

variable {session : HttpSession Request Content} {inHand : List WebSocketAdmissionLease}

/-- A call about no response, which takes no lease and ends nothing. -/
structure Plain (made : HttpCall Request Content) : Prop where
  enqueued : made.enqueued = none
  begun : made.begun = none
  completed : made.completed = none
  taken : made.taken = none
  ends : made.endsReading = false
  faults : made.faults = false

theorem Orderly.call_plain {made : HttpCall Request Content} {left : List WebSocketAdmissionLease}
    (orderly : session.Orderly inHand) (plain : Plain made) (first : made.reads = true → session.ended = false)
    (last : made.upgrades = true → session.completed = session.routed)
    (accounted : (left ++ session.pendingWebsocketLease.toList ++ (session.handed ++ made.handed.toList) ++
      (session.released ++ made.released.toList)).Perm session.taken) : (session.call made).Orderly left := by
  have routed : (session.call made).routed = session.routed := by simp [plain.enqueued]
  have begun : (session.call made).begun = session.begun := by simp [plain.begun]
  have completed : (session.call made).completed = session.completed := by simp [plain.completed]
  have taken : (session.call made).taken = session.taken := by simp [plain.taken]
  have ended : (session.call made).ended = session.ended := by simp [plain.ends]
  have logged : (session.call made).transcript = session.transcript ++ [made] := rfl
  refine { orderly with
    unended := by rw [ended]; exact orderly.unended
    upgrading := by rw [ended]; exact orderly.upgrading
    routes := by rw [routed, completed]; exact orderly.routes
    writes := by rw [begun, completed]; exact orderly.writes
    whole := ?_
    readsFirst := orderly.readsFirst.concat first
    upgradesLast := orderly.upgradesLast.concat last
    accounted := by rw [handed_call, released_call, taken]; exact accounted
    once := by rw [taken]; exact orderly.once
    untaken := by rw [ended, taken]; exact orderly.untaken }
  rw [logged, List.any_append, orderly.whole, List.any_cons, plain.faults]
  rfl

theorem Orderly.call {made : HttpCall Request Content} (orderly : session.Orderly inHand) (plain : Plain made)
    (still : made.handed = none ∧ made.released = none ∧ made.upgrades = false)
    (first : made.reads = true → session.ended = false) : (session.call made).Orderly inHand := by
  refine orderly.call_plain plain first (fun upgrades => absurd (upgrades.symm.trans still.2.2) (by decide)) ?_
  rw [still.1, still.2.1, Option.toList_none, List.append_nil, List.append_nil]
  exact orderly.accounted

theorem Orderly.silent {made : HttpCall Request Content} (orderly : session.Orderly inHand)
    (silent : made.silent = true) : (session.call made).Orderly inHand := by
  cases made <;> cases silent <;>
    exact orderly.call ⟨rfl, rfl, rfl, rfl, rfl, rfl⟩ ⟨rfl, rfl, rfl⟩ fun impossible => by cases impossible

section Leases

variable {lease : WebSocketAdmissionLease}

theorem Orderly.release (orderly : session.Orderly (lease :: inHand)) :
    (session.call (.releaseLease lease)).Orderly inHand := by
  refine orderly.call_plain ⟨rfl, rfl, rfl, rfl, rfl, rfl⟩ (fun impossible => by cases impossible)
    (fun impossible => by cases impossible) (List.Perm.trans ?_ orderly.accounted)
  simp only [HttpCall.handed, HttpCall.released, Option.toList_none, Option.toList_some, List.append_nil]
  rw [← List.append_assoc]
  exact List.perm_append_singleton _ _

theorem Orderly.hand (orderly : session.Orderly (lease :: inHand)) :
    (session.call (.handLease lease)).Orderly inHand := by
  refine orderly.call_plain ⟨rfl, rfl, rfl, rfl, rfl, rfl⟩ (fun impossible => by cases impossible)
    (fun impossible => by cases impossible) (List.Perm.trans ?_ orderly.accounted)
  have middle : ((inHand ++ session.pendingWebsocketLease.toList ++ session.handed) ++ lease :: session.released).Perm
      (lease :: ((inHand ++ session.pendingWebsocketLease.toList ++ session.handed) ++ session.released)) :=
    List.perm_middle
  simpa only [HttpCall.handed, HttpCall.released, Option.toList_none, Option.toList_some, List.append_nil,
    List.append_assoc, List.cons_append, List.nil_append] using middle

theorem Orderly.upgrade (orderly : session.Orderly inHand) (drained : session.responseQueue = []) {request : Request}
    {upgrade : GameApiUpgrade} : (session.call (.beginUpgrade request upgrade)).Orderly inHand := by
  refine orderly.call_plain ⟨rfl, rfl, rfl, rfl, rfl, rfl⟩ (fun impossible => by cases impossible) (fun _ => ?_) ?_
  · rw [orderly.routes, drained, List.append_nil]
  · simp only [HttpCall.handed, HttpCall.released, Option.toList_none, List.append_nil]
    exact orderly.accounted

theorem Orderly.finishes (orderly : session.Orderly inHand) (leaves : session.Leaves)
    (unheld : session.pendingWebsocketLease = none) : Orderly inHand { session with finished := true } :=
  { orderly with
    upgrading := fun pending => ⟨(orderly.upgrading pending).1, fun impossible => by cases impossible⟩
    held := fun held => by rw [unheld] at held; cases held
    leaves := fun _ => leaves }

theorem Orderly.abandon (orderly : session.Orderly inHand) (leaves : session.Leaves) :
    (HttpSession.releasePendingLease { session with finished := true }).Orderly inHand := by
  unfold HttpSession.releasePendingLease
  split
  · next absent => exact orderly.finishes leaves absent
  · next lease held =>
    have accounted : (lease :: inHand ++ (none : Option WebSocketAdmissionLease).toList ++ session.handed ++
        session.released).Perm session.taken := by
      refine List.Perm.trans ?_ orderly.accounted
      have same : session.pendingWebsocketLease = some lease := held
      rw [same]
      simp only [Option.toList_none, List.append_nil, Option.toList_some, List.cons_append, List.append_assoc]
      exact List.perm_middle.symm
    have taken : ({ session with finished := true, pendingWebsocketLease := none } :
        HttpSession Request Content).Orderly (lease :: inHand) := { orderly with
      upgrading := fun pending => ⟨(orderly.upgrading pending).1, fun impossible => by cases impossible⟩
      held := fun impossible => by cases impossible
      leaves := fun _ => leaves
      accounted := accounted }
    exact taken.release

theorem releasePendingLease_lease : session.releasePendingLease.pendingWebsocketLease = none := by
  unfold HttpSession.releasePendingLease
  split
  · next absent => exact absent
  · rfl

end Leases

section Finishing

theorem Orderly.releaseTcpLease (orderly : session.Orderly inHand) : session.releaseTcpLease.Orderly inHand := by
  unfold HttpSession.releaseTcpLease
  split
  · have released : ({ session with tcpLease := false } : HttpSession Request Content).Orderly inHand := { orderly with }
    exact released.silent rfl
  · exact orderly

theorem Orderly.unregister (orderly : session.Orderly inHand) : session.unregister.Orderly inHand := by
  unfold HttpSession.unregister
  split
  · have gone : ({ session with registered := false } : HttpSession Request Content).Orderly inHand := { orderly with }
    exact gone.silent rfl
  · exact orderly

theorem Orderly.finish (orderly : session.Orderly inHand) (leaves : session.Leaves) :
    session.finish.Orderly inHand := by
  unfold HttpSession.finish
  split
  · exact orderly
  · next unfinished =>
    have closed : (HttpSession.call (HttpSession.releasePendingLease { session with finished := true })
        .closeSocket).Orderly inHand := (orderly.abandon leaves).silent rfl
    exact closed.releaseTcpLease.unregister

end Finishing

section Finished

theorem unregister_finished : session.unregister.finished = session.finished := by
  unfold HttpSession.unregister
  split <;> rfl

theorem releaseTcpLease_finished : session.releaseTcpLease.finished = session.finished := by
  unfold HttpSession.releaseTcpLease
  split <;> rfl

theorem releasePendingLease_finished : session.releasePendingLease.finished = session.finished := by
  unfold HttpSession.releasePendingLease
  split <;> rfl

theorem finish_finished : session.finish.finished = true := by
  unfold HttpSession.finish
  split
  · next finished => exact finished
  · rw [unregister_finished, releaseTcpLease_finished]
    exact releasePendingLease_finished

end Finished

section Reading

/-- A connection that reads nothing and may read its next request. -/
structure Ready (session : HttpSession Request Content) : Prop where
  idle : session.readActive = false
  unawaited : session.awaitsRequest = false
  unended : session.ended = false
  room : session.responseQueue.length < pipelinedResponseMaximumCount
  leaves : session.finished = true → session.dispatching = true →
    session.responseQueue ≠ [] ∧ session.writeActive = false

theorem Orderly.unpending (orderly : session.Orderly inHand) (unended : session.ended = false) :
    session.pendingUpgrade = none := by
  cases pending : session.pendingUpgrade with
  | none => rfl
  | some upgrade =>
    have ended := (orderly.upgrading (by rw [pending]; rfl)).1
    exact absurd (ended.symm.trans unended) (by decide)

theorem Ready.leaves' (ready : session.Ready) (orderly : session.Orderly inHand) : session.Leaves := by
  intro _
  refine ⟨fun pending => ?_, fun active => absurd (active.symm.trans ready.idle) (by decide)⟩
  rw [orderly.unpending ready.unended] at pending
  cases pending

theorem Orderly.startRead (orderly : session.Orderly inHand) (ready : session.Ready)
    (parser : session.parser = true) {operation : HttpOperation Content} (reads : operation.readsRequest = true) :
    (HttpSession.start { session with readActive := true } operation).Orderly inHand := by
  have leads : operation.reads = true := by rw [HttpOperation.reads, reads, Bool.or_true]
  have unwritten : operation.written = none := by cases operation <;> first | rfl | cases reads
  have unstarted : operation.isStart = false := by cases operation <;> first | rfl | cases reads
  have none : session.outstanding.countP HttpOperation.reads = 0 := by
    rw [List.countP_eq_zero]
    intro pending member
    exact List.any_eq_false.mp ready.unawaited pending member
  refine { orderly with
    single := ?_, active := ?_, writing := ?_, fresh := ?_, room := fun _ => ⟨ready.room, parser⟩
    unended := fun _ => ready.unended, held := ?_, leaves := ?_ }
  · rw [start, List.countP_append, none, List.countP_singleton, leads]
    exact Nat.le_refl 1
  · rw [start, List.any_append, List.any_cons, reads]
    simp
  · rw [start, List.filterMap_append, List.filterMap_cons, unwritten, List.filterMap_nil, List.append_nil]
    exact orderly.writing
  · rw [start, List.any_append, List.any_cons, unstarted, List.any_nil, Bool.or_false, Bool.or_false]
    exact orderly.fresh
  · intro held
    have pending := (orderly.held held).1
    have absent := orderly.unpending ready.unended
    rw [absent] at pending
    cases pending
  · intro finished dispatching
    refine ⟨fun pending => ?_, fun _ => ready.leaves finished dispatching⟩
    rw [orderly.unpending ready.unended] at pending
    cases pending

/-- What a connection that is neither finished nor stopping still waits for. -/
def Lively (session : HttpSession Request Content) : Prop :=
  session.finished = false → session.stopping = false → session.writeActive = true ∨ session.awaitsRequest = true

theorem lively_of_finished (finished : session.finished = true) : session.Lively := fun unfinished =>
  absurd (finished.symm.trans unfinished) (by decide)

theorem Ready.call {made : HttpCall Request Content} (ready : session.Ready) (unending : made.endsReading = false) :
    (session.call made).Ready := by
  refine ⟨ready.idle, ready.unawaited, ?_, ready.room, ready.leaves⟩
  rw [ended_call, ready.unended, unending]
  rfl

theorem startRead_orderly (active : session.readActive = true) (parser : session.parser = true)
    (orderly : Orderly inHand { session with readActive := false })
    (ready : Ready { session with readActive := false }) {made : HttpCall Request Content}
    {operation : HttpOperation Content} (plain : Plain made)
    (still : made.handed = none ∧ made.released = none ∧ made.upgrades = false)
    (reads : operation.readsRequest = true) :
    ((session.call made).start operation).Orderly inHand ∧ ((session.call made).start operation).Lively := by
  have called := orderly.call plain still fun _ => ready.unended
  have same : ({ session with readActive := true } : HttpSession Request Content) = session := by
    rw [← active]
  have started : (start (HttpSession.call { session with readActive := true } made) operation).Orderly inHand :=
    called.startRead (ready.call plain.ends) parser reads
  rw [same] at started
  refine ⟨started, fun _ _ => .inr ?_⟩
  rw [awaitsRequest, start, List.any_append, List.any_cons, HttpOperation.reads, reads]
  simp

theorem preflightHeader_orderly (active : session.readActive = true) (parser : session.parser = true)
    (orderly : Orderly inHand { session with readActive := false })
    (ready : Ready { session with readActive := false }) (inspection : HeaderInspection) :
    (session.preflightHeader inspection).Orderly inHand ∧ (session.preflightHeader inspection).Lively := by
  have finishes : (finish { session with readActive := false }).Orderly inHand ∧
      (finish { session with readActive := false }).Lively :=
    ⟨orderly.finish (ready.leaves' orderly), lively_of_finished finish_finished⟩
  unfold preflightHeader
  split
  · exact startRead_orderly active parser orderly ready ⟨rfl, rfl, rfl, rfl, rfl, rfl⟩ ⟨rfl, rfl, rfl⟩ rfl
  · exact finishes
  · exact finishes
  · split
    · exact finishes
    · exact startRead_orderly active parser orderly ready ⟨rfl, rfl, rfl, rfl, rfl, rfl⟩ ⟨rfl, rfl, rfl⟩ rfl

theorem readNextRequest_orderly (orderly : session.Orderly inHand) (unended : session.ended = false)
    (between : session.readActive = false → session.awaitsRequest = false)
    (queued : session.finished = false → session.writeActive = false → session.responseQueue = [])
    (inspection : HeaderInspection) :
    (session.readNextRequest inspection).Orderly inHand ∧ (session.readNextRequest inspection).Lively := by
  unfold readNextRequest
  split
  · next held =>
    refine ⟨orderly, fun unfinished running => ?_⟩
    simp only [unfinished, running, orderly.unpending unended, Bool.false_or, Bool.or_false, Option.isSome_none,
      Bool.or_eq_true, decide_eq_true_eq] at held
    obtain active | full := held
    · refine .inr ?_
      rw [← orderly.active, List.any_eq_true] at active
      obtain ⟨pending, member, reads⟩ := active
      refine List.any_eq_true.mpr ⟨pending, member, ?_⟩
      rw [HttpOperation.reads, reads, Bool.or_true]
    · by_contra neither
      simp only [not_or, Bool.not_eq_true] at neither
      rw [queued unfinished neither.1] at full
      exact absurd full (Nat.not_le_of_lt (Nat.zero_lt_succ 7))
  · next free =>
    simp only [Bool.or_eq_true, decide_eq_true_eq, not_or, Bool.not_eq_true, not_le] at free
    obtain ⟨⟨⟨⟨unfinished, idle⟩, -⟩, -⟩, room⟩ := free
    have parsing : Orderly inHand { session with parser := true, readActive := false } := { orderly with
      active := by rw [← idle]; exact orderly.active
      room := fun impossible => by cases impossible
      leaves := fun finished => absurd (finished.symm.trans unfinished) (by decide) }
    have begins : (HttpSession.call { session with parser := true, readActive := false } .beginRequest).Orderly
        inHand := parsing.call ⟨rfl, rfl, rfl, rfl, rfl, rfl⟩ ⟨rfl, rfl, rfl⟩ fun _ => unended
    have ready : Ready { session with parser := true, readActive := false } :=
      ⟨rfl, between idle, unended, room, fun finished => absurd (finished.symm.trans unfinished) (by decide)⟩
    have ready' : Ready (HttpSession.call { session with parser := true, readActive := false } .beginRequest) :=
      ready.call rfl
    exact preflightHeader_orderly rfl rfl begins ready' inspection

end Reading

section Writing

theorem unlogged {Value : Type} {record : HttpCall Request Content → Option Value} {made : HttpCall Request Content}
    (unrecorded : record made = none) :
    (session.transcript ++ [made]).filterMap record = session.transcript.filterMap record := by
  rw [List.filterMap_append, List.filterMap_cons, unrecorded, List.filterMap_nil, List.append_nil]

theorem logged {Value : Type} {record : HttpCall Request Content → Option Value} {made : HttpCall Request Content}
    {value : Value} (recorded : record made = some value) :
    (session.transcript ++ [made]).filterMap record = session.transcript.filterMap record ++ [value] := by
  rw [List.filterMap_append, List.filterMap_cons, recorded, List.filterMap_nil]

theorem Orderly.faultless (orderly : session.Orderly inHand) {made : HttpCall Request Content}
    (faultless : made.faults = false) : (session.transcript ++ [made]).any HttpCall.faults = false := by
  rw [List.any_append, orderly.whole, List.any_cons, faultless]
  rfl

theorem unending {made : HttpCall Request Content} (unending : made.endsReading = false) :
    (session.transcript ++ [made]).any HttpCall.endsReading = session.ended := by
  rw [List.any_append, List.any_cons, unending, List.any_nil, Bool.or_false, Bool.or_false]
  rfl

def beginWrite (session : HttpSession Request Content) (response : GameApiHttpResponse Content) :
    HttpSession Request Content :=
  (call { session with writeActive := true } (.writeResponse response)).start (.write response)

theorem writeNextResponse_cases : session.writeNextResponse = session ∨
    session.finished = false ∧ session.writeActive = false ∧ ∃ response rest,
      session.responseQueue = response :: rest ∧ session.writeNextResponse = session.beginWrite response := by
  unfold writeNextResponse
  split
  · exact .inl rfl
  · next free =>
    simp only [Bool.or_eq_true, not_or, Bool.not_eq_true] at free
    split
    · exact .inl rfl
    · next response rest queue => exact .inr ⟨free.1, free.2, response, rest, queue, rfl⟩

theorem Orderly.beginWrite (orderly : session.Orderly inHand) {response : GameApiHttpResponse Content}
    {rest : List (GameApiHttpResponse Content)} (queue : session.responseQueue = response :: rest)
    (unfinished : session.finished = false) (idle : session.writeActive = false)
    (unstarted : session.outstanding.any HttpOperation.isStart = false)
    (caught : session.begun = session.completed) : (session.beginWrite response).Orderly inHand := by
  have routed : (session.beginWrite response).routed = session.routed := unlogged rfl
  have begun : (session.beginWrite response).begun = session.begun ++ [response] := logged rfl
  have completed : (session.beginWrite response).completed = session.completed := unlogged rfl
  have ended : (session.beginWrite response).ended = session.ended := unending rfl
  have taken : (session.beginWrite response).taken = session.taken := unlogged rfl
  have handed : (session.beginWrite response).handed = session.handed := unlogged rfl
  have released : (session.beginWrite response).released = session.released := unlogged rfl
  have outstanding : (session.beginWrite response).outstanding = session.outstanding ++ [.write response] := rfl
  have unwritten : session.outstanding.filterMap HttpOperation.written = [] := by
    rw [orderly.writing, idle]
    rfl
  have finishes : ¬session.finished = true := by
    rw [unfinished]
    exact Bool.false_ne_true
  refine { orderly with
    single := ?_, active := ?_, writing := ?_, busy := ?_, fresh := ?_, unended := ?_, upgrading := ?_, held := ?_
    leaves := fun finished => absurd finished finishes, routes := ?_, writes := .inr ?_
    whole := orderly.faultless rfl, readsFirst := orderly.readsFirst.concat fun impossible => by cases impossible
    upgradesLast := orderly.upgradesLast.concat fun impossible => by cases impossible
    accounted := ?_, once := ?_, untaken := ?_ }
  · rw [outstanding, List.countP_append]
    exact orderly.single
  · rw [outstanding, List.any_append, List.any_cons]
    exact (Bool.or_false _).trans orderly.active
  · rw [outstanding, List.filterMap_append, unwritten]
    change [response] = session.responseQueue.take 1
    rw [queue]
    rfl
  · intro _
    change session.responseQueue ≠ []
    rw [queue]
    exact List.cons_ne_nil _ _
  · rw [outstanding, List.any_append, unstarted]
    intro impossible
    cases impossible
  · intro awaits
    rw [ended]
    refine orderly.unended ?_
    rw [awaitsRequest, outstanding, List.any_append] at awaits
    exact (Bool.or_false _).symm.trans awaits
  · rw [ended]
    exact orderly.upgrading
  · exact fun lease => ⟨(orderly.held lease).1, fun finished => absurd finished finishes⟩
  · rw [routed, completed]
    exact orderly.routes
  · rw [begun, completed, caught]
    change session.completed ++ [response] = session.completed ++ session.responseQueue.take 1
    rw [queue]
    rfl
  · rw [handed, released, taken]
    exact orderly.accounted
  · rw [taken]
    exact orderly.once
  · rw [ended, taken]
    exact orderly.untaken

theorem writeNextResponse_orderly (orderly : session.Orderly inHand)
    (unstarted : session.outstanding.any HttpOperation.isStart = false)
    (caught : session.finished = false → session.writeActive = false → session.begun = session.completed) :
    session.writeNextResponse.Orderly inHand := by
  obtain same | ⟨unfinished, idle, response, rest, queue, same⟩ := session.writeNextResponse_cases
  · rw [same]
    exact orderly
  · rw [same]
    exact orderly.beginWrite queue unfinished idle unstarted (caught unfinished idle)

end Writing

end HttpSession

end BlobRoyale.Server
