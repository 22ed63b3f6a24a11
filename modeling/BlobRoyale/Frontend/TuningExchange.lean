import BlobRoyale.Frontend.SimulationApi

/-!
# A session's tuning exchange

What the log of a session says of the tuning requests of each socket, and what its own state adds: a request
is pending only on the socket the session holds. The operations on that state keep both.
-/

namespace BlobRoyale.Frontend

variable {Number Authority Frame : Type}

section Exchange

inductive TuningEntry where
  | requested (id : Nat)
  | resolved (id : Nat) (result : SessionTuningResult)
  | unknown (id : Nat)
  deriving DecidableEq

/-- An exchange so far, with the request it has pending: ids increase, one request is pending at a time, and
it leaves once, with a result of its own id or unknown. -/
inductive Exchange : Option Nat → List TuningEntry → Prop where
  | nothing : Exchange none []
  | requested {entries : List TuningEntry} {id : Nat} (before : Exchange none entries)
      (increases : ∀ earlier, .requested earlier ∈ entries → earlier < id) :
      Exchange (some id) (entries ++ [.requested id])
  | resolved {entries : List TuningEntry} {id : Nat} {result : SessionTuningResult}
      (before : Exchange (some id) entries) (own : result.tuningRequestId = id) :
      Exchange none (entries ++ [.resolved id result])
  | unknown {entries : List TuningEntry} {id : Nat} (before : Exchange (some id) entries) :
      Exchange none (entries ++ [.unknown id])

def SessionEntry.tuning (socket : Nat) : SessionEntry Number Authority → Option TuningEntry
  | .requested asked id => if asked = socket then some (.requested id) else none
  | .resolved asked id result => if asked = socket then some (.resolved id result) else none
  | .unknown asked id => if asked = socket then some (.unknown id) else none
  | .opened _ | .released _ | .fired .. => none

def exchange (socket : Nat) (log : List (SessionEntry Number Authority)) : List TuningEntry :=
  log.filterMap (SessionEntry.tuning socket)

@[simp] theorem exchange_concat (socket : Nat) (log : List (SessionEntry Number Authority))
    (entry : SessionEntry Number Authority) :
    exchange socket (log ++ [entry]) = exchange socket log ++ (entry.tuning socket).toList := by
  cases tuned : entry.tuning socket <;> simp [exchange, tuned]

theorem mem_exchange_requested {socket id : Nat} {log : List (SessionEntry Number Authority)} :
    .requested id ∈ exchange socket log ↔ .requested socket id ∈ log := by
  simp only [exchange, List.mem_filterMap]
  constructor
  · rintro ⟨entry, listed, tuned⟩
    cases entry <;> simp only [SessionEntry.tuning, reduceCtorEq] at tuned
    all_goals split at tuned <;> cases tuned
    subst_vars
    exact listed
  · intro listed
    exact ⟨_, listed, if_pos rfl⟩

end Exchange

section Histories

/-- The last request is the one this result answers. -/
def Answers (id : Nat) (result : SessionTuningResult) (log : List (SessionEntry Number Authority)) : Prop :=
  ∃ socket before after, log = before ++ .resolved socket id result :: after ∧
    ∀ later asked, .requested later asked ∉ after

/-- What each entry may rest on: a request is resolved on a socket not yet released and unknown on one
released, and a resolved state is published before any later request. -/
def SessionEntry.Admissible (before : List (SessionEntry Number Authority)) : SessionEntry Number Authority → Prop
  | .resolved socket _ _ => .released socket ∉ before
  | .unknown socket _ => .released socket ∈ before
  | .fired _ (.movementTuningState (.resolved _ request result)) => Answers request.tuningRequestId result before
  | .opened _ | .released _ | .requested .. | .fired .. => True

def Ordered (log : List (SessionEntry Number Authority)) : Prop :=
  ∀ before entry after, log = before ++ entry :: after → entry.Admissible before

theorem Ordered.concat {log : List (SessionEntry Number Authority)} {entry : SessionEntry Number Authority}
    (ordered : Ordered log) (admissible : entry.Admissible log) : Ordered (log ++ [entry]) := by
  intro before other after split
  rcases List.eq_nil_or_concat after with rfl | ⟨after, last, rfl⟩
  · obtain ⟨rfl, rest⟩ := List.append_inj' split rfl
    cases rest
    exact admissible
  · rw [List.concat_eq_append, ← List.cons_append, ← List.append_assoc] at split
    exact ordered _ _ _ (List.append_inj' split rfl).1

theorem Answers.concat {id : Nat} {result : SessionTuningResult} {log : List (SessionEntry Number Authority)}
    {entry : SessionEntry Number Authority} (answers : Answers id result log)
    (other : ∀ socket asked, entry ≠ .requested socket asked) : Answers id result (log ++ [entry]) := by
  obtain ⟨socket, before, after, rfl, unasked⟩ := answers
  refine ⟨socket, before, after ++ [entry], by simp, fun later asked listed => ?_⟩
  rcases List.mem_append.mp listed with listed | listed
  · exact unasked later asked listed
  · exact other later asked (List.mem_singleton.mp listed).symm

def SessionEntry.socket? : SessionEntry Number Authority → Option Nat
  | .opened socket | .released socket | .requested socket _ | .resolved socket _ _ | .unknown socket _ => some socket
  | .fired .. => none

end Histories

namespace ClientState

def held (state : ClientState Number Authority) : Option Nat := state.api.socket.map SessionSocket.identity

/-- The id of the request that is pending, which the session has for the socket it holds only. -/
def pendingOn (state : ClientState Number Authority) (socket : Nat) : Option Nat :=
  if state.held = some socket then
    (pendingRequest state.api.movementTuningState).map fun request => request.tuningRequestId
  else none

/-- What a session's state and log tell of its exchanges. -/
structure Settled (state : ClientState Number Authority) : Prop where
  exchanges : ∀ socket, Exchange (state.pendingOn socket) (exchange socket state.log)
  ordered : Ordered state.log
  free : state.held = none → pendingRequest state.api.movementTuningState = none
  unreleased : ∀ socket, state.held = some socket → .released socket ∉ state.log

structure Invariant (state : ClientState Number Authority) : Prop extends Settled state where
  numbered : ∀ entry ∈ state.log, ∀ socket ∈ entry.socket?, socket < state.api.nextSocket
  heldNumbered : ∀ socket, state.held = some socket → socket < state.api.nextSocket
  highWater : ∀ socket id, state.held = some socket → .requested socket id ∈ state.log →
    id ≤ state.api.tuningRequestHighWater
  answers : ∀ object request result, state.api.movementTuningState = .resolved object request result →
    Answers request.tuningRequestId result state.log
  called : ∀ socket, state.held = some socket → state.api.sessionCallbacks.isSome

theorem initial_invariant : Invariant (initial : ClientState Number Authority) where
  exchanges socket := .nothing
  ordered before entry after split := by simp [initial] at split
  free _ := rfl
  unreleased socket held := by cases held
  numbered entry listed := by cases listed
  heldNumbered socket held := by cases held
  highWater socket id held := by cases held
  answers object request result resolved := by cases resolved
  called socket held := by cases held

variable {state after : ClientState Number Authority}

@[simp] theorem record_api (entry : SessionEntry Number Authority) : (state.record entry).api = state.api := rfl

@[simp] theorem record_log (entry : SessionEntry Number Authority) :
    (state.record entry).log = state.log ++ [entry] := rfl

@[simp] theorem record_held (entry : SessionEntry Number Authority) : (state.record entry).held = state.held := rfl

@[simp] theorem record_pendingOn (entry : SessionEntry Number Authority) (socket : Nat) :
    (state.record entry).pendingOn socket = state.pendingOn socket := rfl

@[simp] theorem fire_api (callbacks : Nat) (callback : SessionCallback Number Authority)
    (following : Continuation Number) : (state.fire callbacks callback following).api = state.api := rfl

@[simp] theorem conclude_api (following : Continuation Number) : (state.conclude following).api = state.api := by
  cases following with
  | disconnecting callbacks disconnection => cases callbacks <;> rfl
  | _ => rfl

theorem mem_conclude_log {entry : SessionEntry Number Authority} (listed : entry ∈ state.log)
    (following : Continuation Number) : entry ∈ (state.conclude following).log := by
  cases following with
  | failing callbacks error => exact List.mem_append_left _ listed
  | disconnecting callbacks disconnection =>
    cases callbacks with
    | none => exact listed
    | some callbacks => exact List.mem_append_left _ listed
  | _ => exact listed

/-- What the exchanges read of two states is the same. -/
structure SameExchange (state after : ClientState Number Authority) : Prop where
  held : after.held = state.held
  tuning : after.api.movementTuningState = state.api.movementTuningState
  highWater : after.api.tuningRequestHighWater = state.api.tuningRequestHighWater
  numbered : after.api.nextSocket = state.api.nextSocket
  called : after.api.sessionCallbacks = state.api.sessionCallbacks
  log : after.log = state.log

theorem SameExchange.pendingOn (same : SameExchange state after) (socket : Nat) :
    after.pendingOn socket = state.pendingOn socket := by
  simp only [ClientState.pendingOn, same.held, same.tuning]

theorem Invariant.congr (invariant : Invariant state) (same : SameExchange state after) : Invariant after where
  exchanges socket := by
    rw [same.pendingOn, same.log]
    exact invariant.exchanges socket
  ordered := same.log ▸ invariant.ordered
  free := by
    rw [same.held, same.tuning]
    exact invariant.free
  unreleased := by
    rw [same.held, same.log]
    exact invariant.unreleased
  numbered := by
    rw [same.log, same.numbered]
    exact invariant.numbered
  heldNumbered := by
    rw [same.held, same.numbered]
    exact invariant.heldNumbered
  highWater := by
    rw [same.held, same.log, same.highWater]
    exact invariant.highWater
  answers := by
    rw [same.tuning, same.log]
    exact invariant.answers
  called := by
    rw [same.held, same.called]
    exact invariant.called

theorem Invariant.unstack (invariant : Invariant state) (stack : List (Continuation Number)) :
    Invariant { state with stack := stack } := invariant.congr ⟨rfl, rfl, rfl, rfl, rfl, rfl⟩

theorem Invariant.recordFired (invariant : Invariant state) {callbacks : Nat}
    {callback : SessionCallback Number Authority}
    (admissible : SessionEntry.Admissible state.log (.fired callbacks callback)) :
    Invariant (state.record (.fired callbacks callback)) where
  exchanges socket := by
    simpa [SessionEntry.tuning] using invariant.exchanges socket
  ordered := invariant.ordered.concat admissible
  free := invariant.free
  unreleased socket holds := by simpa using invariant.unreleased socket holds
  numbered entry listed := by
    rcases List.mem_append.mp listed with listed | listed
    · exact invariant.numbered entry listed
    · cases List.mem_singleton.mp listed
      exact fun socket named => by cases named
  heldNumbered := invariant.heldNumbered
  highWater socket id holds listed := by
    exact invariant.highWater socket id holds (by simpa using listed)
  answers object request result resolved :=
    (invariant.answers object request result resolved).concat fun socket asked => by simp
  called := invariant.called

theorem Invariant.fire (invariant : Invariant state) {callbacks : Nat} {callback : SessionCallback Number Authority}
    {following : Continuation Number}
    (admissible : SessionEntry.Admissible state.log (.fired callbacks callback)) :
    Invariant (state.fire callbacks callback following) := (invariant.unstack _).recordFired admissible

theorem Invariant.conclude (invariant : Invariant state) (following : Continuation Number) :
    Invariant (state.conclude following) := by
  cases following with
  | failing callbacks error => exact invariant.fire trivial
  | disconnecting callbacks disconnection =>
    cases callbacks with
    | none => exact invariant
    | some callbacks => exact invariant.fire trivial
  | requested socket command => exact invariant
  | snapshotShown socket resolved => exact invariant
  | frameEnded socket => exact invariant
  | ended => exact invariant

section Moves

variable {socket : Nat}

theorem pendingOn_held (held : state.held = some socket) :
    state.pendingOn socket =
      (pendingRequest state.api.movementTuningState).map fun request => request.tuningRequestId := if_pos held

theorem pendingOn_other {other : Nat} (held : state.held = some socket) (differs : other ≠ socket) :
    state.pendingOn other = none := by
  rw [pendingOn, if_neg]
  intro same
  exact differs (Option.some.inj (same.symm.trans held))

theorem pendingOn_unpending (none : pendingRequest state.api.movementTuningState = .none) (other : Nat) :
    state.pendingOn other = .none := by
  rw [pendingOn, none, Option.map_none, ite_self]

theorem Invariant.requestTuning (invariant : Invariant state) (held : state.held = some socket)
    {payload : SetMovementTuningPayload Number} (none : pendingRequest state.api.movementTuningState = .none)
    (increases : state.api.tuningRequestHighWater < payload.tuningRequestId) :
    Invariant (state.requestTuning socket payload) where
  exchanges other := by
    have same := invariant.exchanges other
    by_cases own : other = socket
    · subst own
      have pending : (state.requestTuning other payload).pendingOn other = some payload.tuningRequestId :=
        if_pos held
      rw [pendingOn_held held, none] at same
      rw [pending]
      have above : ∀ earlier, .requested earlier ∈ exchange other state.log → earlier < payload.tuningRequestId :=
        fun earlier listed =>
          Nat.lt_of_le_of_lt (invariant.highWater other earlier held (mem_exchange_requested.mp listed)) increases
      simpa [ClientState.requestTuning, SessionEntry.tuning] using Exchange.requested same above
    · have held' : (state.requestTuning socket payload).held = some socket := held
      rw [pendingOn_other held own] at same
      rw [pendingOn_other held' own]
      simpa [ClientState.requestTuning, SessionEntry.tuning, Ne.symm own] using same
  ordered := invariant.ordered.concat trivial
  free unheld := by cases held.symm.trans unheld
  unreleased other holds := by simpa [ClientState.requestTuning] using invariant.unreleased other holds
  numbered entry listed := by
    rcases List.mem_append.mp listed with listed | listed
    · exact invariant.numbered entry listed
    · cases List.mem_singleton.mp listed
      exact fun other named => by
        cases named
        exact invariant.heldNumbered socket held
  heldNumbered := invariant.heldNumbered
  highWater other id holds listed := by
    rcases List.mem_append.mp listed with listed | listed
    · exact Nat.le_of_lt (Nat.lt_of_le_of_lt (invariant.highWater other id holds listed) increases)
    · cases List.mem_singleton.mp listed
      exact Nat.le_refl _
  answers object request result resolved := by cases resolved
  called := invariant.called

theorem Invariant.resolve (invariant : Invariant state) (held : state.held = some socket)
    {request : SetMovementTuningPayload Number} {result : SessionTuningResult}
    (pending : pendingRequest state.api.movementTuningState = some request)
    (own : result.tuningRequestId = request.tuningRequestId) : Invariant (state.resolve socket request result) where
  exchanges other := by
    have same := invariant.exchanges other
    by_cases answered : other = socket
    · subst answered
      have settled : (state.resolve other request result).pendingOn other = none := if_pos held
      rw [pendingOn_held held, pending] at same
      rw [settled]
      simpa [ClientState.resolve, SessionEntry.tuning] using Exchange.resolved same own
    · have held' : (state.resolve socket request result).held = some socket := held
      rw [pendingOn_other held answered] at same
      rw [pendingOn_other held' answered]
      simpa [ClientState.resolve, SessionEntry.tuning, Ne.symm answered] using same
  ordered := invariant.ordered.concat (invariant.unreleased socket held)
  free unheld := by cases held.symm.trans unheld
  unreleased other holds := by simpa [ClientState.resolve] using invariant.unreleased other holds
  numbered entry listed := by
    rcases List.mem_append.mp listed with listed | listed
    · exact invariant.numbered entry listed
    · cases List.mem_singleton.mp listed
      exact fun other named => by
        cases named
        exact invariant.heldNumbered socket held
  heldNumbered := invariant.heldNumbered
  highWater other id holds listed := by
    refine invariant.highWater other id holds ?_
    simpa [ClientState.resolve] using listed
  answers object asked answer resolved := by
    cases resolved
    exact ⟨socket, state.log, [], rfl, fun later asked listed => by cases listed⟩
  called := invariant.called

theorem Invariant.dropSocket (invariant : Invariant state) (held : state.held = some socket)
    (none : pendingRequest state.api.movementTuningState = .none) : Invariant (state.dropSocket socket) where
  exchanges other := by
    have same := invariant.exchanges other
    rw [pendingOn_unpending none] at same
    rw [pendingOn_unpending (by exact none)]
    simpa [ClientState.dropSocket, SessionEntry.tuning] using same
  ordered := invariant.ordered.concat trivial
  free _ := none
  unreleased other holds := by cases holds
  numbered entry listed := by
    rcases List.mem_append.mp listed with listed | listed
    · exact invariant.numbered entry listed
    · cases List.mem_singleton.mp listed
      exact fun other named => by
        cases named
        exact invariant.heldNumbered socket held
  heldNumbered other holds := by cases holds
  highWater other id holds := by cases holds
  answers object request result resolved :=
    (invariant.answers object request result resolved).concat fun later asked => by simp
  called other holds := by cases holds

/-- The socket is dropped, and the request pending on it unknown. -/
def lose (state : ClientState Number Authority) (socket : Nat) (request : SetMovementTuningPayload Number) :
    ClientState Number Authority :=
  { state.dropSocket socket with
    api := { (state.dropSocket socket).api with movementTuningState := .unknown request } }.record
    (.unknown socket request.tuningRequestId)

theorem Invariant.lose (invariant : Invariant state) (held : state.held = some socket)
    {request : SetMovementTuningPayload Number}
    (pending : pendingRequest state.api.movementTuningState = some request) :
    Invariant (state.lose socket request) where
  exchanges other := by
    have same := invariant.exchanges other
    have settled : (state.lose socket request).pendingOn other = none := if_neg (by rintro ⟨⟩)
    have logged : (state.lose socket request).log =
        (state.log ++ [.released socket]) ++ [.unknown socket request.tuningRequestId] := rfl
    rw [settled, logged]
    by_cases own : other = socket
    · subst own
      rw [pendingOn_held held, pending] at same
      simpa only [exchange_concat, SessionEntry.tuning, if_true, Option.toList, List.append_nil] using
        Exchange.unknown same
    · rw [pendingOn_other held own] at same
      simpa only [exchange_concat, SessionEntry.tuning, if_neg (Ne.symm own), Option.toList, List.append_nil] using same
  ordered := by
    have released : Ordered (state.log ++ [.released socket]) := invariant.ordered.concat trivial
    exact released.concat (List.mem_append_right _ List.mem_cons_self)
  free _ := rfl
  unreleased other holds := by cases holds
  numbered entry listed := by
    have below := invariant.heldNumbered socket held
    simp only [ClientState.lose, ClientState.dropSocket, record_log, List.mem_append, List.mem_singleton] at listed
    rcases listed with (listed | rfl) | rfl
    · exact invariant.numbered entry listed
    · exact fun other named => by
        cases named
        exact below
    · exact fun other named => by
        cases named
        exact below
  heldNumbered other holds := by cases holds
  highWater other id holds := by cases holds
  answers object request result resolved := by cases resolved
  called other holds := by cases holds

theorem markPendingTuningUnknown_unpending (none : pendingRequest state.api.movementTuningState = .none)
    (callbacks : Option Nat) (following : Continuation Number) :
    state.markPendingTuningUnknown socket callbacks following = state.conclude following := by
  unfold markPendingTuningUnknown
  split
  · next request tuning =>
      rw [tuning] at none
      cases none
  all_goals rfl

theorem markPendingTuningUnknown_pending {request : SetMovementTuningPayload Number}
    (pending : pendingRequest state.api.movementTuningState = some request) (callbacks : Option Nat)
    (following : Continuation Number) :
    (state.dropSocket socket).markPendingTuningUnknown socket callbacks following =
      match callbacks with
      | some callbacks => (state.lose socket request).fire callbacks (.movementTuningState (.unknown request)) following
      | none => (state.lose socket request).conclude following := by
  have tuning : state.api.movementTuningState = .pending request := by
    cases tuning : state.api.movementTuningState <;> rw [tuning] at pending <;> cases pending
    rfl
  have dropped : (state.dropSocket socket).api.movementTuningState = .pending request := tuning
  unfold markPendingTuningUnknown
  rw [dropped]
  rfl

theorem Invariant.markPendingTuningUnknown (invariant : Invariant state) (held : state.held = some socket)
    (callbacks : Option Nat) (following : Continuation Number) :
    Invariant ((state.dropSocket socket).markPendingTuningUnknown socket callbacks following) := by
  cases pending : pendingRequest state.api.movementTuningState with
  | none =>
    have dropped : pendingRequest (state.dropSocket socket).api.movementTuningState = none := pending
    rw [markPendingTuningUnknown_unpending dropped]
    exact (invariant.dropSocket held pending).conclude following
  | some request =>
    have lost := invariant.lose held pending
    rw [markPendingTuningUnknown_pending pending]
    cases callbacks with
    | none => exact lost.conclude following
    | some callbacks => exact lost.fire trivial

theorem Invariant.openSession (invariant : Invariant state) (callbacks : Nat) (admissible : Bool) :
    Invariant (state.openSession callbacks admissible) := by
  unfold ClientState.openSession
  split
  · exact invariant
  · next refused =>
    have unheld : state.held = none := by
      simp only [Bool.or_eq_true, not_or, Bool.not_eq_true, Option.isSome_eq_false_iff, Option.isNone_iff_eq_none]
        at refused
      rw [held, refused.1.2, Option.map_none]
    exact {
      exchanges := fun other => by
        have same := invariant.exchanges other
        have before : state.pendingOn other = none := if_neg (by rw [unheld]; rintro ⟨⟩)
        rw [before] at same
        rw [pendingOn_unpending (by rfl)]
        simpa [SessionEntry.tuning] using same
      ordered := invariant.ordered.concat trivial
      free := fun _ => rfl
      unreleased := fun other holds listed => by
        cases holds
        have listed' : .released state.api.nextSocket ∈ state.log := by simpa using listed
        exact Nat.lt_irrefl _ (invariant.numbered _ listed' _ rfl)
      numbered := fun entry listed other named => by
        rcases List.mem_append.mp listed with listed | listed
        · exact Nat.lt_succ_of_lt (invariant.numbered entry listed other named)
        · cases List.mem_singleton.mp listed
          cases named
          exact Nat.lt_succ_self _
      heldNumbered := fun other holds => by
        cases holds
        exact Nat.lt_succ_self _
      highWater := fun other id holds listed => by
        cases holds
        have listed' : .requested state.api.nextSocket id ∈ state.log := by simpa using listed
        exact absurd (invariant.numbered _ listed' _ rfl) (Nat.lt_irrefl _)
      answers := fun object request result resolved => by cases resolved
      called := fun _ _ => rfl }

theorem dropSocket_unsettled (pending : (pendingRequest state.api.movementTuningState).isSome) : ¬Settled (state.dropSocket socket) := by
  intro settled
  have free : pendingRequest state.api.movementTuningState = none := settled.free rfl
  rw [free] at pending
  cases pending

end Moves

section Releases

variable {protocol : SessionProtocol Number Authority Frame} {socket code : Nat} {input : SocketInput}

theorem releaseSocket_unheld (unheld : state.held ≠ some socket) (following : Continuation Number) :
    state.releaseSocket protocol socket code input following = state.conclude following := if_neg unheld

theorem releaseSocket_refused (holds : state.held = some socket)
    (refused : (input.closable && protocol.refusesClose code) = true) (following : Continuation Number) :
    state.releaseSocket protocol socket code input following = state.dropSocket socket :=
  (if_pos holds).trans (if_pos refused)

theorem releaseSocket_accepted (holds : state.held = some socket)
    (accepted : (input.closable && protocol.refusesClose code) = false) (following : Continuation Number) :
    state.releaseSocket protocol socket code input following =
      (state.dropSocket socket).markPendingTuningUnknown socket state.api.sessionCallbacks following :=
  (if_pos holds).trans (if_neg (by simp only [accepted, Bool.false_eq_true, not_false_eq_true]))

theorem releaseSocket_unsettled (holds : state.held = some socket)
    (pending : (pendingRequest state.api.movementTuningState).isSome)
    (refused : (input.closable && protocol.refusesClose code) = true) (following : Continuation Number) :
    ¬Settled (state.releaseSocket protocol socket code input following) := by
  rw [releaseSocket_refused holds refused]
  exact dropSocket_unsettled pending

end Releases

end ClientState

end BlobRoyale.Frontend
