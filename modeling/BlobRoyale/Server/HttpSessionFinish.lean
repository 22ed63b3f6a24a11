import BlobRoyale.Library.Transition
import BlobRoyale.Server.HttpSessionSteps

/-!
# A finished HTTP connection

What a connection still does once it has finished. Its read callbacks do not look whether it has, so a
read that succeeds late goes on reading and routes; without such a late success nothing is done.
-/

namespace BlobRoyale.Server

variable {Request Content : Type}

namespace HttpCall

def unregisters : HttpCall Request Content → Bool
  | unregister => true
  | _ => false

/-- Calls that read, route, queue, write or upgrade, or that read what is not there. -/
def acts : HttpCall Request Content → Bool
  | beginRequest | readSome | readHeader | route _ | enqueue _ | writeResponse _ | takeLease _ | beginUpgrade ..
  | handLease _ | overflow | undefined => true
  | completeResponse _ | releaseLease _ | closeSocket | releaseTcpLease | unregister | fail => false

end HttpCall

namespace HttpSession

open Transition

/-- The log of a connection does nothing behind the unregistration that finishing ends with. -/
def Inert (transcript : List (HttpCall Request Content)) : Prop :=
  ∀ before after, transcript = before ++ .unregister :: after → ∀ made ∈ after, made.acts = false

/-- A callback or a stop, also behind an immediate stop: callbacks already queued may still run. -/
def Occurs (session : HttpSession Request Content) (action : HttpAction Request Content)
    (next : HttpSession Request Content) : Prop :=
  Step { session with dispatching := true } action next

/-- A success that a finished connection does not recognize as late: of a read whose bytes lead to another
read or to a request, or of the last write before an upgrade that was waiting. -/
def LateSuccess (session : HttpSession Request Content) : HttpAction Request Content → Prop
  | .callback (.rawHeaderBytesRead completion inspection) => completion = .succeeded ∧
      (inspection.status = .ready ∨ inspection.status = .needsMoreData ∧ inspection.remainingCapacity ≠ 0)
  | .callback (.headerRead completion _) => completion = .succeeded
  | .callback (.responseWritten response completion _) => completion = .succeeded ∧
      response.keepAlive = true ∧ session.pendingUpgrade.isSome = true ∧ session.responseQueue.length = 1
  | .callback (.start _) | .stop _ => False

section States

variable (session : HttpSession Request Content)

/-- Registered, with no unregistration in its log. -/
def Quiet : Prop := session.registered = true ∧ session.transcript.any HttpCall.unregisters = false

def Open : Prop := session.finished = false ∧ session.dispatching = true ∧ session.Quiet

def Shut : Prop :=
  session.finished = true ∧ session.transcript.any HttpCall.unregisters = true ∧ Inert session.transcript

def Closes : Prop := session.Open ∨ session.Shut

/-- The write outstanding is of the first response queued. -/
def WritesQueued : Prop :=
  session.outstanding.filterMap HttpOperation.written = (if session.writeActive then session.responseQueue.take 1 else []) ∧
    (session.writeActive = true → session.responseQueue ≠ [])

end States

variable {session : HttpSession Request Content}

section Logs

variable {transcript : List (HttpCall Request Content)} {made : HttpCall Request Content}

theorem inert_of_none (none : transcript.any HttpCall.unregisters = false) : Inert transcript := by
  rintro before after rfl
  simp [HttpCall.unregisters] at none

theorem Inert.concat (inert : Inert transcript) (idle : made.acts = false) : Inert (transcript ++ [made]) := by
  intro before after split other member
  rcases List.eq_nil_or_concat after with rfl | ⟨front, final, rfl⟩
  · cases member
  · have split' : transcript ++ [made] = (before ++ .unregister :: front) ++ [final] := by
      rw [split]
      simp
    obtain ⟨rfl, same⟩ := List.append_inj' split' rfl
    cases same
    rw [List.concat_eq_append] at member
    obtain earlier | last := List.mem_append.mp member
    · exact inert before front rfl other earlier
    · rw [List.mem_singleton.mp last]
      exact idle

theorem Inert.unregister (none : transcript.any HttpCall.unregisters = false) :
    Inert (transcript ++ [.unregister]) := (inert_of_none none).concat rfl

theorem unregisters_unregister : (transcript ++ [HttpCall.unregister]).any HttpCall.unregisters = true := by
  simp [HttpCall.unregisters]

end Logs

section Closing

theorem Quiet.call (made : HttpCall Request Content) (quiet : session.Quiet) (stays : made.unregisters = false) :
    (session.call made).Quiet := by
  obtain ⟨registered, none⟩ := quiet
  refine ⟨registered, ?_⟩
  rw [HttpSession.call]
  simp [none, stays]

theorem Quiet.releasePendingLease (quiet : session.Quiet) : session.releasePendingLease.Quiet := by
  unfold HttpSession.releasePendingLease
  split
  · exact quiet
  · have returned : ({ session with pendingWebsocketLease := none } : HttpSession Request Content).Quiet := quiet
    exact returned.call _ rfl

theorem releasePendingLease_dispatching : session.releasePendingLease.dispatching = session.dispatching := by
  unfold HttpSession.releasePendingLease
  split <;> rfl

theorem releaseTcpLease_dispatching : session.releaseTcpLease.dispatching = session.dispatching := by
  unfold HttpSession.releaseTcpLease
  split <;> rfl

theorem Quiet.releaseTcpLease (quiet : session.Quiet) : session.releaseTcpLease.Quiet := by
  unfold HttpSession.releaseTcpLease
  split
  · have returned : ({ session with tcpLease := false } : HttpSession Request Content).Quiet := quiet
    exact returned.call _ rfl
  · exact quiet

theorem Quiet.unregister (quiet : session.Quiet) (finished : session.finished = true) : session.unregister.Shut := by
  obtain ⟨registered, none⟩ := quiet
  rw [HttpSession.unregister, if_pos registered]
  exact ⟨finished, unregisters_unregister, Inert.unregister none⟩

theorem Open.call (made : HttpCall Request Content) (opened : session.Open) (stays : made.unregisters = false) :
    (session.call made).Open := ⟨opened.1, opened.2.1, opened.2.2.call made stays⟩

theorem Shut.call (made : HttpCall Request Content) (shut : session.Shut) (idle : made.acts = false) :
    (session.call made).Shut := by
  refine ⟨shut.1, ?_, shut.2.2.concat idle⟩
  rw [HttpSession.call, List.any_append, shut.2.1, Bool.true_or]

theorem finish_of_finished (finished : session.finished = true) : session.finish = session := if_pos finished

theorem Quiet.finish (quiet : session.Quiet) (unfinished : session.finished = false) : session.finish.Shut := by
  have marked : Quiet { session with finished := true } := quiet
  have closed := (marked.releasePendingLease.call .closeSocket rfl).releaseTcpLease
  rw [HttpSession.finish, if_neg (by rw [unfinished]; decide)]
  refine closed.unregister ?_
  rw [releaseTcpLease_finished]
  exact releasePendingLease_finished

theorem Open.finish (opened : session.Open) : session.finish.Shut := opened.2.2.finish opened.1

theorem Closes.finish (closes : session.Closes) : session.finish.Shut := by
  obtain opened | shut := closes
  · exact opened.finish
  · rw [finish_of_finished shut.1]
    exact shut

end Closing

section Reading

theorem Open.preflightHeader (opened : session.Open) (inspection : HeaderInspection) :
    (session.preflightHeader inspection).Closes := by
  have idle : Open { session with readActive := false } := opened
  unfold HttpSession.preflightHeader
  split
  · exact .inl (opened.call .readHeader rfl)
  · exact .inr idle.finish
  · exact .inr idle.finish
  · split
    · exact .inr idle.finish
    · exact .inl (opened.call .readSome rfl)

theorem Open.readNextRequest (opened : session.Open) (inspection : HeaderInspection) :
    (session.readNextRequest inspection).Closes := by
  unfold HttpSession.readNextRequest
  split
  · exact .inl opened
  · have begun : Open { session with parser := true, readActive := true } := opened
    exact (begun.call .beginRequest rfl).preflightHeader inspection

theorem Open.rawHeaderBytesRead (opened : session.Open) (completion : Completion) (inspection : HeaderInspection) :
    (session.rawHeaderBytesRead completion inspection).Closes := by
  have idle : Open { session with readActive := false } := opened
  unfold HttpSession.rawHeaderBytesRead
  split
  · exact opened.preflightHeader inspection
  · exact .inr idle.finish

end Reading

section Writing

theorem Open.writeNextResponse (opened : session.Open) : session.writeNextResponse.Open := by
  unfold HttpSession.writeNextResponse
  split
  · exact opened
  · split
    · exact opened
    · have writing : Open { session with writeActive := true } := opened
      exact writing.call (.writeResponse _) rfl

theorem Open.enqueueResponse (opened : session.Open) (response : GameApiHttpResponse Content) :
    (∃ queued, session.enqueueResponse response = .ok queued ∧ queued.Open) ∨
      ∃ thrown, session.enqueueResponse response = .error thrown ∧ thrown.Open := by
  unfold HttpSession.enqueueResponse
  split
  · exact .inr ⟨_, rfl, opened.call .overflow rfl⟩
  · have queued : Open { session with responseQueue := session.responseQueue ++ [response] } := opened
    have called := queued.call (.enqueue response) rfl
    refine .inl ⟨_, rfl, ?_⟩
    split
    · exact called
    · exact called.writeNextResponse

end Writing

section Upgrading

theorem Open.handOver (opened : session.Open) (lease : WebSocketAdmissionLease) :
    (beginWebsocketUpgrade.handOver session lease).Shut := by
  have handed : Quiet { session with tcpLease := false } := opened.2.2
  have called := handed.call (.handLease lease) rfl
  have registered := called.1
  rw [beginWebsocketUpgrade.handOver, HttpSession.unregister, if_pos registered]
  exact ⟨rfl, unregisters_unregister, Inert.unregister called.2⟩

theorem Open.beginWebsocketUpgrade (opened : session.Open) (request : Request) (upgrade : GameApiUpgrade)
    (lease : WebSocketAdmissionLease) (outcome : UpgradeOutcome) :
    (session.beginWebsocketUpgrade request upgrade lease outcome).Closes := by
  have begun := opened.call (.beginUpgrade request upgrade) rfl
  unfold HttpSession.beginWebsocketUpgrade
  cases outcome with
  | constructionThrew =>
    exact .inr ((begun.call (.releaseLease lease) rfl).call .fail rfl).finish
  | runThrew => exact .inr (Closes.finish (.inr ((begun.handOver lease).call .fail rfl)))
  | ran => exact .inr (begun.handOver lease)

theorem Open.upgradeOrWait (opened : session.Open) (input : HttpInput Request Content) (upgrade : GameApiUpgrade)
    (lease : WebSocketAdmissionLease) : (session.upgradeOrWait input upgrade lease).Closes := by
  have admitted := opened.call (.takeLease lease) rfl
  unfold HttpSession.upgradeOrWait
  dsimp only
  split
  · exact admitted.beginWebsocketUpgrade input.request upgrade lease input.upgrading
  · have dispatching := releasePendingLease_dispatching.trans admitted.2.1
    exact .inl ⟨releasePendingLease_finished.trans admitted.1, dispatching, admitted.2.2.releasePendingLease⟩

end Upgrading

section Routing

theorem Open.respond (opened : session.Open) (input : HttpInput Request Content)
    (response : GameApiHttpResponse Content) :
    (∃ next, session.respond input response = .ok next ∧ next.Closes) ∨
      ∃ thrown, session.respond input response = .error thrown ∧ thrown.Open := by
  unfold HttpSession.respond
  obtain ⟨queued, enqueues, stays⟩ | ⟨thrown, throws, stays⟩ := opened.enqueueResponse response
  · rw [enqueues]
    refine .inl ⟨_, rfl, ?_⟩
    split
    · exact stays.readNextRequest input.inspection
    · exact .inl stays
  · rw [throws]
    exact .inr ⟨thrown, rfl, stays⟩

theorem Open.routeRequest (opened : session.Open) (input : HttpInput Request Content) :
    (∃ next, session.routeRequest input = .ok next ∧ next.Closes) ∨
      ∃ thrown, session.routeRequest input = .error thrown ∧ thrown.Open := by
  have released : Open { session with parsedRequestCount := session.parsedRequestCount + 1, parser := false } := opened
  have parsed : (session.releaseRequest input.request).Open := released.call (.route input.request) rfl
  unfold HttpSession.routeRequest
  split
  · dsimp only
    cases input.result with
    | none => exact .inr ⟨_, rfl, parsed⟩
    | some result =>
      cases result with
      | closeWithoutResponse => exact .inl ⟨_, rfl, .inr parsed.finish⟩
      | websocketUpgrade upgrade lease => exact .inl ⟨_, rfl, parsed.upgradeOrWait input upgrade lease⟩
      | httpResponse response => exact parsed.respond input _
  · exact .inl ⟨_, rfl, .inl (opened.call .undefined rfl)⟩

theorem Open.routeGuarded (opened : session.Open) (input : HttpInput Request Content) :
    (session.routeGuarded input).Closes := by
  unfold HttpSession.routeGuarded
  obtain ⟨next, routes, closes⟩ | ⟨thrown, throws, stays⟩ := opened.routeRequest input
  · rw [routes]
    exact closes
  · rw [throws]
    exact .inr (stays.call .fail rfl).finish

theorem Open.headerRead (opened : session.Open) (completion : Completion) (input : HttpInput Request Content) :
    (session.headerRead completion input).Closes := by
  have landed : Open { session with readActive := false } := opened
  unfold HttpSession.headerRead
  dsimp only
  split
  · exact landed.routeGuarded input
  · exact .inr landed.finish

theorem Open.drained (opened : session.Open) (input : HttpInput Request Content) : (session.drained input).Closes := by
  unfold HttpSession.drained
  split
  · exact opened.readNextRequest input.inspection
  · split
    · exact .inl (opened.call .undefined rfl)
    · have taken : Open { session with pendingUpgrade := none, pendingWebsocketLease := none } := opened
      exact taken.beginWebsocketUpgrade _ _ _ _

theorem Open.responseSent (opened : session.Open) (response : GameApiHttpResponse Content)
    (input : HttpInput Request Content) : (session.responseSent response input).Closes := by
  unfold HttpSession.responseSent
  split
  · exact .inl (opened.call .undefined rfl)
  · next rest queue =>
    have popped : Open { session with responseQueue := rest } := opened
    have written := popped.call (.completeResponse response) rfl
    dsimp only
    split
    · exact .inr written.finish
    · split
      · exact written.drained input
      · exact .inl written.writeNextResponse

theorem Open.responseWritten (opened : session.Open) (response : GameApiHttpResponse Content)
    (completion : Completion) (input : HttpInput Request Content) :
    (session.responseWritten response completion input).Closes := by
  have landed : Open { session with writeActive := false } := opened
  unfold HttpSession.responseWritten
  dsimp only
  split
  · exact landed.responseSent response input
  · exact .inr landed.finish

theorem Open.perform (opened : session.Open) (event : HttpEvent Request Content) : (session.perform event).Closes := by
  cases event with
  | start inspection => exact opened.readNextRequest inspection
  | rawHeaderBytesRead completion inspection => exact opened.rawHeaderBytesRead completion inspection
  | headerRead completion input => exact opened.headerRead completion input
  | responseWritten response completion input => exact opened.responseWritten response completion input

end Routing

section Finished

theorem Shut.releasePendingLease (shut : session.Shut) : session.releasePendingLease.Shut := by
  unfold HttpSession.releasePendingLease
  split
  · exact shut
  · have returned : ({ session with pendingWebsocketLease := none } : HttpSession Request Content).Shut := shut
    exact returned.call _ rfl

theorem Shut.releaseTcpLease (shut : session.Shut) : session.releaseTcpLease.Shut := by
  unfold HttpSession.releaseTcpLease
  split
  · have returned : ({ session with tcpLease := false } : HttpSession Request Content).Shut := shut
    exact returned.call _ rfl
  · exact shut

theorem Closes.settle (closes : session.Closes) : session.settle.Closes := by
  unfold HttpSession.settle
  split
  · obtain opened | shut := closes
    · refine .inl ⟨?_, ?_, opened.2.2.releasePendingLease.releaseTcpLease⟩
      · exact releaseTcpLease_finished.trans (releasePendingLease_finished.trans opened.1)
      · exact releaseTcpLease_dispatching.trans (releasePendingLease_dispatching.trans opened.2.1)
    · exact .inr shut.releasePendingLease.releaseTcpLease
  · exact closes

theorem Shut.settle (shut : session.Shut) : session.settle.Shut := by
  unfold HttpSession.settle
  split
  · exact shut.releasePendingLease.releaseTcpLease
  · exact shut

theorem WritesQueued.settle (queued : session.WritesQueued) : session.settle.WritesQueued := by
  unfold HttpSession.settle HttpSession.destroy HttpSession.releaseTcpLease HttpSession.releasePendingLease
  split
  · split <;> split <;> exact queued
  · exact queued

theorem Open.stop (opened : session.Open) (mode : SessionStopMode) : (session.stop mode).Closes := by
  cases mode with
  | graceful =>
    change Closes (if session.stopping then session else requestStop { session with stopping := true } .graceful)
    split
    · exact .inl opened
    · have stopping : Open { session with stopping := true } := opened
      rw [requestStop, if_neg (by rw [stopping.1]; decide)]
      exact .inl (stopping.call .closeSocket rfl)
  | immediate =>
    have halted : Quiet { session with stopping := true, dispatching := false } := opened.2.2
    exact .inr (halted.finish opened.1)

theorem Shut.stop (shut : session.Shut) (mode : SessionStopMode) :
    (session.stop mode).Shut ∧ (session.WritesQueued → (session.stop mode).WritesQueued) := by
  cases mode with
  | graceful =>
    change Shut (if session.stopping then session else requestStop { session with stopping := true } .graceful) ∧
      (_ → WritesQueued (if session.stopping then session else requestStop { session with stopping := true } .graceful))
    split
    · exact ⟨shut, id⟩
    · rw [requestStop, if_pos shut.1]
      exact ⟨shut, id⟩
  | immediate =>
    have halted : Shut { session with stopping := true, dispatching := false } := shut
    change Shut (HttpSession.finish _) ∧ (_ → WritesQueued (HttpSession.finish _))
    rw [finish_of_finished halted.1]
    exact ⟨shut, id⟩

variable {before after : List (HttpOperation Content)}

theorem Shut.readNextRequest (shut : session.Shut) (inspection : HeaderInspection) :
    session.readNextRequest inspection = session := by
  rw [HttpSession.readNextRequest, shut.1]
  rfl

theorem Shut.writeNextResponse (shut : session.Shut) : session.writeNextResponse = session := by
  rw [HttpSession.writeNextResponse, shut.1]
  rfl

theorem WritesQueued.land (queued : session.WritesQueued) {operation : HttpOperation Content}
    (pending : session.outstanding = before ++ operation :: after) (reading : operation.written = none) :
    WritesQueued { session with outstanding := before ++ after } := by
  obtain ⟨writing, busy⟩ := queued
  rw [pending, List.filterMap_append, List.filterMap_cons_none reading, ← List.filterMap_append] at writing
  exact ⟨writing, busy⟩

theorem WritesQueued.landWrite (queued : session.WritesQueued) {response : GameApiHttpResponse Content}
    (pending : session.outstanding = before ++ .write response :: after) :
    (before ++ after).filterMap HttpOperation.written = [] ∧ session.responseQueue ≠ [] := by
  obtain ⟨writing, busy⟩ := queued
  rw [pending, List.filterMap_append, List.filterMap_cons_some (show (HttpOperation.write response).written =
    some response from rfl)] at writing
  split at writing
  · next active =>
    have counted := congrArg List.length writing
    have short := List.length_take_le 1 session.responseQueue
    rw [List.length_append, List.length_cons] at counted
    refine ⟨?_, busy active⟩
    rw [List.filterMap_append, List.append_eq_nil_iff]
    exact ⟨List.eq_nil_of_length_eq_zero (by omega), List.eq_nil_of_length_eq_zero (by omega)⟩
  · exact absurd writing (by simp)

theorem Shut.perform (shut : session.Shut) (queued : session.WritesQueued) (event : HttpEvent Request Content)
    (pending : session.outstanding = before ++ event.completes :: after)
    (timely : ¬ LateSuccess session (.callback event)) :
    (perform { session with outstanding := before ++ after } event).Shut ∧
      (perform { session with outstanding := before ++ after } event).WritesQueued := by
  have landed : Shut { session with outstanding := before ++ after } := shut
  cases event with
  | start inspection =>
    rw [HttpSession.perform, landed.readNextRequest]
    exact ⟨landed, queued.land pending rfl⟩
  | rawHeaderBytesRead completion inspection =>
    have idle : Shut { session with outstanding := before ++ after, readActive := false } := shut
    have idling : WritesQueued { session with outstanding := before ++ after, readActive := false } :=
      queued.land pending rfl
    have finished : (finish { session with outstanding := before ++ after, readActive := false }).Shut ∧
        (finish { session with outstanding := before ++ after, readActive := false }).WritesQueued := by
      rw [finish_of_finished idle.1]
      exact ⟨idle, idling⟩
    rw [HttpSession.perform, HttpSession.rawHeaderBytesRead]
    split
    · next succeeded =>
      unfold HttpSession.preflightHeader
      split
      · next ready => exact absurd ⟨succeeded, .inl ready⟩ timely
      · exact finished
      · exact finished
      · next waits =>
        split
        · exact finished
        · next room => exact absurd ⟨succeeded, .inr ⟨waits, room⟩⟩ timely
    · exact finished
  | headerRead completion input =>
    have idle : Shut { session with outstanding := before ++ after, readActive := false } := shut
    have late : completion ≠ .succeeded := timely
    rw [HttpSession.perform, HttpSession.headerRead, if_neg late, finish_of_finished idle.1]
    exact ⟨idle, queued.land pending rfl⟩
  | responseWritten response completion input =>
    obtain ⟨others, nonempty⟩ := queued.landWrite pending
    have written (queue : List (GameApiHttpResponse Content)) :
        WritesQueued { session with outstanding := before ++ after, writeActive := false, responseQueue := queue } :=
      ⟨others, fun impossible => by cases impossible⟩
    have idle : Shut { session with outstanding := before ++ after, writeActive := false } := shut
    rw [HttpSession.perform, HttpSession.responseWritten]
    dsimp only
    split
    · next succeeded =>
      obtain ⟨first, rest, queue⟩ := List.exists_cons_of_ne_nil nonempty
      have popped : Shut { session with
        outstanding := before ++ after, writeActive := false, responseQueue := rest } := shut
      have completed := popped.call (.completeResponse response) rfl
      rw [responseSent]
      simp only [queue]
      split
      · rw [finish_of_finished completed.1]
        exact ⟨completed, written rest⟩
      · next keeps =>
        split
        · next empty =>
          have idleUpgrade : session.pendingUpgrade = none := by
            rw [← Option.not_isSome_iff_eq_none]
            intro waiting
            refine timely ⟨succeeded, by simpa using keeps, waiting, ?_⟩
            rw [queue, List.isEmpty_iff.mp empty]
            rfl
          have drains : HttpSession.drained (HttpSession.call { session with
              outstanding := before ++ after, writeActive := false, responseQueue := rest }
              (.completeResponse response)) input = HttpSession.readNextRequest (HttpSession.call { session with
              outstanding := before ++ after, writeActive := false, responseQueue := rest }
              (.completeResponse response)) input.inspection := by
            rw [HttpSession.drained]
            simp only [HttpSession.call, idleUpgrade]
          rw [drains, completed.readNextRequest]
          exact ⟨completed, written rest⟩
        · rw [completed.writeNextResponse]
          exact ⟨completed, written rest⟩
    · rw [finish_of_finished idle.1]
      exact ⟨idle, written _⟩

end Finished

section Runs

/-- What holds of a connection at every position of a run without late successes. -/
def Proceeds (session : HttpSession Request Content) : Prop :=
  session.Open ∧ session.Sound ∨ session.Shut ∧ session.WritesQueued

theorem Proceeds.step {action : HttpAction Request Content} {next : HttpSession Request Content}
    (proceeds : session.Proceeds) (occurs : Occurs session action next)
    (timely : session.finished = true → ¬ LateSuccess session action) : next.Proceeds := by
  obtain ⟨opened, sound⟩ | ⟨shut, queued⟩ := proceeds
  · have same : ({ session with dispatching := true } : HttpSession Request Content) = session := by
      rw [← opened.2.1]
    rw [Occurs, same] at occurs
    have kept := sound.step occurs
    have closes : next.Closes := by
      cases occurs with
      | completes before after event dispatching pending =>
        have landed : Open { session with outstanding := before ++ after } := opened
        exact (landed.perform event).settle
      | stops mode dispatching alive => exact (opened.stop mode).settle
    obtain stays | shuts := closes
    · exact .inl ⟨stays, kept⟩
    · exact .inr ⟨shuts, kept.orderly.writing, kept.orderly.busy⟩
  · have forced : Shut { session with dispatching := true } := shut
    have forcedQueue : WritesQueued { session with dispatching := true } := queued
    rw [Occurs] at occurs
    cases occurs with
    | completes before after event dispatching pending =>
      obtain ⟨shuts, queues⟩ := forced.perform forcedQueue event pending (timely shut.1)
      exact .inr ⟨shuts.settle, queues.settle⟩
    | stops mode dispatching alive =>
      obtain ⟨shuts, queues⟩ := forced.stop mode
      exact .inr ⟨shuts.settle, (queues forcedQueue).settle⟩

theorem admitted_proceeds (stopping : Bool) : (admitted stopping : HttpSession Request Content).Proceeds :=
  .inl ⟨⟨rfl, rfl, rfl, rfl⟩, admitted_sound stopping⟩

/-- In every run no step of which is a late success of a finished connection, a connection has finished
exactly when it has unregistered, and does nothing from then on. -/
theorem finished_session_inert {length : Nat} {stopping : Bool} (run : Run (@Occurs Request Content) length)
    (start : run.state 0 = admitted stopping)
    (timely : ∀ position, position < length → (run.state position).finished = true →
      ¬ LateSuccess (run.state position) (run.label position)) :
    ∀ position, position ≤ length →
      (run.state position).finished = (run.state position).transcript.any HttpCall.unregisters ∧
        Inert (run.state position).transcript := by
  have proceeds := run.invariant_of_steps (P := Proceeds) (start ▸ admitted_proceeds stopping)
    fun position within before => before.step (run.steps position within) (timely position within)
  intro position within
  obtain ⟨opened, -⟩ | ⟨shut, -⟩ := proceeds position within
  · exact ⟨opened.1.trans opened.2.2.2.symm, inert_of_none opened.2.2.2⟩
  · exact ⟨shut.1.trans shut.2.1.symm, shut.2.2⟩

end Runs

namespace Finishing

def awaiting : HeaderInspection := ⟨.needsMoreData, 8192⟩

def readable : HeaderInspection := ⟨.ready, 8192⟩

def keptAlive : GameApiHttpResponse String := ⟨"config", true⟩

def pipelined : HttpInput String String := ⟨"/api/v1/config", false, some (.httpResponse keptAlive), awaiting, .ran⟩

/-- A callback of an operation that stands behind others outstanding. -/
def land (session : HttpSession String String) (before after : List (HttpOperation String))
    (event : HttpEvent String String) : HttpSession String String :=
  (perform { session with dispatching := true, outstanding := before ++ after } event).settle

def reading : HttpSession String String := land (admitted false) [] [] (.start readable)

def answering : HttpSession String String := land reading [] [] (.headerRead .succeeded pipelined)

/-- The first response fails to be written while the next request is being read. -/
def failed : HttpSession String String :=
  land answering [] [.rawRead] (.responseWritten keptAlive .failed pipelined)

def parsing : HttpSession String String := land failed [] [] (.rawHeaderBytesRead .succeeded readable)

def routing : HttpSession String String := land parsing [] [] (.headerRead .succeeded pipelined)

def aborted : HttpSession String String := land failed [] [] (.rawHeaderBytesRead .aborted readable)

theorem start_occurs : Occurs (admitted false) (.callback (.start readable)) reading := .completes [] [] _ rfl rfl

theorem header_occurs : Occurs reading (.callback (.headerRead .succeeded pipelined)) answering :=
  .completes [] [] _ rfl rfl

theorem failure_occurs : Occurs answering (.callback (.responseWritten keptAlive .failed pipelined)) failed :=
  .completes [] [.rawRead] _ rfl rfl

/-- The read outstanding succeeds behind the failed write. -/
def lateRun : Run (@Occurs String String) 5 :=
  have parses : Occurs failed (.callback (.rawHeaderBytesRead .succeeded readable)) parsing :=
    .completes [] [] _ rfl rfl
  have routes : Occurs parsing (.callback (.headerRead .succeeded pipelined)) routing := .completes [] [] _ rfl rfl
  (((((Run.single routes).cons parses).cons failure_occurs).cons header_occurs).cons start_occurs)

/-- The read outstanding is aborted behind the failed write. -/
def abortedRun : Run (@Occurs String String) 4 :=
  have aborts : Occurs failed (.callback (.rawHeaderBytesRead .aborted readable)) aborted := .completes [] [] _ rfl rfl
  ((((Run.single aborts).cons failure_occurs).cons header_occurs).cons start_occurs)

theorem finished_session_inert_aborted :
    (abortedRun.state 4).finished = (abortedRun.state 4).transcript.any HttpCall.unregisters ∧
      Inert (abortedRun.state 4).transcript := by
  have start : abortedRun.state 0 = admitted false := rfl
  refine finished_session_inert abortedRun start (fun position within finished => ?_) 4 (Nat.le_refl 4)
  match position, within with
  | 0, _ => cases finished
  | 1, _ => cases finished
  | 2, _ => cases finished
  | 3, _ =>
    rintro ⟨impossible, -⟩
    cases impossible

/-- A header read that completes after the session has finished is routed, and counts against its peer. -/
theorem finished_session_routes : ∃ run : Run (@Occurs String String) 5, run.state 0 = admitted false ∧
    (run.state 3).finished = true ∧ ∃ before after,
      (run.state 5).transcript = before ++ .unregister :: after ∧ .route "/api/v1/config" ∈ after :=
  ⟨lateRun, rfl, rfl, [.beginRequest, .readHeader, .route "/api/v1/config", .enqueue keptAlive,
    .writeResponse keptAlive, .beginRequest, .readSome, .closeSocket, .releaseTcpLease], _, rfl,
    List.mem_cons_of_mem _ List.mem_cons_self⟩

end Finishing

end HttpSession

end BlobRoyale.Server
