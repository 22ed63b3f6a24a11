import BlobRoyale.Library.Transition
import BlobRoyale.Server.SessionSteps
import BlobRoyale.Server.SessionPresentation

/-!
# What a session keeps on every run

From its handshake on, whatever order its callbacks come in: one operation at a time, numbered writes with
ascending ticks, silence behind a requested close, one departure, one close, and no close that stalls.
-/

namespace BlobRoyale.Server.SessionWebSocketSession

open BlobRoyale.Simulation BlobRoyale.Protocol BlobRoyale.Runtime SessionProtocol Relation Transition

variable {S : Type} [Scalar S] {session : SessionWebSocketSession S} {protocol next : SessionProtocol S}

/-- What a session has said of its deliveries, its close and its departure. -/
def said (session : SessionWebSocketSession S) : List ProtocolCall :=
  session.transcript.filterMap SessionCall.protocolCall

def JoinOutcome.controller : JoinOutcome → Option ControllerId
  | .opened controller => some controller
  | .refused | .failed => none

/-- The delivery and close protocol of a session whose match session was opened for a controller, if any. -/
structure Delivers (session : SessionWebSocketSession S) (opened : Option ControllerId) : Prop where
  exclusive : session.pending .welcomeWrite + session.pending .snapshotWrite + session.pending .ping +
    session.pending .close ≤ 1
  numbered : session.said.filterMap ProtocolCall.dataWrite = [] ∨
    ∃ ticks, ticks.Pairwise (· < ·) ∧ ProtocolCall.Numbered (session.said.filterMap ProtocolCall.dataWrite) ticks
  hushed : ProtocolCall.Hushed session.said
  closes : session.said.count .close ≤ 1
  departs : session.said.count .countedOut ≤ 1 ∧
    session.said.filterMap ProtocolCall.closedController = (if session.said.count .countedOut = 1 then
      opened.toList else [])
  departed : session.closeRequested = true ∨ session.finished = true →
    (session.said.count .countedOut = 1 ↔ opened.isSome = true)
  progress : session.closeRequested = true → session.finished = false → session.closeStarted = false →
    0 < session.pending .welcomeWrite + session.pending .snapshotWrite + session.pending .ping +
      session.pending .serverFailure

section Initial

theorem handshaken_sound (sessionId : ClientId) (openedAt : Int) (controller : Option ControllerId) :
    ({ handshaken sessionId openedAt with controller := controller } : SessionWebSocketSession S).view.Sound := by
  refine ⟨⟨⟨rfl, rfl, rfl, Nat.zero_le _, id, fun _ => rfl, ?_, ?_⟩, ?_, ?_, ?_⟩, ⟨?_, ?_, rfl, rfl⟩, ⟨?_, rfl, ?_⟩,
    [], .nil, fun _ => SnapshotDeliveryState.initial_ordered, ?_, fun _ _ => rfl, .inl ⟨rfl, rfl⟩, ?_,
    fun _ _ _ => rfl, ?_⟩
  · intro impossible
    cases impossible
  · intro impossible
    cases impossible
  · intro _ impossible
    cases impossible
  · intro _ impossible
    cases impossible
  · intro impossible
    cases impossible
  · intro impossible
    cases impossible
  · rintro (impossible | impossible) <;> cases impossible
  · constructor
    · intro impossible
      cases impossible
    · intro impossible
      cases impossible
  · intro before after split
    exact absurd split (by simp [view, handshaken])
  · intro _ tick impossible
    cases impossible
  · intro _ _
    constructor
    · intro said
      exact absurd rfl said
    · rintro (impossible | impossible) <;> cases impossible
  · intro impossible
    cases impossible

theorem accepted_sound (sessionId : ClientId) (openedAt : Int) (outcome : JoinOutcome) :
    ((handshaken sessionId openedAt).accepted outcome : SessionWebSocketSession S).view.Sound ∧
      ((handshaken sessionId openedAt).accepted outcome : SessionWebSocketSession S).view.controller =
        outcome.controller := by
  have start : (handshaken sessionId openedAt : SessionWebSocketSession S).view.Sound :=
    handshaken_sound sessionId openedAt none
  cases outcome with
  | opened controller =>
    have same : ((handshaken sessionId openedAt).accepted (.opened controller) : SessionWebSocketSession S).view =
        ({ handshaken sessionId openedAt with controller := some controller } : SessionWebSocketSession S).view := by
      rw [accepted, view_schedulePresentationSlot, view_scheduleIdleCheck, view_readClientFrame,
        view_call_silent rfl]
    rw [same]
    exact ⟨handshaken_sound sessionId openedAt (some controller), rfl⟩
  | refused =>
    rw [accepted, view_requestClose]
    exact ⟨start.requestClose, requestClose_controller⟩
  | failed =>
    rw [accepted, view_reportSessionFailure]
    exact ⟨start.requestClose.failed, requestClose_controller⟩

end Initial

section Runs

theorem delivers_of_sound (sound : session.view.Sound) : session.Delivers session.controller := by
  obtain ⟨operating, departing, hushing, ticks, delivering⟩ := sound
  have counted : session.said.count .countedOut = session.leftMatch.toNat := departing.counted
  have once : session.said.count .countedOut = 1 ↔ session.leftMatch = true := by
    rw [counted]
    cases session.leftMatch <;> decide
  refine ⟨operating.exclusive, ?_, hushing.hushed, ?_, ⟨?_, ?_⟩, ?_, operating.progress⟩
  · exact delivering.writes.imp (·.2) fun numbered => ⟨ticks, delivering.ascending, numbered⟩
  · exact hushing.closes.le.trans (Bool.toNat_le _)
  · exact counted.le.trans (Bool.toNat_le _)
  · rw [if_congr once rfl rfl]
    exact departing.closed
  · intro leaves
    rw [once]
    have left : session.leftMatch = session.controller.isSome := departing.departed leaves
    rw [left]

variable {length : Nat} {sessionId : ClientId} {openedAt : Int} {outcome : JoinOutcome}

/-- Along every run of its callbacks a session keeps its delivery and close protocol. -/
theorem session_delivery_and_close (run : Run (Step (S := S)) length)
    (start : run.state 0 = (handshaken sessionId openedAt).accepted outcome) :
    ∀ position, position ≤ length → (run.state position).Delivers outcome.controller := by
  have kept : ∀ position, position ≤ length → (run.state position).view.Sound ∧
      (run.state position).view.controller = outcome.controller := by
    refine run.invariant (P := fun session => session.view.Sound ∧
      session.view.controller = outcome.controller) ?_ ?_
    · rw [start]
      exact accepted_sound sessionId openedAt outcome
    · intro session event next holds step
      have moved := step.moves holds.1
      exact ⟨holds.1.moves moved, (moves_controller moved).trans holds.2⟩
  intro position within
  obtain ⟨sound, same⟩ := kept position within
  exact same ▸ delivers_of_sound sound

def acceptedController : ControllerId := ⟨4, by decide, by decide⟩

/-- A session accepted for a controller is asked to stop. -/
def stoppedRun : Run (Step (S := ℚ)) 1 :=
  have stops : Step ((handshaken 3 0).accepted (.opened acceptedController)) (.requestStop .graceful)
      (((handshaken 3 0).accepted (.opened acceptedController) : SessionWebSocketSession ℚ).perform
        (.requestStop .graceful)) := .outside _ rfl
  .single stops

theorem session_delivery_and_close_stopped : (stoppedRun.state 1).Delivers (some acceptedController) :=
  have start : stoppedRun.state 0 = (handshaken 3 0).accepted (.opened acceptedController) := rfl
  session_delivery_and_close stoppedRun start 1 (Nat.le_refl 1)

end Runs

end BlobRoyale.Server.SessionWebSocketSession

/-!
# Sessions over one egress budget

Every session of the server over the one budget, in any order of their callbacks: the queue always holds
exactly the followed sessions that wait, beside clients of other kinds.
-/

namespace BlobRoyale.Server

open BlobRoyale.Simulation BlobRoyale.Protocol BlobRoyale.Runtime SnapshotEgressBudget SessionWebSocketSession
open Transition

variable {S : Type} [Scalar S]

/-- What a registered session identity stands for: a session before its handshake, one this model follows,
or one of another kind. -/
inductive RegisteredSession (S : Type) [Scalar S] where
  | handshaking
  | playing (session : SessionWebSocketSession S)
  | other

structure SessionSystem (S : Type) [Scalar S] where
  budget : SnapshotEgressBudget
  sessions : ClientId → Option (RegisteredSession S)
  nextSessionId : ClientId

inductive SessionSystemAction (S : Type) [Scalar S] where
  | register (handshakes : Bool)
  | abandon (client : ClientId)
  | accept (client : ClientId) (openedAt : Int) (outcome : JoinOutcome)
  | perform (client : ClientId) (event : SessionEvent S)
  | elsewhere (client : ClientId) (call : SessionCall S)

namespace SessionSystem

def create (createdAt : Int) (firstSessionId : ClientId) : SessionSystem S :=
  ⟨.create createdAt, fun _ => none, firstSessionId⟩

def assign (system : SessionSystem S) (client : ClientId) (registered : RegisteredSession S) : SessionSystem S :=
  { system with sessions := Function.update system.sessions client (some registered) }

def registered (system : SessionSystem S) (handshakes : Bool) : SessionSystem S :=
  { system.assign system.nextSessionId (if handshakes then .handshaking else .other) with
    nextSessionId := system.nextSessionId + 1 }

/-- One callback of one session, with its calls answered by the budget, or a call of another client. -/
inductive Step (system : SessionSystem S) : SessionSystemAction S → SessionSystem S → Prop
  | registers (handshakes : Bool) : Step system (.register handshakes) (system.registered handshakes)
  | abandons (client : ClientId) (handshaking : system.sessions client = some .handshaking) :
      Step system (.abandon client) (system.assign client .other)
  | accepts (client : ClientId) (openedAt : Int) (outcome : JoinOutcome) (budget : SnapshotEgressBudget)
      (handshaking : system.sessions client = some .handshaking)
      (replays : SessionCall.Replays client
        ((handshaken client openedAt).accepted outcome : SessionWebSocketSession S).transcript system.budget budget) :
      Step system (.accept client openedAt outcome)
        { system.assign client (.playing ((handshaken client openedAt).accepted outcome)) with budget := budget }
  | performs (client : ClientId) (session next : SessionWebSocketSession S) (event : SessionEvent S)
      (calls : List (SessionCall S)) (budget : SnapshotEgressBudget)
      (present : system.sessions client = some (.playing session)) (step : session.Step event next)
      (appends : next.transcript = session.transcript ++ calls)
      (replays : SessionCall.Replays client calls system.budget budget) :
      Step system (.perform client event) { system.assign client (.playing next) with budget := budget }
  | calls (client : ClientId) (call : SessionCall S) (budget : SnapshotEgressBudget)
      (another : system.sessions client = some .other) (answers : call.Answers client system.budget budget) :
      Step system (.elsewhere client call) { system with budget := budget }

variable {system next : SessionSystem S}

/-- The queue holds only clients that may call, and a followed session exactly while it waits. -/
structure Sound (system : SessionSystem S) : Prop where
  orderly : system.budget.Orderly
  unissued : ∀ client, system.nextSessionId ≤ client → system.sessions client = none
  absent : ∀ client, system.sessions client = none ∨ system.sessions client = some .handshaking →
    client ∉ system.budget.queue
  followed : ∀ client session, system.sessions client = some (.playing session) →
    session.Queueing ∧ session.view.Sound ∧ (client ∈ system.budget.queue ↔ session.waiting = true)

theorem create_sound (createdAt : Int) (firstSessionId : ClientId) :
    (create createdAt firstSessionId : SessionSystem S).Sound := by
  have nobody : (SnapshotEgressBudget.create createdAt).queue = [] := rfl
  refine ⟨⟨Nat.zero_le _, ?_⟩, fun _ _ => rfl, ?_, ?_⟩
  · rw [create, nobody]
    exact List.nodup_nil
  · intro client _
    rw [create, nobody]
    exact List.not_mem_nil
  · intro client session impossible
    cases impossible

theorem assign_self (client : ClientId) (registered : RegisteredSession S) :
    (system.assign client registered).sessions client = some registered := Function.update_self ..

theorem assign_of_ne {client other : ClientId} (different : other ≠ client) (registered : RegisteredSession S) :
    (system.assign client registered).sessions other = system.sessions other := Function.update_of_ne different ..

/-- A followed session's callback keeps the system sound, once its session's own queueing is right. -/
theorem Sound.played (sound : system.Sound) {client : ClientId} {session : SessionWebSocketSession S}
    {budget : SnapshotEgressBudget} (issued : system.sessions client ≠ none) (queues : session.Queueing)
    (proto : session.view.Sound) (moves : Moves client session.waiting system.budget budget) :
    ({ system.assign client (.playing session) with budget := budget } : SessionSystem S).Sound := by
  refine ⟨moves.orderly, ?_, ?_, ?_⟩
  · intro other beyond
    have free := sound.unissued other beyond
    have different : other ≠ client := by
      rintro rfl
      exact issued free
    exact (assign_of_ne different _).trans free
  · intro other unplayed
    by_cases same : other = client
    · subst same
      dsimp only at unplayed
      rw [assign_self] at unplayed
      simp at unplayed
    · dsimp only at unplayed ⊢
      rw [assign_of_ne same] at unplayed
      rw [moves.others other same]
      exact sound.absent other unplayed
  · intro other session' played
    dsimp only at played ⊢
    by_cases same : other = client
    · subst same
      rw [assign_self] at played
      cases played
      exact ⟨queues, proto, moves.own⟩
    · rw [assign_of_ne same] at played
      rw [moves.others other same]
      exact sound.followed other session' played

theorem handshaken_queueing (client : ClientId) (openedAt : Int) (controller : Option ControllerId) :
    ({ handshaken client openedAt with controller := controller } : SessionWebSocketSession S).Queueing := by
  refine ⟨fun _ => rfl, fun _ => rfl, fun _ => ⟨Nat.zero_le _, fun _ impossible => by cases impossible⟩, ?_, ?_, ?_, ?_⟩ <;>
    intro impossible <;> cases impossible

theorem accepted_queueing (client : ClientId) (openedAt : Int) (outcome : JoinOutcome) :
    ((handshaken client openedAt).accepted outcome : SessionWebSocketSession S).Queueing := by
  have start : (handshaken client openedAt : SessionWebSocketSession S).Queueing :=
    handshaken_queueing client openedAt none
  cases outcome with
  | opened controller =>
    have owned := handshaken_queueing (S := S) client openedAt (some controller)
    have counted : Quiet { handshaken client openedAt with controller := some controller }
        (call { handshaken client openedAt with controller := some controller } .countSessionIn :
          SessionWebSocketSession S) := quiet_call .countSessionIn id
    have listening := (counted.trans quiet_readClientFrame).trans quiet_scheduleIdleCheck
    refine queueing_schedulePresentationSlot (listening.queueing owned) (listening.waitless ?_)
    intro _
    rfl
  | refused => exact (quiet_requestClose start).queueing start
  | failed => exact (quiet_reportSessionFailure start).queueing start

theorem Sound.step {action : SessionSystemAction S} (sound : system.Sound) (step : Step system action next) :
    next.Sound := by
  cases step with
  | registers handshakes =>
    have free := sound.unissued _ (Nat.le_refl system.nextSessionId)
    refine ⟨sound.orderly, ?_, ?_, ?_⟩
    · intro client beyond
      have later : system.nextSessionId + 1 ≤ client := beyond
      exact (assign_of_ne (Nat.ne_of_gt later) _).trans (sound.unissued client (Nat.le_of_succ_le later))
    · intro client unplayed
      by_cases same : client = system.nextSessionId
      · rw [same]
        exact sound.absent _ (.inl free)
      · refine sound.absent client ?_
        have kept : (system.registered handshakes).sessions client = system.sessions client := assign_of_ne same _
        rw [kept] at unplayed
        exact unplayed
    · intro client session played
      by_cases same : client = system.nextSessionId
      · rw [same] at played
        have assigned : (system.registered handshakes).sessions system.nextSessionId =
            some (if handshakes then .handshaking else .other) := assign_self _ _
        rw [assigned] at played
        split at played <;> cases played
      · have kept : (system.registered handshakes).sessions client = system.sessions client := assign_of_ne same _
        rw [kept] at played
        exact sound.followed client session played
  | abandons client handshaking =>
    refine ⟨sound.orderly, ?_, ?_, ?_⟩
    · intro other beyond
      have free := sound.unissued other beyond
      have different : other ≠ client := by
        rintro rfl
        rw [handshaking] at free
        cases free
      exact (assign_of_ne different _).trans free
    · intro other unplayed
      by_cases same : other = client
      · subst same
        exact sound.absent other (.inr handshaking)
      · rw [assign_of_ne same] at unplayed
        exact sound.absent other unplayed
    · intro other session played
      by_cases same : other = client
      · subst same
        rw [assign_self] at played
        cases played
      · rw [assign_of_ne same] at played
        exact sound.followed other session played
  | accepts client openedAt outcome budget handshaking replays =>
    have absent : client ∈ system.budget.queue ↔ false = true :=
      iff_of_false (sound.absent client (.inr handshaking)) Bool.false_ne_true
    refine sound.played ?_ (accepted_queueing client openedAt outcome) (accepted_sound client openedAt outcome).1
      (replays.moves sound.orderly absent)
    rw [handshaking]
    exact Option.some_ne_none _
  | performs client session next event calls budget present step appends replays =>
    obtain ⟨queues, proto, waits⟩ := sound.followed client session present
    have moves := replays.moves sound.orderly waits
    have after : calls.foldl SessionCall.waits session.waiting = next.waiting := by
      rw [waiting, waiting, appends, List.foldl_append]
    have queues' : next.Queueing := by
      by_cases slot : ∃ completion input, event = .presentationSlot completion input
      · obtain ⟨completion, input, rfl⟩ := slot
        exact (step.slot queues proto).1
      · exact (step.quiet queues proto fun completion input same => slot ⟨completion, input, same⟩).queueing queues
    refine sound.played ?_ queues' (proto.moves (step.moves proto)) (after ▸ moves)
    rw [present]
    exact Option.some_ne_none _
  | calls client call budget another answers =>
    have moves : ∃ waits, Moves client waits system.budget budget := by
      by_cases waiting : client ∈ system.budget.queue
      · exact ⟨_, answers.moves sound.orderly (iff_of_true waiting rfl)⟩
      · exact ⟨_, answers.moves sound.orderly (iff_of_false waiting Bool.false_ne_true)⟩
    obtain ⟨_, moves⟩ := moves
    refine ⟨moves.orderly, sound.unissued, ?_, ?_⟩
    · intro other unplayed
      have different : other ≠ client := by
        rintro rfl
        dsimp only at unplayed
        rw [another] at unplayed
        simp at unplayed
      rw [moves.others other different]
      exact sound.absent other unplayed
    · intro other session played
      have different : other ≠ client := by
        rintro rfl
        dsimp only at played
        rw [another] at played
        cases played
      rw [moves.others other different]
      exact sound.followed other session played

end SessionSystem

end BlobRoyale.Server
