import BlobRoyale.Server.SessionSystem

/-!
# Sessions in the egress queue retry

A slot leaves its session in the queue only where that slot was refused, but for a slot that parks: the
session already waited for its welcome, and the published snapshot no longer shows its body. Such a session
stays in the queue, which it may head, until its body is back or an idle check or a close cancels its wait.
-/

namespace BlobRoyale.Server

open BlobRoyale.Simulation BlobRoyale.Protocol BlobRoyale.Runtime SnapshotEgressBudget SessionWebSocketSession
open Transition

variable {S : Type} [Scalar S]

namespace SessionSystem

variable {system next : SessionSystem S}

/-- After a slot its session waits only where that slot asked for a reservation and was refused. -/
def SlotRetries (system next : SessionSystem S) (client : ClientId) : Prop :=
  client ∈ next.budget.queue → ∃ session after, system.sessions client = some (.playing session) ∧
    next.sessions client = some (.playing after) ∧ Refused session after

/-- A slot of a session that already waits for its welcome, over a published snapshot without its body. -/
def SlotParks (system : SessionSystem S) (client : ClientId) (completion : Completion)
    (input : PresentationInput S) : Prop :=
  client ∈ system.budget.queue ∧ completion = .succeeded ∧ ∃ session latest,
    system.sessions client = some (.playing session) ∧ session.welcomeDelivered = false ∧
    input.published = some latest ∧ session.ownBody latest = none ∧ session.seatRefused latest = false

theorem slot_retries_iff (sound : system.Sound) {client : ClientId} {completion : Completion}
    {input : PresentationInput S} (step : Step system (.perform client (.presentationSlot completion input)) next) :
    SlotRetries system next client ↔ ¬SlotParks system client completion input := by
  have sound' := sound.step step
  cases step with
  | performs _ session after _ calls budget present step appends replays =>
    obtain ⟨queues, proto, waits⟩ := sound.followed client session present
    have assigned : ({ system.assign client (.playing after) with budget := budget } : SessionSystem S).sessions client =
        some (.playing after) := assign_self _ _
    obtain ⟨-, -, waits'⟩ := sound'.followed client after assigned
    obtain ⟨-, slot⟩ := step.slot queues proto
    have retries : SlotRetries system { system.assign client (.playing after) with budget := budget } client ↔
        (after.waiting = true → Refused session after) := by
      constructor
      · intro retried waiting
        obtain ⟨session', after', here, there, refused⟩ := retried (waits'.mpr waiting)
        cases present.symm.trans here
        cases assigned.symm.trans there
        exact refused
      · intro refused queued
        exact ⟨session, after, present, assigned, refused (waits'.mp queued)⟩
    have parks : SlotParks system client completion input ↔ session.Parks completion input := by
      constructor
      · rintro ⟨queued, succeeded, session', latest, here, undelivered, published, bodyless, unrefused⟩
        cases present.symm.trans here
        exact ⟨waits.mp queued, undelivered, succeeded, latest, published, bodyless, unrefused⟩
      · rintro ⟨waiting, undelivered, succeeded, latest, published, bodyless, unrefused⟩
        exact ⟨waits.mpr waiting, succeeded, session, latest, present, undelivered, published, bodyless, unrefused⟩
    rw [retries, slot, parks]

section Parked

/-- A client of another kind is served a whole reservation, which its payload fills. -/
def filled (budget : SnapshotEgressBudget) (client : ClientId) :
    Except EgressFault (SnapshotEgressLease × SnapshotEgressBudget) :=
  (budget.tryReserve client 0).2.commitEncodedBytes (some ⟨snapshotEgressReservationByteCount, false⟩)
    snapshotFrameMaximumByteCount

/-- Eight clients of another kind, whose payloads are the bytes in flight. -/
def crowded (system : SessionSystem ℚ) : SessionSystem ℚ :=
  let another := system.registered false
  match filled another.budget system.nextSessionId with
  | .ok (_, budget) => { another with budget := budget }
  | .error _ => another

def crowd : Nat → SessionSystem ℚ
  | 0 => create 0 1
  | others + 1 => (crowd others).crowded

theorem crowded_reached (system : SessionSystem ℚ) :
    Relation.ReflTransGen (fun before after => ∃ action, Step before action after) system system.crowded := by
  have joins : Step system (.register false) (system.registered false) := .registers false
  have listed : (system.registered false).sessions system.nextSessionId = some .other := assign_self _ _
  have reserves : Step (system.registered false) (.elsewhere system.nextSessionId (.tryReserve 0 _))
      { system.registered false with budget := (system.budget.tryReserve system.nextSessionId 0).2 } :=
    .calls _ _ _ listed (.reserved rfl)
  cases fills : filled (system.registered false).budget system.nextSessionId with
  | error fault =>
    rw [crowded, fills]
    exact .single ⟨_, joins⟩
  | ok settled =>
    obtain ⟨lease, budget⟩ := settled
    rw [crowded, fills]
    have commits : Step { system.registered false with
          budget := (system.budget.tryReserve system.nextSessionId 0).2 }
        (.elsewhere system.nextSessionId (.commitEncodedBytes _ _ (.ok lease)))
        { system.registered false with budget := budget } := .calls _ _ _ listed (.committed fills)
    exact .tail (.tail (.single ⟨_, joins⟩) ⟨_, reserves⟩) ⟨_, commits⟩

theorem crowd_reached (others : Nat) :
    Relation.ReflTransGen (fun before after => ∃ action, Step before action after) (create 0 1) (crowd others) := by
  induction others with
  | zero => exact .refl
  | succ others ih => exact ih.trans (crowded_reached _)

def origin : Vector2 ℚ := ⟨0, 0, by decide, by decide⟩

def standingBody : PhysicsBody ℚ where
  position := origin
  velocity := origin
  acceleration := origin
  radius := PhysicsBody.undeclaredRadius
  mass := PhysicsBody.defaultMass
  restitution := PhysicsBody.defaultRestitution
  dragScale := PhysicsBody.defaultDragScale
  collisionLayer := PhysicsBody.defaultCollisionLayer
  collisionMask := PhysicsBody.defaultCollisionMask
  isStatic := false
  boundsBehavior := .fold
  groundAttachment := .floating
  massAdmitted := by decide
  restitutionAdmitted := by decide
  dragScaleAdmitted := by decide

/-- What a room publishes while the accepted controller drives a body. -/
def bodied : WorldSnapshot ℚ where
  tickSequence := .zero
  stores := fun kind => match kind with
    | .controllable => ⟨⟨[(.first, Controllable.linked acceptedController)], List.pairwise_singleton ..⟩, by decide⟩
    | .physicsBody => ⟨⟨[(.first, standingBody)], List.pairwise_singleton ..⟩, by decide⟩
    | _ => .empty
  matchState := .initial

def bodyless : WorldSnapshot ℚ := ⟨.zero, fun _ => .empty, .initial⟩

def slotOver (published : Option (WorldSnapshot ℚ)) : PresentationInput ℚ where
  now := 0
  published := published
  reservation := .ok none
  encodedByteCount := none
  commit := .error .terminated
  initiates := false

def joined : SessionWebSocketSession ℚ := (handshaken 9 0).accepted (.opened acceptedController)

def slotted (session : SessionWebSocketSession ℚ) (published : Option (WorldSnapshot ℚ)) :
    SessionWebSocketSession ℚ :=
  (session.completed ⟨.presentationWait, false⟩).presentationSlot .succeeded (slotOver published)

def refusedOnce : SessionWebSocketSession ℚ := slotted joined (some bodied)

def parkedThen : SessionWebSocketSession ℚ := slotted refusedOnce (some bodyless)

/-- A system whose session of identity nine is in one of its states. -/
def playing (system : SessionSystem ℚ) (budget : SnapshotEgressBudget) (session : SessionWebSocketSession ℚ) :
    SessionSystem ℚ :=
  { system.assign 9 (.playing session) with budget := budget }

theorem playing_sessions (system : SessionSystem ℚ) (budget : SnapshotEgressBudget)
    (session : SessionWebSocketSession ℚ) :
    (system.playing budget session).sessions 9 = some (.playing session) :=
  system.assign_self 9 (.playing session)

theorem slot_performs (system : SessionSystem ℚ) {budget after : SnapshotEgressBudget}
    {session : SessionWebSocketSession ℚ} {published : Option (WorldSnapshot ℚ)} {calls : List (SessionCall ℚ)}
    (pending : ⟨.presentationWait, false⟩ ∈ session.outstanding)
    (appends : (slotted session published).transcript = session.transcript ++ calls)
    (replays : SessionCall.Replays 9 calls budget after) :
    Step (system.playing budget session) (.perform 9 (.presentationSlot .succeeded (slotOver published)))
      (system.playing after (slotted session published)) := by
  have slot : session.Step (.presentationSlot .succeeded (slotOver published)) (slotted session published) :=
    .completes _ ⟨.presentationWait, false⟩ .succeeded pending rfl (fun impossible => by cases impossible)
  have performed := Step.performs 9 session _ _ calls after (system.playing_sessions budget session) slot appends
    replays
  have same : (system.playing budget session).assign 9 (.playing (slotted session published)) =
      { system.assign 9 (.playing (slotted session published)) with budget := budget } := by
    simp only [playing, assign, Function.update_idem]
  rw [same] at performed
  exact performed

theorem exists_parked {system : SessionSystem ℚ} (next : system.nextSessionId = 9)
    (exhausted : (system.budget.tryReserve 9 0).1 = .ok none)
    (queued : 9 ∈ (system.budget.tryReserve 9 0).2.queue) :
    ∃ run : Run (Step (S := ℚ)) 4, run.state 0 = system ∧
      run.label 3 = .perform 9 (.presentationSlot .succeeded (slotOver (some bodyless))) ∧
      SlotParks (run.state 3) 9 .succeeded (slotOver (some bodyless)) := by
  have registers : Step system (.register true) (system.registered true) := .registers true
  have handshaking : (system.registered true).sessions 9 = some .handshaking := by
    rw [← next]
    exact assign_self _ _
  have accepts : Step (system.registered true) (.accept 9 0 (.opened acceptedController))
      ((system.registered true).playing system.budget joined) :=
    .accepts 9 0 _ _ handshaking (.cons (.elsewhere rfl) .nil)
  have refuses : Step ((system.registered true).playing system.budget joined) _
      ((system.registered true).playing _ refusedOnce) :=
    slot_performs _ (by decide) rfl (.cons (.reserved (Prod.ext exhausted rfl)) .nil)
  have parks : Step ((system.registered true).playing (system.budget.tryReserve 9 0).2 refusedOnce) _
      ((system.registered true).playing _ parkedThen) :=
    slot_performs _ (by decide) rfl (.cons (.elsewhere rfl) .nil)
  exact ⟨(((Run.single parks).cons refuses).cons accepts).cons registers, rfl, rfl, queued, rfl, refusedOnce,
    bodyless, playing_sessions _ _ _, rfl, rfl, rfl, rfl⟩

theorem crowd_next : (crowd 8).nextSessionId = 9 := by decide +kernel

theorem crowd_exhausts : ((crowd 8).budget.tryReserve 9 0).1 = .ok none := by decide +kernel

theorem crowd_queues : 9 ∈ ((crowd 8).budget.tryReserve 9 0).2.queue := by decide +kernel

end Parked

section Runs

variable {length : Nat} {createdAt : Int} {firstSessionId : ClientId}

theorem run_sound (run : Run (Step (S := S)) length) (start : run.state 0 = create createdAt firstSessionId) :
    ∀ position, position ≤ length → (run.state position).Sound :=
  run.invariant (start ▸ create_sound createdAt firstSessionId) fun sound step => sound.step step

/-- In every run, a slot leaves its session in the queue only where it was refused, unless it parks. -/
theorem slot_retries_unless_parked (run : Run (Step (S := S)) length)
    (start : run.state 0 = create createdAt firstSessionId) : ∀ position, position < length →
      ∀ client completion input, run.label position = .perform client (.presentationSlot completion input) →
        (SlotRetries (run.state position) (run.state (position + 1)) client ↔
          ¬SlotParks (run.state position) client completion input) := by
  intro position within client completion input label
  have step := run.steps position within
  rw [label] at step
  exact slot_retries_iff (run_sound run start position (Nat.le_of_lt within)) step

/-- A session that waits for its welcome when its body goes keeps its place and asks for nothing. -/
theorem slot_keeps_waiting_unasked : ¬∀ (length : Nat) (run : Run (Step (S := ℚ)) length),
    run.state 0 = create 0 1 → ∀ position, position < length → ∀ client completion input,
      run.label position = .perform client (.presentationSlot completion input) →
        SlotRetries (run.state position) (run.state (position + 1)) client := by
  intro retries
  obtain ⟨crowding, asked, label, parks⟩ := exists_parked crowd_next crowd_exhausts crowd_queues
  obtain ⟨length, offset, run, start, ends, same⟩ := crowding.exists_behind (asked ▸ crowd_reached 8)
  obtain ⟨state, label'⟩ := same 3
  have within : offset + 3 < length := by omega
  have slot := label'.trans label
  have step := run.steps (offset + 3) within
  rw [slot] at step
  have sound := run_sound run start (offset + 3) (Nat.le_of_lt within)
  exact (slot_retries_iff sound step).mp (retries length run start _ within _ _ _ slot) (state ▸ parks)

/-- A session accepted before its room has published anything. -/
def unpublishedRun : Run (Step (S := ℚ)) 3 :=
  have handshaking : ((create 0 9).registered true : SessionSystem ℚ).sessions 9 = some .handshaking :=
    (create 0 9 : SessionSystem ℚ).assign_self 9 .handshaking
  have accepts : Step ((create 0 9).registered true) (.accept 9 0 (.opened acceptedController))
      (((create 0 9).registered true).playing (.create 0) joined) :=
    .accepts 9 0 _ _ handshaking (.cons (.elsewhere rfl) .nil)
  have closes : Step (((create 0 9).registered true).playing (.create 0) joined) _
      (((create 0 9).registered true).playing (.create 0) (slotted joined none)) :=
    slot_performs _ (by decide) rfl (.cons (.elsewhere rfl) (.cons (.cancelled rfl)
      (.cons (.elsewhere rfl) (.cons (.elsewhere rfl) (.cons (.elsewhere rfl) .nil)))))
  ((Run.single closes).cons accepts).cons (.registers true)

theorem slot_retries_unless_parked_unpublished :
    SlotRetries (unpublishedRun.state 2) (unpublishedRun.state 3) 9 := by
  have start : unpublishedRun.state 0 = create 0 9 := rfl
  refine (slot_retries_unless_parked unpublishedRun start 2 (by decide) 9 .succeeded (slotOver none) rfl).mpr ?_
  rintro ⟨-, -, _, _, -, -, published, -⟩
  cases published

end Runs

end SessionSystem

end BlobRoyale.Server
