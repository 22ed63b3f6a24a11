import BlobRoyale.Server.SessionWaits

/-!
# A presentation slot and the queue

What a slot leaves of its session's waiting: it was refused in this very slot, or it waited before and met
a published snapshot without its body.
-/

namespace BlobRoyale.Server.SessionWebSocketSession

open BlobRoyale.Simulation BlobRoyale.Protocol BlobRoyale.Runtime

variable {S : Type} [Scalar S] {session next : SessionWebSocketSession S} {input : PresentationInput S}
variable {lease : SnapshotEgressLease} {latest : WorldSnapshot S}

/-- A callback asked for a reservation and was refused. -/
def Refused (session next : SessionWebSocketSession S) : Prop :=
  ∃ calls now, next.transcript = session.transcript ++ calls ∧ SessionCall.tryReserve now (.ok none) ∈ calls

/-- A callback did nothing but submit commands. -/
def Submits (session next : SessionWebSocketSession S) : Prop :=
  ∃ calls, next.transcript = session.transcript ++ calls ∧ ∀ made ∈ calls, ∃ command, made = .submit command

theorem Submits.refl : Submits session session :=
  ⟨[], (List.append_nil _).symm, fun _ impossible => by cases impossible⟩

theorem Submits.trans {last : SessionWebSocketSession S} (first : Submits session next) (second : Submits next last) :
    Submits session last := by
  obtain ⟨calls, same, submits⟩ := first
  obtain ⟨more, same', submits'⟩ := second
  refine ⟨calls ++ more, by rw [same', same, List.append_assoc], fun made member => ?_⟩
  obtain earlier | later := List.mem_append.mp member
  · exact submits made earlier
  · exact submits' made later

theorem Submits.refused {last : SessionWebSocketSession S} (submits : Submits session next)
    (refused : Refused next last) : Refused session last := by
  obtain ⟨calls, same, -⟩ := submits
  obtain ⟨more, now, same', member⟩ := refused
  exact ⟨calls ++ more, now, by rw [same', same, List.append_assoc], List.mem_append_right _ member⟩

theorem Submits.not_refused (submits : Submits session next) : ¬Refused session next := by
  rintro ⟨calls, now, same, member⟩
  obtain ⟨submitted, same', only⟩ := submits
  have equal : calls = submitted := List.append_cancel_left (same.symm.trans same')
  obtain ⟨command, impossible⟩ := only _ (equal ▸ member)
  cases impossible

section Seating

/-- The body a published snapshot shows this session. -/
def ownBody (session : SessionWebSocketSession S) (latest : WorldSnapshot S) : Option EntityId :=
  session.controller.bind latest.findControlledBody

/-- Whether the published roster has no seat for this session. -/
def seatRefused (session : SessionWebSocketSession S) (latest : WorldSnapshot S) : Bool :=
  session.controller.any fun controller =>
    !decide (latest.matchState.seats.seatCount = 0) && !latest.matchState.seats.seats.any (holdsSeat controller) &&
      (latest.matchState.seats.firstJoinableSeat latest.matchState.phase).isNone

theorem observeOwnEntity_currentEntity (queues : session.Queueing) :
    (session.observeOwnEntity latest).currentEntity = session.ownBody latest := by
  unfold observeOwnEntity ownBody
  cases held : session.controller with
  | none => exact queues.unseated held
  | some controller =>
    dsimp only [Option.bind_some]
    cases latest.findControlledBody controller with
    | none => rfl
    | some entity => rfl

theorem quiet_observeOwnEntity : Quiet session (session.observeOwnEntity latest) := by
  unfold observeOwnEntity
  split
  · exact .refl
  · next controller held =>
    have owned : session.controller ≠ none := by
      rw [held]
      exact Option.some_ne_none controller
    split
    · exact ⟨id, id, fun open' => ⟨open', rfl⟩, fun _ missing => absurd missing owned, fun _ => rfl, fun _ => id,
        fun _ => rfl, fun _ => rfl, fun _ => rfl, fun _ => id⟩
    · exact ⟨id, id, fun open' => ⟨open', rfl⟩, fun _ missing => absurd missing owned, fun _ => rfl, fun _ => id,
        fun _ => rfl, fun _ => rfl, fun _ => rfl, fun _ => id⟩

theorem observeOwnEntity_eq : session.observeOwnEntity latest = { session with
    currentEntity := (session.observeOwnEntity latest).currentEntity
    lastSpawnRequestTick := (session.observeOwnEntity latest).lastSpawnRequestTick } := by
  unfold observeOwnEntity
  split
  · rfl
  · split <;> rfl

theorem requestSeatIfAbsent_of_refused (refused : session.seatRefused latest = true) :
    session.requestSeatIfAbsent latest = session.requestClose .lobbyFull := by
  unfold seatRefused at refused
  cases held : session.controller with
  | none =>
    rw [held] at refused
    cases refused
  | some controller =>
    rw [held] at refused
    simp only [Option.any_some, Bool.and_eq_true, Bool.not_eq_true', decide_eq_false_iff_not] at refused
    obtain ⟨⟨roster, seatless⟩, unjoinable⟩ := refused
    unfold requestSeatIfAbsent
    rw [held]
    dsimp only
    rw [if_neg roster, if_neg (by rw [seatless]; decide), if_pos unjoinable]

/-- A session the roster does not refuse only submits, which its queueing does not notice. -/
structure Asks (session next : SessionWebSocketSession S) : Prop where
  submits : Submits session next
  view : next.view = session.view
  quiet : Quiet session next

theorem Asks.refl : Asks session session := ⟨.refl, rfl, .refl⟩

theorem Asks.trans {last : SessionWebSocketSession S} (first : Asks session next) (second : Asks next last) :
    Asks session last :=
  ⟨first.submits.trans second.submits, second.view.trans first.view, first.quiet.trans second.quiet⟩

theorem Asks.submit (command : Command S) : Asks session (session.call (.submit command)) := by
  refine ⟨⟨[.submit command], rfl, fun made member => ⟨command, ?_⟩⟩, view_call_silent rfl, quiet_call _ id⟩
  exact List.mem_singleton.mp member

theorem asks_observeOwnEntity : Asks session (session.observeOwnEntity latest) := by
  refine ⟨⟨[], ?_, fun _ impossible => by cases impossible⟩, view_observeOwnEntity, quiet_observeOwnEntity⟩
  rw [observeOwnEntity_eq, List.append_nil]

theorem asks_requestBodyIfAbsent {observed : TickSequence} :
    Asks session (session.requestBodyIfAbsent observed) := by
  unfold requestBodyIfAbsent
  split
  · exact .refl
  · split
    · exact .refl
    · have noted : Asks session { session with lastSpawnRequestTick := some observed } :=
        ⟨⟨[], (List.append_nil _).symm, fun _ impossible => by cases impossible⟩, rfl,
          quiet_of_same rfl rfl rfl rfl rfl rfl rfl rfl rfl rfl rfl⟩
      exact noted.trans (.submit _)

theorem requestBodyIfAbsent_seat {observed : TickSequence} :
    (session.requestBodyIfAbsent observed).seat = session.seat := by
  unfold requestBodyIfAbsent
  split
  · rfl
  · split <;> rfl

theorem asks_requestSeatIfAbsent (unrefused : session.seatRefused latest = false) :
    Asks session (session.requestSeatIfAbsent latest) ∧
      (session.requestSeatIfAbsent latest).seat = session.seat := by
  unfold seatRefused at unrefused
  unfold requestSeatIfAbsent
  have noted : ∀ requested : Option TickSequence, Asks session { session with lastSeatRequestTick := requested } :=
    fun requested => ⟨⟨[], (List.append_nil _).symm, fun _ impossible => by cases impossible⟩, rfl,
      quiet_of_same rfl rfl rfl rfl rfl rfl rfl rfl rfl rfl rfl⟩
  split
  · exact ⟨.refl, rfl⟩
  · next controller held =>
    dsimp only
    split
    · exact ⟨.refl, rfl⟩
    · next roster =>
      split
      · exact ⟨noted none, rfl⟩
      · next seatless =>
        split
        · next unjoinable =>
          rw [Bool.not_eq_true] at seatless
          rw [held] at unrefused
          simp [roster, seatless, unjoinable] at unrefused
        · split
          · exact ⟨.refl, rfl⟩
          · exact ⟨(noted (some latest.tickSequence)).trans (.submit _), rfl⟩

end Seating

section Scheduling

/-- A slot's session once nothing waits for its presentation. -/
def Waitless (session : SessionWebSocketSession S) : Prop := session.isOpen → session.presentationWaits = []

theorem Quiet.waitless (quiet : Quiet session next) (waitless : session.Waitless) : next.Waitless := by
  intro open'
  exact (quiet.presenting open').trans (waitless (quiet.opening open'))

@[simp] theorem schedulePresentationSlot_waiting : session.schedulePresentationSlot.waiting = session.waiting := by
  unfold schedulePresentationSlot
  split <;> rfl

theorem schedulePresentationSlot_transcript :
    session.schedulePresentationSlot.transcript = session.transcript := by
  unfold schedulePresentationSlot
  split <;> rfl

theorem queueing_schedulePresentationSlot (queues : session.Queueing) (waitless : session.Waitless) :
    session.schedulePresentationSlot.Queueing := by
  unfold schedulePresentationSlot
  split
  · exact queues
  · next runs =>
    simp only [Bool.or_eq_true, not_or, Bool.not_eq_true] at runs
    refine ⟨queues.registered, queues.unseated, ?_, queues.openly, queues.unpinged, queues.unwritten, queues.ready⟩
    intro _
    have cleared : (session.cancelWait .presentationWait).presentationWaits = [] := by
      have none' := waitless runs
      simp only [presentationWaits, List.filter_eq_nil_iff] at none' ⊢
      intro entry member
      obtain ⟨before, earlier, rfl⟩ := List.mem_map.mp member
      have other := none' before earlier
      split
      · exact other
      · exact other
    have armed : (session.armWait .presentationWait).presentationWaits = [⟨.presentationWait, false⟩] := by
      have started : (session.armWait .presentationWait).presentationWaits =
          (session.cancelWait .presentationWait).presentationWaits ++ [⟨.presentationWait, false⟩] := by
        simp only [armWait, start, presentationWaits, List.filter_append]
        rfl
      rw [started, cleared]
      rfl
    rw [armed]
    refine ⟨Nat.le_refl 1, fun pending member => ?_⟩
    rw [List.mem_singleton.mp member]

/-- How a slot's guarded part leaves its session, before it schedules or reports. -/
def SlotProgress.left : SlotProgress S → SessionWebSocketSession S
  | .proceeds presented | .returned presented | .threw presented => presented

theorem concluded_idle {progress : SlotProgress S} (queues : progress.left.Queueing) (waitless : progress.left.Waitless)
    (idle : progress.left.waiting = false) :
    progress.concluded.Queueing ∧ progress.concluded.waiting = false := by
  cases progress with
  | proceeds presented =>
    exact ⟨queueing_schedulePresentationSlot queues waitless, schedulePresentationSlot_waiting.trans idle⟩
  | returned presented => exact ⟨queues, idle⟩
  | threw presented =>
    exact ⟨(quiet_reportSessionFailure queues).queueing queues, reportSessionFailure_waiting queues⟩

theorem concluded_proceeds (queues : session.Queueing) (waitless : session.Waitless) (idle : session.waiting = false) :
    (SlotProgress.proceeds session).concluded.Queueing ∧ (SlotProgress.proceeds session).concluded.waiting = false :=
  ⟨queueing_schedulePresentationSlot queues waitless, schedulePresentationSlot_waiting.trans idle⟩

theorem concluded_threw (queues : session.Queueing) : (SlotProgress.threw session).concluded.Queueing ∧
    (SlotProgress.threw session).concluded.waiting = false :=
  ⟨(quiet_reportSessionFailure queues).queueing queues, reportSessionFailure_waiting queues⟩

end Scheduling

section Writes

theorem quiet_commitEncoding (session : SessionWebSocketSession S) (input : PresentationInput S)
    (lease : SnapshotEgressLease) :
    (∃ armed, session.commitEncoding input lease = .proceeds armed ∧ Quiet session armed) ∨
      ∃ thrown, session.commitEncoding input lease = .threw thrown ∧ Quiet session thrown := by
  have held : Quiet session (session.holdLease lease) := by
    have filled : Quiet session.releaseActivePayload (session.holdLease lease) :=
      quiet_of_same rfl rfl rfl rfl rfl rfl rfl rfl rfl rfl rfl
    exact quiet_releaseActivePayload.trans filled
  unfold commitEncoding
  dsimp only
  split
  · exact .inr ⟨_, rfl, held⟩
  · next byteCount _ =>
    have committed := held.trans (quiet_call (.commitEncodedBytes lease byteCount input.commit) id)
    split
    · exact .inr ⟨_, rfl, committed⟩
    · next settled _ =>
      have kept : Quiet ((session.holdLease lease).call (.commitEncodedBytes lease byteCount input.commit))
          { (session.holdLease lease).call (.commitEncodedBytes lease byteCount input.commit) with
            activeEgressLease := some settled } := quiet_of_same rfl rfl rfl rfl rfl rfl rfl rfl rfl rfl rfl
      exact .inl ⟨_, rfl, (committed.trans kept).trans (quiet_armWait (by decide))⟩

theorem quiet_startWelcomeWrite (idle : session.waiting = false) (input : PresentationInput S) (entity : EntityId)
    (lease : SnapshotEgressLease) : Quiet session (session.startWelcomeWrite input entity lease).left := by
  unfold startWelcomeWrite
  obtain ⟨armed, commits, quiet⟩ | ⟨thrown, commits, quiet⟩ := quiet_commitEncoding session input lease
  · rw [commits]
    have idle' := quiet.idle idle
    dsimp only
    split
    · have raised : Quiet armed { armed with welcomeWriteActive := true, snapshotWriteOperationActive := true } :=
        quiet_of_idle idle' rfl rfl rfl rfl rfl rfl
      exact ((quiet.trans raised).trans (quiet_call (.writeWelcome entity) id)).trans (quiet_start (by decide))
    · have lowered : Quiet armed { armed with welcomeWriteActive := false, snapshotWriteOperationActive := false } :=
        quiet_of_idle idle' rfl rfl rfl rfl rfl rfl
      exact quiet.trans lowered
  · rw [commits]
    exact quiet

theorem quiet_startSnapshotWrite (idle : session.waiting = false) (input : PresentationInput S)
    (delivered : SnapshotDelivery S) (lease : SnapshotEgressLease) :
    Quiet session (session.startSnapshotWrite input delivered lease).left := by
  unfold startSnapshotWrite
  split
  · have held : Quiet session.releaseActivePayload (session.holdLease lease) :=
      quiet_of_same rfl rfl rfl rfl rfl rfl rfl rfl rfl rfl rfl
    exact quiet_releaseActivePayload.trans held
  · obtain ⟨armed, commits, quiet⟩ | ⟨thrown, commits, quiet⟩ := quiet_commitEncoding session input lease
    · rw [commits]
      have idle' := quiet.idle idle
      dsimp only
      split
      · have raised : Quiet armed { armed with snapshotWriteOperationActive := true } :=
          quiet_of_idle idle' rfl rfl rfl rfl rfl rfl
        exact ((quiet.trans raised).trans (quiet_call (.writeSnapshot _ _) id)).trans (quiet_start (by decide))
      · have lowered : Quiet armed { armed with snapshotWriteOperationActive := false } :=
          quiet_of_idle idle' rfl rfl rfl rfl rfl rfl
        exact quiet.trans lowered
    · rw [commits]
      exact quiet

end Writes

section Slots

/-- What a slot leaves: a session whose queueing is right, which waits only where the slot was refused. -/
def Retries (session next : SessionWebSocketSession S) : Prop :=
  next.Queueing ∧ (next.waiting = true → Refused session next)

theorem retries_of_idle (left : next.Queueing ∧ next.waiting = false) : Retries session next :=
  ⟨left.1, fun waits => absurd (waits.symm.trans left.2) (by decide)⟩

theorem retries_refused (queues : session.Queueing) (waitless : session.Waitless) (opened : session.isOpen)
    (unpinged : session.controlWriteActive = false) (unwritten : session.dataWriteActive = false)
    (ready : session.welcomeDelivered = true → session.delivery.pendingSnapshot.isSome = true) (now : Int) :
    Retries session (session.call (.tryReserve now (.ok none))).schedulePresentationSlot := by
  have asked : (session.call (.tryReserve now (.ok none))).Queueing :=
    ⟨queues.registered, queues.unseated, queues.presenting, fun _ => opened, fun _ => unpinged, fun _ => unwritten,
      fun _ => ready⟩
  refine ⟨queueing_schedulePresentationSlot asked waitless, fun _ => ⟨[.tryReserve now (.ok none)], now, ?_, ?_⟩⟩
  · rw [schedulePresentationSlot_transcript]
    rfl
  · exact List.mem_singleton_self _

theorem presentWelcome_retries (queues : session.Queueing) (waitless : session.Waitless) (opened : session.isOpen)
    (unpinged : session.controlWriteActive = false) (undelivered : session.welcomeDelivered = false)
    (bodied : session.waiting = true → session.currentEntity.isSome = true) :
    Retries session (session.presentWelcome input).concluded := by
  unfold presentWelcome
  split
  · next bodyless =>
    have idle : session.waiting = false := by
      by_contra waits
      rw [Bool.not_eq_false] at waits
      have present := bodied waits
      rw [bodyless] at present
      cases present
    exact retries_of_idle (concluded_proceeds queues waitless idle)
  · next entity _ =>
    split
    · next writing =>
      have idle : session.waiting = false := by
        by_contra waits
        rw [Bool.not_eq_false] at waits
        exact absurd (writing.symm.trans (queues.unwritten waits)) (by decide)
      exact retries_of_idle (concluded_proceeds queues waitless idle)
    · next unwritten =>
      rw [Bool.not_eq_true] at unwritten
      dsimp only
      split
      · next fault _ =>
        have asked : Quiet session (session.call (.tryReserve input.now input.reservation)) :=
          quiet_call _ (by simp [SessionCall.waits, *])
        exact retries_of_idle (concluded_threw (asked.queueing queues))
      · next refused =>
        rw [refused]
        refine retries_refused queues waitless opened unpinged unwritten (fun delivered => ?_) input.now
        exact absurd (delivered.symm.trans undelivered) (by decide)
      · next lease granted =>
        have idle : (session.call (.tryReserve input.now input.reservation)).waiting = false := by
          rw [waiting_call, granted]
          rfl
        have asked : Quiet session (session.call (.tryReserve input.now input.reservation)) :=
          quiet_call _ (by simp [SessionCall.waits, granted])
        have started := quiet_startWelcomeWrite idle input entity lease
        exact retries_of_idle (concluded_idle ((asked.trans started).queueing queues)
          ((asked.trans started).waitless waitless) (started.idle idle))

theorem quiet_observe {observed : SnapshotDeliveryState S} (observes : session.delivery.observe latest = .ok observed) :
    Quiet session { session with delivery := observed } := by
  obtain ⟨active, -, -, keeps⟩ := SnapshotDeliveryState.observe_fields observes
  have data : ({ session with delivery := observed } : SessionWebSocketSession S).dataWriteActive =
      session.dataWriteActive := by
    unfold dataWriteActive SnapshotDeliveryState.writeActive
    rw [active]
  exact ⟨id, id, fun open' => ⟨open', rfl⟩, id, fun _ => rfl, fun _ => id, fun _ => rfl, fun _ => data, fun _ => rfl,
    fun _ => keeps⟩

theorem quiet_admitted (idle : session.waiting = false) (input : PresentationInput S) (lease : SnapshotEgressLease) :
    Quiet session (match session.delivery.beginActiveWrite with
      | (.ok (some delivered), begun) => startSnapshotWrite { session with delivery := begun } input delivered lease
      | (_, begun) => .threw ({ session with delivery := begun }.call (.releaseLease lease))).left := by
  have began : ∀ begun : SnapshotDeliveryState S, Quiet session { session with delivery := begun } := fun _ =>
    quiet_of_idle idle rfl rfl rfl rfl rfl rfl
  split
  · next delivered begun _ =>
    exact (began begun).trans (quiet_startSnapshotWrite ((began begun).idle idle) input delivered lease)
  · next _ begun _ _ => exact (began begun).trans (quiet_call (.releaseLease lease) id)

theorem presentSnapshot_retries (queues : session.Queueing) (waitless : session.Waitless) (opened : session.isOpen)
    (unpinged : session.controlWriteActive = false) (delivered : session.welcomeDelivered = true)
    (settled : session.welcomeWriteActive = false) :
    Retries session (session.presentSnapshot input latest).concluded := by
  unfold presentSnapshot
  cases observes : session.delivery.observe latest with
  | error refusal => exact retries_of_idle (concluded_threw queues)
  | ok observed =>
    have noticed := quiet_observe observes
    have queues' := noticed.queueing queues
    have waitless' := noticed.waitless waitless
    dsimp only
    split
    · next ready =>
      have writable : observed.activeSnapshot.isNone = true ∧ observed.pendingSnapshot.isSome = true := by
        simpa only [SnapshotDeliveryState.readyToWrite, Bool.and_eq_true] using ready
      have unwritten : ({ session with delivery := observed } : SessionWebSocketSession S).dataWriteActive = false := by
        have inactive := Option.isNone_iff_eq_none.mp writable.1
        unfold dataWriteActive SnapshotDeliveryState.writeActive
        rw [inactive, settled]
        rfl
      split
      · next fault faults =>
        have asked : Quiet { session with delivery := observed }
            (call { session with delivery := observed } (.tryReserve input.now input.reservation)) :=
          quiet_call _ (by rw [faults]; exact id)
        exact retries_of_idle (concluded_threw (asked.queueing queues'))
      · next refused =>
        rw [refused]
        obtain ⟨queued, waits⟩ := retries_refused queues' waitless' opened unpinged unwritten
          (fun _ => writable.2) input.now
        exact ⟨queued, waits⟩
      · next lease granted =>
        have idle : (call { session with delivery := observed }
            (.tryReserve input.now input.reservation)).waiting = false := by
          rw [waiting_call, granted]
          rfl
        have asked : Quiet { session with delivery := observed }
            (call { session with delivery := observed } (.tryReserve input.now input.reservation)) :=
          quiet_call _ (by simp [SessionCall.waits, granted])
        have admitted := asked.trans (quiet_admitted idle input lease)
        exact retries_of_idle (concluded_idle (admitted.queueing queues') (admitted.waitless waitless')
          ((quiet_admitted idle input lease).idle idle))
    · next unready =>
      have idle : ({ session with delivery := observed } : SessionWebSocketSession S).waiting = false := by
        by_contra waits
        rw [Bool.not_eq_false] at waits
        have pending := queues'.ready waits delivered
        have unwritten := queues'.unwritten waits
        refine unready ?_
        have inactive : observed.activeSnapshot.isSome = false := by
          simp only [dataWriteActive, Bool.or_eq_false_iff] at unwritten
          exact unwritten.2
        unfold SnapshotDeliveryState.readyToWrite
        rw [Bool.and_eq_true]
        exact ⟨Option.isSome_eq_false_iff.mp inactive, pending⟩
      exact retries_of_idle (concluded_proceeds queues' waitless' idle)

theorem Asks.retries {last : SessionWebSocketSession S} (asks : Asks session next) (retries : Retries next last) :
    Retries session last := ⟨retries.1, fun waits => asks.submits.refused (retries.2 waits)⟩

theorem Submits.waiting (submits : Submits session next) : next.waiting = session.waiting := by
  obtain ⟨calls, same, only⟩ := submits
  have kept : ∀ waits : Bool, calls.foldl SessionCall.waits waits = waits := by
    intro waits
    clear same
    induction calls with
    | nil => rfl
    | cons made rest ih =>
      obtain ⟨command, rfl⟩ := only _ List.mem_cons_self
      exact ih fun other member => only other (List.mem_cons_of_mem _ member)
  rw [SessionWebSocketSession.waiting, same, List.foldl_append, kept]
  rfl

/-- A session that has looked for its body and asked for one. -/
def asking (session : SessionWebSocketSession S) (latest : WorldSnapshot S) : SessionWebSocketSession S :=
  (session.observeOwnEntity latest).requestBodyIfAbsent latest.tickSequence

theorem asks_asking : Asks session (session.asking latest) := asks_observeOwnEntity.trans asks_requestBodyIfAbsent

theorem asking_currentEntity (queues : session.Queueing) :
    (session.asking latest).currentEntity = session.ownBody latest := by
  have same : (session.asking latest).seat = (session.observeOwnEntity latest).seat := requestBodyIfAbsent_seat
  exact (congrArg Prod.snd same).trans (observeOwnEntity_currentEntity queues)

theorem asking_seatRefused : (session.asking latest).seatRefused latest = session.seatRefused latest := by
  have same : (session.asking latest).controller = session.controller :=
    congrArg SessionProtocol.controller asks_asking.view
  unfold seatRefused
  rw [same]

theorem present_retries (queues : session.Queueing) (sound : session.view.Sound) (waitless : session.Waitless)
    (opened : session.isOpen) (bodied : session.waiting = true → session.welcomeDelivered = false →
      (session.ownBody latest).isSome = true ∨ session.seatRefused latest = true) :
    Retries session (session.present input latest).concluded := by
  unfold present
  split
  · next pinging =>
    have idle : session.waiting = false := by
      by_contra waits
      rw [Bool.not_eq_false] at waits
      exact absurd (pinging.symm.trans (queues.unpinged waits)) (by decide)
    exact retries_of_idle (concluded_proceeds queues waitless idle)
  · next unpinged =>
    rw [Bool.not_eq_true] at unpinged
    have asks : Asks session (session.asking latest) := asks_asking
    have entity : (session.asking latest).currentEntity = session.ownBody latest := asking_currentEntity queues
    have roster : (session.asking latest).seatRefused latest = session.seatRefused latest := asking_seatRefused
    have queues' := asks.quiet.queueing queues
    refine asks.retries ?_
    change Retries (session.asking latest)
      (let seated := (session.asking latest).requestSeatIfAbsent latest
      if seated.closeRequested then SlotProgress.returned seated
      else if seated.welcomeDelivered then seated.presentSnapshot input latest
      else seated.presentWelcome input).concluded
    have viewed := asks.view
    have waits : (session.asking latest).waiting = session.waiting := asks.submits.waiting
    have waitless' := asks.quiet.waitless waitless
    generalize session.asking latest = asking at *
    have open' : asking.isOpen := ⟨(congrArg SessionProtocol.finished viewed).trans opened.1,
      (congrArg SessionProtocol.closeRequested viewed).trans opened.2⟩
    cases refused : asking.seatRefused latest with
    | true =>
      rw [requestSeatIfAbsent_of_refused refused]
      have closing : (asking.requestClose .lobbyFull).closeRequested = true := by
        have asked : asking.view.requestClose.closeRequested = true :=
          SessionProtocol.requestClose_closeRequested open'.1
        have seen : (asking.requestClose .lobbyFull).view = asking.view.requestClose := view_requestClose
        rw [← seen] at asked
        exact asked
      dsimp only
      rw [closing, if_pos rfl]
      exact retries_of_idle ⟨(quiet_requestClose queues').queueing queues', requestClose_waiting queues' .lobbyFull⟩
    | false =>
      obtain ⟨seats, seat⟩ := asks_requestSeatIfAbsent refused
      refine seats.retries ?_
      have seen := seats.view.trans viewed
      have waits' : (asking.requestSeatIfAbsent latest).waiting = session.waiting := seats.submits.waiting.trans waits
      have queues'' := seats.quiet.queueing queues'
      have waitless'' := seats.quiet.waitless waitless'
      have entity' : (asking.requestSeatIfAbsent latest).currentEntity = session.ownBody latest :=
        (congrArg Prod.snd seat).trans entity
      generalize asking.requestSeatIfAbsent latest = seated at *
      have opened' : seated.isOpen := ⟨(congrArg SessionProtocol.finished seen).trans opened.1,
        (congrArg SessionProtocol.closeRequested seen).trans opened.2⟩
      have quiet : seated.controlWriteActive = false :=
        (congrArg SessionProtocol.controlWriteActive seen).trans unpinged
      dsimp only
      rw [opened'.2, if_neg Bool.false_ne_true]
      split
      · next delivered =>
        obtain ⟨ticks, delivering⟩ := (seen.symm ▸ sound : seated.view.Sound).delivering
        exact presentSnapshot_retries queues'' waitless'' opened' quiet delivered (delivering.settled delivered)
      · next undelivered =>
        rw [Bool.not_eq_true] at undelivered
        refine presentWelcome_retries queues'' waitless'' opened' quiet undelivered fun waiting => ?_
        have welcomed : session.welcomeDelivered = false :=
          (congrArg SessionProtocol.welcomeDelivered seen).symm.trans undelivered
        obtain present | full := bodied (waits'.symm.trans waiting) welcomed
        · rw [entity']
          exact present
        · exact absurd (refused.symm.trans (roster.trans full)) (by decide)

theorem finish_idle (queues : session.Queueing) : session.finish.waiting = false := by
  cases opened : session.finished with
  | false => exact finish_waiting (queues.registered opened) opened
  | true =>
    by_contra waits
    rw [Bool.not_eq_false] at waits
    have open' := (((quiet_finish queues).queueing queues).openly waits).1
    exact absurd (open'.symm.trans finish_finished) (by decide)

/-- A session waits without its welcome, and its slot meets a published snapshot without its body. -/
def Parks (session : SessionWebSocketSession S) (completion : Completion) (input : PresentationInput S) : Prop :=
  session.waiting = true ∧ session.welcomeDelivered = false ∧ completion = .succeeded ∧
    ∃ latest, input.published = some latest ∧ session.ownBody latest = none ∧ session.seatRefused latest = false

theorem presentationSlot_retries (queues : session.Queueing) (sound : session.view.Sound)
    (waitless : session.Waitless) {completion : Completion} (unaborted : completion = .aborted → ¬session.isOpen)
    (unparked : ¬session.Parks completion input) :
    Retries session (session.presentationSlot completion input) := by
  unfold presentationSlot
  split
  · next stays =>
    have idle : session.waiting = false := by
      by_contra waits
      rw [Bool.not_eq_false] at waits
      have opened := queues.openly waits
      simp only [Bool.or_eq_true, decide_eq_true_eq, opened.1, opened.2, Bool.false_eq_true, or_false] at stays
      exact unaborted stays opened
    exact retries_of_idle ⟨queues, idle⟩
  · next runs =>
    simp only [Bool.or_eq_true, decide_eq_true_eq, not_or, Bool.not_eq_true] at runs
    split
    · exact retries_of_idle ⟨(quiet_finish queues).queueing queues, finish_idle queues⟩
    · next unfailed =>
      have succeeded : completion = .succeeded := by
        cases completion with
        | succeeded => rfl
        | failed => exact absurd rfl unfailed
        | aborted => exact absurd rfl runs.1.1
      split
      · exact retries_of_idle ⟨(quiet_requestClose queues).queueing queues, requestClose_waiting queues _⟩
      · next latest published =>
        have presented : Retries session (session.present input latest).concluded := by
          refine present_retries queues sound waitless ⟨runs.1.2, runs.2⟩ fun waits undelivered => ?_
          by_contra neither
          simp only [not_or, Bool.not_eq_true, Option.isSome_eq_false_iff, Option.isNone_iff_eq_none] at neither
          exact unparked ⟨waits, undelivered, succeeded, latest, published, neither.1, neither.2⟩
        generalize session.present input latest = progress at presented ⊢
        cases progress with
        | proceeds after => exact presented
        | returned after => exact presented
        | threw after => exact presented

theorem presentationSlot_parks (queues : session.Queueing) (waitless : session.Waitless) {completion : Completion}
    (parks : session.Parks completion input) : (session.presentationSlot completion input).Queueing ∧
      (session.presentationSlot completion input).waiting = true ∧
      ¬Refused session (session.presentationSlot completion input) := by
  obtain ⟨waits, undelivered, succeeded, latest, published, bodyless, unrefused⟩ := parks
  have opened := queues.openly waits
  have asks : Asks session (session.asking latest) := asks_asking
  obtain ⟨seats, seat⟩ := asks_requestSeatIfAbsent (asking_seatRefused.trans unrefused)
  have both := asks.trans seats
  have entity : ((session.asking latest).requestSeatIfAbsent latest).currentEntity = none :=
    (congrArg Prod.snd seat).trans ((asking_currentEntity queues).trans bodyless)
  have presents : session.presentationSlot completion input =
      ((session.asking latest).requestSeatIfAbsent latest).schedulePresentationSlot := by
    have shown : session.present input latest = .proceeds ((session.asking latest).requestSeatIfAbsent latest) := by
      have closing : ((session.asking latest).requestSeatIfAbsent latest).closeRequested = false :=
        (congrArg SessionProtocol.closeRequested both.view).trans opened.2
      have welcome : ((session.asking latest).requestSeatIfAbsent latest).welcomeDelivered = false :=
        (congrArg SessionProtocol.welcomeDelivered both.view).trans undelivered
      unfold present
      rw [queues.unpinged waits, if_neg Bool.false_ne_true]
      change (let seated := (session.asking latest).requestSeatIfAbsent latest
        if seated.closeRequested then SlotProgress.returned seated
        else if seated.welcomeDelivered then seated.presentSnapshot input latest
        else seated.presentWelcome input) = _
      dsimp only
      rw [closing, if_neg Bool.false_ne_true, welcome, if_neg Bool.false_ne_true, presentWelcome, entity]
    unfold presentationSlot
    rw [succeeded, opened.1, opened.2, published, if_neg (by decide), if_neg (by decide)]
    dsimp only
    rw [shown]
  rw [presents]
  refine ⟨queueing_schedulePresentationSlot (both.quiet.queueing queues) (both.quiet.waitless waitless), ?_, ?_⟩
  · rw [schedulePresentationSlot_waiting, both.submits.waiting]
    exact waits
  · have same : ((session.asking latest).requestSeatIfAbsent latest).schedulePresentationSlot.transcript =
        ((session.asking latest).requestSeatIfAbsent latest).transcript := schedulePresentationSlot_transcript
    obtain ⟨calls, appended, only⟩ := both.submits
    exact Submits.not_refused ⟨calls, same.trans appended, only⟩

theorem waitless_completed (queues : session.Queueing) {pending : OutstandingOperation}
    (member : pending ∈ session.outstanding) (presents : pending.operation = .presentationWait) :
    (session.completed pending).Waitless := by
  intro opened
  obtain ⟨single, -⟩ := queues.presenting opened
  have listed : pending ∈ session.presentationWaits := List.mem_filter.mpr ⟨member, by simpa using presents⟩
  have erased : (session.completed pending).presentationWaits = session.presentationWaits.erase pending := by
    simp only [presentationWaits, completed]
    rw [List.erase_filter]
  rw [erased]
  have length := List.length_erase_of_mem listed
  exact List.length_eq_zero_iff.mp (by omega)

theorem queueing_completed (queues : session.Queueing) {pending : OutstandingOperation}
    (waitless : (session.completed pending).Waitless) : (session.completed pending).Queueing := by
  refine ⟨queues.registered, queues.unseated, ?_, queues.openly, queues.unpinged, queues.unwritten, queues.ready⟩
  intro opened
  rw [waitless opened]
  exact ⟨Nat.zero_le _, fun _ impossible => by cases impossible⟩

/-- A slot leaves its session's queueing right, and the session waiting only where it was refused in that
slot, except where it parks. -/
theorem Step.slot {completion : Completion} (queues : session.Queueing) (sound : session.view.Sound)
    (step : Step session (.presentationSlot completion input) next) :
    next.Queueing ∧ ((next.waiting = true → Refused session next) ↔ ¬session.Parks completion input) := by
  cases step with
  | completes pending completion' member ends abortable =>
    obtain ⟨presents, same⟩ := Prod.mk.inj (Option.some.inj ends)
    have waitless := waitless_completed queues member presents.symm
    have queues' := queueing_completed queues waitless
    have sound' : (session.completed pending).view.Sound := by
      rw [view_completed_silent member (by rw [← presents]; decide)]
      exact sound
    by_cases parks : session.Parks completion input
    · obtain ⟨kept, waits, unrefused⟩ := presentationSlot_parks queues' waitless
        (show (session.completed pending).Parks completion input from parks)
      exact ⟨kept, iff_of_false (fun refused => unrefused (refused waits)) (not_not_intro parks)⟩
    · have unaborted : completion = .aborted → ¬(session.completed pending).isOpen := by
        intro aborted opened
        have cancelled := abortable (same.symm.trans aborted) (by rw [← presents]; rfl)
        obtain ⟨-, uncancelled⟩ := queues.presenting opened
        have listed : pending ∈ session.presentationWaits :=
          List.mem_filter.mpr ⟨member, by simpa using presents.symm⟩
        exact absurd (cancelled.symm.trans (uncancelled pending listed)) (by decide)
      have retries := presentationSlot_retries queues' sound' waitless unaborted
        (show ¬(session.completed pending).Parks completion input from parks)
      exact ⟨retries.1, iff_of_true retries.2 parks⟩
  | outside spontaneous => cases spontaneous

end Slots

end BlobRoyale.Server.SessionWebSocketSession
