import BlobRoyale.Server.SessionProtocol

/-!
# The delivery and close protocol is kept

One operation at a time, writes in order, one departure, and a close that never stalls: what every move
of a session preserves.
-/

namespace BlobRoyale.Server

open BlobRoyale.Simulation

variable {S : Type} [Scalar S]

namespace SessionProtocol

variable {protocol next : SessionProtocol S}

/-- The flags of a session against the operations it has outstanding. -/
structure Flagged (protocol : SessionProtocol S) : Prop where
  welcome : protocol.pendingWelcome = protocol.welcomeWriteActive.toNat
  data : protocol.pendingWelcome + protocol.pendingSnapshot = protocol.snapshotWriteOperationActive.toNat
  ping : protocol.pendingPing = protocol.controlWriteActive.toNat
  exclusive : protocol.pendingWelcome + protocol.pendingSnapshot + protocol.pendingPing + protocol.pendingClose ≤ 1
  requested : protocol.closeStarted = true → protocol.closeRequested = true
  unstarted : protocol.closeStarted = false → protocol.pendingClose = 0
  closing : protocol.closeStarted = true → protocol.finished = false → protocol.pendingClose = 1
  intended : protocol.closeRequested = true → protocol.closeIntended = true

/-- Flags that match, and a close that is under way or behind what will start it. -/
structure Operating (protocol : SessionProtocol S) : Prop extends Flagged protocol where
  active : protocol.finished = false → protocol.delivery.writeActive = true →
    0 < protocol.pendingSnapshot + protocol.pendingFailure
  written : protocol.finished = false → 0 < protocol.pendingSnapshot → protocol.delivery.writeActive = true
  progress : protocol.closeRequested = true → protocol.finished = false → protocol.closeStarted = false →
    0 < protocol.pendingWelcome + protocol.pendingSnapshot + protocol.pendingPing + protocol.pendingFailure

/-- A departure is said once, when a close was requested or the session finished. -/
structure Departing (protocol : SessionProtocol S) : Prop where
  owned : protocol.leftMatch = true → protocol.controller.isSome = true
  departed : protocol.closeRequested = true ∨ protocol.finished = true →
    protocol.leftMatch = protocol.controller.isSome
  counted : protocol.said.count .countedOut = protocol.leftMatch.toNat
  closed : protocol.said.filterMap ProtocolCall.closedController =
    if protocol.leftMatch then protocol.controller.toList else []

/-- A close is asked for and made once each, and hushes what could start. -/
structure Hushing (protocol : SessionProtocol S) : Prop where
  requested : .requested ∈ protocol.said ↔ protocol.closeRequested = true
  closes : protocol.said.count .close = protocol.closeStarted.toNat
  hushed : ProtocolCall.Hushed protocol.said

/-- The writes so far, and what bounds the next one's tick and sequence. -/
structure Delivering (protocol : SessionProtocol S) (ticks : List Nat) : Prop where
  ascending : ticks.Pairwise (· < ·)
  ordered : protocol.finished = false → protocol.delivery.Ordered
  bounded : protocol.finished = false → ∀ tick ∈ ticks,
    tick ≤ max (protocol.delivery.lastDeliveredTick.getD 0)
      (SnapshotDeliveryState.retainedTick protocol.delivery.activeSnapshot)
  sequence : protocol.finished = false → protocol.closeRequested = false →
    protocol.delivery.messageSequence = ticks.length
  writes : (ticks = [] ∧ protocol.said.filterMap ProtocolCall.dataWrite = []) ∨
    ProtocolCall.Numbered (protocol.said.filterMap ProtocolCall.dataWrite) ticks
  welcomed : protocol.finished = false → protocol.closeRequested = false →
    (protocol.said.filterMap ProtocolCall.dataWrite ≠ [] ↔
      protocol.welcomeWriteActive = true ∨ protocol.welcomeDelivered = true)
  undelivered : protocol.finished = false → protocol.closeRequested = false →
    protocol.welcomeDelivered = false → ticks = []
  settled : protocol.welcomeDelivered = true → protocol.welcomeWriteActive = false

/-- What every session keeps. -/
structure Sound (protocol : SessionProtocol S) : Prop where
  operating : protocol.Operating
  departing : protocol.Departing
  hushing : protocol.Hushing
  delivering : ∃ ticks, protocol.Delivering ticks

section Saying

theorem Departing.say (departing : protocol.Departing) {call : ProtocolCall} (uncounted : call ≠ .countedOut)
    (unclosed : call.closedController = none) : (protocol.say call).Departing := by
  refine ⟨departing.owned, departing.departed, ?_, ?_⟩
  · simp only [SessionProtocol.say, List.count_append, departing.counted, List.count_singleton, beq_iff_eq,
      uncounted, if_false, Nat.add_zero]
  · have kept : (protocol.said ++ [call]).filterMap ProtocolCall.closedController =
        protocol.said.filterMap ProtocolCall.closedController := by
      simp only [List.filterMap_append, List.filterMap_cons, unclosed, List.filterMap_nil, List.append_nil]
    exact kept.trans departing.closed

theorem Hushing.say (hushing : protocol.Hushing) {call : ProtocolCall} (unrequested : call ≠ .requested)
    (unclosed : call ≠ .close) (silent : call.starts = false ∨ protocol.closeRequested = false) :
    (protocol.say call).Hushing := by
  refine ⟨?_, ?_, hushing.hushed.concat ?_⟩
  · simp only [SessionProtocol.say, List.mem_append, List.mem_singleton, hushing.requested, unrequested.symm, or_false]
  · simp only [SessionProtocol.say, List.count_append, hushing.closes, List.count_singleton, beq_iff_eq, unclosed,
      if_false, Nat.add_zero]
  · refine silent.imp_right fun open' => ?_
    rw [hushing.requested, open']
    exact Bool.false_ne_true

theorem Delivering.say {ticks : List Nat} (delivering : protocol.Delivering ticks) {call : ProtocolCall}
    (unwritten : call.dataWrite = none) : (protocol.say call).Delivering ticks := by
  have writes : (protocol.say call).said.filterMap ProtocolCall.dataWrite =
      protocol.said.filterMap ProtocolCall.dataWrite := by
    simp only [SessionProtocol.say, List.filterMap_append, List.filterMap_cons, unwritten, List.filterMap_nil,
      List.append_nil]
  exact ⟨delivering.ascending, delivering.ordered, delivering.bounded, delivering.sequence,
    writes ▸ delivering.writes, writes ▸ delivering.welcomed, delivering.undelivered, delivering.settled⟩

end Saying

section Leaving

theorem leave_eq : protocol.leave = { protocol with
    leftMatch := protocol.leave.leftMatch, said := protocol.leave.said } := by
  unfold leave
  split
  · rfl
  · split <;> rfl

theorem Departing.leave (owned : protocol.leftMatch = true → protocol.controller.isSome = true)
    (counted : protocol.said.count .countedOut = protocol.leftMatch.toNat)
    (closed : protocol.said.filterMap ProtocolCall.closedController =
      if protocol.leftMatch then protocol.controller.toList else []) : protocol.leave.Departing := by
  unfold SessionProtocol.leave
  split
  · next left => exact ⟨owned, fun _ => by rw [left, owned left], counted, closed⟩
  · next staying =>
    rw [Bool.not_eq_true] at staying
    split
    · next alone => exact ⟨owned, fun _ => by rw [staying, alone]; rfl, counted, closed⟩
    · next controller held =>
      rw [staying] at counted closed
      refine ⟨fun _ => by simp [SessionProtocol.say, held], fun _ => by simp [SessionProtocol.say, held], ?_, ?_⟩
      · simp only [SessionProtocol.say, List.count_append, counted]
        rfl
      · simp only [SessionProtocol.say, List.filterMap_append, closed, held]
        rfl

theorem Hushing.leave (hushing : protocol.Hushing) : protocol.leave.Hushing := by
  unfold SessionProtocol.leave
  split
  · exact hushing
  · split
    · exact hushing
    · have left : ({ protocol with leftMatch := true } : SessionProtocol S).Hushing :=
        ⟨hushing.requested, hushing.closes, hushing.hushed⟩
      exact (left.say (by decide) (by decide) (.inl rfl)).say (fun impossible => by cases impossible)
        (fun impossible => by cases impossible) (.inl rfl)

theorem Delivering.leave {ticks : List Nat} (delivering : protocol.Delivering ticks) :
    protocol.leave.Delivering ticks := by
  unfold SessionProtocol.leave
  split
  · exact delivering
  · split
    · exact delivering
    · have left : ({ protocol with leftMatch := true } : SessionProtocol S).Delivering ticks :=
        ⟨delivering.ascending, delivering.ordered, delivering.bounded, delivering.sequence, delivering.writes,
          delivering.welcomed, delivering.undelivered, delivering.settled⟩
      exact (left.say rfl).say rfl

theorem Flagged.leave (flagged : protocol.Flagged) : protocol.leave.Flagged := by
  rw [leave_eq]
  exact ⟨flagged.welcome, flagged.data, flagged.ping, flagged.exclusive, flagged.requested, flagged.unstarted,
    flagged.closing, flagged.intended⟩

end Leaving

section Finishing

/-- A session that has finished, before it leaves. -/
def ended (protocol : SessionProtocol S) : SessionProtocol S := { protocol with finished := true }

theorem ended_of_finished (finished : protocol.finished = true) : protocol.ended = protocol := by
  unfold ended
  rw [← finished]

theorem Flagged.ended (flagged : protocol.Flagged) : protocol.ended.Flagged := by
  refine ⟨flagged.welcome, flagged.data, flagged.ping, flagged.exclusive, flagged.requested, flagged.unstarted, ?_,
    flagged.intended⟩
  intro _ impossible
  cases impossible

theorem Flagged.operating_of_finished (flagged : protocol.Flagged) (finished : protocol.finished = true) :
    protocol.Operating := by
  refine ⟨flagged, ?_, ?_, ?_⟩ <;> simp only [finished] <;> intros <;> contradiction

theorem Delivering.ended {ticks : List Nat} (delivering : protocol.Delivering ticks) :
    protocol.ended.Delivering ticks := by
  refine ⟨delivering.ascending, ?_, ?_, ?_, delivering.writes, ?_, ?_, delivering.settled⟩ <;>
    intro impossible <;> cases impossible

theorem finish_of_open (opened : protocol.finished = false) :
    protocol.finish = { protocol.ended.leave with delivery := protocol.ended.leave.delivery.discard } := by
  unfold SessionProtocol.finish
  rw [opened]
  rfl

theorem Sound.finish (flagged : protocol.ended.Flagged) (departing : protocol.Departing) (hushing : protocol.Hushing)
    (delivering : ∃ ticks, protocol.ended.Delivering ticks) : protocol.finish.Sound := by
  cases opened : protocol.finished with
  | true =>
    rw [ended_of_finished opened] at flagged delivering
    have same : protocol.finish = protocol := by
      unfold SessionProtocol.finish
      rw [opened]
      rfl
    rw [same]
    exact ⟨flagged.operating_of_finished opened, departing, hushing, delivering⟩
  | false =>
    rw [finish_of_open opened]
    have done : protocol.ended.leave.finished = true := by
      rw [leave_eq]
      rfl
    obtain ⟨ticks, delivers⟩ := delivering
    have flags := flagged.leave
    have left : protocol.ended.leave.Departing := .leave departing.owned departing.counted departing.closed
    have hushed : protocol.ended.leave.Hushing :=
      (⟨hushing.requested, hushing.closes, hushing.hushed⟩ : protocol.ended.Hushing).leave
    refine ⟨Flagged.operating_of_finished ⟨flags.welcome, flags.data, flags.ping, flags.exclusive, flags.requested,
      flags.unstarted, flags.closing, flags.intended⟩ done,
      ⟨left.owned, left.departed, left.counted, left.closed⟩, ⟨hushed.requested, hushed.closes, hushed.hushed⟩,
      ticks, delivers.leave.ascending, ?_, ?_, ?_, delivers.leave.writes, ?_, ?_, delivers.leave.settled⟩ <;>
      intro unfinished <;> exact absurd (unfinished.symm.trans done) Bool.false_ne_true

end Finishing

section Closing

/-- A pending snapshot write has its snapshot active. -/
def Written (protocol : SessionProtocol S) : Prop :=
  protocol.finished = false → 0 < protocol.pendingSnapshot → protocol.delivery.writeActive = true

/-- An active snapshot is being written, or its failure was posted. -/
def Active (protocol : SessionProtocol S) : Prop :=
  protocol.finished = false → protocol.delivery.writeActive = true →
    0 < protocol.pendingSnapshot + protocol.pendingFailure

theorem beginClose_cases (protocol : SessionProtocol S) :
    (protocol.beginClose = protocol ∧ (protocol.finished = true ∨ protocol.closeStarted = true ∨
      protocol.dataWriteActive = true ∨ protocol.controlWriteActive = true)) ∨
    (protocol.finished = false ∧ protocol.closeStarted = false ∧ protocol.dataWriteActive = false ∧
      protocol.controlWriteActive = false ∧
      protocol.beginClose =
        { protocol with closeStarted := true, pendingClose := protocol.pendingClose + 1 }.say .close) := by
  unfold SessionProtocol.beginClose
  split
  · next stays =>
    simp only [Bool.or_eq_true, or_assoc] at stays
    exact .inl ⟨rfl, stays⟩
  · next begins =>
    simp only [Bool.or_eq_true, not_or, Bool.not_eq_true, and_assoc] at begins
    exact .inr ⟨begins.1, begins.2.1, begins.2.2.1, begins.2.2.2, rfl⟩

theorem Flagged.beginClose (flagged : protocol.Flagged) (written : protocol.Written)
    (requested : protocol.closeRequested = true) : protocol.beginClose.Flagged ∧ protocol.beginClose.Written ∧
      (protocol.Active → protocol.beginClose.Operating) := by
  obtain ⟨same, stays⟩ | ⟨unfinished, unstarted, idle, unpinged, same⟩ := beginClose_cases protocol
  · rw [same]
    refine ⟨flagged, written, fun active => ⟨flagged, active, written, ?_⟩⟩
    intro _ unfinished unstarted
    obtain finished | started | busy | pinged := stays
    · exact absurd (finished.symm.trans unfinished) (by decide)
    · exact absurd (started.symm.trans unstarted) (by decide)
    · unfold dataWriteActive at busy
      rw [Bool.or_eq_true] at busy
      obtain welcoming | writing := busy
      · have pending := flagged.welcome
        rw [welcoming] at pending
        simp only [Bool.toNat_true] at pending
        omega
      · have pending := active unfinished writing
        omega
    · have pending := flagged.ping
      rw [pinged] at pending
      simp only [Bool.toNat_true] at pending
      omega
  · rw [same]
    have idle' : protocol.welcomeWriteActive = false ∧ protocol.delivery.writeActive = false := by
      simpa only [dataWriteActive, Bool.or_eq_false_iff] using idle
    have welcome : protocol.pendingWelcome = 0 := by rw [flagged.welcome, idle'.1]; rfl
    have ping : protocol.pendingPing = 0 := by rw [flagged.ping, unpinged]; rfl
    have snapshot : protocol.pendingSnapshot = 0 := by
      by_contra pending
      have writing := written unfinished (Nat.pos_of_ne_zero pending)
      rw [idle'.2] at writing
      cases writing
    have closing := flagged.unstarted unstarted
    have flags : ({ protocol with
        closeStarted := true, pendingClose := protocol.pendingClose + 1 }.say .close : SessionProtocol S).Flagged := by
      refine ⟨flagged.welcome, flagged.data, flagged.ping, ?_, fun _ => requested, ?_, fun _ _ => ?_,
        flagged.intended⟩
      · simp only [SessionProtocol.say]
        omega
      · intro impossible
        cases impossible
      · simp only [SessionProtocol.say]
        omega
    refine ⟨flags, written, fun active => ⟨flags, active, written, ?_⟩⟩
    intro _ _ impossible
    cases impossible

theorem Departing.beginClose (departing : protocol.Departing) : protocol.beginClose.Departing := by
  obtain ⟨same, -⟩ | ⟨-, -, -, -, same⟩ := beginClose_cases protocol
  · rw [same]
    exact departing
  · rw [same]
    have started : ({ protocol with
        closeStarted := true, pendingClose := protocol.pendingClose + 1 } : SessionProtocol S).Departing :=
      ⟨departing.owned, departing.departed, departing.counted, departing.closed⟩
    exact started.say (by decide) rfl

theorem Hushing.beginClose (hushing : protocol.Hushing) : protocol.beginClose.Hushing := by
  obtain ⟨same, -⟩ | ⟨-, unstarted, -, -, same⟩ := beginClose_cases protocol
  · rw [same]
    exact hushing
  · rw [same]
    refine ⟨?_, ?_, hushing.hushed.concat (.inl rfl)⟩
    · simp only [SessionProtocol.say, List.mem_append, List.mem_singleton, hushing.requested, reduceCtorEq, or_false]
    · simp only [SessionProtocol.say, List.count_append, hushing.closes, unstarted]
      rfl

theorem Delivering.beginClose {ticks : List Nat} (delivering : protocol.Delivering ticks) :
    protocol.beginClose.Delivering ticks := by
  obtain ⟨same, -⟩ | ⟨-, -, -, -, same⟩ := beginClose_cases protocol
  · rw [same]
    exact delivering
  · rw [same]
    have started : ({ protocol with
        closeStarted := true, pendingClose := protocol.pendingClose + 1 } : SessionProtocol S).Delivering ticks :=
      ⟨delivering.ascending, delivering.ordered, delivering.bounded, delivering.sequence, delivering.writes,
        delivering.welcomed, delivering.undelivered, delivering.settled⟩
    exact started.say rfl

/-- What asks for a close, before the departure and the close itself. -/
def request (protocol : SessionProtocol S) : SessionProtocol S :=
  { protocol with
    closeRequested := true
    closeIntended := true
    delivery := protocol.delivery.discardPending }.say .requested

theorem requestClose_cases (protocol : SessionProtocol S) : protocol.requestClose = protocol ∧
    (protocol.finished = true ∨ protocol.closeRequested = true) ∨
    (protocol.finished = false ∧ protocol.closeRequested = false ∧
      protocol.requestClose = protocol.request.leave.beginClose) := by
  unfold SessionProtocol.requestClose
  split
  · next stays =>
    rw [Bool.or_eq_true] at stays
    exact .inl ⟨rfl, stays⟩
  · next asks =>
    simp only [Bool.or_eq_true, not_or, Bool.not_eq_true] at asks
    exact .inr ⟨asks.1, asks.2, rfl⟩

theorem requestClose_closeRequested (opened : protocol.finished = false) :
    protocol.requestClose.closeRequested = true := by
  obtain ⟨same, finished | requested⟩ | ⟨-, -, same⟩ := requestClose_cases protocol
  · exact absurd (finished.symm.trans opened) (by decide)
  · rw [same]
    exact requested
  · have left : protocol.request.leave.closeRequested = true := by
      rw [leave_eq]
      rfl
    rw [same]
    obtain ⟨closes, -⟩ | ⟨-, -, -, -, closes⟩ := beginClose_cases protocol.request.leave
    · rw [closes]
      exact left
    · rw [closes]
      exact left

theorem Flagged.request (flagged : protocol.Flagged) : protocol.request.Flagged :=
  ⟨flagged.welcome, flagged.data, flagged.ping, flagged.exclusive, fun _ => rfl, flagged.unstarted, flagged.closing,
    fun _ => rfl⟩

theorem Hushing.request (hushing : protocol.Hushing) : protocol.request.Hushing := by
  refine ⟨?_, ?_, hushing.hushed.concat (.inl rfl)⟩
  · simp only [SessionProtocol.request, SessionProtocol.say, List.mem_append, List.mem_singleton, or_true]
  · simp only [SessionProtocol.request, SessionProtocol.say, List.count_append, hushing.closes]
    rfl

theorem Delivering.request {ticks : List Nat} (delivering : protocol.Delivering ticks) :
    protocol.request.Delivering ticks := by
  have asked : ({ protocol with
      closeRequested := true
      closeIntended := true
      delivery := protocol.delivery.discardPending } : SessionProtocol S).Delivering ticks := by
    refine ⟨delivering.ascending, ?_, delivering.bounded, ?_, delivering.writes, ?_, ?_, delivering.settled⟩
    · intro unfinished
      have ordered := delivering.ordered unfinished
      refine ⟨ordered.active, ?_, ?_⟩
      · intro pending impossible
        cases impossible
      · intro active pending _ impossible
        cases impossible
    · intros
      contradiction
    · intros
      contradiction
    · intros
      contradiction
  exact asked.say rfl

theorem Departing.request (departing : protocol.Departing) : protocol.request.leave.Departing := by
  refine Departing.leave departing.owned ?_ ?_
  · simp only [SessionProtocol.request, SessionProtocol.say, List.count_append, departing.counted]
    rfl
  · have kept : (protocol.said ++ [ProtocolCall.requested]).filterMap ProtocolCall.closedController =
        protocol.said.filterMap ProtocolCall.closedController := by
      simp only [List.filterMap_append, List.filterMap_cons, ProtocolCall.closedController, List.filterMap_nil,
        List.append_nil]
    exact kept.trans departing.closed

theorem Flagged.asked (flagged : protocol.Flagged) (written : protocol.Written) :
    protocol.request.leave.beginClose.Flagged ∧ protocol.request.leave.beginClose.Written ∧
      (protocol.Active → protocol.request.leave.beginClose.Operating) := by
  have left : protocol.request.leave.Flagged := flagged.request.leave
  have kept : protocol.request.leave.Written ∧ (protocol.Active → protocol.request.leave.Active) ∧
      protocol.request.leave.closeRequested = true := by
    rw [leave_eq]
    exact ⟨written, id, rfl⟩
  obtain ⟨flags, writes, operates⟩ := left.beginClose kept.1 kept.2.2
  exact ⟨flags, writes, fun active => operates (kept.2.1 active)⟩

theorem Sound.requestClose (sound : protocol.Sound) : protocol.requestClose.Sound := by
  obtain ⟨same, -⟩ | ⟨-, -, same⟩ := requestClose_cases protocol
  · rw [same]
    exact sound
  · rw [same]
    obtain ⟨operating, departing, hushing, ticks, delivering⟩ := sound
    exact ⟨(operating.toFlagged.asked operating.written).2.2 operating.active, departing.request.beginClose,
      hushing.request.leave.beginClose, ticks, delivering.request.leave.beginClose⟩

theorem Operating.fail (flagged : protocol.Flagged) (written : protocol.Written) : protocol.fail.Operating := by
  refine ⟨⟨flagged.welcome, flagged.data, flagged.ping, flagged.exclusive, flagged.requested, flagged.unstarted,
    flagged.closing, flagged.intended⟩, ?_, written, ?_⟩
  · intro _ _
    simp only [SessionProtocol.fail]
    omega
  · intro _ _ _
    simp only [SessionProtocol.fail]
    omega

theorem Sound.fail (flagged : protocol.Flagged) (written : protocol.Written) (departing : protocol.Departing)
    (hushing : protocol.Hushing) (delivering : ∃ ticks, protocol.Delivering ticks) : protocol.fail.Sound := by
  obtain ⟨ticks, delivers⟩ := delivering
  exact ⟨.fail flagged written, ⟨departing.owned, departing.departed, departing.counted, departing.closed⟩,
    ⟨hushing.requested, hushing.closes, hushing.hushed⟩, ticks, delivers.ascending, delivers.ordered,
    delivers.bounded, delivers.sequence, delivers.writes, delivers.welcomed, delivers.undelivered, delivers.settled⟩

theorem Sound.failed (sound : protocol.Sound) : protocol.fail.Sound :=
  .fail sound.operating.toFlagged sound.operating.written sound.departing sound.hushing sound.delivering

theorem Sound.report (flagged : protocol.Flagged) (written : protocol.Written) (departing : protocol.Departing)
    (hushing : protocol.Hushing) (opened : protocol.finished = false) (unrequested : protocol.closeRequested = false)
    (delivering : ∃ ticks, protocol.request.Delivering ticks) : protocol.report.Sound := by
  unfold SessionProtocol.report
  obtain ⟨-, finished | requested⟩ | ⟨-, -, same⟩ := requestClose_cases protocol
  · exact absurd (finished.symm.trans opened) (by decide)
  · exact absurd (requested.symm.trans unrequested) (by decide)
  · rw [same]
    obtain ⟨flags, writes, -⟩ := flagged.asked written
    obtain ⟨ticks, delivers⟩ := delivering
    exact .fail flags writes departing.request.beginClose hushing.request.leave.beginClose
      ⟨ticks, delivers.leave.beginClose⟩

end Closing

end SessionProtocol

end BlobRoyale.Server
