import BlobRoyale.Server.SessionProtocolSoundness

/-!
# Every move keeps the protocol

Each move of a session is sound: an operation starts only on an idle session, and what lands lowers its own
flag before it finishes the session, starts the close that waited for it, or leaves it open.
-/

namespace BlobRoyale.Server

open BlobRoyale.Simulation Relation

variable {S : Type} [Scalar S]

namespace SessionProtocol

variable {protocol next : SessionProtocol S}

section Moving

theorem pending_of_flag {pending : Nat} {flag : Bool} (flags : pending = flag.toNat) (present : 0 < pending) :
    pending = 1 ∧ flag = true := by
  cases flag with
  | false =>
    simp only [Bool.toNat_false] at flags
    omega
  | true => exact ⟨flags, rfl⟩

theorem pending_of_unflagged {pending : Nat} {flag : Bool} (flags : pending = flag.toNat) (lowered : flag = false) :
    pending = 0 := by
  rw [flags, lowered]
  rfl

theorem Sound.idle (sound : protocol.Sound) (opened : protocol.finished = false)
    (unrequested : protocol.closeRequested = false) (welcome : protocol.welcomeWriteActive = false)
    (unwritten : protocol.delivery.writeActive = false) (unpinged : protocol.controlWriteActive = false) :
    protocol.pendingWelcome = 0 ∧ protocol.pendingSnapshot = 0 ∧ protocol.pendingPing = 0 ∧
      protocol.pendingClose = 0 ∧ protocol.closeStarted = false ∧ protocol.snapshotWriteOperationActive = false := by
  have flagged := sound.operating.toFlagged
  have noWelcome := pending_of_unflagged flagged.welcome welcome
  have noPing := pending_of_unflagged flagged.ping unpinged
  have noSnapshot : protocol.pendingSnapshot = 0 := by
    by_contra pending
    have writing := sound.operating.written opened (Nat.pos_of_ne_zero pending)
    rw [unwritten] at writing
    cases writing
  have unstarted : protocol.closeStarted = false := by
    by_contra started
    rw [Bool.not_eq_false] at started
    exact absurd ((flagged.requested started).symm.trans unrequested) (by decide)
  have noData : protocol.snapshotWriteOperationActive = false := by
    have data := flagged.data
    rw [noWelcome, noSnapshot] at data
    by_contra writing
    rw [Bool.not_eq_false] at writing
    rw [writing] at data
    cases data
  exact ⟨noWelcome, noSnapshot, noPing, flagged.unstarted unstarted, unstarted, noData⟩

theorem Sound.observed (sound : protocol.Sound) {latest : WorldSnapshot S} {delivery : SnapshotDeliveryState S}
    (opened : protocol.finished = false) (observes : protocol.delivery.observe latest = .ok delivery) :
    ({ protocol with delivery := delivery } : SessionProtocol S).Sound := by
  obtain ⟨active, delivered, sequence, -⟩ := SnapshotDeliveryState.observe_fields observes
  have writing : delivery.writeActive = protocol.delivery.writeActive := by
    unfold SnapshotDeliveryState.writeActive
    rw [active]
  obtain ⟨operating, departing, hushing, ticks, delivering⟩ := sound
  refine ⟨⟨⟨operating.welcome, operating.data, operating.ping, operating.exclusive, operating.requested,
    operating.unstarted, operating.closing, operating.intended⟩, ?_, ?_, operating.progress⟩,
    ⟨departing.owned, departing.departed, departing.counted, departing.closed⟩,
    ⟨hushing.requested, hushing.closes, hushing.hushed⟩, ticks, delivering.ascending, ?_, ?_, ?_, delivering.writes,
    delivering.welcomed, delivering.undelivered, delivering.settled⟩
  · intro unfinished present
    exact operating.active unfinished (writing ▸ present)
  · intro unfinished pending
    exact writing.trans (operating.written unfinished pending)
  · intro _
    exact (delivering.ordered opened).observe observes
  · intro unfinished
    rw [active, delivered]
    exact delivering.bounded unfinished
  · intro unfinished unrequested
    rw [sequence]
    exact delivering.sequence unfinished unrequested

theorem Sound.welcomeStarted (sound : protocol.Sound) (opened : protocol.finished = false)
    (unrequested : protocol.closeRequested = false) (undelivered : protocol.welcomeDelivered = false)
    (idle : protocol.dataWriteActive = false) (unpinged : protocol.controlWriteActive = false) :
    (protocol.startWelcome.say .welcome).Sound := by
  obtain ⟨welcome, unwritten⟩ : protocol.welcomeWriteActive = false ∧ protocol.delivery.writeActive = false := by
    simpa only [dataWriteActive, Bool.or_eq_false_iff] using idle
  obtain ⟨noWelcome, noSnapshot, noPing, noClose, -, -⟩ := sound.idle opened unrequested welcome unwritten unpinged
  obtain ⟨operating, departing, hushing, ticks, delivering⟩ := sound
  have nobody := delivering.undelivered opened unrequested undelivered
  have unsaid : protocol.said.filterMap ProtocolCall.dataWrite = [] := by
    by_contra said
    have welcomed := (delivering.welcomed opened unrequested).mp said
    rw [welcome, undelivered] at welcomed
    simp at welcomed
  have departs : protocol.startWelcome.Departing :=
    ⟨departing.owned, departing.departed, departing.counted, departing.closed⟩
  have hushes : protocol.startWelcome.Hushing := ⟨hushing.requested, hushing.closes, hushing.hushed⟩
  have begun : (protocol.said ++ [ProtocolCall.welcome]).filterMap ProtocolCall.dataWrite = [none] := by
    rw [List.filterMap_append, unsaid]
    rfl
  refine ⟨⟨⟨?_, ?_, operating.ping, ?_, operating.requested, operating.unstarted, operating.closing,
    operating.intended⟩, operating.active, operating.written, ?_⟩, departs.say (by decide) rfl,
    hushes.say (by decide) (by decide) (.inr unrequested), ticks, delivering.ascending, delivering.ordered,
    delivering.bounded, delivering.sequence, .inr ?_, ?_, fun _ _ _ => nobody,
    fun delivered => absurd (delivered.symm.trans undelivered) (by decide)⟩
  · simp only [SessionProtocol.say, startWelcome, noWelcome, Bool.toNat_true]
  · simp only [SessionProtocol.say, startWelcome, noWelcome, noSnapshot, Bool.toNat_true]
  · simp only [SessionProtocol.say, startWelcome, noWelcome, noSnapshot, noPing, noClose]
    omega
  · intro requested
    exact absurd (requested.symm.trans unrequested) (by decide)
  · simp only [SessionProtocol.say, startWelcome, begun, nobody]
    rfl
  · intro _ _
    simp only [SessionProtocol.say, startWelcome, begun]
    simp

theorem Delivering.snapshotStarted {ticks : List Nat} (delivering : protocol.Delivering ticks)
    {delivered : SnapshotDelivery S} {begun : SnapshotDeliveryState S} (opened : protocol.finished = false)
    (unrequested : protocol.closeRequested = false) (welcomed : protocol.welcomeDelivered = true)
    (begins : protocol.delivery.beginActiveWrite = (.ok (some delivered), begun)) :
    ((protocol.startSnapshot begun).say (.snapshot (delivered.messageSequence + 1)
      delivered.snapshot.tickSequence.value)).Delivering (ticks ++ [delivered.snapshot.tickSequence.value]) := by
  obtain ⟨inactive, retained, numbered, rfl⟩ := SnapshotDeliveryState.beginActiveWrite_eq_ok begins
  have newer := (delivering.ordered opened).pending _ retained
  have earlier : ∀ tick ∈ ticks, tick < delivered.snapshot.tickSequence.value := by
    intro tick member
    have bounded := delivering.bounded opened tick member
    rw [inactive] at bounded
    simp only [SnapshotDeliveryState.retainedTick, Nat.max_zero] at bounded
    exact bounded.trans_lt newer
  have said : (protocol.said ++ [ProtocolCall.snapshot (delivered.messageSequence + 1)
      delivered.snapshot.tickSequence.value]).filterMap ProtocolCall.dataWrite =
      protocol.said.filterMap ProtocolCall.dataWrite ++
        [some (ticks.length + 2, delivered.snapshot.tickSequence.value)] := by
    rw [List.filterMap_append, numbered, delivering.sequence opened unrequested]
    rfl
  have prior : ProtocolCall.Numbered (protocol.said.filterMap ProtocolCall.dataWrite) ticks := by
    obtain ⟨-, unsaid⟩ | prior := delivering.writes
    · exact absurd unsaid ((delivering.welcomed opened unrequested).mpr (.inr welcomed))
    · exact prior
  refine ⟨?_, fun _ => ⟨?_, ?_, ?_⟩, fun _ => ?_, fun _ _ => ?_, .inr ?_, fun _ _ => ?_, ?_, delivering.settled⟩
  · refine List.pairwise_append.mpr ⟨delivering.ascending, List.pairwise_singleton _ _, ?_⟩
    rintro tick member _ (_ | ⟨_, ⟨⟩⟩)
    exact earlier tick member
  · rintro _ ⟨⟩
    exact newer
  · intro pending impossible
    cases impossible
  · intro _ pending _ impossible
    cases impossible
  · intro tick member
    obtain before | last := List.mem_append.mp member
    · exact (earlier tick before).le.trans (le_max_right _ _)
    · rw [List.mem_singleton] at last
      exact last.le.trans (le_max_right _ _)
  · rw [List.length_append, List.length_singleton, ← delivering.sequence opened unrequested]
    rfl
  · simp only [SessionProtocol.say, startSnapshot, said]
    exact prior.concat _
  · simp only [SessionProtocol.say, startSnapshot, said]
    simp [welcomed]
  · intro _ _ undelivered
    exact absurd (welcomed.symm.trans undelivered) (by decide)

theorem unwritten_of_inactive (inactive : protocol.delivery.activeSnapshot = none) :
    protocol.delivery.writeActive = false := by
  rw [SnapshotDeliveryState.writeActive, inactive]
  rfl

theorem Sound.snapshotStarted (sound : protocol.Sound) {delivered : SnapshotDelivery S}
    {begun : SnapshotDeliveryState S} (opened : protocol.finished = false)
    (unrequested : protocol.closeRequested = false) (welcomed : protocol.welcomeDelivered = true)
    (unpinged : protocol.controlWriteActive = false)
    (begins : protocol.delivery.beginActiveWrite = (.ok (some delivered), begun)) :
    ((protocol.startSnapshot begun).say (.snapshot (delivered.messageSequence + 1)
      delivered.snapshot.tickSequence.value)).Sound := by
  obtain ⟨inactive, -, -, same⟩ := SnapshotDeliveryState.beginActiveWrite_eq_ok begins
  obtain ⟨operating, departing, hushing, ticks, delivering⟩ := id sound
  obtain ⟨noWelcome, noSnapshot, noPing, noClose, -, -⟩ :=
    sound.idle opened unrequested (delivering.settled welcomed) (unwritten_of_inactive inactive) unpinged
  have departs : (protocol.startSnapshot begun).Departing :=
    ⟨departing.owned, departing.departed, departing.counted, departing.closed⟩
  have hushes : (protocol.startSnapshot begun).Hushing := ⟨hushing.requested, hushing.closes, hushing.hushed⟩
  refine ⟨⟨⟨operating.welcome, ?_, operating.ping, ?_, operating.requested, operating.unstarted, operating.closing,
    operating.intended⟩, ?_, ?_, ?_⟩, departs.say (fun impossible => by cases impossible) rfl,
    hushes.say (fun impossible => by cases impossible) (fun impossible => by cases impossible) (.inr unrequested),
    _, delivering.snapshotStarted opened unrequested welcomed begins⟩
  · simp only [SessionProtocol.say, startSnapshot, noWelcome, noSnapshot, Bool.toNat_true]
  · simp only [SessionProtocol.say, startSnapshot, noWelcome, noSnapshot, noPing, noClose]
    omega
  · intro _ _
    simp only [SessionProtocol.say, startSnapshot]
    omega
  · intro _ _
    simp only [SessionProtocol.say, startSnapshot, same]
    rfl
  · intro requested
    exact absurd (requested.symm.trans unrequested) (by decide)

theorem Sound.snapshotRefused (sound : protocol.Sound) (opened : protocol.finished = false)
    (unrequested : protocol.closeRequested = false) (welcomed : protocol.welcomeDelivered = true)
    (unpinged : protocol.controlWriteActive = false) (ready : protocol.delivery.readyToWrite = true) :
    (protocol.refuseSnapshot (protocol.delivery.beginActiveWrite).2).report.Sound := by
  obtain ⟨pending, inactive, retained, begun, emptied, delivered⟩ :=
    SnapshotDeliveryState.beginActiveWrite_of_ready ready
  obtain ⟨operating, departing, hushing, ticks, delivering⟩ := id sound
  obtain ⟨noWelcome, noSnapshot, -, -, -, -⟩ :=
    sound.idle opened unrequested (delivering.settled welcomed) (unwritten_of_inactive inactive) unpinged
  refine .report ⟨operating.welcome, ?_, operating.ping, operating.exclusive, operating.requested,
    operating.unstarted, operating.closing, operating.intended⟩ ?_
    ⟨departing.owned, departing.departed, departing.counted, departing.closed⟩
    ⟨hushing.requested, hushing.closes, hushing.hushed⟩ opened unrequested ⟨ticks, ?_⟩
  · simp only [refuseSnapshot, noWelcome, noSnapshot, Bool.toNat_false]
  · intro _ writing
    simp only [refuseSnapshot] at writing
    omega
  · have asked : ({ protocol.refuseSnapshot (protocol.delivery.beginActiveWrite).2.discardPending with
        closeRequested := true
        closeIntended := true } : SessionProtocol S).Delivering ticks := by
      refine ⟨delivering.ascending, fun _ => ⟨?_, ?_, ?_⟩, ?_, ?_, delivering.writes, ?_, ?_, delivering.settled⟩
      · intro active present
        obtain rfl : pending = active := Option.some.inj (begun.symm.trans present)
        exact (congrArg (·.getD 0) delivered).trans_lt ((delivering.ordered opened).pending _ retained)
      · intro other impossible
        cases impossible
      · intro _ other _ impossible
        cases impossible
      · intro _ tick member
        have bounded := delivering.bounded opened tick member
        rw [inactive] at bounded
        simp only [SnapshotDeliveryState.retainedTick, Nat.max_zero] at bounded
        exact (bounded.trans (congrArg (·.getD 0) delivered).ge).trans (le_max_left _ _)
      · intro _ impossible
        cases impossible
      · intro _ impossible
        cases impossible
      · intro _ impossible
        cases impossible
    exact asked.say rfl

theorem Sound.pingStarted (sound : protocol.Sound) (opened : protocol.finished = false)
    (unrequested : protocol.closeRequested = false) (idle : protocol.dataWriteActive = false)
    (unpinged : protocol.controlWriteActive = false) : (protocol.startPing.say .ping).Sound := by
  obtain ⟨welcome, unwritten⟩ : protocol.welcomeWriteActive = false ∧ protocol.delivery.writeActive = false := by
    simpa only [dataWriteActive, Bool.or_eq_false_iff] using idle
  obtain ⟨noWelcome, noSnapshot, noPing, noClose, -, -⟩ := sound.idle opened unrequested welcome unwritten unpinged
  obtain ⟨operating, departing, hushing, ticks, delivering⟩ := sound
  have departs : protocol.startPing.Departing :=
    ⟨departing.owned, departing.departed, departing.counted, departing.closed⟩
  have hushes : protocol.startPing.Hushing := ⟨hushing.requested, hushing.closes, hushing.hushed⟩
  have delivers : protocol.startPing.Delivering ticks :=
    ⟨delivering.ascending, delivering.ordered, delivering.bounded, delivering.sequence, delivering.writes,
      delivering.welcomed, delivering.undelivered, delivering.settled⟩
  refine ⟨⟨⟨operating.welcome, operating.data, ?_, ?_, operating.requested, operating.unstarted, operating.closing,
    operating.intended⟩, operating.active, operating.written, ?_⟩, departs.say (by decide) rfl,
    hushes.say (by decide) (by decide) (.inr unrequested), ticks, delivers.say rfl⟩
  · simp only [SessionProtocol.say, startPing, noPing, Bool.toNat_true]
  · simp only [SessionProtocol.say, startPing, noWelcome, noSnapshot, noPing, noClose]
    omega
  · intro requested
    exact absurd (requested.symm.trans unrequested) (by decide)

end Moving

section Landing

/-- What lands behind a requested close starts it, and otherwise leaves the session open. -/
theorem Sound.closeIfRequested (flagged : protocol.Flagged) (active : protocol.Active) (written : protocol.Written)
    (departing : protocol.Departing) (hushing : protocol.Hushing) (delivering : ∃ ticks, protocol.Delivering ticks) :
    protocol.closeIfRequested.Sound := by
  unfold SessionProtocol.closeIfRequested
  split
  · next requested =>
    obtain ⟨ticks, delivers⟩ := delivering
    exact ⟨(flagged.beginClose written requested).2.2 active, departing.beginClose, hushing.beginClose, ticks,
      delivers.beginClose⟩
  · next unrequested => exact ⟨⟨flagged, active, written, fun requested => absurd requested unrequested⟩, departing,
      hushing, delivering⟩

theorem Sound.of_finished (flagged : protocol.Flagged) (departing : protocol.Departing) (hushing : protocol.Hushing)
    (delivering : ∃ ticks, protocol.ended.Delivering ticks) (finished : protocol.finished = true) :
    protocol.Sound := by
  rw [ended_of_finished finished] at delivering
  exact ⟨flagged.operating_of_finished finished, departing, hushing, delivering⟩

theorem Flagged.landWelcome (flagged : protocol.Flagged) (pending : 0 < protocol.pendingWelcome) :
    protocol.landWelcome.Flagged := by
  obtain ⟨single, -⟩ := pending_of_flag flagged.welcome pending
  have data := flagged.data
  have exclusive := flagged.exclusive
  have bound := Bool.toNat_le protocol.snapshotWriteOperationActive
  refine ⟨?_, ?_, flagged.ping, ?_, flagged.requested, flagged.unstarted, flagged.closing, flagged.intended⟩
  · simp only [SessionProtocol.landWelcome, single, Bool.toNat_false]
  · simp only [SessionProtocol.landWelcome, Bool.toNat_false]
    omega
  · simp only [SessionProtocol.landWelcome]
    omega

theorem Flagged.landSnapshot (flagged : protocol.Flagged) (pending : 0 < protocol.pendingSnapshot) :
    protocol.landSnapshot.Flagged := by
  have data := flagged.data
  have exclusive := flagged.exclusive
  have bound := Bool.toNat_le protocol.snapshotWriteOperationActive
  refine ⟨flagged.welcome, ?_, flagged.ping, ?_, flagged.requested, flagged.unstarted, flagged.closing,
    flagged.intended⟩
  · simp only [SessionProtocol.landSnapshot, Bool.toNat_false]
    omega
  · simp only [SessionProtocol.landSnapshot]
    omega

theorem Flagged.landPing (flagged : protocol.Flagged) (pending : 0 < protocol.pendingPing) :
    protocol.landPing.Flagged := by
  obtain ⟨single, -⟩ := pending_of_flag flagged.ping pending
  have exclusive := flagged.exclusive
  refine ⟨flagged.welcome, flagged.data, ?_, ?_, flagged.requested, flagged.unstarted, flagged.closing,
    flagged.intended⟩
  · simp only [SessionProtocol.landPing, single, Bool.toNat_false]
  · simp only [SessionProtocol.landPing]
    omega

section Landed

variable (sound : protocol.Sound)

include sound

theorem Sound.welcomeEnded : ∃ ticks, protocol.landWelcome.ended.Delivering ticks := by
  obtain ⟨-, -, -, ticks, delivering⟩ := sound
  refine ⟨ticks, delivering.ascending, ?_, ?_, ?_, delivering.writes, ?_, ?_, fun _ => rfl⟩ <;>
    intro impossible <;> cases impossible

theorem Sound.snapshotEnded : ∃ ticks, protocol.landSnapshot.ended.Delivering ticks := by
  obtain ⟨-, -, -, ticks, delivering⟩ := sound
  have ends := delivering.ended
  exact ⟨ticks, ends.ascending, ends.ordered, ends.bounded, ends.sequence, ends.writes, ends.welcomed,
    ends.undelivered, ends.settled⟩

theorem Sound.pinged : ∃ ticks, protocol.landPing.Delivering ticks := by
  obtain ⟨-, -, -, ticks, delivering⟩ := sound
  exact ⟨ticks, delivering.ascending, delivering.ordered, delivering.bounded, delivering.sequence,
    delivering.writes, delivering.welcomed, delivering.undelivered, delivering.settled⟩

theorem Sound.welcomeLanded (pending : 0 < protocol.pendingWelcome) (opened : protocol.finished = false) :
    (SessionProtocol.closeIfRequested { protocol.landWelcome with welcomeDelivered := true }).Sound := by
  obtain ⟨operating, departing, hushing, ticks, delivering⟩ := sound
  obtain ⟨-, writing⟩ := pending_of_flag operating.welcome pending
  have flags := operating.toFlagged.landWelcome pending
  have data := operating.data
  have bound := Bool.toNat_le protocol.snapshotWriteOperationActive
  refine .closeIfRequested ⟨flags.welcome, flags.data, flags.ping, flags.exclusive, flags.requested, flags.unstarted,
    flags.closing, flags.intended⟩ operating.active operating.written
    ⟨departing.owned, departing.departed, departing.counted, departing.closed⟩
    ⟨hushing.requested, hushing.closes, hushing.hushed⟩ ⟨ticks, delivering.ascending, delivering.ordered,
    delivering.bounded, delivering.sequence, delivering.writes, ?_, ?_, fun _ => rfl⟩
  · intro _ unrequested
    have welcomed := (delivering.welcomed opened unrequested).mpr (.inl writing)
    exact ⟨fun _ => .inr rfl, fun _ => welcomed⟩
  · intro _ _ impossible
    cases impossible

theorem Sound.snapshotLanded (pending : 0 < protocol.pendingSnapshot) (opened : protocol.finished = false)
    {completed : SnapshotDeliveryState S} (completes : protocol.delivery.completeActiveWrite = .ok completed) :
    (SessionProtocol.closeIfRequested { protocol.landSnapshot with delivery := completed }).Sound := by
  obtain ⟨operating, departing, hushing, ticks, delivering⟩ := sound
  have flags := operating.toFlagged.landSnapshot pending
  have data := operating.data
  have bound := Bool.toNat_le protocol.snapshotWriteOperationActive
  obtain ⟨active, present, same⟩ := SnapshotDeliveryState.completeActiveWrite_eq_ok completes
  refine .closeIfRequested ⟨flags.welcome, flags.data, flags.ping, flags.exclusive, flags.requested, flags.unstarted,
    flags.closing, flags.intended⟩ ?_ ?_
    ⟨departing.owned, departing.departed, departing.counted, departing.closed⟩
    ⟨hushing.requested, hushing.closes, hushing.hushed⟩ ⟨ticks, delivering.ascending, ?_, ?_, ?_,
      delivering.writes, delivering.welcomed, delivering.undelivered, delivering.settled⟩
  · intro _ writing
    rw [same] at writing
    cases writing
  · intro _ another
    simp only [landSnapshot] at another
    omega
  · intro _
    exact (delivering.ordered opened).completed completes
  · intro _ tick member
    have bounded := delivering.bounded opened tick member
    have newer := (delivering.ordered opened).active active present
    rw [present] at bounded
    rw [same]
    exact (bounded.trans (max_le newer.le le_rfl)).trans (le_max_left _ _)
  · intro _ unrequested
    rw [same]
    exact delivering.sequence opened unrequested

theorem Sound.pingLanded (pending : 0 < protocol.pendingPing) : protocol.landPing.closeIfRequested.Sound :=
  .closeIfRequested (sound.operating.toFlagged.landPing pending) sound.operating.active sound.operating.written
    ⟨sound.departing.owned, sound.departing.departed, sound.departing.counted, sound.departing.closed⟩
    ⟨sound.hushing.requested, sound.hushing.closes, sound.hushing.hushed⟩ sound.pinged

end Landed

end Landing

theorem Sound.move (sound : protocol.Sound) (moves : Move protocol next) : next.Sound := by
  have flagged := sound.operating.toFlagged
  have departing := sound.departing
  have hushing := sound.hushing
  cases moves with
  | observed latest delivery opened observes => exact sound.observed opened observes
  | requested => exact sound.requestClose
  | failed => exact sound.failed
  | finished =>
    obtain ⟨ticks, delivering⟩ := sound.delivering
    exact .finish flagged.ended departing hushing ⟨ticks, delivering.ended⟩
  | welcomeStarted opened unrequested undelivered idle unpinged =>
    exact sound.welcomeStarted opened unrequested undelivered idle unpinged
  | snapshotStarted delivered begun opened unrequested welcomed unpinged begins =>
    exact sound.snapshotStarted opened unrequested welcomed unpinged begins
  | snapshotRefused opened unrequested welcomed unpinged ready =>
    exact sound.snapshotRefused opened unrequested welcomed unpinged ready
  | pingStarted opened unrequested idle unpinged => exact sound.pingStarted opened unrequested idle unpinged
  | welcomeLandedLate pending finished =>
    exact .of_finished (flagged.landWelcome pending)
      ⟨departing.owned, departing.departed, departing.counted, departing.closed⟩
      ⟨hushing.requested, hushing.closes, hushing.hushed⟩ sound.welcomeEnded finished
  | welcomeLost pending =>
    exact .finish (flagged.landWelcome pending).ended
      ⟨departing.owned, departing.departed, departing.counted, departing.closed⟩
      ⟨hushing.requested, hushing.closes, hushing.hushed⟩ sound.welcomeEnded
  | welcomeLanded pending opened => exact sound.welcomeLanded pending opened
  | snapshotLandedLate pending finished =>
    exact .of_finished (flagged.landSnapshot pending)
      ⟨departing.owned, departing.departed, departing.counted, departing.closed⟩
      ⟨hushing.requested, hushing.closes, hushing.hushed⟩ sound.snapshotEnded finished
  | snapshotLost pending =>
    exact .finish (flagged.landSnapshot pending).ended
      ⟨departing.owned, departing.departed, departing.counted, departing.closed⟩
      ⟨hushing.requested, hushing.closes, hushing.hushed⟩ sound.snapshotEnded
  | snapshotLanded pending opened completed completes => exact sound.snapshotLanded pending opened completes
  | pingLandedLate pending finished =>
    obtain ⟨ticks, delivering⟩ := sound.pinged
    exact .of_finished (flagged.landPing pending)
      ⟨departing.owned, departing.departed, departing.counted, departing.closed⟩
      ⟨hushing.requested, hushing.closes, hushing.hushed⟩ ⟨ticks, delivering.ended⟩ finished
  | pingLost pending =>
    obtain ⟨ticks, delivering⟩ := sound.pinged
    exact .finish (flagged.landPing pending).ended
      ⟨departing.owned, departing.departed, departing.counted, departing.closed⟩
      ⟨hushing.requested, hushing.closes, hushing.hushed⟩ ⟨ticks, delivering.ended⟩
  | pingLanded pending => exact sound.pingLanded pending
  | timedOut =>
    obtain ⟨ticks, delivering⟩ := sound.delivering
    have ends := delivering.ended
    have flags := flagged.ended
    exact .finish ⟨flags.welcome, flags.data, flags.ping, flags.exclusive, flags.requested, flags.unstarted,
      flags.closing, fun _ => rfl⟩
      ⟨departing.owned, departing.departed, departing.counted, departing.closed⟩
      ⟨hushing.requested, hushing.closes, hushing.hushed⟩ ⟨ticks, ends.ascending, ends.ordered, ends.bounded,
      ends.sequence, ends.writes, ends.welcomed, ends.undelivered, ends.settled⟩
  | closeLanded pending =>
    obtain ⟨ticks, delivering⟩ := sound.delivering
    have ends := delivering.ended
    have exclusive := flagged.exclusive
    refine .finish ⟨flagged.welcome, flagged.data, flagged.ping, ?_, flagged.requested, ?_, ?_, flagged.intended⟩
      ⟨departing.owned, departing.departed, departing.counted, departing.closed⟩
      ⟨hushing.requested, hushing.closes, hushing.hushed⟩ ⟨ticks, ends.ascending, ends.ordered, ends.bounded,
      ends.sequence, ends.writes, ends.welcomed, ends.undelivered, ends.settled⟩
    · simp only [ended]
      omega
    · intro unstarted
      exact absurd (flagged.unstarted unstarted) (Nat.pos_iff_ne_zero.mp pending)
    · intro _ impossible
      cases impossible
  | failureLanded pending =>
    obtain ⟨ticks, delivering⟩ := sound.delivering
    have ends := delivering.ended
    have flags := flagged.ended
    exact .finish ⟨flags.welcome, flags.data, flags.ping, flags.exclusive, flags.requested, flags.unstarted,
      flags.closing, flags.intended⟩
      ⟨departing.owned, departing.departed, departing.counted, departing.closed⟩
      ⟨hushing.requested, hushing.closes, hushing.hushed⟩ ⟨ticks, ends.ascending, ends.ordered, ends.bounded,
      ends.sequence, ends.writes, ends.welcomed, ends.undelivered, ends.settled⟩

theorem Sound.moves (sound : protocol.Sound) (moved : Moves protocol next) : next.Sound := by
  induction moved with
  | refl => exact sound
  | tail _ move ih => exact ih.move move

section Controller

theorem leave_controller : protocol.leave.controller = protocol.controller := by
  rw [leave_eq]

theorem finish_controller : protocol.finish.controller = protocol.controller := by
  unfold SessionProtocol.finish
  split
  · rfl
  · exact (leave_controller : (SessionProtocol.leave { protocol with finished := true }).controller = _)

theorem beginClose_controller : protocol.beginClose.controller = protocol.controller := by
  obtain ⟨same, -⟩ | ⟨-, -, -, -, same⟩ := beginClose_cases protocol <;> rw [same]
  rfl

theorem requestClose_controller : protocol.requestClose.controller = protocol.controller := by
  obtain ⟨same, -⟩ | ⟨-, -, same⟩ := requestClose_cases protocol <;> rw [same]
  exact beginClose_controller.trans leave_controller

theorem closeIfRequested_controller : protocol.closeIfRequested.controller = protocol.controller := by
  unfold closeIfRequested
  split
  · exact beginClose_controller
  · rfl

theorem move_controller (moves : Move protocol next) : next.controller = protocol.controller := by
  cases moves with
  | observed | failed | welcomeStarted | snapshotStarted | pingStarted | welcomeLandedLate | snapshotLandedLate
  | pingLandedLate => rfl
  | requested => exact requestClose_controller
  | snapshotRefused =>
    exact (requestClose_controller : (SessionProtocol.requestClose (protocol.refuseSnapshot _)).controller = _)
  | finished => exact finish_controller
  | welcomeLost => exact (finish_controller : protocol.landWelcome.finish.controller = _)
  | snapshotLost => exact (finish_controller : protocol.landSnapshot.finish.controller = _)
  | pingLost => exact (finish_controller : protocol.landPing.finish.controller = _)
  | welcomeLanded =>
    exact (closeIfRequested_controller :
      (closeIfRequested { protocol.landWelcome with welcomeDelivered := true }).controller = _)
  | snapshotLanded _ _ completed =>
    exact (closeIfRequested_controller :
      (closeIfRequested { protocol.landSnapshot with delivery := completed }).controller = _)
  | pingLanded => exact (closeIfRequested_controller : protocol.landPing.closeIfRequested.controller = _)
  | timedOut => exact (finish_controller : (finish { protocol with closeIntended := true }).controller = _)
  | closeLanded =>
    exact (finish_controller : (finish { protocol with pendingClose := protocol.pendingClose - 1 }).controller = _)
  | failureLanded =>
    exact (finish_controller :
      (finish { protocol with pendingFailure := protocol.pendingFailure - 1 }).controller = _)

theorem moves_controller (moved : Moves protocol next) : next.controller = protocol.controller := by
  induction moved with
  | refl => rfl
  | tail _ move ih => exact (move_controller move).trans ih

end Controller

end SessionProtocol

end BlobRoyale.Server
