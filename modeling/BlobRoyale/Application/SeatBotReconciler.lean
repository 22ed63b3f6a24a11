import Mathlib.Data.String.Basic
import BlobRoyale.Runtime.CommandSink

/-!
# The seat bot reconciler

A bot for every declared NPC seat, and none for a seat that is gone: one pass over a published roster
retires the bots whose seats no longer hold them, then creates one for every declared seat nobody
holds. Whether the registry builds a controller is an answer of the surroundings, which also move the
sink between two of its uses.
-/

namespace BlobRoyale.Application

open BlobRoyale.Simulation BlobRoyale.Runtime

def simulationTicksPerSecond : Nat := 400
def maximumHostedControllerCount : Nat := maximumControllerDirectoryEntryCount

/-- `kJoinObservationBudgetTicks`. -/
def joinObservationBudgetTicks : Nat := simulationTicksPerSecond

structure HostedBot where
  declaration : NpcDeclaration
  seatIndex : Nat
  joinSubmittedAt : Option TickSequence
  deriving DecidableEq

/-- Why a creation threw. -/
inductive BotCreationFailure where
  | matchBotProfileUnknown (profileName : BotProfileName)
  | sinkRefused (error : CommandSinkError)
  | registryRefused
  | controllerHostFull
  | controllerIdDuplicate
  | submissionRefused (error : SimulationValidationError)
  deriving DecidableEq

/-- One line of the structured log, by its event name. -/
inductive BotEvent where
  | botCreated (controller : ControllerId) (declaration : NpcDeclaration) (seatIndex : Nat)
  | botCreationFailed (declaration : NpcDeclaration) (seatIndex : Nat) (reason : BotCreationFailure)
  | botRetired (controller : ControllerId) (declaration : NpcDeclaration) (seatIndex : Nat) (reason : String)
  deriving DecidableEq

/-- What other threads did to the sink since the reconciler last used it, and what the registry and
the clock answer. Others only issue further controller ids. -/
structure Surroundings (S : Type) [Scalar S] where
  interfere : CommandSink S → CommandSink S
  issues : ∀ sink, sink.nextControllerId ≤ (interfere sink).nextControllerId
  registryCreates : Bool
  now : Int

/-- The roster and tick of a published snapshot. -/
structure PublishedRoster where
  seats : SeatRoster
  tickSequence : TickSequence

/-- The hosted controllers, by identity. -/
abbrev ControllerHost := SortedStore ControllerId Unit

def ControllerHost.add (host : ControllerHost) (controller : ControllerId) :
    Except BotCreationFailure ControllerHost :=
  if maximumHostedControllerCount ≤ host.entries.length then .error .controllerHostFull
  else if (host.find controller).isSome then .error .controllerIdDuplicate
  else .ok (host.insertOrAssign controller ())

/-- The reconciler with its sink and host, the controllers it ever opened and closed, and what its
last pass logged. -/
structure SeatBotReconciler (S : Type) [Scalar S] where
  sink : CommandSink S
  host : ControllerHost
  bots : SortedStore ControllerId HostedBot
  displayOrdinals : SortedStore String Nat
  failedDeclarations : SortedStore Nat NpcDeclaration
  opened : List ControllerId
  closed : List ControllerId
  log : List BotEvent

/-- The current NPC declaration at an authored index. -/
def npcAt (seats : SeatRoster) (index : Nat) : Option NpcSeat :=
  match seats.seats[index]? with
  | some (.npc seat) => some seat
  | _ => none

def sameDeclaration (seats : SeatRoster) (index : Nat) (expected : NpcDeclaration) : Bool :=
  (npcAt seats index).any fun declared => declared.declaration = expected

/-- Whether this seat declares an NPC kind and holds no bot yet. -/
def unfilledDeclaration : Seat → Option NpcSeat
  | .npc seat => if seat.controller.isNone then some seat else none
  | _ => none

namespace SeatBotReconciler

variable {S : Type} [Scalar S]

def create (sink : CommandSink S) : SeatBotReconciler S where
  sink := sink
  host := .empty
  bots := .empty
  displayOrdinals := .empty
  failedDeclarations := .empty
  opened := []
  closed := []
  log := []

section Retire

/-- `retire_bot`, with the erasure of its entry. -/
def retireBot (reconciler : SeatBotReconciler S) (controller : ControllerId) (bot : HostedBot)
    (reason : String) : SeatBotReconciler S :=
  { reconciler with
    sink := (reconciler.sink.closeSession controller).2
    closed := reconciler.closed ++ [controller]
    host := reconciler.host.erase controller
    bots := reconciler.bots.erase controller
    log := reconciler.log ++ [.botRetired controller bot.declaration bot.seatIndex reason] }

/-- The first block of a pass: a failure is remembered while its seat declares the same. -/
def forgetChanged (reconciler : SeatBotReconciler S) (seats : SeatRoster) : SeatBotReconciler S :=
  { reconciler with
    failedDeclarations := reconciler.failedDeclarations.filter (sameDeclaration seats) }

def joinInFlight (observed : TickSequence) (bot : HostedBot) : Bool :=
  bot.joinSubmittedAt.any fun submitted => observed.value < submitted.value + joinObservationBudgetTicks

/-- What pass one makes of a bot: kept as it is now known, or retired for a reason. -/
def judge (published : PublishedRoster) (controller : ControllerId) (bot : HostedBot) :
    Except String HostedBot :=
  if !sameDeclaration published.seats bot.seatIndex bot.declaration then
    .error (if (npcAt published.seats bot.seatIndex).isNone then "seat_lost" else "declaration_changed")
  else if (npcAt published.seats bot.seatIndex).any fun declared => declared.controller = some controller then
    .ok { bot with joinSubmittedAt := none }
  else if joinInFlight published.tickSequence bot then .ok bot
  else .error (if bot.joinSubmittedAt.isSome then "join_refused" else "seat_lost")

def settleBot (published : PublishedRoster) (reconciler : SeatBotReconciler S)
    (entry : ControllerId × HostedBot) : SeatBotReconciler S :=
  match judge published entry.1 entry.2 with
  | .ok bot => { reconciler with bots := reconciler.bots.insertOrAssign entry.1 bot }
  | .error reason => reconciler.retireBot entry.1 entry.2 reason

def abandonBot (reconciler : SeatBotReconciler S) (entry : ControllerId × HostedBot) : SeatBotReconciler S :=
  reconciler.retireBot entry.1 entry.2 "room_abandoned"

end Retire

section Fill

variable (profiles : BotProfileName → Bool) (surroundings : Nat → Surroundings S)

/-- The catch clause of `create_bot`. -/
def creationFailed (reconciler : SeatBotReconciler S) (declaration : NpcDeclaration) (seatIndex : Nat)
    (reason : BotCreationFailure) : SeatBotReconciler S :=
  { reconciler with
    failedDeclarations := reconciler.failedDeclarations.insertOrAssign seatIndex declaration
    log := reconciler.log ++ [.botCreationFailed declaration seatIndex reason] }

/-- The next name of a kind, and the ordinals after giving it. -/
def nextDisplayName (reconciler : SeatBotReconciler S) (kind : String) : String × SeatBotReconciler S :=
  let ordinal := (reconciler.displayOrdinals.find kind).getD 0 + 1
  (kind ++ " " ++ toString ordinal,
    { reconciler with displayOrdinals := reconciler.displayOrdinals.insertOrAssign kind ordinal })

/-- `create_bot` from the filing of the controller it opened. -/
def fileBot (reconciler : SeatBotReconciler S) (surrounding : Surroundings S) (controller : ControllerId)
    (declaration : NpcDeclaration) (seatIndex : Nat) (observed : TickSequence) : SeatBotReconciler S :=
  match (if surrounding.registryCreates then reconciler.host.add controller
    else .error .registryRefused) with
  | .error reason =>
      { reconciler with
        sink := (reconciler.sink.closeSession controller).2
        closed := reconciler.closed ++ [controller] }.creationFailed declaration seatIndex reason
  | .ok host =>
      let join : Command S := .join ⟨controller, some seatIndex, some declaration⟩
      match reconciler.sink.submit controller join surrounding.now with
      | .error error =>
          { reconciler with host := host }.creationFailed declaration seatIndex (.submissionRefused error)
      | .ok (_, sink) =>
          { reconciler with
            sink := sink
            host := host
            bots := if (reconciler.bots.find controller).isSome then reconciler.bots
              else reconciler.bots.insertOrAssign controller ⟨declaration, seatIndex, some observed⟩
            failedDeclarations := reconciler.failedDeclarations.erase seatIndex
            log := reconciler.log ++ [.botCreated controller declaration seatIndex] }

def createBot (reconciler : SeatBotReconciler S) (declaration : NpcDeclaration) (seatIndex : Nat)
    (observed : TickSequence) : SeatBotReconciler S :=
  let (displayName, named) := reconciler.nextDisplayName declaration.kind.value
  match declaration.profileName.filter fun profile => !profiles profile with
  | some unknown => named.creationFailed declaration seatIndex (.matchBotProfileUnknown unknown)
  | none =>
      let surrounding := surroundings seatIndex
      match (surrounding.interfere named.sink).openSession declaration.kind.value.toUTF8.toList
          displayName.toUTF8.toList with
      | (.error error, sink) =>
          { named with sink := sink }.creationFailed declaration seatIndex (.sinkRefused error)
      | (.ok controller, sink) =>
          { named with
            sink := sink
            opened := named.opened ++ [controller] }.fileBot surrounding controller declaration seatIndex observed

def fillSeat (published : PublishedRoster) (reconciler : SeatBotReconciler S) (index : Nat) :
    SeatBotReconciler S :=
  match published.seats.seats[index]?.bind unfilledDeclaration with
  | none => { reconciler with failedDeclarations := reconciler.failedDeclarations.erase index }
  | some declared =>
      if reconciler.failedDeclarations.find index = some declared.declaration then reconciler
      else if reconciler.bots.entries.any fun entry =>
          entry.2.seatIndex = index && entry.2.joinSubmittedAt.isSome then reconciler
      else reconciler.createBot profiles surroundings declared.declaration index published.tickSequence

def reconcile (reconciler : SeatBotReconciler S) (published : PublishedRoster) (roomAbandoned : Bool) :
    SeatBotReconciler S :=
  let remembered := { reconciler with log := [] }.forgetChanged published.seats
  if roomAbandoned then remembered.bots.entries.foldl abandonBot remembered
  else
    (List.range published.seats.seatCount).foldl (fillSeat profiles surroundings published)
      (remembered.bots.entries.foldl (settleBot published) remembered)

end Fill

end SeatBotReconciler

end BlobRoyale.Application

/-!
# What a pass of the seat bot reconciler does

One inversion of each operation: a bot is kept where its seat holds it or its join is in flight, and
a creation either files a fresh controller or remembers the failed declaration.
-/

namespace BlobRoyale.Application

open BlobRoyale.Simulation BlobRoyale.Runtime

/-- The seat a bot was built for names it, or its join is still in flight. -/
def Placed (published : PublishedRoster) (controller : ControllerId) (bot : HostedBot) : Prop :=
  ∃ seat, npcAt published.seats bot.seatIndex = some seat ∧ seat.declaration = bot.declaration ∧
    (seat.controller = some controller ∨ ∃ submitted, bot.joinSubmittedAt = some submitted ∧
      published.tickSequence.value < submitted.value + joinObservationBudgetTicks)

/-- Where a bot whose join is no longer in flight sits. -/
def Seated (published : PublishedRoster) (controller : ControllerId) (bot : HostedBot) : Prop :=
  Placed published controller bot ∧
    (bot.joinSubmittedAt = none → ∃ seat, npcAt published.seats bot.seatIndex = some seat ∧
      seat.controller = some controller)

theorem sameDeclaration_iff {seats : SeatRoster} {index : Nat} {declaration : NpcDeclaration} :
    sameDeclaration seats index declaration = true ↔
      ∃ seat, npcAt seats index = some seat ∧ seat.declaration = declaration := by
  unfold sameDeclaration
  cases npcAt seats index with
  | none => simp
  | some seat => simp

theorem unfilled_npcAt {seats : SeatRoster} {index : Nat} {declared : NpcSeat}
    (unfilled : seats.seats[index]?.bind unfilledDeclaration = some declared) :
    npcAt seats index = some declared ∧ declared.controller = none := by
  unfold npcAt
  cases stored : seats.seats[index]? with
  | none =>
    rw [stored] at unfilled
    cases unfilled
  | some seat =>
    rw [stored] at unfilled
    cases seat with
    | empty => cases unfilled
    | controller _ => cases unfilled
    | npc seat =>
      change (if seat.controller.isNone then some seat else none) = some declared at unfilled
      split at unfilled
      · next vacant =>
        cases unfilled
        exact ⟨rfl, Option.isNone_iff_eq_none.mp vacant⟩
      · cases unfilled

namespace SeatBotReconciler

variable {S : Type} [Scalar S] {reconciler : SeatBotReconciler S} {published : PublishedRoster}
  {controller : ControllerId} {bot kept : HostedBot}

theorem judge_ok (judged : judge published controller bot = .ok kept) :
    Seated published controller kept ∧ kept.seatIndex = bot.seatIndex := by
  unfold judge at judged
  split at judged
  · cases judged
  · next same =>
    simp only [Bool.not_eq_true, Bool.not_eq_false'] at same
    obtain ⟨seat, declared, declaration⟩ := sameDeclaration_iff.mp same
    split at judged
    · next named =>
      cases judged
      rw [declared, Option.any_some, decide_eq_true_eq] at named
      exact ⟨⟨⟨seat, declared, declaration, .inl named⟩, fun _ => ⟨seat, declared, named⟩⟩, rfl⟩
    · split at judged
      · next inFlight =>
        cases judged
        unfold joinInFlight at inFlight
        cases submittedAt : bot.joinSubmittedAt with
        | none =>
          rw [submittedAt] at inFlight
          cases inFlight
        | some submitted =>
          rw [submittedAt, Option.any_some, decide_eq_true_eq] at inFlight
          refine ⟨⟨⟨seat, declared, declaration, .inr ⟨submitted, submittedAt, inFlight⟩⟩, ?_⟩, rfl⟩
          intro settled
          rw [submittedAt] at settled
          cases settled
      · cases judged

/-- Every controller the reconciler opened is hosted with its bot, or was closed. -/
structure Accounted (reconciler : SeatBotReconciler S) : Prop where
  issued : ∀ controller ∈ reconciler.opened, controller.value < reconciler.sink.nextControllerId
  kept : ∀ controller ∈ reconciler.opened,
    ((reconciler.bots.find controller).isSome = true ∧ (reconciler.host.find controller).isSome = true) ∨
      controller ∈ reconciler.closed
  hosted : ∀ controller, (reconciler.host.find controller).isSome = true →
    (reconciler.bots.find controller).isSome = true
  botted : ∀ controller, (reconciler.bots.find controller).isSome = true → controller ∈ reconciler.opened

def DistinctSeats (bots : SortedStore ControllerId HostedBot) : Prop :=
  ∀ first second firstBot secondBot, bots.find first = some firstBot → bots.find second = some secondBot →
    firstBot.seatIndex = secondBot.seatIndex → first = second

theorem Accounted.retireBot (accounted : reconciler.Accounted) (controller : ControllerId) (bot : HostedBot)
    (reason : String) : (reconciler.retireBot controller bot reason).Accounted := by
  obtain ⟨issued, kept, hosted, botted⟩ := accounted
  have stays : ∀ {V : Type} (store : SortedStore ControllerId V) other,
      ((store.erase controller).find other).isSome = true →
        other ≠ controller ∧ (store.find other).isSome = true := by
    intro V store other present
    rw [SortedStore.find_erase] at present
    split at present
    · cases present
    · next different => exact ⟨different, present⟩
  have remains : ∀ {V : Type} (store : SortedStore ControllerId V) other, other ≠ controller →
      (store.find other).isSome = true → ((store.erase controller).find other).isSome = true := by
    intro V store other different present
    rw [SortedStore.find_erase, if_neg different]
    exact present
  constructor
  · intro other member
    simp only [SeatBotReconciler.retireBot, CommandSink.closeSession_nextControllerId]
    exact issued other member
  · intro other member
    by_cases same : other = controller
    · exact .inr (List.mem_append_right _ (List.mem_singleton.mpr same))
    · obtain ⟨inBots, inHost⟩ | closed := kept other member
      · exact .inl ⟨remains reconciler.bots other same inBots, remains reconciler.host other same inHost⟩
      · exact .inr (List.mem_append_left _ closed)
  · intro other present
    obtain ⟨different, before⟩ := stays reconciler.host other present
    exact remains reconciler.bots other different (hosted other before)
  · exact fun other present => botted other (stays reconciler.bots other present).2

theorem Accounted.creationFailed (accounted : reconciler.Accounted) (declaration : NpcDeclaration)
    (seatIndex : Nat) (reason : BotCreationFailure) :
    (reconciler.creationFailed declaration seatIndex reason).Accounted :=
  ⟨accounted.issued, accounted.kept, accounted.hosted, accounted.botted⟩

/-- What one creation does to the books: a fresh bot is filed, or the failure is remembered. -/
inductive Attempts (before after : SeatBotReconciler S) (declaration : NpcDeclaration) (seatIndex : Nat)
    (observed : TickSequence) : Prop
  | failed (reason : BotCreationFailure) (bots : after.bots = before.bots)
      (failedDeclarations : after.failedDeclarations =
        before.failedDeclarations.insertOrAssign seatIndex declaration)
      (log : after.log = before.log ++ [.botCreationFailed declaration seatIndex reason])
  | created (controller : ControllerId) (fresh : before.bots.find controller = none)
      (bots : after.bots = before.bots.insertOrAssign controller ⟨declaration, seatIndex, some observed⟩)
      (failedDeclarations : after.failedDeclarations = before.failedDeclarations.erase seatIndex)
      (log : after.log = before.log ++ [.botCreated controller declaration seatIndex])

theorem add_ok {host next : ControllerHost} {reason : BotCreationFailure} {creates : Bool}
    (added : (if creates then host.add controller else .error reason) = .ok next) :
    next = host.insertOrAssign controller () := by
  split at added
  · unfold ControllerHost.add at added
    split at added
    · cases added
    · split at added
      · cases added
      · cases added
        rfl
  · cases added

theorem Accounted.fileBot (accounted : reconciler.Accounted) (surrounding : Surroundings S)
    (fresh : reconciler.bots.find controller = none)
    (last : controller.value < reconciler.sink.nextControllerId) (declaration : NpcDeclaration)
    (seatIndex : Nat) (observed : TickSequence) :
    let opened := { reconciler with opened := reconciler.opened ++ [controller] }
    (opened.fileBot surrounding controller declaration seatIndex observed).Accounted ∧
      Attempts reconciler (opened.fileBot surrounding controller declaration seatIndex observed)
        declaration seatIndex observed := by
  obtain ⟨issued, kept, hosted, botted⟩ := accounted
  have issuedAll : ∀ other ∈ reconciler.opened ++ [controller],
      other.value < reconciler.sink.nextControllerId := by
    intro other member
    obtain earlier | new := List.mem_append.mp member
    · exact issued other earlier
    · rw [List.mem_singleton.mp new]
      exact last
  intro opened
  unfold SeatBotReconciler.fileBot
  split
  · next reason refused =>
    refine ⟨Accounted.creationFailed ⟨?_, ?_, ?_, ?_⟩ _ _ _, .failed reason rfl rfl rfl⟩
    · intro other member
      dsimp only
      rw [CommandSink.closeSession_nextControllerId]
      exact issuedAll other member
    · intro other member
      obtain earlier | new := List.mem_append.mp member
      · obtain present | closed := kept other earlier
        · exact .inl present
        · exact .inr (List.mem_append_left _ closed)
      · exact .inr (List.mem_append_right _ new)
    · exact fun other present => hosted other present
    · exact fun other present => List.mem_append_left _ (botted other present)
  · next host added =>
    have filed := add_ok added
    obtain ⟨result, sink, submitted, cursor⟩ := CommandSink.submit_join reconciler.sink
      ⟨controller, some seatIndex, some declaration⟩ surrounding.now
    dsimp only at submitted ⊢
    rw [submitted]
    dsimp only
    have unfiled : ¬(opened.bots.find controller).isSome = true := by
      rw [Option.not_isSome_iff_eq_none]
      exact fresh
    refine ⟨⟨?_, ?_, ?_, ?_⟩, .created controller fresh (if_neg unfiled) rfl rfl⟩
    · intro other member
      exact cursor ▸ issuedAll other member
    · intro other member
      dsimp only
      rw [if_neg unfiled, filed, SortedStore.find_insertOrAssign, SortedStore.find_insertOrAssign]
      by_cases same : other = controller
      · rw [if_pos same, if_pos same]
        exact .inl ⟨rfl, rfl⟩
      · rw [if_neg same, if_neg same]
        obtain earlier | new := List.mem_append.mp member
        · exact kept other earlier
        · exact absurd (List.mem_singleton.mp new) same
    · intro other present
      dsimp only at present ⊢
      rw [filed, SortedStore.find_insertOrAssign] at present
      rw [if_neg unfiled, SortedStore.find_insertOrAssign]
      split
      · rfl
      · next different =>
        rw [if_neg different] at present
        exact hosted other present
    · intro other present
      dsimp only at present
      rw [if_neg unfiled, SortedStore.find_insertOrAssign] at present
      split at present
      · next same => exact List.mem_append_right _ (List.mem_singleton.mpr same)
      · exact List.mem_append_left _ (botted other present)

theorem createBot_cases (profiles : BotProfileName → Bool) (surroundings : Nat → Surroundings S)
    (accounted : reconciler.Accounted) (declaration : NpcDeclaration) (seatIndex : Nat)
    (observed : TickSequence) :
    (reconciler.createBot profiles surroundings declaration seatIndex observed).Accounted ∧
      Attempts reconciler (reconciler.createBot profiles surroundings declaration seatIndex observed)
        declaration seatIndex observed := by
  have forward : ∀ {sink : CommandSink S} {ordinals : SortedStore String Nat},
      reconciler.sink.nextControllerId ≤ sink.nextControllerId →
      ({ reconciler with sink := sink, displayOrdinals := ordinals } : SeatBotReconciler S).Accounted := by
    intro sink ordinals further
    exact ⟨fun other member => Nat.lt_of_lt_of_le (accounted.issued other member) further,
      accounted.kept, accounted.hosted, accounted.botted⟩
  have interfered := (surroundings seatIndex).issues reconciler.sink
  unfold createBot nextDisplayName
  dsimp only
  split
  · next unknown _ =>
    exact ⟨(forward (Nat.le_refl _)).creationFailed _ _ _, .failed _ rfl rfl rfl⟩
  · split
    · next error sink refused =>
      have opens := CommandSink.openSession_opens ((surroundings seatIndex).interfere reconciler.sink)
        declaration.kind.value.toUTF8.toList
        (declaration.kind.value ++ " " ++
          toString ((reconciler.displayOrdinals.find declaration.kind.value).getD 0 + 1)).toUTF8.toList
      rw [refused] at opens
      exact ⟨(forward (Nat.le_trans interfered opens.issues)).creationFailed _ _ _, .failed _ rfl rfl rfl⟩
    · next controller sink opened =>
      obtain ⟨value, cursor⟩ := CommandSink.openSession_issued opened
      have later : reconciler.sink.nextControllerId ≤ controller.value := value ▸ interfered
      have fresh : reconciler.bots.find controller = none := by
        by_contra present
        have known := accounted.botted controller (Option.isSome_iff_ne_none.mpr present)
        exact absurd (accounted.issued controller known) (Nat.not_lt.mpr later)
      have last : controller.value < sink.nextControllerId := by omega
      have moved : ({ reconciler with
          sink := sink
          displayOrdinals := reconciler.displayOrdinals.insertOrAssign declaration.kind.value
            ((reconciler.displayOrdinals.find declaration.kind.value).getD 0 + 1) } :
            SeatBotReconciler S).Accounted := forward (by omega)
      obtain ⟨books, attempts⟩ :=
        moved.fileBot (surroundings seatIndex) fresh last declaration seatIndex observed
      refine ⟨books, ?_⟩
      cases attempts with
      | failed reason bots failedDeclarations log => exact .failed reason bots failedDeclarations log
      | created filed fresh bots failedDeclarations log => exact .created filed fresh bots failedDeclarations log

end SeatBotReconciler

end BlobRoyale.Application
