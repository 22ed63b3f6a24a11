import BlobRoyale.Runtime.MailboxAccounting

/-!
# The correlated tuning exchange

A request lives in three places: its controller's exchange, the pending queue and the batch the
worker has drained but not yet answered. `TuningExchange.Evolves` is all one step may do to an
exchange, and `Delivered` is what keeps the three places in step.
-/

namespace BlobRoyale.Runtime

open BlobRoyale.Simulation LastWriter Transition CommandMailbox

variable {S : Type} [Scalar S]

namespace MovementTuningResult

def controller : MovementTuningResult → ControllerId
  | decision made => made.controller
  | refusal refused => refused.controller

end MovementTuningResult

namespace TuningExchange

/-- A request is outstanding while it is admitted and unanswered. -/
def Awaits (exchange : TuningExchange) (requestId : Nat) : Prop :=
  exchange.requestId = some requestId ∧ exchange.result = none

/-- What every exchange satisfies: its result answers its own request, below the high-water mark. -/
structure Coherent (exchange : TuningExchange) : Prop where
  answers : ∀ result, exchange.result = some result →
    exchange.requestId = some result.tuningRequestId ∧ result.controller = exchange.controller
  bounded : ∀ requestId, exchange.requestId = some requestId → requestId ≤ exchange.requestHighWater

/-- One change of a registered exchange. -/
inductive Evolves (before : TuningExchange) : TuningExchange → Prop where
  | kept : Evolves before before
  | answered (result : MovementTuningResult) (own : result.controller = before.controller)
      (awaited : before.Awaits result.tuningRequestId) : Evolves before (before.answered result)
  | refused (requestId : Nat) (fresh : before.requestHighWater < requestId)
      (busy : before.requestId.isSome = true) : Evolves before (before.raised requestId)
  | requested (after : TuningExchange) (requestId : Nat) (fresh : before.requestHighWater < requestId)
      (idle : before.requestId = none) (same : after.controller = before.controller)
      (raised : after.requestHighWater = requestId) (asked : after.requestId = some requestId)
      (answer : after.result = before.result ∨ ∃ result, after.result = some result ∧
        result.tuningRequestId = requestId ∧ result.controller = before.controller) :
      Evolves before after
  | claimed : Evolves before before.claimed

theorem recorded_of_awaits {exchange : TuningExchange} {result : MovementTuningResult}
    (awaited : exchange.Awaits result.tuningRequestId) :
    recorded result exchange = exchange.answered result :=
  if_pos awaited

theorem recorded_of_not_awaits {exchange : TuningExchange} {result : MovementTuningResult}
    (unawaited : ¬ exchange.Awaits result.tuningRequestId) : recorded result exchange = exchange :=
  if_neg unawaited

theorem evolves_recorded {exchange : TuningExchange} {result : MovementTuningResult}
    (own : result.controller = exchange.controller) : exchange.Evolves (recorded result exchange) := by
  by_cases awaited : exchange.Awaits result.tuningRequestId
  · rw [recorded_of_awaits awaited]
    exact .answered result own awaited
  · rw [recorded_of_not_awaits awaited]
    exact .kept

variable {before after : TuningExchange}

theorem Evolves.coherent (evolves : before.Evolves after) (coherent : before.Coherent) :
    after.Coherent := by
  cases evolves with
  | kept => exact coherent
  | answered result own awaited =>
      refine ⟨?_, coherent.bounded⟩
      rintro _ ⟨⟩
      exact ⟨awaited.1, own⟩
  | refused requestId fresh =>
      refine ⟨coherent.answers, fun earlier asked => ?_⟩
      exact Nat.le_trans (coherent.bounded earlier asked) (Nat.le_of_lt fresh)
  | requested _ requestId fresh idle same raised asked answer =>
      refine ⟨fun result answered => ?_, fun other current => ?_⟩
      · rw [asked, same]
        rcases answer with unanswered | ⟨_, found, named, own⟩
        · rw [answered] at unanswered
          have := (coherent.answers result unanswered.symm).1
          rw [idle] at this
          cases this
        · cases found.symm.trans answered
          exact ⟨named ▸ rfl, own⟩
      · rw [asked] at current
        cases current
        exact Nat.le_of_eq raised.symm
  | claimed => exact ⟨nofun, nofun⟩

/-- A request that has had its answer: stale, or current and answered. -/
def Settled (requestId : Nat) (exchange : TuningExchange) : Prop :=
  requestId ≤ exchange.requestHighWater ∧ ¬ exchange.Awaits requestId

theorem Settled.evolves {requestId : Nat}
    (settled : Settled requestId before) (evolves : before.Evolves after) : Settled requestId after := by
  cases evolves with
  | kept => exact settled
  | answered result => exact ⟨settled.1, fun awaits => nomatch awaits.2⟩
  | refused raised fresh => exact ⟨Nat.le_trans settled.1 (Nat.le_of_lt fresh), settled.2⟩
  | requested _ raised fresh idle same highWater asked =>
      have above : requestId < raised := Nat.lt_of_le_of_lt settled.1 fresh
      refine ⟨highWater ▸ Nat.le_of_lt above, fun awaits => ?_⟩
      exact Nat.ne_of_lt above (Option.some_inj.mp (awaits.1.symm.trans asked))
  | claimed => exact ⟨settled.1, fun awaits => nomatch awaits.1⟩

theorem Coherent.settled {exchange : TuningExchange} (coherent : exchange.Coherent)
    {result : MovementTuningResult} (answered : exchange.result = some result) :
    Settled result.tuningRequestId exchange := by
  refine ⟨coherent.bounded _ (coherent.answers result answered).1, fun awaits => ?_⟩
  exact nomatch awaits.2.symm.trans answered

end TuningExchange

open TuningExchange

theorem coherent_registered (controller : ControllerId) : (registered controller).Coherent :=
  ⟨nofun, nofun⟩

/-- Every exchange of `next` evolved from its controller's exchange in `mailbox`. -/
def Evolving (mailbox next : CommandMailbox S) : Prop :=
  ∀ controller after, next.findExchange controller = some after →
    ∃ before, mailbox.findExchange controller = some before ∧ before.Evolves after

theorem evolving_of_exchanges {mailbox next : CommandMailbox S}
    (same : next.tuningExchanges = mailbox.tuningExchanges) : Evolving mailbox next := by
  intro controller after found
  refine ⟨after, ?_, .kept⟩
  rwa [findExchange, same] at found

theorem findExchange_updateExchange {mailbox : CommandMailbox S} {change : TuningExchange → TuningExchange}
    (keeps : KeepsController change) (controller other : ControllerId) :
    (mailbox.updateExchange controller change).findExchange other =
      if other = controller then (mailbox.findExchange other).map change
      else mailbox.findExchange other :=
  find_update keeps controller other mailbox.tuningExchanges

/-- `next` is `mailbox` with one controller's exchange changed. -/
def Changes (mailbox next : CommandMailbox S) (controller : ControllerId)
    (change : TuningExchange → TuningExchange) : Prop :=
  ∀ other, next.findExchange other =
    if other = controller then (mailbox.findExchange other).map change else mailbox.findExchange other

theorem Changes.andThen {mailbox middle next : CommandMailbox S} {controller : ControllerId}
    {change further : TuningExchange → TuningExchange} (first : Changes mailbox middle controller change)
    (second : Changes middle next controller further) :
    Changes mailbox next controller (further ∘ change) := by
  intro other
  rw [second other, first other]
  split
  · rw [Option.map_map]
  · rfl

theorem Changes.evolving {mailbox next : CommandMailbox S} {controller : ControllerId}
    {change : TuningExchange → TuningExchange} (changes : Changes mailbox next controller change)
    (evolves : ∀ exchange, mailbox.findExchange controller = some exchange →
      exchange.Evolves (change exchange)) : Evolving mailbox next := by
  intro other after found
  rw [changes other] at found
  split at found
  · next same =>
      subst same
      obtain ⟨before, registered, rfl⟩ := Option.map_eq_some_iff.mp found
      exact ⟨before, registered, evolves before registered⟩
  · exact ⟨after, found, .kept⟩

theorem evolving_updateExchange {mailbox : CommandMailbox S} {controller : ControllerId}
    {change : TuningExchange → TuningExchange} (keeps : KeepsController change)
    (evolves : ∀ exchange, mailbox.findExchange controller = some exchange →
      exchange.Evolves (change exchange)) :
    Evolving mailbox (mailbox.updateExchange controller change) :=
  Changes.evolving (findExchange_updateExchange keeps controller) evolves

theorem evolving_recordTuningEviction (mailbox : CommandMailbox S) (victim : Command S) :
    Evolving mailbox (mailbox.recordTuningEviction victim) := by
  cases victim with
  | setMovementTuning tuning =>
      refine evolving_updateExchange (keeps_recorded _) fun exchange found => ?_
      exact evolves_recorded (controller_of_find found).symm
  | _ => exact evolving_of_exchanges rfl

theorem Inserts.evolving {mailbox next : CommandMailbox S} {command : Command S}
    {result : CommandSubmissionResult} (inserts : Inserts mailbox command result next) :
    Evolving mailbox next := by
  cases inserts with
  | evicted _ _ _ _ before victim after => exact evolving_recordTuningEviction mailbox victim
  | _ => exact evolving_of_exchanges rfl

/-- Only a lifecycle command evicts, so any other insertion leaves the exchanges alone. -/
theorem Inserts.tuningExchanges_eq {mailbox next : CommandMailbox S} {command : Command S}
    {result : CommandSubmissionResult} (inserts : Inserts mailbox command result next)
    (other : isEntityLifecycleCommand command.kind = false) :
    next.tuningExchanges = mailbox.tuningExchanges := by
  cases inserts with
  | evicted _ _ _ lifecycle => exact absurd lifecycle (Bool.eq_false_iff.mp other)
  | _ => rfl

theorem SubmitsTuning.changes {mailbox next : CommandMailbox S} {command : SetMovementTuningCommand S}
    (submits : SubmitsTuning mailbox command next) :
    ∃ change, Changes mailbox next command.controller change ∧
      ∀ exchange, mailbox.findExchange command.controller = some exchange → exchange.Coherent →
        exchange.Evolves (change exchange) := by
  have admits : ∀ {eligibleAt result inserted},
      Inserts ((mailbox.requested command).updateExchange command.controller
        (.admitted command.tuningRequestId eligibleAt)) (.setMovementTuning command) result inserted →
      Changes (mailbox.requested command) inserted command.controller
        (.admitted command.tuningRequestId eligibleAt) := by
    intro eligibleAt result inserted inserts other
    rw [findExchange, inserts.tuningExchanges_eq rfl]
    exact findExchange_updateExchange (keeps_admitted _ _) command.controller other
  have raises : Changes mailbox (mailbox.requested command) command.controller
      (.raised command.tuningRequestId) :=
    findExchange_updateExchange (keeps_raised _) command.controller
  cases submits with
  | unaccepted | rejected =>
      refine ⟨id, fun other => ?_, fun exchange _ _ => .kept⟩
      rw [Option.map_id_fun, id, ite_self]
      rfl
  | inFlight exchange found fresh busy =>
      refine ⟨_, raises, fun other registered _ => ?_⟩
      cases found.symm.trans registered
      exact .refused _ fresh busy
  | limited exchange found fresh idle retry limited refusal =>
      subst refusal
      refine ⟨_, raises.andThen (findExchange_updateExchange (keeps_refused _ _) command.controller),
        fun other registered _ => ?_⟩
      cases found.symm.trans registered
      exact .requested _ _ fresh idle rfl rfl rfl (.inr ⟨_, rfl, rfl, (controller_of_find found).symm⟩)
  | admitted exchange found fresh idle wellFormed eligibleAt result inserted inserts =>
      refine ⟨_, raises.andThen (admits inserts), fun other registered _ => ?_⟩
      cases found.symm.trans registered
      exact .requested _ _ fresh idle rfl rfl rfl (.inl rfl)
  | full exchange found fresh idle eligibleAt inserted inserts =>
      refine ⟨_, (raises.andThen (admits inserts)).andThen
        (findExchange_updateExchange (keeps_answered _) command.controller),
        fun other registered _ => ?_⟩
      cases found.symm.trans registered
      exact .requested _ _ fresh idle rfl rfl rfl (.inr ⟨_, rfl, rfl, (controller_of_find found).symm⟩)

/-- What a list of decisions does to one controller's exchange. -/
def decided (decisions : List MovementTuningDecision) (exchange : TuningExchange) : TuningExchange :=
  decisions.foldl (fun exchange decision =>
    if decision.controller = exchange.controller then recorded (.decision decision) exchange
    else exchange) exchange

theorem decided_of_answered {decisions : List MovementTuningDecision} {exchange : TuningExchange}
    (answered : exchange.result.isSome = true) : decided decisions exchange = exchange := by
  have unawaited : ∀ requestId, ¬ exchange.Awaits requestId := by
    intro requestId awaited
    simp [awaited.2] at answered
  induction decisions with
  | nil => rfl
  | cons decision rest ih =>
      rw [decided, List.foldl_cons, recorded_of_not_awaits (unawaited _), ite_self]
      exact ih

theorem decided_cases (decisions : List MovementTuningDecision) (exchange : TuningExchange) :
    decided decisions exchange = exchange ∨
      ∃ result : MovementTuningResult, result.controller = exchange.controller ∧
        exchange.Awaits result.tuningRequestId ∧
        decided decisions exchange = exchange.answered result := by
  induction decisions with
  | nil => exact .inl rfl
  | cons decision rest ih =>
      rw [decided, List.foldl_cons]
      split
      · next own =>
          by_cases awaited : exchange.Awaits decision.tuningRequestId
          · rw [recorded_of_awaits awaited]
            exact .inr ⟨.decision decision, own, awaited, decided_of_answered rfl⟩
          · rw [recorded_of_not_awaits awaited]
            exact ih
      · exact ih

theorem evolves_decided (decisions : List MovementTuningDecision) (exchange : TuningExchange) :
    exchange.Evolves (decided decisions exchange) := by
  rcases decided_cases decisions exchange with same | ⟨result, own, awaited, answered⟩
  · rw [same]
    exact .kept
  · rw [answered]
    exact .answered result own awaited

theorem decided_answers {decisions : List MovementTuningDecision} {exchange : TuningExchange}
    {decision : MovementTuningDecision} (member : decision ∈ decisions)
    (own : decision.controller = exchange.controller)
    (awaited : exchange.Awaits decision.tuningRequestId) :
    (decided decisions exchange).result.isSome = true := by
  induction decisions with
  | nil => exact absurd member List.not_mem_nil
  | cons first rest ih =>
      rw [decided, List.foldl_cons]
      by_cases answers : first.controller = exchange.controller ∧ exchange.Awaits first.tuningRequestId
      · rw [if_pos answers.1, recorded_of_awaits answers.2]
        show (decided rest (exchange.answered (.decision first))).result.isSome = true
        rw [decided_of_answered rfl]
        rfl
      · have unchanged : (if first.controller = exchange.controller then
            recorded (.decision first) exchange else exchange) = exchange := by
          split
          · next named => exact recorded_of_not_awaits fun held => answers ⟨named, held⟩
          · rfl
        rw [unchanged]
        refine ih ((List.mem_cons.mp member).resolve_left ?_)
        rintro rfl
        exact answers ⟨own, awaited⟩

theorem findExchange_completeTuningDecisions (mailbox : CommandMailbox S)
    (decisions : List MovementTuningDecision) (controller : ControllerId) :
    (mailbox.completeTuningDecisions decisions).findExchange controller =
      (mailbox.findExchange controller).map (decided decisions) := by
  induction decisions generalizing mailbox with
  | nil => exact Option.map_id'.symm
  | cons decision rest ih =>
      show ((mailbox.updateExchange decision.controller
        (.recorded (.decision decision))).completeTuningDecisions rest).findExchange controller = _
      rw [ih, findExchange_updateExchange (keeps_recorded _)]
      cases found : mailbox.findExchange controller with
      | none => simp
      | some exchange =>
          have named := controller_of_find found
          split
          · next same => simp [decided, named, same]
          · next other => simp [decided, named, Ne.symm other]

theorem find_of_mem {exchanges : List TuningExchange} (unique : (exchanges.map (·.controller)).Nodup)
    {exchange : TuningExchange} (member : exchange ∈ exchanges) :
    find exchange.controller exchanges = some exchange := by
  obtain ⟨found, registered⟩ : ∃ found, find exchange.controller exchanges = some found := by
    rw [← Option.isSome_iff_exists, Option.isSome_iff_ne_none, ne_eq, find_eq_none_iff, not_not]
    exact List.mem_map_of_mem member
  have same := List.inj_on_of_nodup_map unique (List.mem_of_find?_eq_some registered) member
    (controller_of_find registered)
  exact same ▸ registered

/-- Every exchange after a call evolved from the one before it, unless the call registered it. -/
theorem evolves_apply {mailbox : CommandMailbox S} (unique : mailbox.registeredControllers.Nodup)
    (coherent : ∀ controller exchange, mailbox.findExchange controller = some exchange →
      exchange.Coherent)
    (operation : MailboxOperation S) {controller : ControllerId} {after : TuningExchange}
    (found : (mailbox.apply operation).findExchange controller = some after) :
    (∃ before, mailbox.findExchange controller = some before ∧ before.Evolves after) ∨
      (after = .registered controller ∧ operation = .registerController controller ∧
        (mailbox.registerController controller).1 = true) := by
  have submits : ∀ {command next}, SubmitsTuning mailbox command next →
      next.findExchange controller = some after →
      ∃ before, mailbox.findExchange controller = some before ∧ before.Evolves after := by
    intro command next submits found
    obtain ⟨change, changes, evolves⟩ := submits.changes
    exact changes.evolving (fun exchange registered =>
      evolves exchange registered (coherent _ exchange registered)) _ _ found
  cases operation with
  | submit command now =>
      refine .inl ?_
      rcases submit_cases mailbox command now with ⟨tuning, rfl, applied⟩ | ⟨-, applied⟩
      · simp only [CommandMailbox.apply, applied] at found
        exact submits (submitTuning_submits mailbox tuning now) found
      · simp only [CommandMailbox.apply, applied] at found
        exact (submitLocked_inserts mailbox.countSubmitted command).evolving _ _ found
  | submitTuning command now => exact .inl (submits (submitTuning_submits mailbox command now) found)
  | registerController registered =>
      rcases registerController_cases mailbox registered with refused | ⟨vacant, done⟩
      · simp only [CommandMailbox.apply, refused] at found
        exact .inl ⟨after, found, .kept⟩
      · simp only [CommandMailbox.apply, done, findExchange, find, List.find?_append,
          Option.or_eq_some_iff] at found
        rcases found with earlier | ⟨-, new⟩
        · exact .inl ⟨after, earlier, .kept⟩
        · have named := controller_of_find new
          have same := List.mem_singleton.mp (List.mem_of_find?_eq_some new)
          subst same
          subst named
          exact .inr ⟨rfl, rfl, congrArg Prod.fst done⟩
  | retireController retired =>
      refine .inl ?_
      rcases retireController_cases mailbox retired with ⟨-, unknown⟩ | ⟨-, -, result, inserts⟩
      · simp only [CommandMailbox.apply, unknown] at found
        exact ⟨after, found, .kept⟩
      · obtain ⟨before, kept, evolves⟩ := inserts.evolving _ _ found
        rw [findExchange_retiring unique] at kept
        split at kept
        · cases kept
        · exact ⟨before, kept, evolves⟩
  | drain => exact .inl ⟨after, found, .kept⟩
  | completeTuningDecisions decisions =>
      rw [CommandMailbox.apply, findExchange_completeTuningDecisions] at found
      obtain ⟨before, registered, rfl⟩ := Option.map_eq_some_iff.mp found
      exact .inl ⟨before, registered, evolves_decided decisions before⟩
  | claimTuningResult claimant tick =>
      refine .inl ?_
      rcases claimTuningResult_cases mailbox claimant tick with same | ⟨_, _, -, -, claimed⟩
      · simp only [CommandMailbox.apply, same] at found
        exact ⟨after, found, .kept⟩
      · simp only [CommandMailbox.apply, claimed] at found
        exact evolving_updateExchange keeps_claimed (fun _ _ => .claimed) _ _ found

/-- The queue slot of a controller's tuning command. -/
abbrev tuningSlot (controller : ControllerId) : CommandKind × Nat :=
  (.setMovementTuning, controller.value)

/-- A command that asks for one request of one controller. -/
def Asks (command : Command S) (controller : ControllerId) (requestId : Nat) : Prop :=
  ∃ tuning, command = .setMovementTuning tuning ∧ tuning.controller = controller ∧
    tuning.tuningRequestId = requestId

theorem Asks.slot_eq {command : Command S} {controller : ControllerId} {requestId : Nat}
    (asks : Asks command controller requestId) : command.slot = tuningSlot controller := by
  obtain ⟨tuning, rfl, rfl, -⟩ := asks
  rfl

theorem eq_setMovementTuning_of_slot {command : Command S} {controller : ControllerId}
    (slot : command.slot = tuningSlot controller) :
    ∃ tuning, command = .setMovementTuning tuning ∧ tuning.controller = controller := by
  cases command with
  | setMovementTuning tuning =>
      refine ⟨tuning, rfl, Identity.value_injective ?_⟩
      exact congrArg Prod.snd slot
  | _ => exact nomatch congrArg Prod.fst slot

def Outstanding (mailbox : CommandMailbox S) (controller : ControllerId) (requestId : Nat) : Prop :=
  ∃ exchange, mailbox.findExchange controller = some exchange ∧ exchange.Awaits requestId

/-- A queued command of a controller with an outstanding request is the command of that request. -/
def Current (mailbox : CommandMailbox S) : Prop :=
  ∀ controller requestId, Outstanding mailbox controller requestId →
    ∀ queued ∈ mailbox.pending, queued.slot = tuningSlot controller → Asks queued controller requestId

def KeepsTuning (mailbox next : CommandMailbox S) (controller : ControllerId) : Prop :=
  ∀ queued, queued.slot = tuningSlot controller → (queued ∈ next.pending ↔ queued ∈ mailbox.pending)

theorem Inserts.keepsTuning {mailbox next : CommandMailbox S} {command : Command S}
    {result : CommandSubmissionResult} (inserts : Inserts mailbox command result next)
    (unique : mailbox.slots.Nodup) {controller : ControllerId}
    (other : command.slot ≠ tuningSlot controller) :
    (KeepsTuning mailbox next controller ∧
        next.findExchange controller = mailbox.findExchange controller) ∨
      isEntityLifecycleCommand command.kind = true ∧
        ∃ victim ∈ mailbox.pending, victim.slot = tuningSlot controller ∧
          next.findExchange controller =
            (mailbox.recordTuningEviction victim).findExchange controller := by
  have distinct : ∀ queued : Command S, queued.slot = tuningSlot controller → queued ≠ command :=
    fun queued slot same => other (same ▸ slot)
  cases inserts with
  | unaccepted | lifecycleDropped | dropped => exact .inl ⟨fun _ _ => Iff.rfl, rfl⟩
  | superseded accepted present =>
      refine .inl ⟨fun queued slot => ?_, rfl⟩
      rw [mem_supersede unique]
      simp only [distinct queued slot, slot, other.symm, false_or, ne_eq, not_false_eq_true, and_true]
  | appended accepted absent room =>
      refine .inl ⟨fun queued slot => ?_, rfl⟩
      simp only [List.mem_append, List.mem_singleton, distinct queued slot, or_false]
  | evicted accepted absent full lifecycle before victim after split =>
      by_cases named : victim.slot = tuningSlot controller
      · exact .inr ⟨lifecycle, victim, split ▸ List.mem_append_right _ List.mem_cons_self, named, rfl⟩
      · refine .inl ⟨fun queued slot => ?_, ?_⟩
        · have survivor : queued ≠ victim := fun same => named (same ▸ slot)
          simp only [split, List.mem_append, List.mem_cons, List.not_mem_nil, distinct queued slot,
            survivor, false_or, or_false]
        · show (mailbox.recordTuningEviction victim).findExchange controller = _
          cases victim with
          | setMovementTuning tuning =>
              rw [recordTuningEviction, findExchange_updateExchange (keeps_recorded _), if_neg]
              rintro rfl
              exact named rfl
          | _ => rfl

theorem not_outstanding_of_eviction {mailbox : CommandMailbox S} (current : Current mailbox)
    {controller : ControllerId} {requestId : Nat} {victim : Command S} (member : victim ∈ mailbox.pending)
    (slot : victim.slot = tuningSlot controller) :
    ¬ Outstanding (mailbox.recordTuningEviction victim) controller requestId := by
  rintro ⟨after, found, awaits⟩
  obtain ⟨tuning, rfl, rfl⟩ := eq_setMovementTuning_of_slot slot
  rw [recordTuningEviction, findExchange_updateExchange (keeps_recorded _), if_pos rfl] at found
  obtain ⟨exchange, registered, rfl⟩ := Option.map_eq_some_iff.mp found
  by_cases awaited : exchange.Awaits tuning.tuningRequestId
  · rw [recorded_of_awaits awaited] at awaits
    cases awaits.2
  · rw [recorded_of_not_awaits awaited] at awaits
    obtain ⟨_, ⟨⟩, -, same⟩ := current _ _ ⟨exchange, registered, awaits⟩ _ member slot
    exact awaited (same ▸ awaits)

/-- Nothing but its own admission makes a request outstanding, and its command is then queued. -/
def Admits (mailbox next : CommandMailbox S) : Prop :=
  ∀ controller requestId, Outstanding next controller requestId →
    (Outstanding mailbox controller requestId ∧ KeepsTuning mailbox next controller) ∨
      ∃ queued ∈ next.pending, Asks queued controller requestId

theorem Inserts.admits {mailbox next : CommandMailbox S} {command : Command S}
    {result : CommandSubmissionResult} (inserts : Inserts mailbox command result next)
    (unique : mailbox.slots.Nodup) (current : Current mailbox)
    (other : command.kind ≠ .setMovementTuning) : Admits mailbox next := by
  intro controller requestId outstanding
  have otherSlot : command.slot ≠ tuningSlot controller := fun same => other (congrArg Prod.fst same)
  rcases inserts.keepsTuning unique otherSlot with ⟨keeps, same⟩ | ⟨-, victim, member, slot, found⟩
  · obtain ⟨exchange, registered, awaits⟩ := outstanding
    exact .inl ⟨⟨exchange, same ▸ registered, awaits⟩, keeps⟩
  · obtain ⟨exchange, registered, awaits⟩ := outstanding
    exact absurd ⟨exchange, found ▸ registered, awaits⟩ (not_outstanding_of_eviction current member slot)

theorem SubmitsTuning.keepsTuning {mailbox next : CommandMailbox S}
    {command : SetMovementTuningCommand S} (submits : SubmitsTuning mailbox command next)
    (unique : mailbox.slots.Nodup) {controller : ControllerId}
    (other : controller ≠ command.controller) : KeepsTuning mailbox next controller := by
  have otherSlot : (.setMovementTuning command : Command S).slot ≠ tuningSlot controller :=
    fun same => other (Identity.value_injective (congrArg Prod.snd same)).symm
  have inserted : ∀ {before result after}, Inserts before (.setMovementTuning command) result after →
      before.pending = mailbox.pending → KeepsTuning mailbox after controller := by
    intro before result after inserts same
    have uniqueBefore : before.slots.Nodup := by
      rw [CommandMailbox.slots, same]
      exact unique
    rcases inserts.keepsTuning uniqueBefore otherSlot with ⟨keeps, -⟩ | ⟨lifecycle, -⟩
    · exact fun queued slot => same ▸ keeps queued slot
    · cases lifecycle
  cases submits with
  | unaccepted | rejected | inFlight => exact fun _ _ => Iff.rfl
  | limited exchange found fresh idle retry limited refusal =>
      subst refusal
      exact fun _ _ => Iff.rfl
  | admitted exchange found fresh idle wellFormed eligibleAt result next inserts =>
      exact inserted inserts rfl
  | full exchange found fresh idle eligibleAt next inserts =>
      have keeps := inserted inserts rfl
      exact keeps

theorem Inserts.mem_of_kept {mailbox next : CommandMailbox S} {command : Command S}
    {result : CommandSubmissionResult} (inserts : Inserts mailbox command result next)
    (unique : mailbox.slots.Nodup) (accepted : mailbox.acceptedKinds.contains command.kind = true)
    (kept : result ≠ .droppedMailboxFull) : command ∈ next.pending := by
  cases inserts with
  | unaccepted refused => exact absurd accepted (Bool.eq_false_iff.mp refused)
  | superseded => exact (mem_supersede unique).mpr (.inl rfl)
  | appended | evicted => exact List.mem_append_right _ (List.mem_singleton.mpr rfl)
  | lifecycleDropped | dropped => exact absurd rfl kept

theorem SubmitsTuning.admits {mailbox next : CommandMailbox S} {command : SetMovementTuningCommand S}
    (submits : SubmitsTuning mailbox command next) (unique : mailbox.slots.Nodup) :
    Admits mailbox next := by
  intro controller requestId outstanding
  obtain ⟨after, registered, awaits⟩ := outstanding
  by_cases same : controller = command.controller
  · subst same
    have finds : ∀ {before : CommandMailbox S} {change}, KeepsController change →
        (before.updateExchange command.controller change).findExchange command.controller =
          (before.findExchange command.controller).map change :=
      fun keeps => (findExchange_updateExchange keeps _ _).trans (if_pos rfl)
    cases submits with
    | unaccepted | rejected => exact .inl ⟨⟨after, registered, awaits⟩, fun _ _ => Iff.rfl⟩
    | inFlight exchange found =>
        have raised := (finds (keeps_raised command.tuningRequestId)).symm.trans registered
        obtain ⟨before, earlier, rfl⟩ := Option.map_eq_some_iff.mp raised
        exact .inl ⟨⟨before, earlier, awaits⟩, fun _ _ => Iff.rfl⟩
    | limited exchange found fresh idle retry limited refusal =>
        subst refusal
        have refused := (finds (keeps_refused _ _)).symm.trans registered
        obtain ⟨before, -, rfl⟩ := Option.map_eq_some_iff.mp refused
        cases awaits.2
    | admitted exchange found fresh idle wellFormed eligibleAt result inserted inserts kept accepted =>
        rw [findExchange, inserts.tuningExchanges_eq rfl] at registered
        have admitted := (finds (keeps_admitted _ _)).symm.trans registered
        obtain ⟨before, -, rfl⟩ := Option.map_eq_some_iff.mp admitted
        refine .inr ⟨_, inserts.mem_of_kept unique accepted kept, command, rfl, rfl, ?_⟩
        exact Option.some_inj.mp awaits.1
    | full exchange found fresh idle eligibleAt inserted inserts =>
        have answered := (finds (keeps_answered _)).symm.trans registered
        obtain ⟨before, -, rfl⟩ := Option.map_eq_some_iff.mp answered
        cases awaits.2
  · obtain ⟨change, changes, -⟩ := submits.changes
    rw [changes controller, if_neg same] at registered
    exact .inl ⟨⟨after, registered, awaits⟩, submits.keepsTuning unique same⟩

/-- The mailbox and the drained commands whose decisions are not recorded yet. -/
structure TuningPipeline (S : Type) [Scalar S] where
  mailbox : CommandMailbox S
  inFlight : Option (List (Command S))

/-- Sessions call at any time; the worker alternates a drain with one decision for each tuning
command of the batch it built from that drain. -/
inductive TuningStep : TuningPipeline S → MailboxOperation S → TuningPipeline S → Prop where
  | call (mailbox : CommandMailbox S) (inFlight : Option (List (Command S)))
      (operation : MailboxOperation S) (undrained : operation ≠ .drain)
      (uncompleted : ∀ decisions, operation ≠ .completeTuningDecisions decisions) :
      TuningStep ⟨mailbox, inFlight⟩ operation ⟨mailbox.apply operation, inFlight⟩
  | drain (mailbox : CommandMailbox S) :
      TuningStep ⟨mailbox, none⟩ .drain ⟨mailbox.drain.2, some mailbox.drain.1⟩
  | complete (mailbox : CommandMailbox S) (drained : List (Command S))
      (reservation : EntityIdReservation) (batch : InputBatch S)
      (created : InputBatch.create drained mailbox.acceptedKinds reservation = .ok batch)
      (decisions : List MovementTuningDecision)
      (answers : decisions.map (fun decision => (decision.controller, decision.tuningRequestId)) =
        batch.tuningCommands.map (fun command => (command.controller, command.tuningRequestId))) :
      TuningStep ⟨mailbox, some drained⟩ (.completeTuningDecisions decisions)
        ⟨mailbox.completeTuningDecisions decisions, none⟩

/-- The exchanges, the queue and the drained batch stay in step. -/
structure Delivered (pipeline : TuningPipeline S) : Prop where
  accounted : Accounted pipeline.mailbox
  registered : pipeline.mailbox.registeredControllers.Nodup
  coherent : ∀ controller exchange,
    pipeline.mailbox.findExchange controller = some exchange → exchange.Coherent
  drained : ∀ commands, pipeline.inFlight = some commands → (commands.map Command.slot).Nodup
  outstanding : ∀ controller requestId, Outstanding pipeline.mailbox controller requestId →
    ∃ command, Asks command controller requestId ∧
      (command ∈ pipeline.mailbox.pending ∨
        ∃ commands, pipeline.inFlight = some commands ∧ command ∈ commands)
  current : Current pipeline.mailbox

theorem TuningStep.mailbox_eq {before after : TuningPipeline S} {operation : MailboxOperation S}
    (step : TuningStep before operation after) :
    after.mailbox = before.mailbox.apply operation := by
  cases step <;> rfl

theorem TuningStep.coherent {before after : TuningPipeline S} {operation : MailboxOperation S}
    (step : TuningStep before operation after) (delivered : Delivered before) :
    ∀ controller exchange, after.mailbox.findExchange controller = some exchange →
      exchange.Coherent := by
  intro controller exchange found
  rw [step.mailbox_eq] at found
  rcases evolves_apply delivered.registered delivered.coherent operation found with
    ⟨earlier, registered, evolves⟩ | ⟨rfl, -, -⟩
  · exact evolves.coherent (delivered.coherent controller earlier registered)
  · exact coherent_registered controller

theorem admits_apply {mailbox : CommandMailbox S} (unique : mailbox.registeredControllers.Nodup)
    (slots : mailbox.slots.Nodup) (current : Current mailbox) {operation : MailboxOperation S}
    (undrained : operation ≠ .drain)
    (uncompleted : ∀ decisions, operation ≠ .completeTuningDecisions decisions) :
    Admits mailbox (mailbox.apply operation) := by
  cases operation with
  | submit command now =>
      rcases submit_cases mailbox command now with ⟨tuning, rfl, applied⟩ | ⟨other, applied⟩
      · simp only [CommandMailbox.apply, applied]
        exact (submitTuning_submits mailbox tuning now).admits slots
      · simp only [CommandMailbox.apply, applied]
        exact (submitLocked_inserts mailbox.countSubmitted command).admits slots current other
  | submitTuning command now => exact (submitTuning_submits mailbox command now).admits slots
  | registerController registered =>
      rcases registerController_cases mailbox registered with refused | ⟨vacant, done⟩
      · simp only [CommandMailbox.apply, refused]
        exact fun _ _ outstanding => .inl ⟨outstanding, fun _ _ => Iff.rfl⟩
      · simp only [CommandMailbox.apply, done]
        rintro controller requestId ⟨exchange, found, awaits⟩
        simp only [findExchange, find, List.find?_append, Option.or_eq_some_iff] at found
        rcases found with earlier | ⟨-, new⟩
        · exact .inl ⟨⟨exchange, earlier, awaits⟩, fun _ _ => Iff.rfl⟩
        · rw [List.mem_singleton.mp (List.mem_of_find?_eq_some new)] at awaits
          cases awaits.1
  | retireController retired =>
      rcases retireController_cases mailbox retired with ⟨-, unknown⟩ | ⟨-, -, result, inserts⟩
      · simp only [CommandMailbox.apply, unknown]
        exact fun _ _ outstanding => .inl ⟨outstanding, fun _ _ => Iff.rfl⟩
      · have survives : ∀ {controller requestId},
            Outstanding (mailbox.retiring retired) controller requestId →
            Outstanding mailbox controller requestId := by
          rintro controller requestId ⟨exchange, found, awaits⟩
          rw [findExchange_retiring unique] at found
          split at found
          · cases found
          · exact ⟨exchange, found, awaits⟩
        have currentRetiring : Current (mailbox.retiring retired) :=
          fun controller requestId outstanding => current controller requestId (survives outstanding)
        intro controller requestId outstanding
        have other : (.leave ⟨retired⟩ : Command S).kind ≠ .setMovementTuning := fun same => by cases same
        rcases inserts.admits slots currentRetiring other controller requestId outstanding with
          ⟨earlier, keeps⟩ | queued
        · exact .inl ⟨survives earlier, keeps⟩
        · exact .inr queued
  | drain => exact absurd rfl undrained
  | completeTuningDecisions decisions => exact absurd rfl (uncompleted decisions)
  | claimTuningResult claimant tick =>
      rcases claimTuningResult_cases mailbox claimant tick with same | ⟨_, _, -, -, claimed⟩
      · simp only [CommandMailbox.apply, same]
        exact fun _ _ outstanding => .inl ⟨outstanding, fun _ _ => Iff.rfl⟩
      · simp only [CommandMailbox.apply, claimed]
        rintro controller requestId ⟨exchange, found, awaits⟩
        rw [findExchange_updateExchange keeps_claimed] at found
        split at found
        · obtain ⟨before, -, rfl⟩ := Option.map_eq_some_iff.mp found
          cases awaits.1
        · exact .inl ⟨⟨exchange, found, awaits⟩, fun _ _ => Iff.rfl⟩

/-- The tuning commands of a batch are exactly those drained, when no slot was drained twice. -/
theorem mem_tuningCommands_of_drained {drained : List (Command S)} {acceptedKinds : CommandKindMask}
    {reservation : EntityIdReservation} {batch : InputBatch S}
    (created : InputBatch.create drained acceptedKinds reservation = .ok batch)
    (unique : (drained.map Command.slot).Nodup) {tuning : SetMovementTuningCommand S}
    (member : .setMovementTuning tuning ∈ drained) : tuning ∈ batch.tuningCommands := by
  obtain ⟨-, -, commands, -⟩ := InputBatch.create_eq_ok.mp created
  have kept : .setMovementTuning tuning ∈ batch.commands := by
    rw [commands, mem_canonicalCommands, latest_eq_some_iff unique]
    exact ⟨member, rfl⟩
  exact List.mem_filterMap.mpr ⟨_, kept, rfl⟩

theorem Delivered.outstanding_complete {mailbox : CommandMailbox S} {drained : List (Command S)}
    (delivered : Delivered ⟨mailbox, some drained⟩) {reservation : EntityIdReservation}
    {batch : InputBatch S}
    (created : InputBatch.create drained mailbox.acceptedKinds reservation = .ok batch)
    {decisions : List MovementTuningDecision}
    (answers : decisions.map (fun decision => (decision.controller, decision.tuningRequestId)) =
      batch.tuningCommands.map (fun command => (command.controller, command.tuningRequestId)))
    {controller : ControllerId} {requestId : Nat}
    (outstanding : Outstanding (mailbox.completeTuningDecisions decisions) controller requestId) :
    Outstanding mailbox controller requestId ∧
      ∃ command ∈ mailbox.pending, Asks command controller requestId := by
  obtain ⟨after, found, awaits⟩ := outstanding
  rw [findExchange_completeTuningDecisions] at found
  obtain ⟨exchange, registered, rfl⟩ := Option.map_eq_some_iff.mp found
  rcases decided_cases decisions exchange with same | ⟨result, -, -, answered⟩
  · have still : Outstanding mailbox controller requestId := ⟨exchange, registered, same ▸ awaits⟩
    obtain ⟨command, asks, queued | ⟨commands, flying, member⟩⟩ :=
      delivered.outstanding controller requestId still
    · exact ⟨still, command, queued, asks⟩
    · cases flying
      obtain ⟨tuning, rfl, rfl, rfl⟩ := asks
      have kept := mem_tuningCommands_of_drained created (delivered.drained drained rfl) member
      have decided : (tuning.controller, tuning.tuningRequestId) ∈ decisions.map
          (fun decision => (decision.controller, decision.tuningRequestId)) :=
        answers ▸ List.mem_map.mpr ⟨tuning, kept, rfl⟩
      obtain ⟨decision, listed, names⟩ := List.mem_map.mp decided
      obtain ⟨named, requested⟩ := Prod.mk.inj names
      have answered := decided_answers listed (named.trans (controller_of_find registered).symm)
        (requested ▸ same ▸ awaits)
      simp [awaits.2] at answered
  · rw [answered] at awaits
    cases awaits.2

theorem delivered_step {before after : TuningPipeline S} {operation : MailboxOperation S}
    (step : TuningStep before operation after) (delivered : Delivered before) : Delivered after := by
  have accounted : Accounted after.mailbox := step.mailbox_eq ▸ delivered.accounted.apply operation
  have registered : after.mailbox.registeredControllers.Nodup :=
    step.mailbox_eq ▸ registeredControllers_nodup delivered.registered operation
  have coherent := step.coherent delivered
  cases step with
  | call mailbox inFlight operation undrained uncompleted =>
      have admits := admits_apply delivered.registered delivered.accounted.uniqueSlots delivered.current
        undrained uncompleted
      refine ⟨accounted, registered, coherent, delivered.drained, ?_, ?_⟩
      · intro controller requestId outstanding
        rcases admits controller requestId outstanding with ⟨earlier, keeps⟩ | ⟨queued, member, asks⟩
        · obtain ⟨command, asks, queued | flying⟩ := delivered.outstanding controller requestId earlier
          · exact ⟨command, asks, .inl ((keeps command asks.slot_eq).mpr queued)⟩
          · exact ⟨command, asks, .inr flying⟩
        · exact ⟨queued, asks, .inl member⟩
      · intro controller requestId outstanding other member slot
        rcases admits controller requestId outstanding with ⟨earlier, keeps⟩ | ⟨queued, present, asks⟩
        · exact delivered.current controller requestId earlier other ((keeps other slot).mp member) slot
        · have same := List.inj_on_of_nodup_map accounted.uniqueSlots member present
            (slot.trans asks.slot_eq.symm)
          exact same ▸ asks
  | drain mailbox =>
      refine ⟨accounted, registered, coherent, ?_, ?_, fun _ _ _ _ member => nomatch member⟩
      · rintro _ ⟨⟩
        exact delivered.accounted.uniqueSlots
      · intro controller requestId outstanding
        obtain ⟨command, asks, queued | ⟨_, flying, -⟩⟩ :=
          delivered.outstanding controller requestId outstanding
        · exact ⟨command, asks, .inr ⟨_, rfl, queued⟩⟩
        · cases flying
  | complete mailbox drained reservation batch created decisions answers =>
      have pending := (completeTuningDecisions_frame mailbox decisions).1
      refine ⟨accounted, registered, coherent, nofun, ?_, ?_⟩
      · intro controller requestId outstanding
        obtain ⟨-, command, queued, asks⟩ := delivered.outstanding_complete created answers outstanding
        exact ⟨command, asks, .inl (pending.symm ▸ queued)⟩
      · intro controller requestId outstanding other member
        obtain ⟨earlier, -⟩ := delivered.outstanding_complete created answers outstanding
        exact delivered.current controller requestId earlier other (pending ▸ member)

theorem delivered_create (acceptedKinds : CommandKindMask) :
    Delivered (⟨.create acceptedKinds, none⟩ : TuningPipeline S) where
  accounted := accounted_create acceptedKinds
  registered := List.nodup_nil
  coherent := nofun
  drained := nofun
  outstanding := fun _ _ ⟨_, found, _⟩ => nomatch found
  current := fun _ _ ⟨_, found, _⟩ => nomatch found

section Runs

variable {acceptedKinds : CommandKindMask} {length : Nat} (run : Run (@TuningStep S _) length)

theorem delivered_of_run (start : run.state 0 = ⟨.create acceptedKinds, none⟩) :
    ∀ position, position ≤ length → Delivered (run.state position) :=
  run.invariant (start ▸ delivered_create acceptedKinds) fun delivered step =>
    delivered_step step delivered

/-- A result is stored for a controller's request across one step. -/
def Stores (before after : CommandMailbox S) (controller : ControllerId) (requestId : Nat) : Prop :=
  ∃ exchange result, after.findExchange controller = some exchange ∧ exchange.result = some result ∧
    result.tuningRequestId = requestId ∧
    ∀ earlier, before.findExchange controller = some earlier → earlier.result ≠ some result

theorem Stores.unsettled {before : CommandMailbox S} {operation : MailboxOperation S}
    {controller : ControllerId} {requestId : Nat} (unique : before.registeredControllers.Nodup)
    (coherent : ∀ controller exchange, before.findExchange controller = some exchange →
      exchange.Coherent)
    (stores : Stores before (before.apply operation) controller requestId) :
    ∃ exchange, before.findExchange controller = some exchange ∧ ¬ Settled requestId exchange := by
  obtain ⟨after, result, found, answered, named, new⟩ := stores
  rcases evolves_apply unique coherent operation found with ⟨exchange, earlier, evolves⟩ | ⟨rfl, -, -⟩
  · refine ⟨exchange, earlier, fun settled => ?_⟩
    have changed := new exchange earlier
    cases evolves with
    | kept | refused => exact changed answered
    | answered recorded own awaited =>
        cases answered
        exact settled.2 (named ▸ awaited)
    | requested _ raised fresh idle same highWater asked answer =>
        rcases answer with unanswered | ⟨other, stored, requested, -⟩
        · exact changed (unanswered ▸ answered)
        · cases stored.symm.trans answered
          exact absurd settled.1 (Nat.not_le_of_lt (named ▸ requested.symm ▸ fresh))
    | claimed => exact nomatch answered
  · exact nomatch answered

/-- Between two results for one request of one controller, the controller registers again. -/
theorem registers_between_stores (start : run.state 0 = ⟨.create acceptedKinds, none⟩)
    {controller : ControllerId} {requestId first second : Nat} (ordered : first < second)
    (within : second < length)
    (storesFirst : Stores (run.state first).mailbox (run.state (first + 1)).mailbox controller requestId)
    (storesSecond : Stores (run.state second).mailbox (run.state (second + 1)).mailbox controller
      requestId) :
    ∃ position, first < position ∧ position < second ∧
      run.label position = .registerController controller ∧
      ((run.state position).mailbox.registerController controller).1 = true := by
  have delivered := delivered_of_run run start
  have settledAfter : ∀ exchange, (run.state (first + 1)).mailbox.findExchange controller =
      some exchange → Settled requestId exchange := by
    obtain ⟨after, result, found, answered, rfl, -⟩ := storesFirst
    intro exchange registered
    cases found.symm.trans registered
    exact ((delivered (first + 1) (Nat.lt_trans ordered within)).coherent controller after found).settled
      answered
  have here := delivered second (Nat.le_of_lt within)
  rw [(run.steps second within).mailbox_eq] at storesSecond
  obtain ⟨exchange, found, unsettled⟩ := storesSecond.unsettled here.registered here.coherent
  obtain ⟨position, lower, upper, settled, lost⟩ := @Run.exists_loss _ _ _ _ run
    (fun pipeline => ∀ exchange, pipeline.mailbox.findExchange controller = some exchange →
      Settled requestId exchange) _ _ ordered (Nat.le_of_lt within) settledAfter
    (fun settled => unsettled (settled exchange found))
  refine ⟨position, lower, upper, ?_⟩
  simp only [not_forall] at lost
  obtain ⟨after, registered, unsettledAfter⟩ := lost
  have before : position < length := Nat.lt_trans upper within
  have there := delivered position (Nat.le_of_lt before)
  rw [(run.steps position before).mailbox_eq] at registered
  rcases evolves_apply there.registered there.coherent _ registered with
    ⟨earlier, standing, evolves⟩ | ⟨-, label, returned⟩
  · exact absurd ((settled earlier standing).evolves evolves) unsettledAfter
  · exact ⟨label, returned⟩

def tunes (controller : ControllerId) : Command S → Bool
  | .setMovementTuning tuning => tuning.controller = controller
  | _ => false

theorem tunes_iff {controller : ControllerId} {command : Command S} :
    tunes controller command = true ↔ command.slot = tuningSlot controller := by
  constructor
  · intro tuned
    cases command with
    | setMovementTuning tuning =>
        have named : tuning.controller = controller := by simpa [tunes] using tuned
        exact named ▸ rfl
    | _ => exact nomatch tuned
  · intro slot
    obtain ⟨tuning, rfl, rfl⟩ := eq_setMovementTuning_of_slot slot
    simp [tunes]

theorem countP_tunes_le_one {mailbox : CommandMailbox S} (unique : mailbox.slots.Nodup)
    (controller : ControllerId) : mailbox.pending.countP (tunes controller) ≤ 1 := by
  have counted : mailbox.slots.countP (· == tuningSlot controller) ≤ 1 :=
    List.nodup_iff_count_le_one.mp unique _
  rw [CommandMailbox.slots, List.countP_map] at counted
  refine Nat.le_trans (Nat.le_of_eq ?_) counted
  refine List.countP_congr fun command _ => ?_
  simp only [tunes_iff, Function.comp_apply, beq_iff_eq]

/-- No tuning result is lost, duplicated or crossed, whatever the interleaving of the calls. -/
theorem tuning_exchange_delivers (start : run.state 0 = ⟨.create acceptedKinds, none⟩) :
    (∀ position, position ≤ length →
      ∀ exchange ∈ (run.state position).mailbox.tuningExchanges,
        (∀ requestId, exchange.requestId = some requestId → exchange.result = none →
          ∃ command, Asks command exchange.controller requestId ∧
            (command ∈ (run.state position).mailbox.pending ∨
              ∃ drained, (run.state position).inFlight = some drained ∧ command ∈ drained)) ∧
        (∀ result, exchange.result = some result →
          exchange.requestId = some result.tuningRequestId ∧
            result.controller = exchange.controller) ∧
        (exchange.requestId.isSome = true →
          (run.state position).mailbox.pending.countP (tunes exchange.controller) ≤ 1) ∧
        ∀ requestId, exchange.requestId = some requestId → exchange.result = none →
          ∀ queued ∈ (run.state position).mailbox.pending,
            tunes exchange.controller queued = true → Asks queued exchange.controller requestId) ∧
    ∀ controller requestId first second, first < second → second < length →
      Stores (run.state first).mailbox (run.state (first + 1)).mailbox controller requestId →
      Stores (run.state second).mailbox (run.state (second + 1)).mailbox controller requestId →
      ∃ position, first < position ∧ position < second ∧
        run.label position = .registerController controller ∧
        ((run.state position).mailbox.registerController controller).1 = true := by
  refine ⟨fun position within exchange member => ?_,
    fun controller requestId first second ordered within => ?_⟩
  · have delivered := delivered_of_run run start position within
    have found : (run.state position).mailbox.findExchange exchange.controller = some exchange :=
      find_of_mem delivered.registered member
    refine ⟨fun requestId asked open_ => ?_, (delivered.coherent _ exchange found).answers,
      fun _ => countP_tunes_le_one delivered.accounted.uniqueSlots _,
      fun requestId asked open_ queued pending tuned => ?_⟩
    · exact delivered.outstanding _ requestId ⟨exchange, found, asked, open_⟩
    · exact delivered.current _ requestId ⟨exchange, found, asked, open_⟩ queued pending
        (tunes_iff.mp tuned)
  · exact registers_between_stores run start ordered within

end Runs

/-- One request: registered, submitted, drained. -/
def drainedRequest : Run (@TuningStep ℚ _) 3 :=
  let empty : CommandMailbox ℚ := .create .all
  let registered := empty.apply (.registerController .first)
  let requested := registered.apply (.submitTuning ⟨.first, 1, 0, .defaults⟩ 0)
  { state := fun
      | 0 => ⟨empty, none⟩
      | 1 => ⟨registered, none⟩
      | 2 => ⟨requested, none⟩
      | _ => ⟨requested.drain.2, some requested.drain.1⟩
    label := fun
      | 0 => .registerController .first
      | 1 => .submitTuning ⟨.first, 1, 0, .defaults⟩ 0
      | _ => .drain
    steps := fun
      | 0, _ => .call _ _ _ nofun nofun
      | 1, _ => .call _ _ _ nofun nofun
      | 2, _ => .drain _ }

theorem tuning_exchange_delivers_drained :
    ∃ command, Asks command .first 1 ∧ (command ∈ (drainedRequest.state 3).mailbox.pending ∨
      ∃ drained, (drainedRequest.state 3).inFlight = some drained ∧ command ∈ drained) := by
  have delivers := (tuning_exchange_delivers drainedRequest rfl).1 3 (Nat.le_refl 3)
  have found : ∃ exchange ∈ (drainedRequest.state 3).mailbox.tuningExchanges,
      exchange.controller = .first ∧ exchange.requestId = some 1 ∧ exchange.result = none := by
    decide +kernel
  obtain ⟨exchange, member, named, asked, unanswered⟩ := found
  exact named ▸ (delivers exchange member).1 1 asked unanswered

end BlobRoyale.Runtime
