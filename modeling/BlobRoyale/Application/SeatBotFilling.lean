import BlobRoyale.Application.SeatBotReconciler

/-!
# The first pass over the hosted bots

Every bot the pass keeps sits at its seat or has its join in flight; every other bot is retired, and
no creation is logged.
-/

namespace BlobRoyale.Application

open BlobRoyale.Simulation BlobRoyale.Runtime

/-- The seat and declaration a logged creation was for. -/
def BotEvent.attempt : BotEvent → Option (Nat × NpcDeclaration)
  | .botCreated _ declaration seatIndex => some (seatIndex, declaration)
  | .botCreationFailed declaration seatIndex _ => some (seatIndex, declaration)
  | .botRetired _ _ _ _ => none

namespace SeatBotReconciler

variable {S : Type} [Scalar S] {reconciler before : SeatBotReconciler S} {published : PublishedRoster}
  {controller : ControllerId} {bot : HostedBot} {rest : List (ControllerId × HostedBot)}

theorem Accounted.replace (accounted : reconciler.Accounted) {controller : ControllerId} {bot kept : HostedBot}
    (known : reconciler.bots.find controller = some bot) :
    ({ reconciler with bots := reconciler.bots.insertOrAssign controller kept } : SeatBotReconciler S).Accounted := by
  have same : ∀ other, ((reconciler.bots.insertOrAssign controller kept).find other).isSome =
      (reconciler.bots.find other).isSome := by
    intro other
    rw [SortedStore.find_insertOrAssign]
    split
    · next named => rw [named, known]; rfl
    · rfl
  refine ⟨accounted.issued, fun other member => ?_, fun other present => ?_, fun other present => ?_⟩
  · dsimp only
    rw [same]
    exact accounted.kept other member
  · dsimp only
    rw [same]
    exact accounted.hosted other present
  · dsimp only at present
    rw [same] at present
    exact accounted.botted other present

/-- The books in the middle of pass one, with the bots still to visit. -/
structure Settling (published : PublishedRoster) (before : SeatBotReconciler S)
    (remaining : List (ControllerId × HostedBot)) (reconciler : SeatBotReconciler S) : Prop where
  accounted : reconciler.Accounted
  distinct : DistinctSeats reconciler.bots
  pending : ∀ entry ∈ remaining, reconciler.bots.find entry.1 = some entry.2
  visited : ∀ controller bot, reconciler.bots.find controller = some bot →
    (controller, bot) ∈ remaining ∨ Seated published controller bot
  failedDeclarations : reconciler.failedDeclarations = before.failedDeclarations
  log : ∀ event ∈ reconciler.log, event ∈ before.log ∨ event.attempt = none
  known : ∀ controller, (reconciler.bots.find controller).isSome = true →
    (before.bots.find controller).isSome = true

theorem Settling.apart (unique : controller ∉ rest.map Prod.fst) :
    ∀ other ∈ rest, other.1 ≠ controller := by
  intro other member same
  exact unique (same ▸ List.mem_map_of_mem member)

theorem Settling.keep {kept : HostedBot} (settling : Settling published before ((controller, bot) :: rest) reconciler)
    (unique : controller ∉ rest.map Prod.fst) (judged : judge published controller bot = .ok kept) :
    Settling published before rest
      { reconciler with bots := reconciler.bots.insertOrAssign controller kept } := by
  obtain ⟨accounted, distinct, pending, visited, failures, log, fewer⟩ := settling
  obtain ⟨seated, sameSeat⟩ := judge_ok judged
  have known := pending (controller, bot) List.mem_cons_self
  constructor
  · exact accounted.replace known
  · intro first second firstBot secondBot foundFirst foundSecond same
    simp only [SortedStore.find_insertOrAssign] at foundFirst foundSecond
    split at foundFirst
    · next isFirst =>
      cases foundFirst
      split at foundSecond
      · next isSecond => exact isFirst.trans isSecond.symm
      · have alike := distinct controller second bot secondBot known foundSecond (sameSeat.symm.trans same)
        exact isFirst.trans alike
    · split at foundSecond
      · next isSecond =>
        cases foundSecond
        have alike := distinct first controller firstBot bot foundFirst known (same.trans sameSeat)
        exact alike.trans isSecond.symm
      · exact distinct first second firstBot secondBot foundFirst foundSecond same
  · intro other member
    simp only [SortedStore.find_insertOrAssign]
    rw [if_neg (apart unique other member)]
    exact pending other (List.mem_cons_of_mem _ member)
  · intro other otherBot found
    simp only [SortedStore.find_insertOrAssign] at found
    split at found
    · next same =>
      cases found
      exact .inr (same ▸ seated)
    · next different =>
      obtain waiting | settled := visited other otherBot found
      · obtain same | later := List.mem_cons.mp waiting
        · exact absurd (congrArg Prod.fst same) different
        · exact .inl later
      · exact .inr settled
  · exact failures
  · exact log
  · intro other present
    simp only [SortedStore.find_insertOrAssign] at present
    split at present
    · next same =>
      refine fewer other ?_
      rw [same, known]
      rfl
    · exact fewer other present

theorem Settling.retire (settling : Settling published before ((controller, bot) :: rest) reconciler)
    (unique : controller ∉ rest.map Prod.fst) (reason : String) :
    Settling published before rest (reconciler.retireBot controller bot reason) := by
  obtain ⟨accounted, distinct, pending, visited, failures, log, fewer⟩ := settling
  have erased : ∀ other otherBot, (reconciler.retireBot controller bot reason).bots.find other = some otherBot →
      other ≠ controller ∧ reconciler.bots.find other = some otherBot := by
    intro other otherBot found
    simp only [retireBot, SortedStore.find_erase] at found
    split at found
    · cases found
    · next different => exact ⟨different, found⟩
  constructor
  · exact accounted.retireBot controller bot reason
  · intro first second firstBot secondBot foundFirst foundSecond same
    exact distinct first second firstBot secondBot (erased _ _ foundFirst).2 (erased _ _ foundSecond).2 same
  · intro other member
    simp only [retireBot, SortedStore.find_erase]
    rw [if_neg (apart unique other member)]
    exact pending other (List.mem_cons_of_mem _ member)
  · intro other otherBot found
    obtain ⟨different, found⟩ := erased other otherBot found
    obtain waiting | settled := visited other otherBot found
    · obtain same | later := List.mem_cons.mp waiting
      · exact absurd (congrArg Prod.fst same) different
      · exact .inl later
    · exact .inr settled
  · exact failures
  · intro event member
    obtain earlier | retired := List.mem_append.mp member
    · exact log event earlier
    · rw [List.mem_singleton.mp retired]
      exact .inr rfl
  · intro other present
    obtain ⟨otherBot, found⟩ := Option.isSome_iff_exists.mp present
    refine fewer other ?_
    rw [(erased other otherBot found).2]
    rfl

theorem Settling.settleBot (settling : Settling published before ((controller, bot) :: rest) reconciler)
    (unique : controller ∉ rest.map Prod.fst) :
    Settling published before rest (SeatBotReconciler.settleBot published reconciler (controller, bot)) := by
  unfold SeatBotReconciler.settleBot
  cases judged : judge published controller bot with
  | ok kept => exact settling.keep unique judged
  | error reason => exact settling.retire unique reason

theorem Settling.fold {remaining : List (ControllerId × HostedBot)}
    (settling : Settling published before remaining reconciler) (keys : (remaining.map Prod.fst).Nodup) :
    Settling published before [] (remaining.foldl (SeatBotReconciler.settleBot published) reconciler) := by
  induction remaining generalizing reconciler with
  | nil => exact settling
  | cons entry rest ih =>
    rw [List.map_cons, List.nodup_cons] at keys
    exact ih (settling.settleBot keys.1) keys.2

theorem settled (accounted : reconciler.Accounted) (distinct : DistinctSeats reconciler.bots) :
    Settling published reconciler []
      (reconciler.bots.entries.foldl (SeatBotReconciler.settleBot published) reconciler) := by
  refine Settling.fold ⟨accounted, distinct, ?_, ?_, rfl, ?_, ?_⟩ reconciler.bots.keys_nodup
  · intro entry member
    exact SortedStore.find_eq_some_iff.mpr member
  · intro controller bot found
    exact .inl (SortedStore.find_eq_some_iff.mp found)
  · intro event member
    exact .inl member
  · intro controller present
    exact present

theorem abandon_fold {entries : List (ControllerId × HostedBot)} (accounted : reconciler.Accounted)
    (covers : ∀ controller bot, reconciler.bots.find controller = some bot → (controller, bot) ∈ entries) :
    (entries.foldl abandonBot reconciler).Accounted ∧
      (∀ controller, (entries.foldl abandonBot reconciler).bots.find controller = none) ∧
      (entries.foldl abandonBot reconciler).failedDeclarations = reconciler.failedDeclarations ∧
      ∀ event ∈ (entries.foldl abandonBot reconciler).log, event ∈ reconciler.log ∨ event.attempt = none := by
  induction entries generalizing reconciler with
  | nil =>
    refine ⟨accounted, fun controller => ?_, rfl, fun _ member => .inl member⟩
    by_contra present
    obtain ⟨bot, found⟩ := Option.ne_none_iff_exists'.mp present
    exact absurd (covers controller bot found) List.not_mem_nil
  | cons entry rest ih =>
    obtain ⟨controller, bot⟩ := entry
    rw [List.foldl_cons]
    have retired : (reconciler.abandonBot (controller, bot)).Accounted :=
      accounted.retireBot controller bot "room_abandoned"
    obtain ⟨books, none, failures, log⟩ :=
      ih retired (by
          intro other otherBot found
          simp only [abandonBot, retireBot, SortedStore.find_erase] at found
          split at found
          · cases found
          · next different =>
            obtain same | later := List.mem_cons.mp (covers other otherBot found)
            · exact absurd (congrArg Prod.fst same) different
            · exact later)
    refine ⟨books, none, failures, fun event member => ?_⟩
    obtain earlier | quiet := log event member
    · obtain before | retired := List.mem_append.mp earlier
      · exact .inl before
      · rw [List.mem_singleton.mp retired]
        exact .inr rfl
    · exact .inr quiet

end SeatBotReconciler

end BlobRoyale.Application

/-!
# The second pass over the declared seats

A creation is tried only at a seat that declares a bot and names no controller, leaves at most one bot
at each seat, and is not tried again where it failed.
-/

namespace BlobRoyale.Application

open BlobRoyale.Simulation BlobRoyale.Runtime

/-- A seat that declares this and holds no bot. -/
def Offered (published : PublishedRoster) (index : Nat) (declaration : NpcDeclaration) : Prop :=
  ∃ seat, npcAt published.seats index = some seat ∧ seat.declaration = declaration ∧
    seat.controller = none

namespace SeatBotReconciler

variable {S : Type} [Scalar S] {reconciler : SeatBotReconciler S} {published : PublishedRoster}
  {profiles : BotProfileName → Bool} {surroundings : Nat → Surroundings S} {index : Nat}
  {declaration : NpcDeclaration} {remaining : List Nat}

/-- Pass two at one seat: nothing is created, or an offered seat without a bot is tried. -/
theorem fillSeat_cases (profiles : BotProfileName → Bool) (surroundings : Nat → Surroundings S)
    (published : PublishedRoster) (accounted : reconciler.Accounted) (index : Nat) :
    (∃ failures, reconciler.fillSeat profiles surroundings published index =
        { reconciler with failedDeclarations := failures } ∧
      ((∀ declaration, Offered published index declaration →
          reconciler.failedDeclarations.find index = some declaration →
            failures.find index = some declaration) ∧
        ∀ other, other ≠ index → failures.find other = reconciler.failedDeclarations.find other)) ∨
    ∃ declaration, Offered published index declaration ∧
      reconciler.failedDeclarations.find index ≠ some declaration ∧
      (∀ controller bot, reconciler.bots.find controller = some bot → bot.seatIndex = index →
        bot.joinSubmittedAt = none) ∧
      (reconciler.fillSeat profiles surroundings published index).Accounted ∧
      Attempts reconciler (reconciler.fillSeat profiles surroundings published index) declaration index
        published.tickSequence := by
  have unchanged : ∃ failures, reconciler = { reconciler with failedDeclarations := failures } ∧
      ((∀ declaration, Offered published index declaration →
          reconciler.failedDeclarations.find index = some declaration →
            failures.find index = some declaration) ∧
        ∀ other, other ≠ index → failures.find other = reconciler.failedDeclarations.find other) :=
    ⟨reconciler.failedDeclarations, rfl, fun _ _ kept => kept, fun _ _ => rfl⟩
  unfold fillSeat
  split
  · next filled =>
    refine .inl ⟨reconciler.failedDeclarations.erase index, rfl, ?_, ?_⟩
    · rintro declaration ⟨seat, declared, _, vacant⟩
      unfold npcAt at declared
      split at declared
      · next offered stored =>
        cases declared
        rw [stored] at filled
        simp [unfilledDeclaration, vacant] at filled
      · cases declared
    · intro other different
      rw [SortedStore.find_erase, if_neg different]
  · next declared unfilled =>
    obtain ⟨stored, vacant⟩ := unfilled_npcAt unfilled
    split
    · exact .inl unchanged
    · next untried =>
      split
      · exact .inl unchanged
      · next settledAt =>
        obtain ⟨books, attempts⟩ := createBot_cases profiles surroundings accounted declared.declaration
          index published.tickSequence
        refine .inr ⟨declared.declaration, ⟨declared, stored, rfl, vacant⟩, untried, ?_, books, attempts⟩
        intro controller bot found same
        by_contra inFlight
        refine settledAt (List.any_eq_true.mpr ⟨_, SortedStore.find_eq_some_iff.mp found, ?_⟩)
        simp only [same, decide_true, Bool.true_and]
        exact Option.isSome_iff_ne_none.mpr inFlight

/-- The books in the middle of pass two, with the bots hosted before it and the seats still to visit. -/
structure Filling (published : PublishedRoster) (known : SortedStore ControllerId HostedBot)
    (remaining : List Nat) (reconciler : SeatBotReconciler S) : Prop where
  accounted : reconciler.Accounted
  distinct : DistinctSeats reconciler.bots
  seated : ∀ controller bot, reconciler.bots.find controller = some bot → Seated published controller bot
  offered : ∀ event ∈ reconciler.log, ∀ index declaration, event.attempt = some (index, declaration) →
    Offered published index declaration
  failures : ∀ declaration index reason, .botCreationFailed declaration index reason ∈ reconciler.log →
    reconciler.failedDeclarations.find index = some declaration ∧ index ∉ remaining
  logged : ∀ controller bot, reconciler.bots.find controller = some bot → known.find controller = none →
    .botCreated controller bot.declaration bot.seatIndex ∈ reconciler.log

theorem Filling.fillSeat {known : SortedStore ControllerId HostedBot}
    (filling : Filling published known (index :: remaining) reconciler) (unique : index ∉ remaining) :
    Filling published known remaining (reconciler.fillSeat profiles surroundings published index) := by
  obtain ⟨accounted, distinct, seated, offered, failures, logged⟩ := filling
  obtain ⟨kept, result, _, elsewhere⟩ | ⟨declaration, offers, untried, settledHere, books, attempts⟩ :=
    fillSeat_cases profiles surroundings published accounted index
  · rw [result]
    refine ⟨⟨accounted.issued, accounted.kept, accounted.hosted, accounted.botted⟩, distinct, seated,
      offered, ?_, logged⟩
    intro declaration other reason failed
    obtain ⟨remembered, later⟩ := failures declaration other reason failed
    rw [List.mem_cons, not_or] at later
    exact ⟨(elsewhere other later.1).trans remembered, later.2⟩
  · cases attempts with
    | failed reason bots failedDeclarations log =>
      refine ⟨books, bots ▸ distinct, bots ▸ seated, ?_, ?_, ?_⟩
      · rw [log]
        intro event member other otherDeclaration attempted
        obtain earlier | new := List.mem_append.mp member
        · exact offered event earlier other otherDeclaration attempted
        · rw [List.mem_singleton.mp new] at attempted
          cases attempted
          exact offers
      · rw [log, failedDeclarations]
        intro otherDeclaration other otherReason failed
        rw [SortedStore.find_insertOrAssign]
        obtain earlier | new := List.mem_append.mp failed
        · obtain ⟨remembered, later⟩ := failures otherDeclaration other otherReason earlier
          rw [List.mem_cons, not_or] at later
          rw [if_neg later.1]
          exact ⟨remembered, later.2⟩
        · cases List.mem_singleton.mp new
          rw [if_pos rfl]
          exact ⟨rfl, unique⟩
      · rw [log, bots]
        exact fun other bot found absent => List.mem_append_left _ (logged other bot found absent)
    | created controller fresh bots failedDeclarations log =>
      obtain ⟨seat, declared, same, vacant⟩ := offers
      have alone : ∀ other bot, reconciler.bots.find other = some bot → bot.seatIndex ≠ index := by
        intro other bot found here
        obtain ⟨named, isDeclared, names⟩ := (seated other bot found).2 (settledHere other bot found here)
        rw [here, declared] at isDeclared
        cases isDeclared
        rw [vacant] at names
        cases names
      refine ⟨books, ?_, ?_, ?_, ?_, ?_⟩
      · rw [bots]
        intro first second firstBot secondBot foundFirst foundSecond sameSeat
        rw [SortedStore.find_insertOrAssign] at foundFirst foundSecond
        split at foundFirst
        · next isFirst =>
          cases foundFirst
          split at foundSecond
          · next isSecond => exact isFirst.trans isSecond.symm
          · exact absurd sameSeat.symm (alone second secondBot foundSecond)
        · split at foundSecond
          · cases foundSecond
            exact absurd sameSeat (alone first firstBot foundFirst)
          · exact distinct first second firstBot secondBot foundFirst foundSecond sameSeat
      · rw [bots]
        intro other bot found
        rw [SortedStore.find_insertOrAssign] at found
        split at found
        · cases found
          refine ⟨⟨seat, declared, same, .inr ⟨_, rfl, ?_⟩⟩, ?_⟩
          · exact Nat.lt_add_of_pos_right (by decide)
          · intro impossible
            cases impossible
        · exact seated other bot found
      · rw [log]
        intro event member other otherDeclaration attempted
        obtain earlier | new := List.mem_append.mp member
        · exact offered event earlier other otherDeclaration attempted
        · rw [List.mem_singleton.mp new] at attempted
          cases attempted
          exact ⟨seat, declared, same, vacant⟩
      · rw [log, failedDeclarations]
        intro otherDeclaration other otherReason failed
        obtain earlier | new := List.mem_append.mp failed
        · obtain ⟨remembered, later⟩ := failures otherDeclaration other otherReason earlier
          rw [List.mem_cons, not_or] at later
          rw [SortedStore.find_erase, if_neg later.1]
          exact ⟨remembered, later.2⟩
        · cases List.mem_singleton.mp new
      · rw [log, bots]
        intro other bot found absent
        rw [SortedStore.find_insertOrAssign] at found
        split at found
        · next same =>
          cases found
          exact List.mem_append_right _ (List.mem_singleton.mpr (same ▸ rfl))
        · exact List.mem_append_left _ (logged other bot found absent)

theorem Filling.fold {known : SortedStore ControllerId HostedBot}
    (profiles : BotProfileName → Bool) (surroundings : Nat → Surroundings S) (filling : Filling published known remaining reconciler) (distinct : remaining.Nodup) :
    Filling published known [] (remaining.foldl (SeatBotReconciler.fillSeat profiles surroundings published)
      reconciler) := by
  induction remaining generalizing reconciler with
  | nil => exact filling
  | cons index rest ih =>
    rw [List.nodup_cons] at distinct
    exact ih (filling.fillSeat distinct.1) distinct.2

def Remembers (reconciler : SeatBotReconciler S) (index : Nat) (declaration : NpcDeclaration) : Prop :=
  reconciler.failedDeclarations.find index = some declaration ∧
    ∀ event ∈ reconciler.log, ∀ other, event.attempt ≠ some (index, other)

theorem Remembers.fillSeat (remembers : Remembers reconciler index declaration)
    (accounted : reconciler.Accounted) (offers : Offered published index declaration) (visited : Nat) :
    Remembers (reconciler.fillSeat profiles surroundings published visited) index declaration := by
  obtain ⟨remembered, quiet⟩ := remembers
  obtain ⟨kept, result, here, elsewhere⟩ | ⟨other, offersOther, untried, _, _, attempts⟩ :=
    fillSeat_cases profiles surroundings published accounted visited
  · rw [result]
    refine ⟨?_, quiet⟩
    by_cases same : index = visited
    · subst same
      exact here declaration offers remembered
    · exact (elsewhere index same).trans remembered
  · have different : index ≠ visited := by
      intro same
      subst same
      obtain ⟨seat, declared, declares, _⟩ := offers
      obtain ⟨otherSeat, otherDeclared, otherDeclares, _⟩ := offersOther
      rw [declared] at otherDeclared
      cases otherDeclared
      exact untried (remembered.trans (congrArg some (declares.symm.trans otherDeclares)))
    have silent : ∀ event : BotEvent, event.attempt = some (visited, other) →
        ∀ third, event.attempt ≠ some (index, third) := by
      intro event attempted third clash
      rw [attempted] at clash
      cases clash
      exact different rfl
    cases attempts with
    | failed reason bots failedDeclarations log =>
      refine ⟨?_, ?_⟩
      · rw [failedDeclarations, SortedStore.find_insertOrAssign, if_neg different]
        exact remembered
      · rw [log]
        intro event member
        obtain earlier | new := List.mem_append.mp member
        · exact quiet event earlier
        · rw [List.mem_singleton.mp new]
          exact silent _ rfl
    | created controller fresh bots failedDeclarations log =>
      refine ⟨?_, ?_⟩
      · rw [failedDeclarations, SortedStore.find_erase, if_neg different]
        exact remembered
      · rw [log]
        intro event member
        obtain earlier | new := List.mem_append.mp member
        · exact quiet event earlier
        · rw [List.mem_singleton.mp new]
          exact silent _ rfl

theorem fillSeat_accounted (accounted : reconciler.Accounted) (index : Nat) :
    (reconciler.fillSeat profiles surroundings published index).Accounted := by
  obtain ⟨kept, result, _⟩ | ⟨_, _, _, _, books, _⟩ :=
    fillSeat_cases profiles surroundings published accounted index
  · rw [result]
    exact ⟨accounted.issued, accounted.kept, accounted.hosted, accounted.botted⟩
  · exact books

theorem Remembers.fold (remembers : Remembers reconciler index declaration) (accounted : reconciler.Accounted)
    (offers : Offered published index declaration) :
    Remembers (remaining.foldl (SeatBotReconciler.fillSeat profiles surroundings published) reconciler)
      index declaration := by
  induction remaining generalizing reconciler with
  | nil => exact remembers
  | cons visited rest ih =>
    exact ih (remembers.fillSeat accounted offers visited) (fillSeat_accounted accounted visited)

end SeatBotReconciler

end BlobRoyale.Application
