import BlobRoyale.Application.SeatBotFilling
import BlobRoyale.Library.Transition

/-!
# Seat bots follow the roster

Over every sequence of passes, each hosted bot sits alone at the seat it was built for, or its join is
in flight; a failed declaration waits for its seat to change or be filled; and every controller the
reconciler opened is hosted or closed.
-/

namespace BlobRoyale.Application

open BlobRoyale.Simulation BlobRoyale.Runtime Transition

namespace SeatBotReconciler

variable {S : Type} [Scalar S] {reconciler : SeatBotReconciler S} {published : PublishedRoster}
  {profiles : BotProfileName → Bool} {surroundings : Nat → Surroundings S}

theorem forgetChanged_remembers (reconciler : SeatBotReconciler S) {index : Nat} {declaration : NpcDeclaration}
    (remembered : reconciler.failedDeclarations.find index = some declaration)
    (offers : Offered published index declaration) :
    (reconciler.forgetChanged published.seats).failedDeclarations.find index = some declaration := by
  obtain ⟨seat, declared, same, _⟩ := offers
  rw [forgetChanged, SortedStore.find_filter, remembered, Option.filter_eq_some_iff]
  exact ⟨rfl, sameDeclaration_iff.mpr ⟨seat, declared, same⟩⟩

/-- What one call leaves behind. -/
structure Reconciled (before after : SeatBotReconciler S) (published : PublishedRoster) (roomAbandoned : Bool) :
    Prop where
  accounted : after.Accounted
  distinct : DistinctSeats after.bots
  seated : ∀ controller bot, after.bots.find controller = some bot → Seated published controller bot
  offered : ∀ event ∈ after.log, ∀ index declaration, event.attempt = some (index, declaration) →
    Offered published index declaration
  failures : ∀ declaration index reason, .botCreationFailed declaration index reason ∈ after.log →
    after.failedDeclarations.find index = some declaration
  logged : ∀ controller bot, after.bots.find controller = some bot → before.bots.find controller = none →
    .botCreated controller bot.declaration bot.seatIndex ∈ after.log
  abandoned : roomAbandoned = true → ∀ controller, after.bots.find controller = none
  remembers : ∀ index declaration, before.failedDeclarations.find index = some declaration →
    Offered published index declaration → Remembers after index declaration

theorem reconcile_abandoned (accounted : reconciler.Accounted) (published : PublishedRoster) :
    Reconciled reconciler (reconciler.reconcile profiles surroundings published true) published true := by
  obtain ⟨begun, isBegun⟩ : ∃ begun : SeatBotReconciler S,
      begun = { reconciler with log := [] }.forgetChanged published.seats := ⟨_, rfl⟩
  have result : reconciler.reconcile profiles surroundings published true =
      begun.bots.entries.foldl abandonBot begun := by
    subst isBegun
    rfl
  have begins : begun.Accounted := by
    subst isBegun
    exact ⟨accounted.issued, accounted.kept, accounted.hosted, accounted.botted⟩
  have forgets : ∀ index declaration, reconciler.failedDeclarations.find index = some declaration →
      Offered published index declaration → begun.failedDeclarations.find index = some declaration := by
    subst isBegun
    intro index declaration remembered offers
    exact forgetChanged_remembers { reconciler with log := [] } remembered offers
  have silent : begun.log = [] := by
    subst isBegun
    rfl
  obtain ⟨books, gone, failedDeclarations, log⟩ := abandon_fold begins
    (fun _ _ found => SortedStore.find_eq_some_iff.mp found)
  rw [result]
  have quiet : ∀ event ∈ (begun.bots.entries.foldl abandonBot begun).log, event.attempt = none := by
    intro event member
    refine (log event member).resolve_left ?_
    rw [silent]
    exact List.not_mem_nil
  constructor
  · exact books
  · intro first second firstBot _ found
    rw [gone first] at found
    cases found
  · intro controller bot found
    rw [gone controller] at found
    cases found
  · intro event member index declaration attempted
    rw [quiet event member] at attempted
    cases attempted
  · intro declaration index reason member
    have impossible := quiet _ member
    cases impossible
  · intro controller bot found
    rw [gone controller] at found
    cases found
  · intro _
    exact gone
  · intro index declaration remembered offers
    constructor
    · rw [failedDeclarations]
      exact forgets index declaration remembered offers
    · intro event member other attempted
      rw [quiet event member] at attempted
      cases attempted

theorem reconcile_open (accounted : reconciler.Accounted) (distinct : DistinctSeats reconciler.bots)
    (published : PublishedRoster) :
    Reconciled reconciler (reconciler.reconcile profiles surroundings published false) published false := by
  obtain ⟨begun, isBegun⟩ : ∃ begun : SeatBotReconciler S,
      begun = { reconciler with log := [] }.forgetChanged published.seats := ⟨_, rfl⟩
  obtain ⟨first, isFirst⟩ : ∃ first, first = begun.bots.entries.foldl (settleBot published) begun := ⟨_, rfl⟩
  have result : reconciler.reconcile profiles surroundings published false =
      (List.range published.seats.seatCount).foldl (fillSeat profiles surroundings published) first := by
    subst isFirst isBegun
    rfl
  have begins : begun.Accounted := by
    subst isBegun
    exact ⟨accounted.issued, accounted.kept, accounted.hosted, accounted.botted⟩
  have same : begun.bots = reconciler.bots := by
    subst isBegun
    rfl
  have forgets : ∀ index declaration, reconciler.failedDeclarations.find index = some declaration →
      Offered published index declaration → begun.failedDeclarations.find index = some declaration := by
    subst isBegun
    intro index declaration remembered offers
    exact forgetChanged_remembers { reconciler with log := [] } remembered offers
  have silent : begun.log = [] := by
    subst isBegun
    rfl
  have settling : Settling published begun [] first := isFirst ▸ settled begins (same ▸ distinct)
  have quiet : ∀ event ∈ first.log, event.attempt = none := by
    intro event member
    refine (settling.log event member).resolve_left ?_
    rw [silent]
    exact List.not_mem_nil
  have filling : Filling published reconciler.bots (List.range published.seats.seatCount) first := by
    constructor
    · exact settling.accounted
    · exact settling.distinct
    · intro controller bot found
      exact (settling.visited controller bot found).resolve_left List.not_mem_nil
    · intro event member index declaration attempted
      rw [quiet event member] at attempted
      cases attempted
    · intro declaration index reason member
      have impossible := quiet _ member
      cases impossible
    · intro controller bot found unknown
      have present := settling.known controller (by rw [found]; rfl)
      rw [same, unknown] at present
      cases present
  obtain ⟨books, alone, seated, offered, failures, logged⟩ :=
    filling.fold profiles surroundings List.nodup_range
  rw [result]
  constructor
  · exact books
  · exact alone
  · exact seated
  · exact offered
  · intro declaration index reason member
    exact (failures declaration index reason member).1
  · exact logged
  · intro impossible
    cases impossible
  · intro index declaration remembered offers
    refine Remembers.fold ⟨?_, ?_⟩ settling.accounted offers
    · rw [settling.failedDeclarations]
      exact forgets index declaration remembered offers
    · intro event member other attempted
      rw [quiet event member] at attempted
      cases attempted

theorem reconcile_spec (profiles : BotProfileName → Bool) (surroundings : Nat → Surroundings S)
    (accounted : reconciler.Accounted) (distinct : DistinctSeats reconciler.bots)
    (published : PublishedRoster) (roomAbandoned : Bool) :
    Reconciled reconciler (reconciler.reconcile profiles surroundings published roomAbandoned) published
      roomAbandoned := by
  cases roomAbandoned with
  | true => exact reconcile_abandoned accounted published
  | false => exact reconcile_open accounted distinct published

/-- One call of `reconcile`, with what the sink, the registry and the clock answer at each seat. -/
structure ReconcileCall (S : Type) [Scalar S] where
  published : PublishedRoster
  roomAbandoned : Bool
  surroundings : Nat → Surroundings S

def Step (profiles : BotProfileName → Bool) (before : SeatBotReconciler S) (call : ReconcileCall S)
    (after : SeatBotReconciler S) : Prop :=
  after = before.reconcile profiles call.surroundings call.published call.roomAbandoned

section Runs

variable {length : Nat} (run : Run (Step profiles) length) {sink : CommandSink S}
  (begins : run.state 0 = create sink)

include begins

theorem books_kept : ∀ position, position ≤ length →
    (run.state position).Accounted ∧ DistinctSeats (run.state position).bots := by
  refine run.invariant (P := fun reconciler => reconciler.Accounted ∧ DistinctSeats reconciler.bots) ?_ ?_
  · rw [begins]
    constructor
    · constructor
      · intro controller member
        cases member
      · intro controller member
        cases member
      · intro controller present
        cases present
      · intro controller present
        cases present
    · intro first second firstBot secondBot found
      cases found
  · intro before call after ⟨accounted, distinct⟩ stepped
    subst stepped
    have reconciled := reconcile_spec profiles call.surroundings accounted distinct call.published call.roomAbandoned
    exact ⟨reconciled.accounted, reconciled.distinct⟩

theorem call_reconciled (position : Nat) (within : position < length) :
    Reconciled (run.state position) (run.state (position + 1)) (run.label position).published
      (run.label position).roomAbandoned := by
  obtain ⟨accounted, distinct⟩ := books_kept run begins position (Nat.le_of_lt within)
  rw [show run.state (position + 1) = _ from run.steps position within]
  exact reconcile_spec profiles _ accounted distinct _ _

theorem failure_remembered {index first last : Nat} {declaration : NpcDeclaration}
    (ordered : first < last) (within : last ≤ length)
    (failed : (run.state (first + 1)).failedDeclarations.find index = some declaration)
    (offers : ∀ position, first < position → position < last →
      Offered (run.label position).published index declaration) :
    (run.state last).failedDeclarations.find index = some declaration := by
  refine run.persists (P := fun reconciler => reconciler.failedDeclarations.find index = some declaration)
    ordered within failed ?_
  intro position lower upper remembered _
  have reconciled := call_reconciled run begins position (by omega)
  exact (reconciled.remembers index declaration remembered (offers position lower upper)).1

/-- Hosted bots sit alone at the seat they were built for, or their join is in flight; a bot is built
only for a seat that names no controller; what failed is not retried while its seat offers it; and
every opened controller is hosted or closed. -/
theorem seat_bots_follow_roster :
    (∀ position, position < length →
      let published := (run.label position).published
      let after := run.state (position + 1)
      DistinctSeats after.bots ∧
      (∀ controller bot, after.bots.find controller = some bot → Placed published controller bot) ∧
      (∀ controller declaration index, .botCreated controller declaration index ∈ after.log →
        Offered published index declaration) ∧
      (∀ controller bot, after.bots.find controller = some bot →
        (run.state position).bots.find controller = none →
          .botCreated controller bot.declaration bot.seatIndex ∈ after.log) ∧
      (∀ controller ∈ after.opened,
        ((after.bots.find controller).isSome = true ∧ (after.host.find controller).isSome = true) ∨
          controller ∈ after.closed) ∧
      ((run.label position).roomAbandoned = true → ∀ controller,
        after.bots.find controller = none ∧ after.host.find controller = none)) ∧
    ∀ first last, first < last → last < length → ∀ declaration index reason,
      .botCreationFailed declaration index reason ∈ (run.state (first + 1)).log →
      ∀ event ∈ (run.state (last + 1)).log, event.attempt = some (index, declaration) →
        ∃ between, first < between ∧ between < last ∧
          ¬ Offered (run.label between).published index declaration := by
  constructor
  · intro position within
    have reconciled := call_reconciled run begins position within
    refine ⟨reconciled.distinct, ?_, ?_, reconciled.logged, reconciled.accounted.kept, ?_⟩
    · intro controller bot found
      exact (reconciled.seated controller bot found).1
    · intro controller declaration index created
      exact reconciled.offered _ created index declaration rfl
    · intro abandoned controller
      have gone := reconciled.abandoned abandoned controller
      refine ⟨gone, ?_⟩
      by_contra present
      have botted := reconciled.accounted.hosted controller (Option.isSome_iff_ne_none.mpr present)
      rw [gone] at botted
      cases botted
  · intro first last ordered within declaration index reason failed event member attempted
    by_contra unchanged
    have remembered := (call_reconciled run begins first (by omega)).failures declaration index reason failed
    have offers : ∀ position, first < position → position < last →
        Offered (run.label position).published index declaration := by
      intro position lower upper
      by_contra lost
      exact unchanged ⟨position, lower, upper, lost⟩
    have still := failure_remembered run begins ordered (Nat.le_of_lt within) remembered offers
    have reconciled := call_reconciled run begins last within
    have offered := reconciled.offered event member index declaration attempted
    exact (reconciled.remembers index declaration still offered).2 event member declaration attempted

end Runs

section Wanderer

def wanderer : NpcDeclaration := ⟨⟨"wanderer", .inl (by decide +kernel)⟩, none⟩

/-- A roster whose only seat declares a wanderer nobody holds. -/
def wandererRoster : PublishedRoster := ⟨⟨[.npc ⟨wanderer.kind, none, none⟩], false, by decide⟩, .zero⟩

def wandererCall : ReconcileCall ℚ := ⟨wandererRoster, false, fun _ => ⟨id, fun _ => Nat.le_refl _, true, 0⟩⟩

def quietSink : CommandSink ℚ := ⟨.create .all, .empty, ⟨1⟩, minimumEntityId, .empty, Nat.le_refl minimumEntityId⟩

theorem seat_bots_follow_roster_wanderer : Offered wandererRoster 0 wanderer := by
  let run : Run (Step fun _ => false) 1 :=
    .ofLabels (fun before (call : ReconcileCall ℚ) =>
      before.reconcile (fun _ => false) call.surroundings call.published call.roomAbandoned)
      (create quietSink) (fun _ => wandererCall) 1
  have created : .botCreated .first wanderer 0 ∈ (run.state 1).log := by decide +kernel
  exact ((seat_bots_follow_roster run rfl).1 0 (by decide)).2.2.1 .first wanderer 0 created

end Wanderer

end SeatBotReconciler

end BlobRoyale.Application
