import BlobRoyale.Library.KeyedFold
import BlobRoyale.Simulation.AbilityWindows
import BlobRoyale.Simulation.SystemPipeline

/-!
# Charge contacts

The pass that consumes charges. It walks the tick's events in order: a candidate counts while its attacker's
charge of the same activation is active; a hit takes the charge and requests the target's stun, a blocked one
ends the active window. The requests are emitted after the walk.
-/

namespace BlobRoyale.Gameplay

open Simulation

variable {S : Type} [Scalar S]

structure ChargeContactCandidate where
  attacker : EntityId
  target : EntityId
  activationTick : TickSequence
  outcome : ChargeContactOutcome
  deriving DecidableEq

def ChargeContactCandidate.ofEvent : WorldEvent S → Option ChargeContactCandidate
  | .chargeContact attacker target activationTick outcome => some ⟨attacker, target, activationTick, outcome⟩
  | _ => none

structure StunRequest where
  entity : EntityId
  durationTicks : Nat
  deriving DecidableEq

def StunRequest.event (request : StunRequest) : WorldEvent S :=
  .stunRequest request.entity request.durationTicks

namespace ChargeContactSystem

/-- The charges and the requests of a walk over the events. -/
structure Walk where
  charges : ComponentStore Charge
  requested : List StunRequest

/-- Whether a candidate names this charge while it is active. -/
def Counts (charge : Charge) (candidate : ChargeContactCandidate) (tick : TickSequence) : Prop :=
  charge.activationTick = candidate.activationTick ∧ charge.activeWindow.contains tick = true

instance (charge : Charge) (candidate : ChargeContactCandidate) (tick : TickSequence) :
    Decidable (Counts charge candidate tick) :=
  inferInstanceAs (Decidable (_ ∧ _))

def consume (tick : TickSequence) (walk : Walk) (candidate : ChargeContactCandidate) : Validated Walk :=
  match walk.charges.find candidate.attacker with
  | none => .ok walk
  | some charge =>
      if Counts charge candidate tick then
        match candidate.outcome with
        | .successfulHit =>
            .ok ⟨walk.charges.erase candidate.attacker,
              walk.requested ++ [⟨candidate.target, charge.hitStunDurationTicks⟩]⟩
        | .blockedByShield => do
            let canceled ← charge.canceledAt tick
            let charges ← walk.charges.insertOrAssign candidate.attacker canceled
            return { walk with charges := charges }
      else .ok walk

def visit (tick : TickSequence) (walk : Walk) (event : WorldEvent S) : Validated Walk :=
  match ChargeContactCandidate.ofEvent event with
  | none => .ok walk
  | some candidate => consume tick walk candidate

/-- `ChargeContactSystem::apply`. -/
def apply (world : GameWorld S) (context : TickContext S) : Validated (GameWorld S) := do
  let walk ← world.events.foldlM (visit context.tickSequence) ⟨world.stores .charge, []⟩
  walk.requested.foldlM (fun world request => world.emit request.event) (world.withStore .charge walk.charges)

def candidatesOf (events : List (WorldEvent S)) : List ChargeContactCandidate :=
  events.filterMap ChargeContactCandidate.ofEvent

/-- What a candidate does to its attacker's charge, and the hit it lands with the stun it asks for. -/
def action (tick : TickSequence) :
    KeyedFold.Action EntityId ChargeContactCandidate (Option Charge) (ChargeContactCandidate × Nat) where
  key := ChargeContactCandidate.attacker
  effect candidate part := part.bind fun charge =>
    if Counts charge candidate tick then
      match candidate.outcome with
      | .successfulHit => none
      | .blockedByShield => some (charge.cutAt tick)
    else some charge
  puts candidate part := part.toList.flatMap fun charge =>
    if Counts charge candidate tick ∧ candidate.outcome = .successfulHit then
      [(candidate, charge.hitStunDurationTicks)]
    else []

def requestOf (landed : EntityId × ChargeContactCandidate × Nat) : StunRequest :=
  ⟨landed.2.1.target, landed.2.2⟩

section Walk

variable {tick : TickSequence} {walk : Walk} {candidate : ChargeContactCandidate}

theorem Counts.begun {charge : Charge} (counts : Counts charge candidate tick) :
    charge.activationTick.value ≤ tick.value := by
  have inside := (TickWindow.contains_iff.mp counts.2).1
  rwa [charge.aligned] at inside

theorem consume_returns (tick : TickSequence) (walk : Walk) (candidate : ChargeContactCandidate) : ∃ next, consume tick walk candidate = .ok next ∧
    next.charges.find = (action tick).step walk.charges.find candidate ∧
    next.requested = walk.requested ++ ((action tick).puts candidate (walk.charges.find candidate.attacker)).map
      (fun hit => requestOf (candidate.attacker, hit)) := by
  have unchanged (same : (action tick).effect candidate (walk.charges.find candidate.attacker) =
      walk.charges.find candidate.attacker) :
      walk.charges.find = (action tick).step walk.charges.find candidate := by
    show _ = Function.update walk.charges.find candidate.attacker _
    exact (Function.update_eq_self_iff.mpr same).symm
  unfold consume
  cases found : walk.charges.find candidate.attacker with
  | none =>
    exact ⟨walk, rfl, unchanged (by rw [found]; rfl), (List.append_nil _).symm⟩
  | some charge =>
    dsimp only
    by_cases counts : Counts charge candidate tick
    · rw [if_pos counts]
      cases outcome : candidate.outcome with
      | successfulHit =>
        refine ⟨_, rfl, ?_, ?_⟩
        · funext other
          rw [ComponentStore.find_erase, KeyedFold.Action.step, Function.update_apply]
          simp only [action, found, Option.bind_some, counts, if_true, outcome]
        · simp [action, counts, outcome, requestOf]
      | blockedByShield =>
        have canceled := Charge.canceledAt_eq counts.begun
        have room : candidate.attacker ∈ walk.charges.keys ∨
            walk.charges.entries.length < maximumEntityCount :=
          .inl (SortedStore.mem_keys_iff.mpr (by rw [found]; rfl))
        have inserted : ∃ charges, walk.charges.insertOrAssign candidate.attacker (charge.cutAt tick) =
            .ok charges := ⟨_, dif_pos room⟩
        obtain ⟨charges, inserted⟩ := inserted
        refine ⟨{ walk with charges := charges }, ?_, ?_, ?_⟩
        · dsimp only
          rw [canceled]
          exact bind_eq_ok.mpr ⟨_, rfl, bind_eq_ok.mpr ⟨charges, inserted, rfl⟩⟩
        · funext other
          rw [ComponentStore.find_of_insertOrAssign inserted, KeyedFold.Action.step, Function.update_apply]
          simp only [action, found, Option.bind_some, counts, if_true, outcome]
        · simp [action, outcome]
    · rw [if_neg counts]
      refine ⟨walk, rfl, unchanged ?_, ?_⟩
      · simp only [action, found, Option.bind_some, counts, if_false]
      · simp [action, counts]

theorem foldlM_visit (tick : TickSequence) (events : List (WorldEvent S)) (walk : Walk) : ∃ next,
    events.foldlM (visit tick) walk = .ok next ∧
      next.charges.find = (action tick).run (candidatesOf events) walk.charges.find ∧
      next.requested = walk.requested ++
        ((action tick).output (candidatesOf events) walk.charges.find).map requestOf := by
  induction events generalizing walk with
  | nil => exact ⟨walk, rfl, rfl, (List.append_nil _).symm⟩
  | cons event rest ih =>
    rw [List.foldlM_cons]
    cases named : ChargeContactCandidate.ofEvent event with
    | none =>
      obtain ⟨next, walked, charges, requested⟩ := ih walk
      have kept : candidatesOf (event :: rest) = candidatesOf rest := List.filterMap_cons_none named
      refine ⟨next, bind_eq_ok.mpr ⟨walk, by rw [visit, named], walked⟩, ?_, ?_⟩
      · rw [kept, charges]
      · rw [kept, requested]
    | some candidate =>
      obtain ⟨middle, consumed, middleCharges, middleRequested⟩ := consume_returns tick walk candidate
      obtain ⟨next, walked, charges, requested⟩ := ih middle
      have kept : candidatesOf (event :: rest) = candidate :: candidatesOf rest :=
        List.filterMap_cons_some named
      refine ⟨next, bind_eq_ok.mpr ⟨middle, by rw [visit, named]; exact consumed, walked⟩, ?_, ?_⟩
      · rw [kept, charges, middleCharges]
        rfl
      · rw [kept, requested, middleRequested, middleCharges, KeyedFold.Action.output, List.map_append,
          List.map_map, List.append_assoc]
        rfl

end Walk

section OneAttacker

variable {tick : TickSequence} {charge : Charge} {candidate : ChargeContactCandidate}

theorem not_counts_cutAt (counts : Counts charge candidate tick) (later : ChargeContactCandidate) :
    ¬ Counts (charge.cutAt tick) later tick := by
  intro again
  exact absurd ((TickWindow.cutAt_contains (TickWindow.contains_iff.mp counts.2).1 tick).mp again.2).2
    (lt_irrefl _)

/-- The first candidate that counts for a charge. -/
def firstCounted (tick : TickSequence) (charge : Charge) (candidates : List ChargeContactCandidate) :
    Option ChargeContactCandidate :=
  candidates.find? fun candidate => Counts charge candidate tick

/-- What the first counted candidate leaves of the charge. -/
def chargeLeft (tick : TickSequence) (charge : Charge) : Option ChargeContactCandidate → Option Charge
  | none => some charge
  | some first =>
      match first.outcome with
      | .successfulHit => none
      | .blockedByShield => some (charge.cutAt tick)

def hitLanded (charge : Charge) : Option ChargeContactCandidate → List (ChargeContactCandidate × Nat)
  | none => []
  | some first => if first.outcome = .successfulHit then [(first, charge.hitStunDurationTicks)] else []

theorem alone_without_charge (tick : TickSequence) (candidates : List ChargeContactCandidate) :
    (action tick).alone candidates none = none ∧ (action tick).aloneOutput candidates none = [] := by
  induction candidates with
  | nil => exact ⟨rfl, rfl⟩
  | cons head rest ih => exact ih

theorem alone_with_charge (candidates : List ChargeContactCandidate) (charge : Charge) :
    (action tick).alone candidates (some charge) = chargeLeft tick charge (firstCounted tick charge candidates) ∧
      (action tick).aloneOutput candidates (some charge) =
        hitLanded charge (firstCounted tick charge candidates) := by
  induction candidates generalizing charge with
  | nil => exact ⟨rfl, rfl⟩
  | cons head rest ih =>
    by_cases counts : Counts charge head tick
    · have first : firstCounted tick charge (head :: rest) = some head :=
        List.find?_cons_of_pos (decide_eq_true counts)
      rw [first]
      cases outcome : head.outcome with
      | successfulHit =>
        have effect : (action tick).effect head (some charge) = none := by simp [action, counts, outcome]
        have puts : (action tick).puts head (some charge) = [(head, charge.hitStunDurationTicks)] := by
          simp [action, counts, outcome]
        obtain ⟨left, landed⟩ := alone_without_charge tick rest
        refine ⟨?_, ?_⟩
        · rw [KeyedFold.Action.alone, List.foldl_cons, effect]
          simp only [chargeLeft, outcome]
          exact left
        · rw [KeyedFold.Action.aloneOutput, effect, puts, landed]
          simp only [hitLanded, outcome, if_true, List.append_nil]
      | blockedByShield =>
        have effect : (action tick).effect head (some charge) = some (charge.cutAt tick) := by
          simp [action, counts, outcome]
        have puts : (action tick).puts head (some charge) = [] := by simp [action, outcome]
        have noneLater : firstCounted tick (charge.cutAt tick) rest = none :=
          List.find?_eq_none.mpr fun later _ => by
            simpa using not_counts_cutAt counts later
        obtain ⟨left, landed⟩ := ih (charge.cutAt tick)
        rw [noneLater] at left landed
        refine ⟨?_, ?_⟩
        · rw [KeyedFold.Action.alone, List.foldl_cons, effect]
          simp only [chargeLeft, outcome]
          exact left
        · rw [KeyedFold.Action.aloneOutput, effect, puts, landed]
          simp [hitLanded, outcome]
    · have first : firstCounted tick charge (head :: rest) = firstCounted tick charge rest :=
        List.find?_cons_of_neg (by simpa using counts)
      have effect : (action tick).effect head (some charge) = some charge := by simp [action, counts]
      have puts : (action tick).puts head (some charge) = [] := by simp [action, counts]
      obtain ⟨left, landed⟩ := ih charge
      rw [first]
      refine ⟨?_, ?_⟩
      · rw [KeyedFold.Action.alone, List.foldl_cons, effect]
        exact left
      · rw [KeyedFold.Action.aloneOutput, effect, puts, landed, List.nil_append]

end OneAttacker

end ChargeContactSystem

end BlobRoyale.Gameplay
