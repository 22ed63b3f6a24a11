import Mathlib.Data.Prod.Lex
import BlobRoyale.Simulation.PhysicsBody

/-!
# Tactical objectives

What a bot may want, how it scores a candidate, and which candidate of a list it chooses.
-/

namespace BlobRoyale.Controllers

open Simulation

inductive TacticalObjectiveKind where
  | hill
  | zone
  | raceGate
  | raceRecovery
  | shoveSetup
  deriving DecidableEq, Repr

/-- `tactical_objective_kind_ordinal`. -/
def TacticalObjectiveKind.ordinal : TacticalObjectiveKind → Nat
  | .hill => 0
  | .zone => 1
  | .raceGate => 2
  | .raceRecovery => 3
  | .shoveSetup => 4

theorem TacticalObjectiveKind.ordinal_injective : Function.Injective ordinal := by
  intro first second same
  cases first <;> cases second <;> first | rfl | cases same

structure TacticalObjectiveKey where
  kind : TacticalObjectiveKind
  subject : Nat
  deriving DecidableEq, Repr

namespace TacticalObjectiveKey

def rank (key : TacticalObjectiveKey) : Nat ×ₗ Nat := toLex (key.kind.ordinal, key.subject)

theorem rank_injective : Function.Injective rank := by
  rintro ⟨kind, subject⟩ ⟨kind', subject'⟩ same
  obtain ⟨kinds, subjects⟩ := Prod.mk.inj (toLex.injective same)
  cases TacticalObjectiveKind.ordinal_injective kinds
  cases subjects
  rfl

/-- The defaulted comparison: kind, then subject. -/
instance : LinearOrder TacticalObjectiveKey := LinearOrder.lift' rank rank_injective

end TacticalObjectiveKey

structure TacticalObjectiveCandidate (S : Type) [Scalar S] where
  key : TacticalObjectiveKey
  target : Vector2 S
  arrivalRadius : S
  squaredDistance : S
  normalizedDistance : S := 0
  escapeBlocked : Bool := false
  opening : S := 1
  objectiveVelocityX : S := 0
  objectiveVelocityY : S := 0

structure TacticalObjectivePolicy (S : Type) where
  objectiveWeights : TacticalObjectiveKind → S
  riskTolerance : S
  predictionHorizonTicks : Nat
  chargeScreenDiagonalFraction : S
  shieldAnticipationTicks : Nat
  roadCautionFraction : S
  exposurePreference : S
  minimumOpening : S

variable {S : Type} [Scalar S]

def tacticalHeldTargetBonus : S := 1 / ((8 : Nat) : S)

def tacticalCandidateScore (candidate : TacticalObjectiveCandidate S) (policy : TacticalObjectivePolicy S)
    (held : Bool) : S :=
  let weight := policy.objectiveWeights candidate.key.kind
  let proximity := 1 - candidate.normalizedDistance
  let preference := weight * proximity * candidate.opening
  let penalty := if candidate.escapeBlocked then 1 - policy.riskTolerance else 0
  let bonus := if held then tacticalHeldTargetBonus else 0
  preference - penalty + bonus

def tacticalCandidatePrecedes (left right : TacticalObjectiveCandidate S) : Bool :=
  if left.squaredDistance ≠ right.squaredDistance then left.squaredDistance < right.squaredDistance
  else left.key < right.key

/-- The best candidate so far by its index, with its score. -/
structure TacticalChoice (S : Type) where
  best : Option Nat
  bestScore : S

section Selection

variable (candidates : List (TacticalObjectiveCandidate S)) (policy : TacticalObjectivePolicy S)
    (held : Option TacticalObjectiveKey)

def consider (choice : TacticalChoice S) (index : Nat) : TacticalChoice S :=
  match candidates[index]? with
  | none => choice
  | some value =>
    let score := tacticalCandidateScore value policy (held = some value.key)
    match choice.best.bind fun best => candidates[best]? with
    | none => ⟨some index, score⟩
    | some best =>
      if choice.bestScore < score ∨ (score = choice.bestScore ∧ tacticalCandidatePrecedes value best) then
        ⟨some index, score⟩
      else choice

def tacticalSelectCandidate : Option Nat :=
  ((List.range candidates.length).foldl (consider candidates policy held) ⟨none, 0⟩).best

end Selection

end BlobRoyale.Controllers

/-!
# Nearest opponents and nearest hazard

The fixed number of opponents nearest to a bot, and the hazard nearest to one of them, as a scan offers them.
-/

namespace BlobRoyale.Controllers

open Simulation

def maximumTacticalObjectiveCandidateCount : Nat := 32
def maximumTacticalShoveCandidateCount : Nat := maximumTacticalObjectiveCandidateCount

structure ShoveOpponent (S : Type) where
  entity : Nat
  x : S
  y : S
  radius : S
  squaredDistance : S
  deriving DecidableEq

variable {S : Type} [Scalar S]

instance : Inhabited (ShoveOpponent S) := ⟨⟨0, 0, 0, 0, 0⟩⟩

def shoveOpponentPrecedes (left right : ShoveOpponent S) : Bool :=
  if left.squaredDistance ≠ right.squaredDistance then left.squaredDistance < right.squaredDistance
  else left.entity < right.entity

/-- A fixed array of slots, of which the first `count` are in use. -/
structure NearestOpponents (S : Type) where
  entries : List (ShoveOpponent S)
  count : Nat

namespace NearestOpponents

def empty : NearestOpponents S := ⟨List.replicate maximumTacticalShoveCandidateCount default, 0⟩

def retained (nearest : NearestOpponents S) : List (ShoveOpponent S) := nearest.entries.take nearest.count

/-- The loop of the insertion: slots that come after the opponent move up by one, from a slot down. -/
def shift (opponent : ShoveOpponent S) (entries : List (ShoveOpponent S)) : Nat → List (ShoveOpponent S) × Nat
  | 0 => (entries, 0)
  | index + 1 =>
    match entries[index]? with
    | none => (entries, index + 1)
    | some prior =>
      if shoveOpponentPrecedes opponent prior then shift opponent (entries.set (index + 1) prior) index
      else (entries, index + 1)

end NearestOpponents

def insertNearest (nearest : NearestOpponents S) (opponent : ShoveOpponent S) : NearestOpponents S :=
  let width := nearest.entries.length
  if nearest.count = width ∧ !(nearest.entries[width - 1]?.any (shoveOpponentPrecedes opponent)) then nearest
  else
    let index := if nearest.count < width then nearest.count else width - 1
    let shifted := NearestOpponents.shift opponent nearest.entries index
    ⟨shifted.1.set shifted.2 opponent, if nearest.count < width then nearest.count + 1 else nearest.count⟩

inductive ShoveHazardSource where
  | hole
  | corridorEdge
  | lethalEntity
  | hillExit
  deriving DecidableEq, Repr

def ShoveHazardSource.ordinal : ShoveHazardSource → Nat
  | .hole => 0
  | .corridorEdge => 1
  | .lethalEntity => 2
  | .hillExit => 3

structure ShoveHazard (S : Type) where
  distance : S
  awayX : S
  awayY : S
  source : ShoveHazardSource
  identity : Nat
  found : Bool

def ShoveHazard.unfound : ShoveHazard S := ⟨0, 0, 0, .hole, 0, false⟩

def shoveHazardPrecedes (left right : ShoveHazard S) : Bool :=
  if left.distance ≠ right.distance then left.distance < right.distance
  else if left.source ≠ right.source then left.source.ordinal < right.source.ordinal
  else left.identity < right.identity

def offerHazard (best hazard : ShoveHazard S) : ShoveHazard S :=
  if !best.found || shoveHazardPrecedes hazard best then hazard else best

end BlobRoyale.Controllers
