import BlobRoyale.Simulation.Identity

/-!
# Gameplay validation

What a gameplay system throws, next to what the engine throws through it.
-/

namespace BlobRoyale.Gameplay

open Simulation

inductive GameplayValidationCode where
  | statusActivationTickZero
  | kingOfTheHillHillAbsent
  | raceStandingLimitExceeded
  | raceFinishEventInvalid
  | locomotionPrecisionLost
  deriving DecidableEq, Repr

structure GameplayValidationError where
  code : GameplayValidationCode
  context : String
  detail : String
  deriving DecidableEq, Repr

/-- What a system throws. -/
inductive Failure where
  | simulation (error : SimulationValidationError)
  | gameplay (error : GameplayValidationError)
  deriving DecidableEq, Repr

/-- An engine refusal inside a gameplay system. -/
def throughEngine {α : Type} : Validated α → Except Failure α
  | .ok value => .ok value
  | .error error => .error (.simulation error)

theorem throughEngine_eq_ok {α : Type} {result : Validated α} {value : α} :
    throughEngine result = .ok value ↔ result = .ok value := by
  cases result <;> simp [throughEngine]

/-- What a step returned, or the value to fall back on. -/
def returnedOr {ε α : Type} (fallback : α) : Except ε α → α
  | .ok value => value
  | .error _ => fallback

theorem eq_ok_returnedOr {ε α : Type} {fallback : α} {result : Except ε α} (returned : result.toOption.isSome = true) :
    result = .ok (returnedOr fallback result) := by
  cases result with
  | error refusal => cases returned
  | ok value => rfl

end BlobRoyale.Gameplay
