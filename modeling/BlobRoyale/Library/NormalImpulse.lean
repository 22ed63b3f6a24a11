import Mathlib.Algebra.Order.Field.Basic
import Mathlib.Tactic.FieldSimp
import Mathlib.Tactic.Linarith
import Mathlib.Tactic.Positivity
import Mathlib.Tactic.Ring

/-!
# Impulses along a normal

Two bodies in the plane exchange an impulse along a unit normal: what the exchange does to their momentum, to their
motion along and across the normal, and to their kinetic energy. A bounce is the exchange that returns a fraction of
the closing speed.
-/

namespace BlobRoyale.Impulse

variable {K : Type} [Field K]

def along (normal velocity : K × K) : K := velocity.1 * normal.1 + velocity.2 * normal.2

def across (normal velocity : K × K) : K := velocity.2 * normal.1 - velocity.1 * normal.2

def square (velocity : K × K) : K := velocity.1 ^ 2 + velocity.2 ^ 2

/-- The velocity after a push along a direction. -/
def pushed (normal velocity : K × K) (amount : K) : K × K :=
  (velocity.1 + amount * normal.1, velocity.2 + amount * normal.2)

def separation (normal first second : K × K) : K := along normal second - along normal first

def energy (firstMass secondMass : K) (first second : K × K) : K := firstMass * square first + secondMass * square second

section Pushed

variable {normal velocity : K × K} {amount : K}

theorem along_pushed (unit : square normal = 1) : along normal (pushed normal velocity amount) =
    along normal velocity + amount := by
  calc along normal (pushed normal velocity amount) = along normal velocity + amount * square normal := by
        simp only [along, pushed, square]
        ring
    _ = along normal velocity + amount := by rw [unit, mul_one]

theorem across_pushed : across normal (pushed normal velocity amount) = across normal velocity := by
  simp only [across, pushed]
  ring

theorem square_pushed (unit : square normal = 1) : square (pushed normal velocity amount) =
    square velocity + amount * (2 * along normal velocity + amount) := by
  calc square (pushed normal velocity amount)
      = square velocity + amount * (2 * along normal velocity + amount * square normal) := by
        simp only [square, pushed, along]
        ring
    _ = square velocity + amount * (2 * along normal velocity + amount) := by rw [unit, mul_one]

end Pushed

section Exchange

variable {normal first second : K × K} {firstMass secondMass impulse : K}

theorem exchange_momentum (firstMassive : firstMass ≠ 0) (secondMassive : secondMass ≠ 0) :
    firstMass * (pushed normal first (-(impulse / firstMass))).1 +
        secondMass * (pushed normal second (impulse / secondMass)).1 = firstMass * first.1 + secondMass * second.1 ∧
      firstMass * (pushed normal first (-(impulse / firstMass))).2 +
        secondMass * (pushed normal second (impulse / secondMass)).2 = firstMass * first.2 + secondMass * second.2 := by
  constructor
  · simp only [pushed]
    field_simp
    ring
  · simp only [pushed]
    field_simp
    ring

theorem exchange_separation (unit : square normal = 1) :
    separation normal (pushed normal first (-(impulse / firstMass))) (pushed normal second (impulse / secondMass)) =
      separation normal first second + impulse * (1 / firstMass + 1 / secondMass) := by
  rw [separation, along_pushed unit, along_pushed unit, separation]
  ring

theorem exchange_energy (unit : square normal = 1) (firstMassive : firstMass ≠ 0) (secondMassive : secondMass ≠ 0) :
    energy firstMass secondMass (pushed normal first (-(impulse / firstMass)))
        (pushed normal second (impulse / secondMass)) = energy firstMass secondMass first second +
      impulse * (2 * separation normal first second + impulse * (1 / firstMass + 1 / secondMass)) := by
  rw [energy, square_pushed unit, square_pushed unit, energy, separation]
  field_simp
  ring

/-- The impulse that returns a fraction of the closing speed. -/
def bounce (firstMass secondMass fraction speed : K) : K := -((1 + fraction) * speed) / (1 / firstMass + 1 / secondMass)

variable {fraction speed : K}

theorem bounce_weight (weighted : 1 / firstMass + 1 / secondMass ≠ 0) :
    bounce firstMass secondMass fraction speed * (1 / firstMass + 1 / secondMass) = -((1 + fraction) * speed) :=
  div_mul_cancel₀ _ weighted

theorem bounce_separation (unit : square normal = 1) (weighted : 1 / firstMass + 1 / secondMass ≠ 0) :
    separation normal
        (pushed normal first (-(bounce firstMass secondMass fraction (separation normal first second) / firstMass)))
        (pushed normal second (bounce firstMass secondMass fraction (separation normal first second) / secondMass)) =
      -fraction * separation normal first second := by
  rw [exchange_separation unit, bounce_weight weighted]
  ring

end Exchange

section Dissipation

variable [LinearOrder K] [IsStrictOrderedRing K] {normal first second : K × K} {firstMass secondMass fraction : K}

theorem weight_pos (firstMassive : 0 < firstMass) (secondMassive : 0 < secondMass) :
    0 < 1 / firstMass + 1 / secondMass := by positivity

theorem bounce_energy_le (unit : square normal = 1) (firstMassive : 0 < firstMass) (secondMassive : 0 < secondMass)
    (nonnegative : 0 ≤ fraction) (restituted : fraction ≤ 1) :
    energy firstMass secondMass
        (pushed normal first (-(bounce firstMass secondMass fraction (separation normal first second) / firstMass)))
        (pushed normal second (bounce firstMass secondMass fraction (separation normal first second) / secondMass)) ≤
      energy firstMass secondMass first second := by
  have weighted := weight_pos firstMassive secondMassive
  rw [exchange_energy unit firstMassive.ne' secondMassive.ne', bounce_weight weighted.ne']
  have lost : bounce firstMass secondMass fraction (separation normal first second) *
      (2 * separation normal first second + -((1 + fraction) * separation normal first second)) =
      -(((1 + fraction) * (1 - fraction) * separation normal first second ^ 2) / (1 / firstMass + 1 / secondMass)) := by
    rw [bounce, div_mul_eq_mul_div, ← neg_div]
    congr 1
    ring
  have nothing : 0 ≤ ((1 + fraction) * (1 - fraction) * separation normal first second ^ 2) /
      (1 / firstMass + 1 / secondMass) :=
    div_nonneg (mul_nonneg (mul_nonneg (by linarith) (by linarith)) (sq_nonneg _)) weighted.le
  linarith

end Dissipation

end BlobRoyale.Impulse
