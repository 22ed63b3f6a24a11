import Mathlib.Data.Int.CardIntervalMod
import Mathlib.Data.Rat.Floor
import Mathlib.Logic.Function.Basic

/-!
# Mixing words

The xor of a word with its own right shift loses nothing, and the numbers from `m % bound` up to `m`
fall on every residue equally often.
-/

namespace WordMixing

/-- A right shift only mixes higher bits into lower ones, which are undone from the top. -/
theorem xorShift_injective {width shift : Nat} (positive : 0 < shift) :
    Function.Injective fun word : BitVec width => word ^^^ (word >>> shift) := by
  intro first second same
  have bits (index : Nat) : (first.getLsbD index ^^ first.getLsbD (shift + index)) =
      (second.getLsbD index ^^ second.getLsbD (shift + index)) := by
    have mixed := congrArg (fun word => word.getLsbD index) same
    simpa only [BitVec.getLsbD_xor, BitVec.getLsbD_ushiftRight] using mixed
  have agree : ∀ distance index, width - index ≤ distance → first.getLsbD index = second.getLsbD index := by
    intro distance
    induction distance with
    | zero =>
      intro index far
      rw [BitVec.getLsbD_of_ge first index (by omega), BitVec.getLsbD_of_ge second index (by omega)]
    | succ distance ih =>
      intro index near
      by_cases inside : index < width
      · have higher := ih (shift + index) (by omega)
        have here := bits index
        rw [higher] at here
        exact Bool.xor_left_inj.mp here
      · exact ih index (by omega)
  exact BitVec.eq_of_getLsbD_eq fun index _ => agree _ index le_rfl

theorem card_residue {total bound residue : Nat} (positive : 0 < bound) (small : residue < bound) :
    ((Finset.Ico (total % bound) total).filter fun number => number % bound = residue).card =
      total / bound := by
  have split : (total : ℚ) = (total % bound : Nat) + (total / bound : Nat) * bound := by
    exact_mod_cast (Nat.mod_add_div' total bound).symm
  have nonzero : (bound : ℚ) ≠ 0 := Nat.cast_ne_zero.mpr positive.ne'
  have quotient : ((total : ℚ) - residue) / bound =
      ((total % bound : Nat) - residue : ℚ) / bound + (total / bound : Nat) := by
    rw [split]
    field_simp
    ring
  have counted := Nat.Ico_filter_modEq_card (total % bound) total positive residue
  have residues : ((Finset.Ico (total % bound) total).filter fun number => number % bound = residue) =
      (Finset.Ico (total % bound) total).filter fun number => number ≡ residue [MOD bound] := by
    refine Finset.filter_congr fun number _ => ?_
    rw [Nat.ModEq, Nat.mod_eq_of_lt small]
  rw [← residues, quotient, Int.ceil_add_natCast, add_sub_cancel_left,
    max_eq_left (Int.natCast_nonneg _)] at counted
  exact_mod_cast counted

end WordMixing
