import Mathlib.Data.Nat.Bitwise

/-!
# Prefix masks

A mask of a word whose set bits are the upper ones. The words that agree on the set bits of such
a mask are those in one interval, so a test of bounds is a test of bits. For other masks it is
not.
-/

namespace Masks

open BitVec

variable {w : Nat}

/-- All bits from position `k` on. -/
def above (w k : Nat) : BitVec w := allOnes w <<< k

/-- The mask clears the remainder modulo `2 ^ k`. -/
theorem toNat_and_above (x : BitVec w) (k : Nat) :
    (x &&& above w k).toNat = x.toNat / 2 ^ k * 2 ^ k := by
  have cleared : x &&& above w k = (x >>> k) <<< k := by
    unfold above
    ext i bound
    by_cases low : i < k
    · simp [low]
    · have split : k + (i - k) = i := by omega
      simp [low, split, getLsbD_eq_getElem bound]
  rw [cleared, toNat_shiftLeft, toNat_ushiftRight, Nat.shiftLeft_eq, Nat.shiftRight_eq_div_pow]
  exact Nat.mod_eq_of_lt (Nat.lt_of_le_of_lt (Nat.div_mul_le_self _ _) x.isLt)

/-- The bits that the mask clears. -/
theorem toNat_not_above {k : Nat} (within : k ≤ w) : (~~~above w k).toNat = 2 ^ k - 1 := by
  have ones : ~~~above w k = BitVec.ofNat w (2 ^ k - 1) := by
    unfold above
    ext i bound
    rw [← getLsbD_eq_getElem bound, ← getLsbD_eq_getElem bound, getLsbD_ofNat,
      Nat.testBit_two_pow_sub_one]
    simp [bound]
  have small : 2 ^ k - 1 < 2 ^ w := by
    have le := Nat.pow_le_pow_right (n := 2) (by decide) within
    have positive := Nat.two_pow_pos k
    omega
  rw [ones, toNat_ofNat, Nat.mod_eq_of_lt small]

/-- The highest word that agrees with another one on the mask. -/
theorem toNat_and_above_or_not {k : Nat} (within : k ≤ w) (x : BitVec w) :
    (x &&& above w k ||| ~~~above w k).toNat = x.toNat / 2 ^ k * 2 ^ k + (2 ^ k - 1) := by
  have below : 2 ^ k - 1 < 2 ^ k := Nat.sub_lt (Nat.two_pow_pos k) Nat.one_pos
  rw [toNat_or, toNat_and_above, toNat_not_above within, ← Nat.shiftLeft_eq,
    Nat.shiftLeft_add_eq_or_of_lt below]

/-- The words between the lowest and the highest one that agree with a word on a prefix mask are
those that agree with it. -/
theorem between_iff {k : Nat} (within : k ≤ w) (x y : BitVec w) :
    y &&& above w k ≤ x ∧ x ≤ y &&& above w k ||| ~~~above w k ↔
      x &&& above w k = y &&& above w k := by
  rw [← toNat_inj, le_def, le_def, toNat_and_above_or_not within, toNat_and_above,
    toNat_and_above]
  have positive := Nat.two_pow_pos k
  have split := Nat.div_add_mod' x.toNat (2 ^ k)
  have remainder := Nat.mod_lt x.toNat positive
  constructor
  · rintro ⟨lower, upper⟩
    have same : x.toNat / 2 ^ k = y.toNat / 2 ^ k := by
      apply Nat.le_antisymm
      · apply Nat.le_of_lt_succ
        rw [Nat.div_lt_iff_lt_mul positive, Nat.succ_mul]
        omega
      · exact (Nat.le_div_iff_mul_le positive).mpr lower
    rw [same]
  · intro same
    omega

end Masks
