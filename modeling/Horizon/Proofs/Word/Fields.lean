/-
  Horizon.Proofs.Word.Fields
  ──────────────────────────
  **FIELDS OF WORDS AS NUMBERS.**

  Two fields side by side make a sum, the upper one shifted past the lower:

      2 ^ bits * high + low        low < 2 ^ bits

  Putting fields together with `|||` adds them up, and a mask acts on each of the fields
  on its own.  A word is split with `/` and `%`, so what masks and shifts do to it is
  arithmetic.
-/
import Mathlib.Algebra.Group.Nat.Defs

namespace Horizon

/-- Bits above a power of two do not overlap what lies below it. -/
theorem or_shiftLeft {low : Nat} (bits high : Nat) (below : low < 2 ^ bits) :
    low ||| high <<< bits = low + 2 ^ bits * high := by
  rw [Nat.or_comm, ← Nat.shiftLeft_add_eq_or_of_lt below, Nat.shiftLeft_eq, Nat.add_comm,
    Nat.mul_comm]

/-- A mask of two fields masks each of them. -/
theorem and_fields {bits low mask : Nat} (high upper : Nat) (hl : low < 2 ^ bits)
    (hm : mask < 2 ^ bits) :
    (2 ^ bits * high + low) &&& (2 ^ bits * upper + mask)
      = 2 ^ bits * (high &&& upper) + (low &&& mask) := by
  have hand : low &&& mask < 2 ^ bits := Nat.lt_of_le_of_lt Nat.and_le_left hl
  apply Nat.eq_of_testBit_eq
  intro i
  rw [Nat.testBit_and, Nat.testBit_two_pow_mul_add _ hl, Nat.testBit_two_pow_mul_add _ hm,
    Nat.testBit_two_pow_mul_add _ hand]
  by_cases hi : i < bits
  · rw [if_pos hi, if_pos hi, if_pos hi, Nat.testBit_and]
  · rw [if_neg hi, if_neg hi, if_neg hi, Nat.testBit_and]

/-- A mask of the low bits of a word leaves a remainder. -/
theorem toNat_and_mask (word : UInt32) {mask : UInt32} (bits : Nat)
    (low : mask.toNat = 2 ^ bits - 1) : (word &&& mask).toNat = word.toNat % 2 ^ bits := by
  rw [UInt32.toNat_and, low, Nat.and_two_pow_sub_one_eq_mod]

/-- A field of a word, shifted down to its low bits. -/
theorem toNat_field (word : UInt32) {shift mask : UInt32} (place bits : Nat)
    (start : shift.toNat % 32 = place) (low : mask.toNat = 2 ^ bits - 1) :
    ((word >>> shift) &&& mask).toNat = word.toNat / 2 ^ place % 2 ^ bits := by
  rw [toNat_and_mask _ bits low, UInt32.toNat_shiftRight, start, Nat.shiftRight_eq_div_pow]

/-- Two fields side by side compare by the upper one first. -/
theorem compare_fields {bits low low' : Nat} (high high' : Nat) (hl : low < 2 ^ bits)
    (hl' : low' < 2 ^ bits) :
    compare (2 ^ bits * high + low) (2 ^ bits * high' + low')
      = (compare high high').then (compare low low') := by
  rcases Nat.lt_trichotomy high high' with less | same | more
  · have step : 2 ^ bits * (high + 1) ≤ 2 ^ bits * high' := Nat.mul_le_mul_left _ less
    rw [Nat.mul_succ] at step
    rw [Nat.compare_eq_lt.mpr less, Nat.compare_eq_lt.mpr (by omega)]
    rfl
  · subst same
    rw [Nat.compare_eq_eq.mpr rfl, Ordering.eq_then]
    -- the upper fields are the same number, so the sums compare like the lower ones
    simp only [Nat.compare_eq_ite_lt, Nat.add_lt_add_iff_left]
  · have step : 2 ^ bits * (high' + 1) ≤ 2 ^ bits * high := Nat.mul_le_mul_left _ more
    rw [Nat.mul_succ] at step
    rw [Nat.compare_eq_gt.mpr more, Nat.compare_eq_gt.mpr (by omega)]
    rfl

/-- Words compare like their numbers. -/
theorem compare_toNat (a b : UInt32) : compare a b = compare a.toNat b.toNat := by
  simp only [compare, compareOfLessAndEq, UInt32.lt_iff_toNat_lt, UInt32.toNat_inj]

/-- Clearing the low byte of a word leaves the multiple of 256 below it. -/
theorem toNat_and_not_lowByte (word : UInt32) :
    (word &&& ~~~0xFF).toNat = word.toNat / 256 * 256 := by
  have hword := word.toNat_lt
  -- the mask covers the upper 24 bits, and a word has no others above its low byte
  have split : word.toNat = 2 ^ 8 * (word.toNat / 256) + word.toNat % 256 := by omega
  have mask : (~~~0xFF : UInt32).toNat = 2 ^ 8 * (2 ^ 24 - 1) + 0 := rfl
  rw [UInt32.toNat_and, mask, split, and_fields _ _ (by omega) (by decide),
    Nat.and_two_pow_sub_one_eq_mod, Nat.and_zero]
  omega

end Horizon
