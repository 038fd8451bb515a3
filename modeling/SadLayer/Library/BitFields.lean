import Mathlib.Data.Nat.Bitwise

/-! Fields of a machine word, by position and width. -/
namespace SadLayer.Library

/-- The `width` bits of a word from bit `low` on. -/
def field (word low width : Nat) : Nat :=
  word / 2 ^ low % 2 ^ width

/-- Masking keeps a field in its place. -/
theorem and_field_mask (word low width : Nat) :
    word &&& ((2 ^ width - 1) <<< low) = field word low width <<< low := by
  apply Nat.eq_of_testBit_eq
  intro bit
  simp only [field, Nat.testBit_and, Nat.testBit_shiftLeft, Nat.testBit_two_pow_sub_one,
    Nat.testBit_mod_two_pow, Nat.testBit_div_two_pow]
  by_cases above : low ≤ bit
  · simp [above, Bool.and_comm]
  · simp [above]

/-- A field fits below one that starts at its width. -/
theorem or_field (high low width : Nat) (narrow : low < 2 ^ width) :
    high <<< width ||| low = high * 2 ^ width + low := by
  rw [Nat.shiftLeft_eq, Nat.mul_comm, Nat.two_pow_add_eq_or_of_lt narrow]

/-- Bits below those of an aligned word are added to it. -/
theorem or_aligned {base low width : Nat} (aligned : base % 2 ^ width = 0)
    (narrow : low < 2 ^ width) : base ||| low = base + low := by
  have whole : base / 2 ^ width * 2 ^ width = base :=
    Nat.div_mul_cancel (Nat.dvd_of_mod_eq_zero aligned)
  rw [← whole, ← Nat.shiftLeft_eq, or_field _ _ _ narrow, Nat.shiftLeft_eq]

/-- Clearing the low bits of a word rounds it down. -/
theorem and_not_low {word low width : Nat} (le : low ≤ width) (narrow : word < 2 ^ width) :
    word &&& ((2 ^ width - 1) ^^^ (2 ^ low - 1)) = word / 2 ^ low * 2 ^ low := by
  rw [← Nat.shiftLeft_eq]
  apply Nat.eq_of_testBit_eq
  intro bit
  simp only [Nat.testBit_and, Nat.testBit_xor, Nat.testBit_shiftLeft, Nat.testBit_two_pow_sub_one,
    Nat.testBit_div_two_pow]
  by_cases above : low ≤ bit
  · by_cases inside : bit < width
    · simp [above, inside]
    · have zero : word.testBit bit = false :=
        Nat.testBit_lt_two_pow (narrow.trans_le (Nat.pow_le_pow_right (by decide) (by omega)))
      simp [above, zero]
  · have inside : bit < width := by omega
    have below : bit < low := by omega
    simp [above, inside, below]

end SadLayer.Library
