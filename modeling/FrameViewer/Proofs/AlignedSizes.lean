import Mathlib.Algebra.GroupWithZero.Nat
import FrameViewer.Arithmetic.Alignment

/-! Rounding up to a power of two. The mask clears the remainder and nothing else, so what is left is
a multiple of the alignment, and the addition before it keeps it from being less than the size. -/

namespace FrameViewer

/-- Of the multiples of the alignment, `rounded` is the first that is not below the size. -/
structure RoundsUp (align size rounded : Nat) : Prop where
  multiple : align ∣ rounded
  enough : size ≤ rounded
  near : rounded < size + align

/-- In a word, the complement of a power of two less one clears the remainder. -/
private theorem and_mask {word k : Nat} (fits : word < wordLimit) (inWord : k ≤ 64) :
    word &&& (wordLimit - 2 ^ k) = word / 2 ^ k * 2 ^ k := by
  have mask : wordLimit - 2 ^ k = (2 ^ (64 - k) - 1) * 2 ^ k := by
    rw [Nat.sub_mul, ← Nat.pow_add, Nat.sub_add_cancel inWord, Nat.one_mul]
    rfl
  rw [mask]
  apply Nat.eq_of_testBit_eq
  intro bit
  rw [Nat.testBit_and, Nat.testBit_mul_two_pow, Nat.testBit_mul_two_pow, Nat.testBit_two_pow_sub_one,
    Nat.testBit_div_two_pow]
  by_cases low : bit < k
  · simp [Nat.not_le.mpr low]
  have moved : bit - k + k = bit := Nat.sub_add_cancel (Nat.not_lt.mp low)
  by_cases high : bit < 64
  · simp [Nat.not_lt.mp low, show bit - k < 64 - k by omega, moved]
  · have clear : word.testBit bit = false :=
      Nat.testBit_lt_two_pow (Nat.lt_of_lt_of_le fits (Nat.pow_le_pow_right Nat.two_pos (Nat.not_lt.mp high)))
    simp [clear, moved]

private theorem alignUp?_two_pow {size k : Nat} (fits : size + 2 ^ k < wordLimit) :
    alignUp? size (2 ^ k) = some ((size + 2 ^ k - 1) / 2 ^ k * 2 ^ k) := by
  have inWord : k < 64 :=
    (Nat.pow_lt_pow_iff_right (by decide)).mp (Nat.lt_of_le_of_lt (Nat.le_add_left ..) fits)
  rw [alignUp?, if_neg (by simp [fits]),
    and_mask (Nat.lt_of_le_of_lt (Nat.sub_le ..) fits) (Nat.le_of_lt inWord)]

/-- Where the sum of both fits a word, there is a rounded size. -/
theorem exists_alignUp? {size k : Nat} (fits : size + 2 ^ k < wordLimit) :
    ∃ rounded, alignUp? size (2 ^ k) = some rounded ∧ RoundsUp (2 ^ k) size rounded := by
  refine ⟨_, alignUp?_two_pow fits, Nat.dvd_mul_left .., ?_, ?_⟩
  · have whole := Nat.div_add_mod (size + 2 ^ k - 1) (2 ^ k)
    have rest := Nat.mod_lt (size + 2 ^ k - 1) (Nat.two_pow_pos k)
    rw [Nat.mul_comm] at whole
    omega
  · have below := Nat.div_mul_le_self (size + 2 ^ k - 1) (2 ^ k)
    have positive := Nat.two_pow_pos k
    omega

end FrameViewer
