import Mathlib.Order.Bounds.Basic
import FrameViewer.Proofs.AlignedSizes

/-! Rounding up on 64-bit words, each sum and difference checked as it is made. No step leaves the
word where the sum of size and alignment fits it, and then the least multiple of the alignment that
is not below the size comes out. Where the sum does not fit, nothing comes out. -/

namespace FrameViewer

def addWords? (a b : UInt64) : Option UInt64 :=
  if a.toNat + b.toNat < wordLimit then some (a + b) else none

def subtractWords? (a b : UInt64) : Option UInt64 :=
  if b ≤ a then some (a - b) else none

/-- The last size that still rounds to the same multiple, with the bits below the alignment cleared. -/
def alignUpWord? (size align : UInt64) : Option UInt64 := do
  let sum ← addWords? size align
  let last ← subtractWords? sum 1
  let low ← subtractWords? align 1
  return last &&& ~~~low

section Words

variable {size align : UInt64}

private theorem addWords?_of_lt {a b : UInt64} (fits : a.toNat + b.toNat < wordLimit) :
    ∃ sum, addWords? a b = some sum ∧ sum.toNat = a.toNat + b.toNat := by
  refine ⟨a + b, if_pos fits, ?_⟩
  rw [UInt64.toNat_add]
  exact Nat.mod_eq_of_lt fits

private theorem subtractWords?_of_le {a b : UInt64} (enough : b ≤ a) :
    ∃ rest, subtractWords? a b = some rest ∧ rest.toNat = a.toNat - b.toNat :=
  ⟨a - b, if_pos enough, UInt64.toNat_sub_of_le a b enough⟩

private theorem alignUpWord?_eq_none (beyond : wordLimit ≤ size.toNat + align.toNat) :
    alignUpWord? size align = none := by
  rw [alignUpWord?, addWords?, if_neg (Nat.not_lt.mpr beyond)]
  rfl

private theorem alignUpWord?_zero : alignUpWord? size 0 = none := by
  have noLow : subtractWords? 0 1 = none := by decide
  cases sum : addWords? size 0 with
  | none => simp [alignUpWord?, sum]
  | some sum => simp [alignUpWord?, *]

/-- Where the sum fits the word, so does every other step. -/
theorem alignUpWord?_of_lt (fits : size.toNat + align.toNat < wordLimit) (positive : 0 < align.toNat) :
    ∃ rounded, alignUpWord? size align = some rounded ∧
      rounded.toNat = (size.toNat + align.toNat - 1) &&& (wordLimit - align.toNat) := by
  obtain ⟨sum, summed, sumValue⟩ := addWords?_of_lt fits
  have one : (1 : UInt64).toNat = 1 := rfl
  have enough : 1 ≤ sum := by
    rw [UInt64.le_iff_toNat_le, sumValue, one]
    omega
  have some_low : 1 ≤ align := by
    rw [UInt64.le_iff_toNat_le, one]
    exact positive
  obtain ⟨last, lastFound, lastValue⟩ := subtractWords?_of_le enough
  obtain ⟨low, lowFound, lowValue⟩ := subtractWords?_of_le some_low
  refine ⟨last &&& ~~~low, by simp [alignUpWord?, summed, lastFound, lowFound], ?_⟩
  have mask : (~~~low).toNat = wordLimit - align.toNat := by
    rw [UInt64.toNat_not, lowValue, one, wordLimit]
    omega
  rw [UInt64.toNat_and, mask, lastValue, sumValue, one]

/-- Words and numbers agree, also on whether there is a rounded size. -/
private theorem map_toNat_alignUpWord? (size align : UInt64) :
    (alignUpWord? size align).map UInt64.toNat = alignUp? size.toNat align.toNat := by
  rw [alignUp?]
  split
  next refused =>
    rw [Option.map_eq_none_iff]
    obtain zero | beyond := refused
    · rw [show align = 0 from UInt64.toNat_inj.mp zero]
      exact alignUpWord?_zero
    · exact alignUpWord?_eq_none beyond
  next taken =>
    obtain ⟨nonzero, fits⟩ := not_or.mp taken
    obtain ⟨rounded, found, value⟩ :=
      alignUpWord?_of_lt (Nat.not_le.mp fits) (Nat.pos_of_ne_zero nonzero)
    rw [found, Option.map_some, value]

end Words

namespace RoundsUp

variable {align size rounded : Nat}

private theorem isLeast (rounds : RoundsUp align size rounded) :
    IsLeast {multiple | align ∣ multiple ∧ size ≤ multiple} rounded := by
  refine ⟨⟨rounds.multiple, rounds.enough⟩, fun other ⟨multiple, enough⟩ => ?_⟩
  by_contra below
  -- Two multiples of the alignment are at least the alignment apart.
  have apart : align ≤ rounded - other :=
    Nat.le_of_dvd (Nat.sub_pos_of_lt (Nat.not_le.mp below)) (Nat.dvd_sub rounds.multiple multiple)
  have near := rounds.near
  omega

theorem mono {less lower : Nat} (rounds : RoundsUp align size rounded)
    (other : RoundsUp align less lower) (below : less ≤ size) : lower ≤ rounded :=
  other.isLeast.2 ⟨rounds.multiple, below.trans rounds.enough⟩

private theorem eq_of_dvd (rounds : RoundsUp align size rounded) (multiple : align ∣ size) : rounded = size :=
  Nat.le_antisymm (rounds.isLeast.2 ⟨multiple, Nat.le_refl _⟩) rounds.enough

end RoundsUp

/-- What rounding `size` up to `align` comes to: the least multiple that is enough, which rounds to
itself as long as the sum with the alignment fits the word, and which no smaller size exceeds. -/
structure LeastMultiple (align size rounded : UInt64) : Prop where
  found : alignUp? size.toNat align.toNat = some rounded.toNat
  checked : alignUpWord? size align = some rounded
  least : IsLeast {multiple | align.toNat ∣ multiple ∧ size.toNat ≤ multiple} rounded.toNat
  again : alignUp? rounded.toNat align.toNat =
    if rounded.toNat + align.toNat < wordLimit then some rounded.toNat else none
  mono : ∀ less ≤ size, ∃ lower ≤ rounded, alignUp? less.toNat align.toNat = some lower.toNat

private theorem alignUp?_eq_none_of_le {size align : Nat} (beyond : wordLimit ≤ size + align) :
    alignUp? size align = none :=
  if_pos (.inr beyond)

private theorem exists_alignUpWord? {size align : UInt64} (power : align.toNat.isPowerOfTwo)
    (fits : size.toNat + align.toNat < wordLimit) :
    ∃ rounded, alignUpWord? size align = some rounded ∧
      alignUp? size.toNat align.toNat = some rounded.toNat ∧
      RoundsUp align.toNat size.toNat rounded.toNat := by
  obtain ⟨k, power⟩ := power
  obtain ⟨rounded, checked, -⟩ := alignUpWord?_of_lt fits (power ▸ Nat.two_pow_pos k)
  have found : alignUp? size.toNat align.toNat = some rounded.toNat := by
    rw [← map_toNat_alignUpWord?, checked, Option.map_some]
  obtain ⟨value, same, rounds⟩ := exists_alignUp? (power ▸ fits)
  rw [← power, found] at same
  obtain rfl := Option.some.inj same
  exact ⟨rounded, checked, found, power ▸ rounds⟩

/-- On words, rounding up to a power of two finds the least multiple or, when the sum leaves the
word, nothing. -/
theorem alignUp?_finds_least_multiple {align : UInt64} (power : align.toNat.isPowerOfTwo)
    (size : UInt64) :
    if size.toNat + align.toNat < wordLimit then ∃ rounded, LeastMultiple align size rounded
    else alignUp? size.toNat align.toNat = none ∧ addWords? size align = none := by
  split
  next fits =>
    obtain ⟨rounded, checked, found, rounds⟩ := exists_alignUpWord? power fits
    refine ⟨rounded, found, checked, rounds.isLeast, ?_, fun less below => ?_⟩
    · split
      next room =>
        obtain ⟨second, -, twice, further⟩ := exists_alignUpWord? power room
        rw [twice, further.eq_of_dvd rounds.multiple]
      next full => exact alignUp?_eq_none_of_le (Nat.not_lt.mp full)
    · rw [UInt64.le_iff_toNat_le] at below
      obtain ⟨lower, -, lowerFound, lowerRounds⟩ :=
        exists_alignUpWord? power (Nat.lt_of_le_of_lt (Nat.add_le_add_right below _) fits)
      exact ⟨lower, UInt64.le_iff_toNat_le.mpr (rounds.mono lowerRounds below), lowerFound⟩
  next beyond => exact ⟨alignUp?_eq_none_of_le (Nat.not_lt.mp beyond), if_neg beyond⟩

/-- The largest size that fits with an alignment of four rounds to a word that does not. -/
theorem largest_size_finds_least_multiple :
    (4 : UInt64).toNat.isPowerOfTwo ∧ (18446744073709551611 : UInt64).toNat + 4 < wordLimit ∧
      alignUp? 18446744073709551611 4 = some 18446744073709551612 ∧
      ∃ rounded, LeastMultiple 4 18446744073709551611 rounded := by
  have power : (4 : UInt64).toNat.isPowerOfTwo := ⟨2, rfl⟩
  have fits : (18446744073709551611 : UInt64).toNat + (4 : UInt64).toNat < wordLimit := by decide
  have found := alignUp?_finds_least_multiple power 18446744073709551611
  rw [if_pos fits] at found
  exact ⟨power, fits, by decide, found⟩

end FrameViewer
