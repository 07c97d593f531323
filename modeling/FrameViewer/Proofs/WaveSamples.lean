import Mathlib.Algebra.Order.Floor.Div
import FrameViewer.Audio.Tone
import FrameViewer.Proofs.ExactRounding

/-! The samples of a beep as one row. Cut into blocks of any length they are the wave for as long as
the beep lasts, and silence from there to the end of the last block. The wave turns over in every half
period, and of those a beep has so few that their count stays in its word. -/

namespace FrameViewer.Audio
open Format Binary

def volume : Binary :=
  single.ofRatio 15 100

def beepSample (half : Binary) (total n : Nat) : Sample :=
  if n < total then waveAt half n else .silent

def samples (blocks : List Block) : List Sample :=
  blocks.flatMap Array.toList

/-- A beep of so many samples in rows of that length, the last one filled up with silence. -/
def cut (length : Nat) (half : Binary) (total : Nat) : List (List Sample) :=
  (List.range (total ⌈/⌉ length)).map fun i =>
    (List.range' (i * length) length).map (beepSample half total)

/-- Sample `n` is high in an even half period and low in an odd one. How many come before it is told by
a quotient that is finite and small. -/
def Turns (half : Binary) (n : Nat) : Prop :=
  ∃ halves : ℚ, ((single.ofNat n).div single half).value? = some halves ∧ 0 ≤ halves ∧
    halves ≤ 2 ^ 8 ∧ waveAt half n = if Even ⌊halves⌋₊ then .high else .low

/-- A beep at that rate, of so many audible samples. -/
structure Shaped (rate total : Nat) (blocks : List Block) : Prop where
  count : blocks.length = total ⌈/⌉ blockLength
  full : ∀ block ∈ blocks, block.size = blockLength
  audible : ∀ n < total, ∃ sample, (samples blocks)[n]? = some sample ∧
    (sample.word = single.toBits volume ∨ sample.word = single.toBits volume.neg)
  silent : ∀ n sample, total ≤ n → (samples blocks)[n]? = some sample →
    sample.word = single.toBits (single.ofNat 0)
  wave : (samples blocks).take total = (List.range total).map (waveAt (halfPeriod rate))
  /-- Wherever else the blocks ended, it would sound the same. -/
  uncut : ∀ length > 0, (cut length (halfPeriod rate) total).flatten.take total =
    (samples blocks).take total
  turns : ∀ n < total, Turns (halfPeriod rate) n

section Rows

variable {length total : Nat} {half : Binary}

theorem lt_ceilDiv_iff (positive : 0 < length) (i : Nat) :
    i < total ⌈/⌉ length ↔ i * length < total := by
  rw [Nat.mul_comm]
  exact lt_iff_lt_of_le_iff_le (ceilDiv_le_iff_le_mul positive)

private theorem le_ceilDiv_mul (positive : 0 < length) : total ≤ total ⌈/⌉ length * length := by
  rw [Nat.mul_comm]
  exact le_smul_ceilDiv positive

/-- Stretches of one length, each from where the one before it ends, are one stretch. -/
private theorem flatten_stretches (length count : Nat) :
    ((List.range count).map fun i => List.range' (i * length) length).flatten =
      List.range (count * length) := by
  induction count with
  | zero => simp
  | succ count ih =>
    rw [List.range_succ, List.map_append, List.flatten_append, ih, Nat.succ_mul,
      List.range_eq_range', List.range_eq_range', ← List.range'_append_1, Nat.zero_add]
    simp

private theorem flatten_cut (length : Nat) (half : Binary) (total : Nat) :
    (cut length half total).flatten =
      (List.range (total ⌈/⌉ length * length)).map (beepSample half total) := by
  rw [← flatten_stretches, List.map_flatten, List.map_map]
  rfl

private theorem take_flatten_cut (positive : 0 < length) :
    (cut length half total).flatten.take total = (List.range total).map (waveAt half) := by
  rw [flatten_cut, ← List.map_take, List.take_range, Nat.min_eq_left (le_ceilDiv_mul positive)]
  exact List.map_congr_left fun n inside => if_pos (List.mem_range.mp inside)

private theorem getElem?_cut_of_lt (positive : 0 < length) {n : Nat} (early : n < total) :
    (cut length half total).flatten[n]? = some (waveAt half n) := by
  have inside := List.getElem?_range (early.trans_le (le_ceilDiv_mul positive))
  rw [flatten_cut, List.getElem?_map, inside, Option.map_some, beepSample, if_pos early]

private theorem eq_silent_of_getElem?_cut {n : Nat} {sample : Sample} (late : total ≤ n)
    (found : (cut length half total).flatten[n]? = some sample) : sample = .silent := by
  rw [flatten_cut, List.getElem?_map] at found
  obtain ⟨_, place, rfl⟩ := Option.map_eq_some_iff.mp found
  obtain ⟨_, rfl⟩ := List.getElem?_eq_some_iff.mp place
  rw [List.getElem_range, beepSample, if_neg (Nat.not_lt.mpr late)]

end Rows

section HalfPeriods

variable {rate n : Nat}

/-- It is rounded three times, never past a power of two. -/
private theorem halfPeriod_within (positive : 0 < rate) (fits : rate < UInt32.size) :
    (halfPeriod rate).Within (rate.log2 - 9 - 1) (rate.log2 + 1 - 8 - 1) := by
  have few : rate.log2 < 32 := (Nat.log2_lt positive.ne').mpr fits
  have least : single.minExponent = -149 := rfl
  have most : single.maxExponent = 104 := rfl
  have sampled : (single.ofNat rate).Within rate.log2 (rate.log2 + 1) :=
    ofNat_within single_digits_pos positive (by omega) (by omega)
  have pitch : (single.ofNat beepHz).Within 8 9 :=
    ⟨beepHz, value?_ofNat (by decide), by norm_num [beepHz], by norm_num [beepHz]⟩
  have two : (single.ofNat 2).Within 1 1 :=
    ⟨2, value?_ofNat (by decide), by norm_num, by norm_num⟩
  have period := sampled.div single_digits_pos pitch (by omega) (by omega) (by omega)
  exact period.div single_digits_pos two (by omega) (by omega) (by omega)

/-- In an eighth of a second there are fewer half periods than a word counts. -/
private theorem turns_of_lt (fits : rate < UInt32.size) (few : n ≤ 2 ^ 23) (early : 8 * n < rate) :
    Turns (halfPeriod rate) n := by
  have positive : 0 < rate := by omega
  obtain ⟨half, half_value, low, -⟩ := halfPeriod_within positive fits
  have half_pos : 0 < half := lt_of_lt_of_le (by positivity) low
  have below : (n : ℚ) / half ≤ 2 ^ (8 : ℤ) := by
    rw [div_le_iff₀ half_pos]
    have : (8 : ℚ) * n < rate := by exact_mod_cast early
    calc (n : ℚ) ≤ 2 ^ (rate.log2 + 1 : ℤ) / 8 := by linarith [(log2_bounds positive).2]
      _ = 2 ^ (8 : ℤ) * 2 ^ (rate.log2 - 9 - 1 : ℤ) := by
        rw [← zpow_add₀ two_ne_zero, show (8 : ℚ) = 2 ^ (3 : ℤ) by norm_num, ← zpow_sub₀ two_ne_zero]
        congr 1
        ring
      _ ≤ 2 ^ (8 : ℤ) * half := by gcongr
  obtain ⟨halves, value, nonneg, most⟩ :=
    div_rounds single_digits_pos (value?_ofNat few) half_value half_pos.ne' 0 _
      (by simpa using single_holds_int 0 (by decide))
      (holds_two_pow single_digits_pos (by decide) (by decide)) (by positivity) below
  refine ⟨halves, value, nonneg, most, ?_⟩
  have room : halves < UInt64.size := most.trans_lt (by norm_num [UInt64.size])
  simp only [waveAt, truncate_eq_floor value nonneg room, Nat.even_iff]

end HalfPeriods

section Wave

variable {rate : Nat}

theorem waveAt_ne_silent (half : Binary) (n : Nat) : waveAt half n ≠ .silent := by
  simp only [waveAt]
  split <;> simp

private theorem waveAt_word (half : Binary) (n : Nat) :
    (waveAt half n).word = single.toBits volume ∨
      (waveAt half n).word = single.toBits volume.neg := by
  simp only [waveAt]
  split
  · exact .inl rfl
  · exact .inr rfl

example : (single.toBits volume, single.toBits volume.neg) = (0x3E19999A, 0xBE19999A) := by
  decide

private theorem samples_map_toArray (rows : List (List Sample)) :
    samples (rows.map List.toArray) = rows.flatten := by
  simp [samples, List.flatMap_map]

/-- Only a rate whose product with the length of a beep leaves its word has no wave. -/
theorem squareWave?_eq_none : squareWave? rate = none ↔ UInt32.size ≤ rate * beepMs := by
  rw [squareWave?, Option.map_eq_none_iff, beepSamples?]
  split <;> simp <;> omega

theorem squareWave?_eq_some (fits : rate * beepMs < UInt32.size) :
    squareWave? rate =
      some ((cut blockLength (halfPeriod rate) (rate * beepMs / 1000)).map List.toArray) := by
  rw [squareWave?, beepSamples?, if_pos fits, Option.map_some, cut, List.map_map]
  rfl

theorem shaped_cut (fits : rate * beepMs < UInt32.size) :
    Shaped rate (rate * beepMs / 1000)
      ((cut blockLength (halfPeriod rate) (rate * beepMs / 1000)).map List.toArray) where
  count := by simp [cut]
  full block member := by
    obtain ⟨row, among, rfl⟩ := List.mem_map.mp member
    obtain ⟨i, -, rfl⟩ := List.mem_map.mp among
    simp
  audible n early := by
    rw [samples_map_toArray]
    exact ⟨_, getElem?_cut_of_lt (by decide) early, waveAt_word _ n⟩
  silent n sample late found := by
    rw [samples_map_toArray] at found
    rw [eq_silent_of_getElem?_cut late found]
    rfl
  wave := by
    rw [samples_map_toArray]
    exact take_flatten_cut (by decide)
  uncut length positive := by
    rw [samples_map_toArray, take_flatten_cut positive, take_flatten_cut (by decide)]
  turns n early := by
    have limit : UInt32.size = 2 ^ 32 := rfl
    rw [beepMs] at early fits
    exact turns_of_lt (by omega) (by omega) (by omega)

end Wave
end FrameViewer.Audio
