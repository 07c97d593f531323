import FrameViewer.Arithmetic.Alignment
import FrameViewer.Platform
import FrameViewer.Proofs.ActionOutcomes
import FrameViewer.Proofs.WaveSamples

/-! A beep made step by step: one block after another, in each block one sample after another, and
every product and sum checked as it is made. Only the first product can leave its word, and then there
is no block yet. Otherwise the blocks are those of the wave. -/

namespace FrameViewer.Audio
open Act

def fitting? (limit n : Nat) : Option Nat :=
  if n < limit then some n else none

/-- Writes one sample of the block that begins at `start`, unless the beep is over by then. -/
def writeSample (half : Binary) (total start : Nat) (block : Block) (place : Nat) :
    Act (List Block) Block := do
  let n ← Act.checked (fitting? wordLimit (start + place))
  return if n < total then block.setIfInBounds place (waveAt half n) else block

def makeBlock (half : Binary) (total start : Nat) : Act (List Block) Block :=
  (List.range blockLength).foldlM (writeSample half total start) silence

def makeFrom (half : Binary) (total start : Nat) : Act (List Block) Unit := do
  if start < total then
    let block ← makeBlock half total start
    Act.update (· ++ [block])
    makeFrom half total (start + blockLength)
termination_by total - start
decreasing_by
  have : 0 < blockLength := by decide
  omega

def makeBeep (rate : Nat) : Act (List Block) Unit := do
  let product ← Act.checked (fitting? UInt32.size (rate * beepMs))
  makeFrom (halfPeriod rate) (product / 1000) 0

/-- So many samples of the block that begins at `start` are written, the others still silent. -/
structure Written (half : Binary) (total start count : Nat) (block : Block) : Prop where
  full : block.size = blockLength
  sample : ∀ place < blockLength, block[place]? =
    some (if place < count then beepSample half total (start + place) else .silent)

section Blocks

variable {half : Binary} {total start count : Nat} {block : Block} {scene : Scene (List Block)}

private theorem written_silence : Written half total start 0 silence where
  full := Array.size_replicate
  sample place inside := by simp [silence, inside]

private theorem Written.write (written : Written half total start count block) :
    Written half total start (count + 1)
      (if start + count < total then block.setIfInBounds count (waveAt half (start + count))
        else block) where
  full := by split <;> simp [written.full]
  sample place inside := by
    have before := written.sample place inside
    by_cases here : place = count
    · subst here
      rw [if_pos (Nat.lt_succ_self place), beepSample]
      split
      next early => simp [written.full, inside]
      next late => rw [before, if_neg (Nat.lt_irrefl place)]
    · have kept : place < count + 1 ↔ place < count := by omega
      simp only [kept, ← before]
      split
      next early => exact Array.getElem?_setIfInBounds_ne (Ne.symm here)
      next late => rfl

private theorem Written.eq_beepBlock (written : Written half total start blockLength block) :
    block = beepBlock half total start := by
  apply Array.ext_getElem?
  intro place
  by_cases inside : place < blockLength
  · rw [written.sample place inside, if_pos inside]
    simp [beepBlock, beepSample, inside]
  · rw [Array.getElem?_eq_none (by rw [written.full]; omega)]
    simp [beepBlock, inside]

private theorem writeSample_leads (fits : start + count < wordLimit)
    (written : Written half total start count block) :
    (writeSample half total start block count).Leads scene
      (fun block after => Written half total start (count + 1) block ∧ after = scene)
      fun _ _ => False := by
  rw [writeSample, leads_bind, leads_checked, fitting?, if_pos fits]
  exact ⟨written.write, rfl⟩

private theorem writeSamples_leads (fits : start + count ≤ wordLimit) :
    ((List.range count).foldlM (writeSample half total start) silence).Leads scene
      (fun block after => Written half total start count block ∧ after = scene)
      fun _ _ => False := by
  induction count with
  | zero => exact ⟨written_silence, rfl⟩
  | succ count ih =>
    rw [List.range_succ, List.foldlM_append]
    refine (ih (by omega)).bind fun block after both => ?_
    obtain ⟨written, rfl⟩ := both
    simp only [List.foldlM_cons, List.foldlM_nil, bind_pure]
    exact writeSample_leads (by omega) written

private theorem makeBlock_eq (fits : start + blockLength ≤ wordLimit) :
    makeBlock half total start scene = .ok (beepBlock half total start) scene := by
  refine ((writeSamples_leads fits).mono ?_ fun _ _ impossible => impossible).eq_ok
  intro block after both
  exact ⟨both.1.eq_beepBlock, both.2⟩

/-- The loop ends after as many blocks as hold the beep. The induction is on how many are left. -/
private theorem makeFrom_eq (fits : total + blockLength ≤ wordLimit) (made : List Block)
    (platform : Platform) (first left : Nat) (count : first + left = total ⌈/⌉ blockLength) :
    makeFrom half total (first * blockLength) ⟨made, platform⟩ =
      .ok () ⟨made ++ (List.range' first left).map fun i => beepBlock half total (i * blockLength),
        platform⟩ := by
  have begins (block : Nat) : block < total ⌈/⌉ blockLength ↔ block * blockLength < total :=
    lt_ceilDiv_iff (by decide) block
  induction left generalizing first made with
  | zero =>
    have ended : ¬first * blockLength < total := by
      rw [← begins]
      omega
    rw [makeFrom, if_neg ended, List.range'_zero, List.map_nil, List.append_nil]
    rfl
  | succ left ih =>
    have early : first * blockLength < total := by
      rw [← begins]
      omega
    rw [makeFrom, if_pos early, bind_of_ok (makeBlock_eq (by omega)), ← Nat.succ_mul]
    refine (bind_of_ok rfl).trans ?_
    rw [ih _ (first + 1) (by omega), List.range'_succ, List.map_cons, List.append_assoc]
    rfl

end Blocks

section Beeps

variable {rate : Nat} (made : List Block) (platform : Platform)

private theorem makeBeep_eq_ok (fits : rate * beepMs < UInt32.size) {blocks : List Block}
    (wave : squareWave? rate = some blocks) :
    makeBeep rate ⟨made, platform⟩ = .ok () ⟨made ++ blocks, platform⟩ := by
  have room : rate * beepMs / 1000 + blockLength ≤ wordLimit := by
    have productLimit : UInt32.size = 2 ^ 32 := rfl
    have sumLimit : wordLimit = 2 ^ 64 := rfl
    rw [blockLength]
    omega
  rw [squareWave?, beepSamples?, if_pos fits, Option.map_some, List.range_eq_range'] at wave
  obtain rfl := Option.some.inj wave
  have making := @makeFrom_eq (halfPeriod rate) _ room made platform 0 _ (Nat.zero_add _)
  rw [Nat.zero_mul] at making
  rw [makeBeep, fitting?, if_pos fits]
  exact (bind_of_ok rfl).trans making

private theorem makeBeep_eq_error (beyond : UInt32.size ≤ rate * beepMs) :
    makeBeep rate ⟨made, platform⟩ = .error .crashed ⟨made, platform⟩ := by
  rw [makeBeep, fitting?, if_neg (Nat.not_lt.mpr beyond)]
  exact bind_of_error rfl

end Beeps

/-- A beep has that shape at every rate whose product with its length stays in its word. At any other
there is none, and the making of it fails before the first block. -/
theorem squareWave?_shaped (rate : Nat) :
    if rate * beepMs < UInt32.size then
      ∃ blocks, squareWave? rate = some blocks ∧ Shaped rate (rate * beepMs / 1000) blocks ∧
        ∀ made platform, makeBeep rate ⟨made, platform⟩ = .ok () ⟨made ++ blocks, platform⟩
    else
      squareWave? rate = none ∧
        ∀ made platform, makeBeep rate ⟨made, platform⟩ = .error .crashed ⟨made, platform⟩ := by
  split
  next fits =>
    have wave := squareWave?_eq_some fits
    exact ⟨_, wave, shaped_cut fits, fun made platform => makeBeep_eq_ok made platform fits wave⟩
  next overflows =>
    have beyond := Nat.not_lt.mp overflows
    exact ⟨squareWave?_eq_none.mpr beyond, fun made platform => makeBeep_eq_error made platform beyond⟩

/-- The highest rate of which a beep is made, and the next one. -/
example : (beepSamples? 35791394, beepSamples? 35791395) = (some 4294967, none) := by
  decide

end FrameViewer.Audio
