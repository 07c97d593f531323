import FrameViewer.Arithmetic.Binary
import FrameViewer.Text.Bytes

/-! The beep: a square wave cut into blocks of samples. A sample is silent, high or low; the two
audible levels are the volume and its negative. -/

namespace FrameViewer.Audio

inductive Sample where
  | silent
  | high
  | low
  deriving DecidableEq, Repr

def Sample.word : Sample → Nat
  | silent => Format.single.toBits (Format.single.ofNat 0)
  | high => Format.single.toBits (Format.single.ofRatio 15 100)
  | low => Format.single.toBits (Format.single.ofRatio 15 100).neg

abbrev Block := Array Sample

def blockLength : Nat := 64

def silence : Block := Array.replicate blockLength .silent

/-- Maximal stretches of equal samples over a row of blocks. -/
def sampleRuns (blocks : List Block) : List (Sample × Nat) :=
  (blocks.foldl (fun runs block => block.foldl extendRuns runs) []).reverse

def beepHz : Nat := 440

def beepMs : Nat := 120

def halfPeriod (rate : Nat) : Binary :=
  let f := Format.single
  ((f.ofNat rate).div f (f.ofNat beepHz)).div f (f.ofNat 2)

/-- Sample `n` of an endless beep: high in every even half period. -/
def waveAt (half : Binary) (n : Nat) : Sample :=
  let f := Format.single
  if ((f.ofNat n).div f half).truncate UInt64.size % 2 = 0 then .high else .low

/-- How many samples a beep has at that rate; there is no answer when the product of rate and
length does not fit 32 bits. -/
def beepSamples? (rate : Nat) : Option Nat :=
  if rate * beepMs < UInt32.size then some (rate * beepMs / 1000) else none

/-- The block that starts at sample `start` of a beep of `total` samples. -/
def beepBlock (half : Binary) (total start : Nat) : Block :=
  ((List.range' start blockLength).map fun n =>
    if n < total then waveAt half n else .silent).toArray

/-- The blocks of one beep, the last one filled up with silence. -/
def squareWave? (rate : Nat) : Option (List Block) :=
  (beepSamples? rate).map fun total =>
    (List.range ((total + blockLength - 1) / blockLength)).map fun i =>
      beepBlock (halfPeriod rate) total (i * blockLength)

end FrameViewer.Audio
