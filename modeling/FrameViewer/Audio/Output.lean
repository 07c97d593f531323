import FrameViewer.Platform

/-! Playing beeps. Blocks wait in a bounded queue; the graph takes one at a time and plays
silence when there is none. -/

namespace FrameViewer.Audio

variable {σ : Type}

def queueLength : Nat := 1024

/-- How many blocks the graph keeps ahead of real time. -/
def lead : Nat := 4

def setOutput (output : Output) : Act σ Unit :=
  Act.updatePlatform fun p => { p with cue := .speaker output }

/-- Opens the output device, once. Without one, beeps stay silent. -/
def start : Act σ Unit := do
  let p ← Act.platform
  match p.cue with
  | .bell => pure ()
  | .speaker output =>
    match output.stream, output.device with
    | some _, _ => pure ()
    | none, some rate =>
      let stream := { rate, queue := [], startedAt := millis p.clock, processed := 0 }
      setOutput { output with stream := some stream }
      Act.notify (.audioRunning rate)
    | none, none => Act.notify .audioMissing

/-- Queues the blocks of a beep as far as there is room. -/
def enqueue (output : Output) (stream : Stream) (blocks : List Block) : Act σ Unit := do
  let room := queueLength - stream.queue.length
  setOutput { output with stream := some { stream with queue := stream.queue ++ blocks.take room } }
  if room < blocks.length then Act.notify .beepCut

/-- The cue of a beep: rung, or queued when an output is open. -/
def beep : Act σ Unit := do
  Act.emit .cued
  match (← Act.platform).cue with
  | .bell => Act.emit .beep
  | .speaker output =>
    match output.stream with
    | none => pure ()
    | some stream => enqueue output stream (← Act.checked (squareWave? stream.rate))

/-- Takes `count` blocks from the queue, silence once it is empty, and plays them. -/
def play : Nat → List Block → Act σ (List Block)
  | 0, queue => return queue
  | count + 1, queue => do
    Act.emit (.soundPlayed (queue.headD silence))
    play count queue.tail

/-- How many blocks should have been played by then; there is no answer when the sum leaves the
word. -/
def dueBlocks? (stream : Stream) (now : Binary) : Option Nat :=
  let f := Format.double
  let elapsed := (now.sub f stream.startedAt).div f (f.ofNat 1000)
  let blocks := (elapsed.mul f (f.ofNat stream.rate)).div f (f.ofNat blockLength)
  let due := blocks.truncate UInt64.size + lead
  if due < UInt64.size then some due else none

def process : Act σ Unit := do
  let p ← Act.platform
  match p.cue with
  | .bell => pure ()
  | .speaker output =>
    match output.stream with
    | none => pure ()
    | some stream =>
      let due ← Act.checked (dueBlocks? stream (millis p.clock))
      let queue ← play (due - stream.processed) stream.queue
      setOutput { output with
        stream := some { stream with queue, processed := max stream.processed due } }

def isRunning (platform : Platform) : Bool :=
  match platform.cue with
  | .bell => false
  | .speaker output => output.stream.isSome

end FrameViewer.Audio
