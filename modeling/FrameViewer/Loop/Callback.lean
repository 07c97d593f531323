import FrameViewer.Loop.Basic

/-! One display callback. It takes the frame, steps the engine until a frame is due, shows it and
asks for the next callback. Between two steps it may be paused, and whoever holds it then decides
when it goes on; all that it remembers meanwhile is kept here. -/

namespace FrameViewer

/-- A callback that has taken the frame. -/
structure Callback where
  generation : Nat
  ticks : Nat := 0
  config : LoopConfig
  host : Host
  deriving DecidableEq

inductive Progress where
  /-- The next step may follow at once. -/
  | running (callback : Callback)
  /-- The next step waits for the throttle. -/
  | paused (callback : Callback)
  | finished (report : FrameReport)
  deriving DecidableEq

namespace Callback

variable {ε : Type} [Engine ε]

/-- Ticks are counted in a word of 32 bits. -/
def tickLimit : Nat := UInt32.size

/-- Takes the frame for a new callback, if it is free. -/
def begin (host : Host) (config : LoopConfig) (now : Binary) :
    Act (FrameLoop ε) (Option Callback) := do
  match ← FrameLoop.begin now with
  | none => return none
  | some generation => return some { generation, config, host }

/-- One more tick; the run breaks down when the count leaves its word. -/
def counted (callback : Callback) : Act (FrameLoop ε) Callback :=
  if callback.ticks + 1 < tickLimit then pure { callback with ticks := callback.ticks + 1 }
  else Act.crash

/-- Whether a frame is shown although the engine has not asked for one. -/
def isCapped (callback : Callback) : Bool :=
  callback.config.maxTicks.any (· ≤ callback.ticks)

def present (callback : Callback) : Act (FrameLoop ε) Progress := do
  let report ← FrameLoop.present callback.generation callback.ticks
  Act.emit (.frameRequested callback.host)
  return .finished report

def proceed (callback : Callback) : StepOutcome → Act (FrameLoop ε) Progress
  | .superseded => do
    Act.notify (.frameSuperseded callback.generation)
    Act.emit (.frameRequested callback.host)
    return .finished .superseded
  | .halted => callback.present
  | .redraw => do
    let callback ← callback.counted
    callback.present
  | .quiet => do
    let callback ← callback.counted
    if callback.isCapped then
      Act.notify (.noRedraw callback.ticks)
      callback.present
    else if callback.config.throttle = 0 then return .running callback
    else return .paused callback

def step (callback : Callback) : Act (FrameLoop ε) Progress := do
  callback.proceed (← FrameLoop.step callback.generation)

/-- Steps until the callback pauses or is finished, at most `fuel` times. -/
def runFor : Nat → Callback → Act (FrameLoop ε) Progress
  | 0, _ => Act.crash
  | fuel + 1, callback => do
    match ← callback.step with
    | .running callback => runFor fuel callback
    | progress => return progress

/-- Goes on to the next pause or to the end. Each step that goes on counts a tick, so the count
leaves its word before the steps run out. -/
def run (callback : Callback) : Act (FrameLoop ε) Progress :=
  runFor (tickLimit - callback.ticks) callback

end Callback
end FrameViewer
