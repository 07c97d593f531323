/-! How a display callback paces the engine. -/

namespace FrameViewer

/-- Ticks of an unpaced loop after which a frame is shown anyway. -/
def tickCap : Nat := 100000

structure LoopConfig where
  /-- The pause after each step, in microseconds. -/
  throttle : Nat := 50
  /-- Ticks after which a frame is shown even if the engine asks for none. -/
  maxTicks : Option Nat := none
  deriving DecidableEq, Repr

/-- A loop that pauses needs no cap; one that never pauses gets one. -/
def LoopConfig.ofThrottle (micros : Nat) : LoopConfig :=
  { throttle := micros, maxTicks := if micros = 0 then some tickCap else none }

end FrameViewer
