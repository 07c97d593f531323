import FrameViewer.Graphics.Framebuffer

/-! The stepped machine whose framebuffer is shown. The viewer only drives it. -/

namespace FrameViewer

/-- A program image, opaque to everything but the engine. -/
structure Rom where
  name : String
  bytes : Bytes
  deriving DecidableEq

/-- What one step reported: the picture changed, a sound is due. -/
structure Tick where
  redraw : Bool := false
  beep : Bool := false
  deriving DecidableEq, Repr

/-- Everything that can be asked of an engine, with its answer. -/
inductive EngineCall where
  | create (dims : Dims)
  | load (rom : Bytes)
  | next (more : Bool)
  | tick (report : Tick)
  | setKey (code : Nat)
  | unsetKey (code : Nat)
  deriving DecidableEq

class Engine (ε : Type) where
  load : Bytes → ε → ε
  /-- Advances by one instruction; `false` means that there is nothing to run. -/
  next : ε → Bool × ε
  /-- The bookkeeping after an instruction. There is no result when the engine breaks down. -/
  tick : ε → Option (Tick × ε)
  setKey : Nat → ε → ε
  unsetKey : Nat → ε → ε
  screen : ε → Framebuffer
  /-- The number under which reports speak of this engine, if they do. -/
  serial : ε → Option Nat

/-- The line that a report has for a call of engine `serial`. Steps have none. -/
def EngineCall.line? (serial : Nat) : EngineCall → Option String
  | create dims => some ("engine " ++ toString serial ++ " new " ++ dims.text)
  | load rom => some ("engine " ++ toString serial ++ " load " ++ rom.hex)
  | setKey code => some ("engine " ++ toString serial ++ " set_key " ++ toString code)
  | unsetKey code => some ("engine " ++ toString serial ++ " unset_key " ++ toString code)
  | next _ | tick _ => none

end FrameViewer
