import FrameViewer.Graphics.Renderer
import FrameViewer.Audio.Output
import FrameViewer.Loop.Config
import FrameViewer.Session

/-! The frame loop: a session, the renderer that shows it, and which callback owns the frame. -/

namespace FrameViewer

inductive Phase where
  /-- The engine advances; no frame is due. -/
  | stepping
  /-- A frame was submitted; the next callback is awaited. -/
  | presenting
  deriving DecidableEq, Repr

def Phase.name : Phase → String
  | stepping => "Stepping"
  | presenting => "Presenting"

structure LoopState where
  lastTimestamp : Option Binary := none
  running : Bool := true
  phase : Phase := .stepping
  /-- The session's generation when the loop began. -/
  generation : Nat
  inFlight : Bool := false
  /-- The frames shown since then, counted one at a time. That leaves a 64-bit word only after five
  hundred years of a billion frames a second, so the count is not bounded here. -/
  frames : Nat := 0
  deriving DecidableEq

structure FrameLoop (ε : Type) where
  session : Session ε
  renderer : Renderer
  state : LoopState

inductive StepOutcome where
  | quiet
  | redraw
  | halted
  | superseded
  deriving DecidableEq, Repr

namespace FrameLoop

variable {ε : Type} [Engine ε] {α : Type}

def ofSession (session : Session ε) (renderer : Renderer) : FrameLoop ε :=
  { session, renderer, state := { generation := session.generation } }

def onSession (action : Act (Session ε) α) : Act (FrameLoop ε) α := do
  let l ← Act.own
  Act.within l.session (fun session => { l with session }) action

def onRenderer (action : Act Renderer α) : Act (FrameLoop ε) α := do
  let l ← Act.own
  Act.within l.renderer (fun renderer => { l with renderer }) action

def updateState (f : LoopState → LoopState) : Act (FrameLoop ε) Unit :=
  Act.update fun l => { l with state := f l.state }

/-- Loads a program and starts the loop over. The resources are rebuilt when they are for other
dimensions or absent. -/
def loadRom (rom : Rom) : Act (FrameLoop ε) Unit := do
  onSession (Session.loadRom rom)
  let l ← Act.own
  let dims := l.session.dims
  if l.renderer.resources.map (·.dims) ≠ some dims then
    Act.notify (.dimsChanged dims)
    onRenderer (Renderer.rebuild dims)
  Act.update fun l => { l with state := { generation := l.session.generation } }

/-- Stops showing frames; later callbacks are skipped. -/
def stop : Act (FrameLoop ε) Unit :=
  updateState fun s => { s with running := false }

/-- Takes the frame for a callback, unless the loop is stopped or another callback has it. -/
def begin (now : Binary) : Act (FrameLoop ε) (Option Nat) := do
  let l ← Act.own
  if l.state.running && !l.state.inFlight then
    updateState fun s =>
      { s with inFlight := true, phase := .stepping, lastTimestamp := some now }
    return some l.state.generation
  else return none

/-- Asks the engine for one instruction, and tells whether it had one. -/
def next : Act (FrameLoop ε) Bool := do
  let l ← Act.own
  let (more, engine) := Engine.next l.session.engine
  Session.reportCall engine (.next more)
  Act.setOwn { l with session := { l.session with engine } }
  return more

def tick : Act (FrameLoop ε) Tick := do
  let l ← Act.own
  let (report, engine) ← Act.checked (Engine.tick l.session.engine)
  Session.reportCall engine (.tick report)
  Act.setOwn { l with session := { l.session with engine } }
  return report

/-- One step of the engine for a callback of that generation. -/
def step (generation : Nat) : Act (FrameLoop ε) StepOutcome := do
  if (← Act.own).state.generation ≠ generation then return .superseded
  else if ← next then
    let report ← tick
    if report.beep then Audio.beep
    return if report.redraw then .redraw else .quiet
  else return .halted

/-- Shows the engine's pixels and gives the frame back, whether or not that worked. -/
def present (generation ticks : Nat) : Act (FrameLoop ε) FrameReport := do
  if (← Act.own).state.generation ≠ generation then return .superseded
  else
    updateState fun s => { s with phase := .presenting }
    let screen := Engine.screen (← Act.own).session.engine
    let shown ← Act.attempt do
      let pixels ← Act.check screen.read
      onRenderer (Renderer.submit pixels)
    updateState fun s => { s with inFlight := false }
    Act.check shown
    updateState fun s => { s with frames := s.frames + 1 }
    return .presented ticks

end FrameLoop
end FrameViewer
