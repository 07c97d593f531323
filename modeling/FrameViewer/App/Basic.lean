import FrameViewer.ErrorScreen
import FrameViewer.Executor
import FrameViewer.Graphics.Negotiator
import FrameViewer.Loop.Callback
import FrameViewer.Mailbox
import FrameViewer.Settings

/-! The viewer as an application. It starts with a session and no renderer; a task negotiates one,
and from then on the session is shown, frame by frame, until a failure is shown instead. -/

namespace FrameViewer

/-- Before there is a renderer. -/
structure Startup where
  session : Session Player
  window : Bool := false
  negotiated : Mailbox (Except RenderError Renderer) := {}
  screen : Option ErrorScreen := none

/-- While the session is shown. -/
structure Show where
  loop : FrameLoop Player
  config : LoopConfig
  keys : KeyMap String
  /-- Errors of callbacks; the event loop is woken to look at them. -/
  fatal : Mailbox RenderError := {}
  screen : Option ErrorScreen := none

inductive Stage where
  | starting (startup : Startup)
  | showing (s : Show)

inductive Task where
  | negotiate (probes : List Probe) (dims : Dims)
  | frame
  | resume (callback : Callback)

structure Viewer where
  settings : Settings
  probes : List Probe
  files : Files := []
  /-- Why no window can be created, if so. -/
  windowFault : Option String := none
  uploaded : Option Bytes := none
  stopAsked : Bool := false
  closeAsked : Bool := false
  stage : Stage

/-- The application: its tasks and all that they share. -/
abbrev App := Executor Task × Viewer

/-- The host's keys in the order of the keypad: the left block of the keyboard. -/
def keyboardBlock : List String :=
  ["Digit1", "Digit2", "Digit3", "Digit4",
   "KeyQ", "KeyW", "KeyE", "KeyR",
   "KeyA", "KeyS", "KeyD", "KeyF",
   "KeyZ", "KeyX", "KeyC", "KeyV"]

namespace Show

variable {α : Type}

def onLoop (action : Act (FrameLoop Player) α) : Act Show α := do
  let s ← Act.own
  Act.within s.loop (fun loop => { s with loop }) action

def onFatal (action : Act (Mailbox RenderError) α) : Act Show α := do
  let s ← Act.own
  Act.within s.fatal (fun fatal => { s with fatal }) action

/-- Gives the event loop a failure to look at. -/
def raise (cause : RenderError) : Act Show Unit := do
  Act.emit (.raised cause)
  onFatal (Mailbox.post cause)

def presentError (cause : RenderError) : Act Show Unit := do
  let s ← Act.own
  Act.within (ErrorScreen.console true []) (fun screen => { s with screen := some screen })
    (ErrorScreen.present cause.message)

def isStopped (s : Show) : Bool :=
  s.screen.isSome

def updateTitle : Act Show Unit := do
  let l := (← Act.own).loop
  let rom := l.session.romName.getD "no rom"
  Act.emit (.windowTitle ("chipview: " ++ rom ++ " (" ++ l.renderer.tier.title ++ ")"))

def requestRedraw : Act Show Unit :=
  Act.emit (.frameRequested .window)

/-- Takes over the session and the negotiated renderer, and asks for the first frame. -/
def start {σ : Type} (session : Session Player) (renderer : Renderer) (config : LoopConfig) :
    Act σ Show := do
  let size := (← Act.platform).window
  let initial : Show :=
    { loop := FrameLoop.ofSession session renderer
      config
      keys := KeyMap.ofKeypad keyboardBlock }
  let (result, started) ← Act.apart initial do
    onLoop (FrameLoop.onRenderer (Renderer.resize size))
    Audio.start
    updateTitle
    requestRedraw
  Act.settle result
  return started

/-- Loads a program unless the renderer is gone. A failed load is fatal. -/
def loadRom (rom : Rom) : Act Show Unit := do
  if (← Act.own).isStopped then Act.notify (.romIgnored rom.name)
  else
    match ← Act.attempt (onLoop (FrameLoop.loadRom rom)) with
    | .ok _ =>
      Act.notify (.romLoaded rom.name)
      updateTitle
      requestRedraw
    | .error cause => raise cause

def loadFile (files : Files) (path : String) : Act Show Unit :=
  match files.read path with
  | .ok bytes => loadRom { name := Path.fileName path, bytes }
  | .error reason => Act.notify (.unreadable path reason.message)

def halt : Act Show Unit := do
  onLoop FrameLoop.stop
  onLoop (FrameLoop.onRenderer Renderer.teardown)

/-- Ends the loop on a fatal error, if one was posted, and shows it. -/
def handleFatal : Act Show Unit := do
  match ← onFatal Mailbox.take with
  | none => pure ()
  | some cause =>
    halt
    presentError cause

/-- A key of the keyboard; one that repeats or has no code does nothing. -/
def handleKey (code : String) (down again : Bool) : Act Show Unit := do
  if !again then
    let keys := (← Act.own).keys
    let place ← onLoop (FrameLoop.onSession
      (if down then Session.keyDown keys code else Session.keyUp keys code))
    match place with
    | some place => Act.notify (.keypad place down)
    | none => pure ()

/-- Goes on with a callback: it parks, reports its end, or posts its error. -/
def follow (callback : Callback) : Act Show (Polled Task) := do
  match ← Act.attempt (onLoop callback.run) with
  | .ok (.paused callback) | .ok (.running callback) =>
    let deadline := (← Act.platform).clock + callback.config.throttle
    return { parked := some (deadline, .resume callback) }
  | .ok (.finished (.presented ticks)) =>
    Act.notify (.framePresented ticks)
    return {}
  | .ok (.finished report) =>
    Act.notify (.frameEnded report)
    return {}
  | .error cause =>
    raise cause
    return {}

def beginFrame : Act Show (Polled Task) := do
  let now := millis (← Act.platform).clock
  let config := (← Act.own).config
  match ← onLoop (Callback.begin .window config now) with
  | none =>
    Act.notify (.frameEnded .skipped)
    return {}
  | some callback => follow callback

end Show
end FrameViewer
