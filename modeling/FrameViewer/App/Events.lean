import FrameViewer.App.Basic

/-! What happens to the application, one event after another. -/

namespace FrameViewer

inductive AppEvent where
  | resumed
  /-- A task left a result behind. -/
  | woken
  /-- The event loop is about to wait: tasks are driven first. -/
  | idle
  | drive
  | advance (micros : Nat)
  | plug (rate : Option Nat)
  | innerSize (size : Dims)
  | upload (bytes : Bytes)
  | requestClose
  | requestStop
  | closeRequested
  | redraw
  | resized (size : Dims)
  | key (code : String) (down again : Bool)
  /-- A press of the mouse or a touch. -/
  | pointer
  | focus
  | dropped (path : String)

namespace Viewer

variable {α : Type}

def onShow (action : Act Show α) : Act Viewer (Option α) := do
  let v ← Act.own
  match v.stage with
  | .starting _ => return none
  | .showing s => return some (← Act.within s (fun s => { v with stage := .showing s }) action)

def setStartup (startup : Startup) : Act Viewer Unit :=
  Act.update fun v => { v with stage := .starting startup }

/-- A negotiation: the renderer, or why there is none, is posted for the event loop. -/
def negotiate (probes : List Probe) (dims : Dims) : Act Viewer Unit := do
  let (result, negotiator) ← Act.apart ({ probes } : Negotiator)
    (Act.attempt (Negotiator.negotiate dims))
  let outcome := (← Act.settle result).bind fun _ =>
    match negotiator.active with
    | some renderer => .ok renderer
    | none => .error (.lost "negotiated handle went missing")
  let v ← Act.own
  match v.stage with
  | .starting s =>
    Act.within s.negotiated
      (fun negotiated => { v with stage := .starting { s with negotiated } })
      (Mailbox.post outcome)
  | .showing _ => pure ()

def poll : Task → Act Viewer (Polled Task)
  | .negotiate probes dims => do
    negotiate probes dims
    return {}
  | .frame => do return (← onShow Show.beginFrame).getD {}
  | .resume callback => do return (← onShow (Show.follow callback)).getD {}

/-- Looks at the outcome of the negotiation: the show begins, or its failure is shown. -/
def takeNegotiated : Act Viewer Unit := do
  let v ← Act.own
  match v.stage with
  | .showing _ => pure ()
  | .starting s =>
    if s.window && s.screen.isNone then
      setStartup { s with negotiated := {} }
      match s.negotiated.slot with
      | none => pure ()
      | some (.ok renderer) =>
        Act.notify (.renderingWith renderer.tier)
        let begun ← Show.start s.session renderer v.settings.loop
        Act.update fun v => { v with stage := .showing begun }
      | some (.error cause) =>
        Act.within (ErrorScreen.console true [])
          (fun screen =>
            { v with stage := .starting { s with negotiated := {}, screen := some screen } })
          (ErrorScreen.present cause.message)

/-- What the event loop does with the show before it waits. -/
def tend : Act Viewer Unit := do
  let v ← Act.own
  Act.setOwn { v with uploaded := none, stopAsked := false }
  let _ ← onShow do
    match v.uploaded with
    | none => pure ()
    | some bytes =>
      if bytes.isEmpty then Act.notify .romEmpty
      else Show.loadRom { name := "uploaded", bytes }
    if v.stopAsked then Show.onLoop FrameLoop.stop
    if v.closeAsked then Act.emit .exit
    Show.handleFatal
    Audio.process

end Viewer

namespace App

variable {α : Type}

def onViewer (action : Act Viewer α) : Act App α := do
  let (e, v) ← Act.own
  Act.within v (fun v => (e, v)) action

def updateViewer (f : Viewer → Viewer) : Act App Unit :=
  Act.update fun (e, v) => (e, f v)

def spawn (task : Task) : Act App Unit :=
  Act.update fun (e, v) => (e.spawn task, v)

/-- An application that has loaded its program and waits to be resumed. -/
def create {σ : Type} (settings : Settings) (probes : List Probe) (files : Files)
    (windowFault : Option String) : Act σ App := do
  let session ← Session.withRom (fun _ => Player.blank) settings.rom
  return ({}, { settings, probes, files, windowFault, stage := .starting { session } })

def drive : Act App Unit :=
  Executor.drive (fun _ => 1) Viewer.poll

/-- Whether the window's size fits the words it is counted in. -/
def windowSize? (scale : Nat) : Option Dims :=
  if Player.width * scale < UInt32.size then some ⟨Player.width * scale, Player.height * scale⟩
  else none

def openWindow (startup : Startup) : Act App Unit := do
  let v := (← Act.own).2
  Act.notify .starting
  let initial ← Act.checked (windowSize? v.settings.scale)
  Act.emit (.windowCreated "chipview" ⟨Player.width, Player.height⟩ initial)
  match v.windowFault with
  | some reason =>
    Act.notify (.windowFailed reason)
    Act.emit .exit
  | none =>
    onViewer (Viewer.setStartup { startup with window := true })
    spawn (.negotiate v.probes startup.session.dims)
    Act.notify .started

def resume : Act App Unit := do
  match (← Act.own).2.stage with
  | .starting s => if s.window then pure () else openWindow s
  | .showing _ => pure ()

def onShow (action : Act Show Unit) : Act App Unit := do
  let _ ← onViewer (Viewer.onShow action)

def handle : AppEvent → Act App Unit
  | .resumed => resume
  | .woken => do
    match (← Act.own).2.stage with
    | .starting _ => onViewer Viewer.takeNegotiated
    | .showing _ => onShow Show.handleFatal
  | .idle => do
    drive
    match (← Act.own).2.stage with
    | .starting _ => onViewer Viewer.takeNegotiated
    | .showing _ => onViewer Viewer.tend
  | .drive => drive
  | .advance micros => Act.updatePlatform fun p => { p with clock := p.clock + micros }
  | .plug rate => do
    match (← Act.platform).cue with
    | .bell => pure ()
    | .speaker output => Audio.setOutput { output with device := rate }
  | .innerSize size => Act.updatePlatform fun p => { p with window := size }
  | .upload bytes => do
    Act.notify .romReceived
    updateViewer fun v => { v with uploaded := some bytes }
  | .requestClose => do
    Act.notify .closing
    updateViewer fun v => { v with closeAsked := true }
  | .requestStop => do
    Act.notify .stopping
    updateViewer fun v => { v with stopAsked := true }
  | .closeRequested => do
    match (← Act.own).2.stage with
    | .starting _ => pure ()
    | .showing _ => Act.notify .closeRequested
    Act.emit .exit
  | .redraw => do
    Act.emit .redrawn
    match (← Act.own).2.stage with
    | .starting _ => pure ()
    | .showing s => if s.isStopped then pure () else spawn .frame
  | .resized size => onShow do
    if (← Act.own).isStopped then pure ()
    else Show.onLoop (FrameLoop.onRenderer (Renderer.resize size))
  | .key code down again => onShow do
    if down then Audio.start
    Show.handleKey code down again
  | .pointer => onShow Audio.start
  | .focus => pure ()
  | .dropped path => do
    let files := (← Act.own).2.files
    onShow (Show.loadFile files path)

/-- The end of the application. What an unfinished task still shares is left alone. -/
def close : Act App Unit := do
  let (e, v) ← Act.own
  match v.stage with
  | .starting s =>
    match s.negotiated.slot with
    | some (.ok renderer) => renderer.discard
    | _ => pure ()
  | .showing s => if e.isBusy then pure () else s.loop.renderer.discard

end App
end FrameViewer
