import FrameViewer.Clock
import FrameViewer.Event
import FrameViewer.Gpu.Machine

/-! What the viewer runs on, and actions upon it. An action works on a part of its own amid the
platform; it ends with a value or with a failure, and either way both stay as it left them. -/

namespace FrameViewer

/-- An opened audio output: blocks wait in a queue until the graph takes them. -/
structure Audio.Stream where
  rate : Nat
  queue : List Audio.Block
  startedAt : Binary
  processed : Nat

/-- The output device that can be opened, and the stream once it is. -/
structure Audio.Output where
  device : Option Nat := none
  stream : Option Audio.Stream := none

/-- What happens on a beep: a bell is only reported, a speaker plays a tone. -/
inductive Cue where
  | bell
  | speaker (output : Audio.Output)

structure Platform where
  events : Array Event := #[]
  /-- Microseconds since the start of the run. -/
  clock : Nat := 0
  gpu : Gpu.Machine := {}
  /-- The inner size of the window. -/
  window : Dims := ⟨640, 320⟩
  cue : Cue := .bell

namespace Platform

def record (platform : Platform) (event : Event) : Platform :=
  { platform with events := platform.events.push event }

def lines (platform : Platform) : List String :=
  platform.events.toList.filterMap Event.line?

/-- The notices so far that are as urgent as `least`, or more so. -/
def log (platform : Platform) (least : Level) : List Notice :=
  platform.events.toList.filterMap fun
    | .notice notice => if notice.level.rank ≤ least.rank then some notice else none
    | _ => none

def sounds (platform : Platform) : List Audio.Block :=
  platform.events.toList.filterMap fun
    | .soundPlayed block => some block
    | _ => none

/-- The same platform with an empty report. -/
def fresh (platform : Platform) : Platform :=
  { platform with events := #[] }

end Platform

/-- Why an action gave no value: drawing failed, or the run broke down. -/
inductive Failure where
  | refused (cause : RenderError)
  | crashed

/-- A part of the viewer amid the platform. -/
structure Scene (σ : Type) where
  own : σ
  platform : Platform

abbrev Act (σ α : Type) := EStateM Failure (Scene σ) α

namespace Act

variable {σ τ α : Type}

def own : Act σ σ := do return (← get).own

def platform : Act σ Platform := do return (← get).platform

def setOwn (part : σ) : Act σ Unit :=
  modify fun scene => { scene with own := part }

def update (f : σ → σ) : Act σ Unit :=
  modify fun scene => { scene with own := f scene.own }

def updatePlatform (f : Platform → Platform) : Act σ Unit :=
  modify fun scene => { scene with platform := f scene.platform }

def emit (event : Event) : Act σ Unit :=
  updatePlatform (·.record event)

def notify (notice : Notice) : Act σ Unit :=
  emit (.notice notice)

def refuse (cause : RenderError) : Act σ α :=
  throw (.refused cause)

def crash : Act σ α :=
  throw .crashed

def check (result : Except RenderError α) : Act σ α :=
  match result with
  | .ok value => pure value
  | .error cause => refuse cause

/-- A value that an overflow leaves out. -/
def checked (value : Option α) : Act σ α :=
  match value with
  | some value => pure value
  | none => crash

/-- Runs an action and hands a refusal back as a value. A crash goes on. -/
def attempt (action : Act σ α) : Act σ (Except RenderError α) := fun scene =>
  match action scene with
  | .ok value scene => .ok (.ok value) scene
  | .error (.refused cause) scene => .ok (.error cause) scene
  | .error .crashed scene => .error .crashed scene

/-- Runs an action, and on any failure of it another one before the failure goes on. -/
def onFailure (action : Act σ α) (undo : Act σ Unit) : Act σ α := fun scene =>
  match action scene with
  | .ok value scene => .ok value scene
  | .error failure scene =>
    match undo scene with
    | .ok _ scene => .error failure scene
    | .error failure scene => .error failure scene

/-- Runs an action on a smaller part, which `put` places back into the larger one. -/
def within (part : τ) (put : τ → σ) (action : Act τ α) : Act σ α := fun scene =>
  match action ⟨part, scene.platform⟩ with
  | .ok value inner => .ok value ⟨put inner.own, inner.platform⟩
  | .error failure inner => .error failure ⟨put inner.own, inner.platform⟩

/-- Runs an action on a part that belongs to nobody else, and hands it over with the value. -/
def apart (part : τ) (action : Act τ α) : Act σ (Except Failure α × τ) := fun scene =>
  match action ⟨part, scene.platform⟩ with
  | .ok value inner => .ok (.ok value, inner.own) ⟨scene.own, inner.platform⟩
  | .error failure inner => .ok (.error failure, inner.own) ⟨scene.own, inner.platform⟩

/-- Goes on with a value or a failure found before. -/
def settle (result : Except Failure α) : Act σ α :=
  match result with
  | .ok value => pure value
  | .error failure => throw failure

end Act
end FrameViewer
