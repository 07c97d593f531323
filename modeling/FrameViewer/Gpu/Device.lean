import FrameViewer.Platform

/-! A graphics device: the calls it takes, and where an error raised by one of them goes. -/

namespace FrameViewer.Gpu

/-- An open error scope catches errors of one kind and keeps the first. -/
structure ErrorScope where
  filter : ErrorKind
  caught : Option DeviceError := none

/-- What happens to an error that no scope catches: without a listener the run breaks down; a
listener keeps the first until it is asked for. -/
inductive Listener where
  | absent
  | installed (pending : Option String)

/-- A device of a family of drivers, with its open scopes, the innermost first. -/
structure Device where
  api : Api
  scopes : List ErrorScope := []
  listener : Listener := .absent

/-- Catches an error in the innermost scope of its kind, if there is one. -/
def catchIn (e : DeviceError) : List ErrorScope → Option (List ErrorScope)
  | [] => none
  | scope :: outer =>
    if scope.filter = e.kind then some ({ scope with caught := scope.caught.or (some e) } :: outer)
    else (catchIn e outer).map (scope :: ·)

def say {σ : Type} (call : Call) : Act σ Unit :=
  Act.emit (.gpu call)

def newObject {σ : Type} : Act σ Nat := do
  let object := (← Act.platform).gpu.objects + 1
  Act.updatePlatform fun p => { p with gpu := { p.gpu with objects := object } }
  return object

namespace Device

/-- The error goes to the innermost scope of its kind, else to the listener, at once. -/
def deliver (e : DeviceError) : Act Device Unit := do
  let device ← Act.own
  match catchIn e device.scopes with
  | some scopes => Act.setOwn { device with scopes }
  | none =>
    match device.listener with
    | .absent => Act.crash
    | .installed pending =>
      Act.notify (.deviceError e.text)
      Act.setOwn { device with listener := .installed (pending.or (some e.text)) }

def deliverAll (due : List DeviceError) : Act Device Unit :=
  due.forM deliver

theorem deliverAll_cons (e : DeviceError) (rest : List DeviceError) :
    deliverAll (e :: rest) = (do deliver e; deliverAll rest) :=
  rfl

/-- One use of a scripted point: the errors due there are raised in order. -/
def reach (point : String) : Act Device Unit := do
  let api := (← Act.own).api
  let (due, driver) := ((← Act.platform).gpu.driver api).reach point
  Act.updatePlatform fun p => { p with gpu := p.gpu.setDriver api driver }
  deliverAll due

/-- A call that makes an object, at the point of its label. -/
def make (label : String) (call : Nat → Call) : Act Device Nat := do
  let object ← newObject
  say (call object)
  reach label
  return object

def pushScope (filter : ErrorKind) : Act Device Unit := do
  say (.pushScope filter)
  Act.update fun device => { device with scopes := { filter } :: device.scopes }

/-- Closes the innermost scope and answers with the error it caught. -/
def popScope : Act Device (Option DeviceError) := do
  say .popScope
  let device ← Act.own
  match device.scopes with
  | [] => return none
  | scope :: outer =>
    Act.setOwn { device with scopes := outer }
    return scope.caught

/-- From here on errors that no scope catches are kept. -/
def listen : Act Device Unit := do
  say .listen
  Act.update fun device => { device with listener := .installed none }

/-- The kept error, which is then forgotten. -/
def takePending : Act Device (Option String) := do
  let device ← Act.own
  match device.listener with
  | .absent => return none
  | .installed pending =>
    Act.setOwn { device with listener := .installed none }
    return pending

def configure (config : SurfaceConfig) : Act Device Unit := do
  say (.configure config)
  reach "configure"

def currentTexture : Act Device FrameResult := do
  let api := (← Act.own).api
  let (result, driver) := ((← Act.platform).gpu.driver api).requestFrame
  Act.updatePlatform fun p => { p with gpu := p.gpu.setDriver api driver }
  say (.currentTexture result)
  return result

end Device
end FrameViewer.Gpu
