import FrameViewer.Gpu.Call

/-! A graphics machine that follows a script. Each family of drivers has its own script, and the
uses of its scripted points are counted over the whole run. -/

namespace FrameViewer.Gpu

structure DeviceError where
  kind : ErrorKind
  message : String
  deriving DecidableEq, Repr

def DeviceError.text (e : DeviceError) : String :=
  if e.kind = .outOfMemory then "Out of Memory" else e.message

/-- An error to raise when a point is used: at its `nth` use, or at every one. -/
structure Fault where
  point : String
  nth : Option Nat
  error : DeviceError

structure Script where
  adapters : List Bool := []
  name : String := "stub"
  maxTexture : Nat := 8192
  deviceError : Option String := none
  surfaceError : Option String := none
  formats : List String := ["Bgra8Unorm"]
  alphaModes : List String := ["Opaque"]
  frames : List FrameResult := []
  faults : List Fault := []

/-- Element `index` of a scripted list; the last one stands for all that follow it. -/
def scripted {α : Type} (steps : List α) (index : Nat) (otherwise : α) : α :=
  match steps[index]? with
  | some step => step
  | none => steps.getLast?.getD otherwise

/-- A family of drivers: its script, and what has been used of it. -/
structure Driver where
  script : Script := {}
  adapterRequests : Nat := 0
  frameRequests : Nat := 0
  pointUses : List String := []

namespace Driver

/-- Whether the next request finds an adapter. -/
def requestAdapter (driver : Driver) : Bool × Driver :=
  (scripted driver.script.adapters driver.adapterRequests true,
    { driver with adapterRequests := driver.adapterRequests + 1 })

def requestFrame (driver : Driver) : FrameResult × Driver :=
  (scripted driver.script.frames driver.frameRequests .ready,
    { driver with frameRequests := driver.frameRequests + 1 })

/-- The errors that one more use of a point raises, in the order of the script. -/
def reach (driver : Driver) (point : String) : List DeviceError × Driver :=
  let uses := driver.pointUses.count point + 1
  let hit (fault : Fault) := fault.point == point && fault.nth.all (· == uses)
  ((driver.script.faults.filter hit).map (·.error),
    { driver with pointUses := point :: driver.pointUses })

end Driver

/-- Both families, and how many objects their devices have made. -/
structure Machine where
  primary : Driver := {}
  gl : Driver := {}
  objects : Nat := 0

namespace Machine

def driver (machine : Machine) : Api → Driver
  | .primary => machine.primary
  | .gl => machine.gl

def setDriver (machine : Machine) (api : Api) (driver : Driver) : Machine :=
  match api with
  | .primary => { machine with primary := driver }
  | .gl => { machine with gl := driver }

end Machine
end FrameViewer.Gpu
