import FrameViewer.Graphics.Quad
import FrameViewer.Graphics.Slots
import FrameViewer.Platform

/-! A tier that draws nothing: it reports every call, hands out numbers, and fails where its
script says so. A failed creation takes no number. -/

namespace FrameViewer.Simulated

/-- A failure at a point: at its `nth` use, or at every one. -/
structure Fault where
  point : String
  nth : Option Nat
  cause : RenderError

structure Script where
  tier : Tier := .modern
  alignment : Nat := Quad.alignment
  showContents : Bool := false
  faults : List Fault := []

/-- A script, the labels of the live objects, and the points used so far. -/
structure Backend where
  script : Script := {}
  live : Slots String := {}
  pointUses : List String := []

namespace Backend

/-- The first failure due at one more use of a point. -/
def faultAt (b : Backend) (point : String) : Option RenderError :=
  let uses := b.pointUses.count point + 1
  (b.script.faults.find? fun fault => fault.point == point && fault.nth.all (· == uses)).map
    (·.cause)

def reportCall (call : TierCall) : Act Backend Unit := do
  Act.emit (.tier (← Act.own).script.tier call)

/-- Uses a point and fails if a failure is due there. -/
def reach (point : String) : Act Backend Unit := do
  let due := (← Act.own).faultAt point
  Act.update fun b => { b with pointUses := point :: b.pointUses }
  match due with
  | some cause => Act.refuse cause
  | none => pure ()

/-- Reports a creation and hands out a number unless it fails. -/
def create (call : TierCall) (label : String) (typed : Nat → ResourceId) : Act Backend Nat := do
  reportCall call
  reach label
  let b ← Act.own
  let (id, live) := b.live.insert label
  Act.setOwn { b with live }
  Act.emit (.handedOut b.script.tier (typed id) id)
  return id

def createBuffer (desc : BufferDesc) : Act Backend Nat := do
  create (.createBuffer desc (← Act.own).script.showContents) desc.label .buffer

def createTexture (desc : TextureDesc) : Act Backend Nat :=
  create (.createTexture desc) desc.label .texture

def createSampler (desc : SamplerDesc) : Act Backend Nat :=
  create (.createSampler desc) desc.label .sampler

def createPipeline (desc : PipelineDesc) : Act Backend Nat :=
  create (.createPipeline desc) desc.label .pipeline

def upload (texture : Nat) (region : Region) (bytes : Bytes) : Act Backend Unit := do
  reportCall (.upload texture region bytes)
  reach "upload"

def submit (call : DrawCall) : Act Backend Unit := do
  reportCall (.draw call)
  reach "submit_frame"

def resize (size : Dims) : Act Backend Unit :=
  reportCall (.resize size)

def release (id : ResourceId) : Act Backend Unit := do
  let b ← Act.own
  let (found, live) := b.live.remove id.number
  Act.setOwn { b with live }
  reportCall (.release id found.isNone)
  Act.emit (.takenBack b.script.tier id found.isNone)

/-- The end of the tier, with the count of objects that were never released. -/
def drop : Act Backend Unit := do
  reportCall (.drop (← Act.own).live.size)

end Backend

inductive Attempt where
  | fails (cause : RenderError)
  | gives (script : Script)

/-- A way to acquire a tier: its `n`-th use follows the `n`-th attempt, and the last one stands
for all that follow it. -/
structure Probe where
  tier : Tier
  attempts : List Attempt := []
  uses : Nat := 0

namespace Probe

def acquire (probe : Probe) {σ : Type} : Act σ (Except RenderError Backend × Probe) := do
  let used := { probe with uses := probe.uses + 1 }
  Act.emit (.acquire probe.tier used.uses)
  let attempt := (probe.attempts[probe.uses]?).or probe.attempts.getLast?
  match attempt with
  | some (.fails cause) => return (.error cause, used)
  | some (.gives script) => return (.ok { script }, used)
  | none => return (.ok { script := { tier := probe.tier } }, used)

end Probe
end FrameViewer.Simulated
