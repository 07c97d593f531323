import FrameViewer.Gpu.Probe
import FrameViewer.Graphics.Simulated

/-! A tier to draw with: none at all, a simulated one, or one on a graphics device. Without a
tier everything is refused and nothing is kept. -/

namespace FrameViewer

inductive Backend where
  | null
  | simulated (backend : Simulated.Backend)
  | gpu (backend : Gpu.Backend)

namespace Backend

def tier : Backend → Tier
  | null => .none
  | simulated b => b.script.tier
  | gpu b => b.tier

/-- Sizes of buffers are rounded up to a multiple of this. -/
def alignment : Backend → Nat
  | simulated b => b.script.alignment
  | _ => Quad.alignment

/-- Objects created and not yet released. -/
def live : Backend → Nat
  | null => 0
  | simulated b => b.live.size
  | gpu b => b.live

/-- What is said when there is nothing to draw with. -/
def absent : RenderError :=
  .unavailable .none "no graphics backend is active"

/-- Runs the action of the tier at hand; without a tier, `otherwise`. -/
def run {α : Type} (simulated : Act Simulated.Backend α) (gpu : Act Gpu.Backend α)
    (otherwise : Act Backend α) : Act Backend α := do
  match ← Act.own with
  | .null => otherwise
  | .simulated b => Act.within b .simulated simulated
  | .gpu b => Act.within b .gpu gpu

def createBuffer (desc : BufferDesc) : Act Backend Nat :=
  run (Simulated.Backend.createBuffer desc) (Gpu.Backend.createBuffer desc) (Act.refuse absent)

def createTexture (desc : TextureDesc) : Act Backend Nat :=
  run (Simulated.Backend.createTexture desc) (Gpu.Backend.createTexture desc) (Act.refuse absent)

def createSampler (desc : SamplerDesc) : Act Backend Nat :=
  run (Simulated.Backend.createSampler desc) (Gpu.Backend.createSampler desc) (Act.refuse absent)

def createPipeline (desc : PipelineDesc) : Act Backend Nat :=
  run (Simulated.Backend.createPipeline desc) (Gpu.Backend.createPipeline desc)
    (Act.refuse absent)

def upload (texture : Nat) (region : Region) (bytes : Bytes) : Act Backend Unit :=
  run (Simulated.Backend.upload texture region bytes) (Gpu.Backend.upload texture region bytes)
    (Act.refuse absent)

def submit (call : DrawCall) : Act Backend Unit :=
  run (Simulated.Backend.submit call) (Gpu.Backend.submit call) (Act.refuse absent)

def resize (size : Dims) : Act Backend Unit :=
  run (Simulated.Backend.resize size) (Gpu.Backend.resize size) (pure ())

def release (id : ResourceId) : Act Backend Unit :=
  run (Simulated.Backend.release id) (Gpu.Backend.release id) (pure ())

/-- The end of the tier. It releases nothing. -/
def drop : Act Backend Unit := do
  run Simulated.Backend.drop (pure ()) (pure ())
  match ← Act.own with
  | .null => pure ()
  | b => Act.emit (.closed b.tier)

end Backend

/-- A way to acquire a tier. A failed acquisition leaves nothing behind. -/
inductive Probe where
  | simulated (probe : Simulated.Probe)
  | gpu (tier : Tier)

namespace Probe

def tier : Probe → Tier
  | simulated probe => probe.tier
  | gpu tier => tier

/-- What the probe comes to, and the probe for the next time. -/
def ask {σ : Type} : Probe → Act σ (Except RenderError Backend × Probe)
  | simulated probe => do
    let (result, probe) ← probe.acquire
    return (result.map .simulated, .simulated probe)
  | gpu tier => do
    let result ← Act.attempt (Gpu.Acquire.tier tier)
    return (result.map .gpu, .gpu tier)

/-- The acquired tier or the reason why there is none, and the probe for the next time. -/
def acquire {σ : Type} (probe : Probe) : Act σ (Except RenderError Backend × Probe) := do
  let (result, probe) ← probe.ask
  match result with
  | .ok backend =>
    Act.emit (.opened backend.tier)
    return (.ok backend, probe)
  | .error cause => return (.error cause, probe)

/-- Both tiers with drivers, best first, as far as the preference allows them. -/
def forDrivers (preference : Preference) : List Probe :=
  ([.modern, .legacy].filter preference.allows).map .gpu

end Probe
end FrameViewer
