import FrameViewer.Gpu.Backend

/-! Acquiring a tier from its graphics drivers. The modern tier checks its shaders before it asks
for a surface; the legacy tier finds its adapter through the surface, so it asks for that first. -/

namespace FrameViewer.Gpu

def Api.ofTier : Tier → Api
  | .legacy => .gl
  | _ => .primary

namespace Acquire

variable {σ : Type}

def script (tier : Tier) : Act σ Script := do
  return ((← Act.platform).gpu.driver (Api.ofTier tier)).script

/-- Asks for an adapter and tells whether there is one. -/
def requestAdapter (tier : Tier) (fallback withSurface : Bool) : Act σ Bool := do
  say (.requestAdapter fallback withSurface)
  let api := Api.ofTier tier
  let (found, driver) := ((← Act.platform).gpu.driver api).requestAdapter
  Act.updatePlatform fun p => { p with gpu := p.gpu.setDriver api driver }
  return found

def announceAdapter (tier : Tier) : Act σ Unit := do
  Act.notify (.adapterFound tier (← script tier).name)

/-- Texture limits are the adapter's own; the rest is what the tier makes do with. -/
def limits (tier : Tier) (maxTexture : Nat) : Limits :=
  let (storageBuffers, arrayStride) := match tier with
    | .legacy => (0, 255)
    | _ => (4, 2048)
  { texture1d := maxTexture
    texture2d := maxTexture
    texture3d := maxTexture / 2
    storageBuffers
    arrayStride }

def requestDevice (tier : Tier) (label : String) : Act σ Device := do
  let given ← script tier
  say (.requestDevice label (limits tier given.maxTexture))
  match given.deviceError with
  | some reason => Act.refuse (.unavailable tier reason)
  | none => return { api := Api.ofTier tier }

def createSurface (tier : Tier) : Act σ Unit := do
  say .createSurface
  match (← script tier).surfaceError with
  | some reason => Act.refuse (.unavailable tier reason)
  | none => pure ()

/-- A plain 8-bit format when the surface has one, else its first. -/
def chooseFormat (formats : List String) : Option String :=
  (formats.find? fun f => f == "Rgba8Unorm" || f == "Bgra8Unorm").or formats.head?

/-- A configuration for the window as it is, each side at least one. -/
def surfaceConfig (tier : Tier) : Act σ SurfaceConfig := do
  say .getCapabilities
  let given ← script tier
  match chooseFormat given.formats with
  | none => Act.refuse (.unavailable tier "adapter can't present to this surface")
  | some format =>
    let size := (← Act.platform).window
    return {
      format
      dims := ⟨max size.width 1, max size.height 1⟩
      alpha := given.alphaModes.head?.getD "Auto" }

/-- The format that the modern tier's shaders are checked with before its surface is known. -/
def assumedFormat : String := "Bgra8Unorm"

def withDevice {α : Type} (device : Device) (action : Act Device α) : Act σ α := do
  let (result, _) ← Act.apart device action
  Act.settle result

def modern : Act σ Backend := do
  say (.openInstance .primary)
  if ← requestAdapter .modern false false then
    announceAdapter .modern
    let device ← requestDevice .modern "chipview-modern"
    withDevice device do
      Device.validateShaders .modern assumedFormat
      createSurface .modern
      let config ← surfaceConfig .modern
      Device.configure config
      Backend.start .modern config
  else Act.refuse (.unavailable .modern "No device found")

/-- Any adapter that fits the surface, or else one that merely works. -/
def legacyAdapter : Act σ Bool := do
  if ← requestAdapter .legacy false true then return true
  else
    Act.notify .forcingFallback
    requestAdapter .legacy true true

def legacy : Act σ Backend := do
  say (.openInstance .gl)
  createSurface .legacy
  if ← legacyAdapter then
    announceAdapter .legacy
    let device ← requestDevice .legacy "chipview-legacy"
    withDevice device do
      let config ← surfaceConfig .legacy
      Device.validateShaders .legacy config.format
      Device.configure config
      Backend.start .legacy config
  else Act.refuse (.unavailable .legacy "No device found")

/-- Acquires a tier; there are drivers for the modern and the legacy one. -/
def tier : Tier → Act σ Backend
  | .legacy => legacy
  | _ => modern

end Acquire
end FrameViewer.Gpu
