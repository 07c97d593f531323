import FrameViewer.Graphics.ResourceSet

/-! A tier together with the resources built on it. The resources are absent after a teardown and
after a failed rebuild, and then every frame is refused. -/

namespace FrameViewer

structure Renderer where
  backend : Backend
  resources : Option ResourceSet := none

namespace Renderer

/-- What is left when every tier has failed: it owns nothing and refuses every frame. -/
def inert : Renderer := { backend := .null }

def tier (r : Renderer) : Tier := r.backend.tier

def live (r : Renderer) : Nat := r.backend.live

def onBackend {α : Type} (action : Act Backend α) : Act Renderer α := do
  let r ← Act.own
  Act.within r.backend (fun backend => { r with backend }) action

/-- Builds the resources on a fresh tier, which is dropped when that fails. -/
def build {σ : Type} (backend : Backend) (dims : Dims) : Act σ Renderer := do
  let (result, backend) ← Act.apart backend
    (Act.onFailure (ResourceSet.build dims) Backend.drop)
  let resources ← Act.settle result
  return { backend, resources := some resources }

/-- Uploads one framebuffer and draws the quad with it. -/
def submit (pixels : Bytes) : Act Renderer Unit := do
  match (← Act.own).resources with
  | none => Act.refuse (.lost "render handle was torn down")
  | some set =>
    if pixels.size = set.dims.area then
      onBackend (Backend.upload set.texture set.region pixels)
      onBackend (Backend.submit set.drawCall)
    else Act.refuse (.frameSize set.dims.area pixels.size)

def resize (size : Dims) : Act Renderer Unit :=
  onBackend (Backend.resize size)

def teardown : Act Renderer Unit := do
  let r ← Act.own
  match r.resources with
  | none => pure ()
  | some set =>
    Act.setOwn { r with resources := none }
    onBackend set.release

/-- Replaces the resources by a set for another framebuffer. -/
def rebuild (dims : Dims) : Act Renderer Unit := do
  teardown
  let set ← onBackend (ResourceSet.build dims)
  Act.update fun r => { r with resources := some set }

/-- The end of the renderer: its resources are released, then its tier is dropped. -/
def close : Act Renderer Unit := do
  teardown
  onBackend Backend.drop

def discard {σ : Type} (r : Renderer) : Act σ Unit := do
  let (result, _) ← Act.apart r close
  Act.settle result

end Renderer
end FrameViewer
