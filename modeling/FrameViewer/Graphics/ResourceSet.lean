import FrameViewer.Arithmetic.Alignment
import FrameViewer.Graphics.Backend
import FrameViewer.Graphics.Framebuffer

/-! The seven objects that one draw of the quad needs. They are created all or none: when a step
fails, those before it are released, the newest first. -/

namespace FrameViewer

structure ResourceSet where
  positions : Nat
  colors : Nat
  indices : Nat
  uniforms : Nat
  texture : Nat
  sampler : Nat
  pipeline : Nat
  dims : Dims
  deriving DecidableEq, Repr

namespace ResourceSet

/-- The objects in the order of their release, the newest first. -/
def ids (set : ResourceSet) : List ResourceId :=
  [.pipeline set.pipeline, .sampler set.sampler, .texture set.texture, .buffer set.uniforms,
   .buffer set.indices, .buffer set.colors, .buffer set.positions]

def drawCall (set : ResourceSet) : DrawCall :=
  { pipeline := set.pipeline
    positions := set.positions
    colors := set.colors
    indices := set.indices
    count := Quad.indices.length }

/-- The whole texture, rows packed at one byte a pixel. -/
def region (set : ResourceSet) : Region :=
  { x := 0, y := 0, dims := set.dims, bytesPerRow := set.dims.width }

def releaseAll (ids : List ResourceId) : Act Backend Unit :=
  ids.forM Backend.release

theorem releaseAll_nil : releaseAll [] = pure () :=
  rfl

theorem releaseAll_cons (id : ResourceId) (rest : List ResourceId) :
    releaseAll (id :: rest) = (do Backend.release id; releaseAll rest) :=
  rfl

def release (set : ResourceSet) : Act Backend Unit :=
  releaseAll set.ids

/-- Undoes a build that got as far as `created`, the newest first. -/
def rollBack (created : List ResourceId) : Act Backend Unit := do
  if created ≠ [] then Act.notify (.rollingBack created.length (← Act.own).tier)
  releaseAll created

/-- One step of a build: on failure all that was `created` before it is undone. -/
def step (created : List ResourceId) (action : Act Backend Nat) : Act Backend Nat :=
  Act.onFailure action (rollBack created)

/-- A buffer whose size is rounded up to the tier's alignment. -/
def buffer (label : String) (usage : BufferUsage) (contents : Bytes) : Act Backend Nat := do
  let size ← Act.checked (alignUp? contents.size (← Act.own).alignment)
  Backend.createBuffer { label, usage, size, contents }

def build (dims : Dims) : Act Backend ResourceSet := do
  if dims.isEmpty then Act.refuse (.resource "texture" ("empty framebuffer " ++ dims.text))
  else
    let tier := (← Act.own).tier
    let positions ← step [] (buffer "quad-positions" .vertex Quad.vertexBytes)
    let made := [ResourceId.buffer positions]
    let colors ← step made (buffer "quad-colors" .vertex Quad.colorBytes)
    let made := .buffer colors :: made
    let indices ← step made (buffer "quad-indices" .index Quad.indexBytes)
    let made := .buffer indices :: made
    let uniforms ← step made (buffer "quad-uniforms" .uniform Quad.uniformBytes)
    let made := .buffer uniforms :: made
    let texture ← step made (Backend.createTexture { label := "framebuffer", dims })
    let made := .texture texture :: made
    let sampler ← step made (Backend.createSampler
      { label := "framebuffer-sampler", filter := .nearest, wrap := .tile })
    let made := .sampler sampler :: made
    let pipeline ← step made (Backend.createPipeline
      { label := "quad-pipeline"
        layouts := Quad.layouts
        uniforms
        texture
        sampler
        counterClockwise := false
        cullBackFaces := false })
    Act.notify (.built tier dims)
    return { positions, colors, indices, uniforms, texture, sampler, pipeline, dims }

end ResourceSet
end FrameViewer
