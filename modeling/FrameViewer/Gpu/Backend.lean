import FrameViewer.Gpu.Pipeline
import FrameViewer.Graphics.Slots
import FrameViewer.Graphics.Viewport

/-! A tier drawn by a graphics device. An error that the device raises outside any scope is kept
by its listener, and every call that can raise one looks for it afterwards, so it is told once,
by the first call that looks. -/

namespace FrameViewer.Gpu

structure TextureObjects where
  texture : Nat
  view : Nat

structure PipelineObjects where
  pipeline : Nat
  uniformGroup : Nat
  textureGroup : Nat

/-- A tier, its device and surface, and the device objects behind the numbers it handed out. -/
structure Backend where
  tier : Tier
  device : Device
  config : SurfaceConfig
  buffers : Slots Nat := {}
  textures : Slots TextureObjects := {}
  samplers : Slots Nat := {}
  pipelines : Slots PipelineObjects := {}

namespace Backend

def live (b : Backend) : Nat :=
  b.buffers.size + b.textures.size + b.samplers.size + b.pipelines.size

def onDevice {α : Type} (action : Act Device α) : Act Backend α := do
  let b ← Act.own
  Act.within b.device (fun device => { b with device }) action

/-- Takes over an acquired device and listens to it. -/
def start (tier : Tier) (config : SurfaceConfig) : Act Device Backend := do
  Device.listen
  return { tier, device := ← Act.own, config }

/-- Refuses with the kept error, if there is one. -/
def failOnPending (into : String → RenderError) : Act Backend Unit := do
  match ← onDevice Device.takePending with
  | some reason => Act.refuse (into reason)
  | none => pure ()

/-- Tells of a new object and answers with its number. -/
def handOut (id : ResourceId) (object : Nat) : Act Backend Nat := do
  Act.emit (.handedOut (← Act.own).tier id object)
  return id.number

/-- Tells that a number was given back, and whether there was an object behind it. -/
def takeBack (id : ResourceId) (stale : Bool) : Act Backend Unit := do
  Act.emit (.takenBack (← Act.own).tier id stale)

def makeBuffer (desc : BufferDesc) : Act Backend Nat := do
  let object ← onDevice (Device.make desc.label fun object =>
    .createBuffer object desc.label desc.size desc.usage)
  failOnPending (.resource "buffer")
  if desc.size < desc.contents.size then Act.crash
  else
    say (.unmap object (desc.contents.resize desc.size 0))
    return object

def createBuffer (desc : BufferDesc) : Act Backend Nat := do
  let object ← makeBuffer desc
  let b ← Act.own
  let (id, buffers) := b.buffers.insert object
  Act.setOwn { b with buffers }
  handOut (.buffer id) object

def makeTexture (desc : TextureDesc) : Act Backend TextureObjects := do
  let texture ← onDevice (Device.make desc.label fun object =>
    .createTexture object desc.label desc.dims)
  let view ← newObject
  say (.createView view texture)
  failOnPending (.resource "texture")
  return { texture, view }

def createTexture (desc : TextureDesc) : Act Backend Nat := do
  let objects ← makeTexture desc
  let b ← Act.own
  let (id, textures) := b.textures.insert objects
  Act.setOwn { b with textures }
  handOut (.texture id) objects.texture

def makeSampler (desc : SamplerDesc) : Act Backend Nat := do
  let object ← onDevice (Device.make desc.label fun object =>
    .createSampler object desc.label desc.wrap desc.filter)
  failOnPending (.resource "sampler")
  return object

def createSampler (desc : SamplerDesc) : Act Backend Nat := do
  let object ← makeSampler desc
  let b ← Act.own
  let (id, samplers) := b.samplers.insert object
  Act.setOwn { b with samplers }
  handOut (.sampler id) object

def compile (stage : ShaderStage) : Act Backend Nat := do
  let dialect := ShaderDialect.ofTier (← Act.own).tier
  let object ← onDevice (Device.shaderModule dialect stage)
  failOnPending (.compile stage)
  return object

/-- The object under a number, or a refusal. -/
def find {α : Type} (found : Option α) (cause : RenderError) : Act Backend α :=
  match found with
  | some object => pure object
  | none => Act.refuse cause

/-- Compiles both stages, binds what the draw reads, and links. -/
def makePipeline (desc : PipelineDesc) : Act Backend PipelineObjects := do
  let vertex ← compile .vertex
  let fragment ← compile .fragment
  let missing (what : String) := RenderError.resource "pipeline" ("unknown " ++ what ++ " handle")
  let b ← Act.own
  let uniforms ← find (b.buffers.get? desc.uniforms) (missing "uniform buffer")
  let texture ← find (b.textures.get? desc.texture) (missing "texture")
  let sampler ← find (b.samplers.get? desc.sampler) (missing "sampler")
  let groups ← onDevice Device.groupLayouts
  let uniformGroup ← onDevice (Device.make "quad-uniforms-bg" fun object =>
    .bindGroup object "quad-uniforms-bg" groups.uniforms [(0, .buffer uniforms)])
  let textureGroup ← onDevice (Device.make "quad-texture-bg" fun object =>
    .bindGroup object "quad-texture-bg" groups.texture
      [(1, .sampler sampler), (2, .view texture.view)])
  failOnPending (.resource "bind group")
  let choice : PipelineChoice :=
    { label := desc.label
      layouts := desc.layouts
      counterClockwise := desc.counterClockwise
      cullBackFaces := desc.cullBackFaces
      format := b.config.format }
  let pipeline ← onDevice (Device.renderPipeline choice { vertex, fragment } groups)
  failOnPending .link
  Act.notify (.pipelineReady b.tier b.config.format)
  return { pipeline, uniformGroup, textureGroup }

def createPipeline (desc : PipelineDesc) : Act Backend Nat := do
  let objects ← makePipeline desc
  let b ← Act.own
  let (id, pipelines) := b.pipelines.insert objects
  Act.setOwn { b with pipelines }
  handOut (.pipeline id) objects.pipeline

def upload (texture : Nat) (region : Region) (bytes : Bytes) : Act Backend Unit := do
  let target ← find ((← Act.own).textures.get? texture) (.lost "framebuffer texture was released")
  say (.writeTexture target.texture region bytes)
  onDevice (Device.reach "write_texture")

structure DrawObjects where
  pipeline : PipelineObjects
  positions : Nat
  colors : Nat
  indices : Nat
  count : Nat

/-- Records the draw on the surface's texture, submits and presents it. -/
def record (draw : DrawObjects) : Act Backend Unit := do
  let view ← newObject
  say (.createView view 0)
  say (.commandEncoder "quad-frame")
  say (.beginPass "quad-pass" view)
  let size := (← Act.own).config.dims
  say (.setViewport (fitAspect size.width size.height displayAspect))
  say (.setPipeline draw.pipeline.pipeline)
  say (.setBindGroup 0 draw.pipeline.uniformGroup)
  say (.setBindGroup 1 draw.pipeline.textureGroup)
  say (.setVertexBuffer 0 draw.positions)
  say (.setVertexBuffer 1 draw.colors)
  say (.setIndexBuffer draw.indices)
  say (.drawIndexed draw.count)
  say .endPass
  say .submit
  onDevice (Device.reach "submit")
  say .present

/-- Draws one frame. A surface that timed out drops the frame; an outdated one is configured
again, once; on any other trouble the tier is lost. -/
def submit (call : DrawCall) : Act Backend Unit := do
  failOnPending .lost
  let dead (what : String) := RenderError.lost (what ++ " handle is not live")
  let b ← Act.own
  let pipeline ← find (b.pipelines.get? call.pipeline) (dead "pipeline")
  let positions ← find (b.buffers.get? call.positions) (dead "position buffer")
  let colors ← find (b.buffers.get? call.colors) (dead "color buffer")
  let indices ← find (b.buffers.get? call.indices) (dead "index buffer")
  let draw : DrawObjects := { pipeline, positions, colors, indices, count := call.count }
  match ← onDevice Device.currentTexture with
  | .ready => record draw
  | .timeout => Act.notify .surfaceTimeout
  | .outdated =>
    onDevice (Device.configure b.config)
    match ← onDevice Device.currentTexture with
    | .ready => record draw
    | trouble => Act.refuse (.lost trouble.reason)
  | trouble => Act.refuse (.lost trouble.reason)

/-- The surface takes the new size, each side at least one. -/
def resize (size : Dims) : Act Backend Unit := do
  let b ← Act.own
  let config := { b.config with dims := ⟨max size.width 1, max size.height 1⟩ }
  Act.setOwn { b with config }
  onDevice (Device.configure config)

/-- Forgets an object and destroys it, if it is live; samplers and pipelines need no more. -/
def release (id : ResourceId) : Act Backend Unit := do
  let b ← Act.own
  match id with
  | .buffer number =>
    let (found, buffers) := b.buffers.remove number
    Act.setOwn { b with buffers }
    takeBack id found.isNone
    found.forM fun object => say (.destroyBuffer object)
  | .texture number =>
    let (found, textures) := b.textures.remove number
    Act.setOwn { b with textures }
    takeBack id found.isNone
    found.forM fun objects => say (.destroyTexture objects.texture)
  | .sampler number =>
    let (found, samplers) := b.samplers.remove number
    Act.setOwn { b with samplers }
    takeBack id found.isNone
  | .pipeline number =>
    let (found, pipelines) := b.pipelines.remove number
    Act.setOwn { b with pipelines }
    takeBack id found.isNone

end Backend
end FrameViewer.Gpu
