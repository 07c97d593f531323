import FrameViewer.Arithmetic.Binary
import FrameViewer.Graphics.Descriptor
import FrameViewer.Graphics.Error
import FrameViewer.Graphics.Viewport

/-! The calls that reach a graphics device and its instance, each with all that it was given, and
the line that a report has for it. Device objects are numbered from one over a whole run; the
texture of a surface is number zero. -/

namespace FrameViewer.Gpu

/-- The family of drivers behind an instance. -/
inductive Api where
  | primary
  | gl
  deriving DecidableEq, Repr

def Api.name : Api → String
  | primary => "primary"
  | gl => "gl"

/-- What kind of error a device raised; an error scope catches one kind. -/
inductive ErrorKind where
  | validation
  | internal
  | outOfMemory
  deriving DecidableEq, Repr

def ErrorKind.name : ErrorKind → String
  | validation => "Validation"
  | internal => "Internal"
  | outOfMemory => "OutOfMemory"

/-- The outcome of asking a surface for its next texture. -/
inductive FrameResult where
  | ready
  | timeout
  | outdated
  | lost
  | outOfMemory
  | other
  deriving DecidableEq, Repr

namespace FrameResult

def name : FrameResult → String
  | ready => "ok"
  | timeout => "Timeout"
  | outdated => "Outdated"
  | lost => "Lost"
  | outOfMemory => "OutOfMemory"
  | other => "Other"

def reason : FrameResult → String
  | ready => ""
  | timeout => "A timeout was encountered while trying to acquire the next frame"
  | outdated =>
    "The underlying surface has changed, and therefore the swap chain must be updated"
  | lost => "The swap chain has been lost and needs to be recreated"
  | outOfMemory => "There is no more memory left to allocate a new frame"
  | other =>
    "Acquiring a texture failed with a generic error. Check error callbacks for more information"

end FrameResult

/-- The limits that a device is requested with. -/
structure Limits where
  texture1d : Nat
  texture2d : Nat
  texture3d : Nat
  storageBuffers : Nat
  arrayStride : Nat
  deriving DecidableEq, Repr

/-- How the frames of a surface look. -/
structure SurfaceConfig where
  format : String
  dims : Dims
  alpha : String
  deriving DecidableEq, Repr

/-- The language a shader module is written in. -/
inductive ShaderLanguage where
  | wgsl
  | glsl (stage : ShaderStage)
  deriving DecidableEq, Repr

inductive BindingType where
  | uniformBuffer
  | sampler
  | texture
  deriving DecidableEq, Repr

def BindingType.text : BindingType → String
  | uniformBuffer => "Buffer(Uniform,dynamic=false,min=0)"
  | sampler => "Sampler(Filtering)"
  | texture => "Texture(filterable,D2,multisampled=false)"

structure LayoutEntry where
  slot : Nat
  visibility : List ShaderStage
  type : BindingType
  deriving DecidableEq, Repr

def LayoutEntry.text (entry : LayoutEntry) : String :=
  let stage : ShaderStage → String
    | .vertex => "VERTEX"
    | .fragment => "FRAGMENT"
  toString entry.slot ++ ":" ++ "|".intercalate (entry.visibility.map stage) ++ ":" ++
    entry.type.text

inductive Bound where
  | buffer (object : Nat)
  | sampler (object : Nat)
  | view (object : Nat)
  deriving DecidableEq, Repr

def Bound.text : Bound → String
  | buffer object => "buffer#" ++ toString object
  | sampler object => "sampler#" ++ toString object
  | view object => "view#" ++ toString object

structure PipelineShape where
  label : String
  layout : Nat
  vertex : Nat
  fragment : Nat
  layouts : List VertexLayout
  format : String
  counterClockwise : Bool
  cullBackFaces : Bool

inductive Call where
  | openInstance (api : Api)
  | requestAdapter (fallback withSurface : Bool)
  | requestDevice (label : String) (limits : Limits)
  | createSurface
  | getCapabilities
  | configure (config : SurfaceConfig)
  | currentTexture (result : FrameResult)
  | pushScope (filter : ErrorKind)
  | popScope
  | listen
  | shaderModule (object : Nat) (label : String) (language : ShaderLanguage) (source : String)
  | bindGroupLayout (object : Nat) (label : String) (entries : List LayoutEntry)
  | pipelineLayout (object : Nat) (label : String) (groups : List Nat)
  | renderPipeline (object : Nat) (shape : PipelineShape)
  | createBuffer (object : Nat) (label : String) (size : Nat) (usage : BufferUsage)
  | unmap (object : Nat) (contents : Bytes)
  | createTexture (object : Nat) (label : String) (dims : Dims)
  | createView (object texture : Nat)
  | createSampler (object : Nat) (label : String) (wrap : Wrap) (filter : Filter)
  | bindGroup (object : Nat) (label : String) (layout : Nat) (entries : List (Nat × Bound))
  | writeTexture (object : Nat) (region : Region) (bytes : Bytes)
  | commandEncoder (label : String)
  | beginPass (label : String) (view : Nat)
  | setViewport (viewport : Viewport)
  | setPipeline (object : Nat)
  | setBindGroup (index object : Nat)
  | setVertexBuffer (slot object : Nat)
  | setIndexBuffer (object : Nat)
  | drawIndexed (count : Nat)
  | endPass
  | submit
  | present
  | destroyBuffer (object : Nat)
  | destroyTexture (object : Nat)

private def tag (object : Nat) : String := "#" ++ toString object

private def words (parts : List String) : String := " ".intercalate parts

private def commas (parts : List String) : String := ",".intercalate parts

private def flag (b : Bool) : String := if b then "true" else "false"

private def bufferFlags : BufferUsage → String
  | .vertex => "COPY_DST|VERTEX"
  | .index => "COPY_DST|INDEX"
  | .uniform => "COPY_DST|UNIFORM"

private def bits (x : Binary) : String := hexWord (Format.single.toBits x)

def Limits.text (limits : Limits) : String :=
  words
    ["max_1d=" ++ toString limits.texture1d, "max_2d=" ++ toString limits.texture2d,
     "max_3d=" ++ toString limits.texture3d, "storage_buffers=" ++ toString limits.storageBuffers,
     "array_stride=" ++ toString limits.arrayStride]

def ShaderLanguage.text : ShaderLanguage → String
  | wgsl => "wgsl"
  | glsl .vertex => "glsl Vertex defines=0"
  | glsl .fragment => "glsl Fragment defines=0"

def PipelineShape.text (shape : PipelineShape) : String :=
  let buffer (layout : VertexLayout) :=
    toString layout.stride ++ "/Vertex" ++ layout.attributeText
  words
    [shape.label, "layout=" ++ tag shape.layout, "vertex=" ++ tag shape.vertex ++ "/main",
     "buffers=" ++ ";".intercalate (shape.layouts.map buffer),
     "fragment=" ++ tag shape.fragment ++ "/main",
     "targets=" ++ shape.format ++ "/blend=false/15", "topology=TriangleList",
     "front=" ++ (if shape.counterClockwise then "Ccw" else "Cw"),
     "cull=" ++ (if shape.cullBackFaces then "Back" else "none"), "samples=1", "depth=false"]

def Call.text : Call → String
  | openInstance api => words ["instance", api.name]
  | requestAdapter fallback withSurface =>
    words
      ["request_adapter", if fallback then "power=None" else "power=HighPerformance",
       "fallback=" ++ flag fallback, "surface=" ++ flag withSurface]
  | requestDevice label limits =>
    words ["request_device", label, limits.text, "features=none hints=Performance"]
  | createSurface => "create_surface"
  | getCapabilities => "get_capabilities"
  | configure config =>
    words
      ["configure", config.format, config.dims.text,
       "usage=RENDER_ATTACHMENT present=AutoVsync latency=2", "alpha=" ++ config.alpha, "views=0"]
  | currentTexture result => words ["get_current_texture", result.name]
  | pushScope filter => words ["push_error_scope", filter.name]
  | popScope => "pop_error_scope"
  | listen => "on_uncaptured_error"
  | shaderModule object label language source =>
    words
      ["shader_module", tag object, label, language.text,
       "length=" ++ toString source.utf8ByteSize]
  | bindGroupLayout object label entries =>
    words (["bind_group_layout", tag object, label] ++ entries.map LayoutEntry.text)
  | pipelineLayout object label groups =>
    words ["pipeline_layout", tag object, label, commas (groups.map tag), "push=0"]
  | renderPipeline object shape => words ["render_pipeline", tag object, shape.text]
  | createBuffer object label size usage =>
    words
      ["create_buffer", tag object, label, "size=" ++ toString size, "usage=" ++ bufferFlags usage,
       "mapped=true"]
  | unmap object contents => words ["unmap", tag object, "bytes=" ++ contents.runs]
  | createTexture object label dims =>
    words
      ["create_texture", tag object, label, dims.text ++ "x1",
       "D2 R8Unorm usage=COPY_DST|TEXTURE_BINDING mips=1 samples=1"]
  | createView object texture => words ["create_view", tag object, "of", tag texture]
  | createSampler object label wrap filter =>
    words
      ["create_sampler", tag object, label, "address=" ++ commas [wrap.name, wrap.name, wrap.name],
       "mag=" ++ filter.name, "min=" ++ filter.name, "mip=Nearest"]
  | bindGroup object label layout entries =>
    words
      (["bind_group", tag object, label, "layout=" ++ tag layout] ++
        entries.map fun (slot, bound) => toString slot ++ "=" ++ bound.text)
  | writeTexture object region bytes =>
    words
      ["write_texture", tag object, "mip=0",
       "origin=" ++ commas [toString region.x, toString region.y, "0"], "aspect=All offset=0",
       "bpr=" ++ toString region.bytesPerRow, "rows=" ++ toString region.dims.height,
       "size=" ++ region.dims.text ++ "x1", "bytes=" ++ bytes.runs]
  | commandEncoder label => words ["command_encoder", label]
  | beginPass label view =>
    words ["begin_render_pass", label, "view=" ++ tag view, "clear(0,0,0,1) Store"]
  | setViewport viewport =>
    words
      ["set_viewport", bits viewport.x, bits viewport.y, bits viewport.width,
       bits viewport.height, bits (Format.single.ofNat 0), bits (Format.single.ofNat 1)]
  | setPipeline object => words ["set_pipeline", tag object]
  | setBindGroup index object => words ["set_bind_group", toString index, tag object]
  | setVertexBuffer slot object => words ["set_vertex_buffer", toString slot, tag object]
  | setIndexBuffer object => words ["set_index_buffer", tag object, "Uint16"]
  | drawIndexed count =>
    words ["draw_indexed", "0.." ++ toString count, "base=0 instances=0..1"]
  | endPass => "end_render_pass"
  | submit => "submit 1"
  | present => "present"
  | destroyBuffer object => words ["destroy buffer", tag object]
  | destroyTexture object => words ["destroy texture", tag object]

end FrameViewer.Gpu
