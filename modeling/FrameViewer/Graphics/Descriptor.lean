import FrameViewer.Graphics.Tier
import FrameViewer.Text.Bytes

/-! What a tier is asked for: descriptions of the objects to create, regions to upload and draws
to record. Objects are addressed by the numbers under which the tier handed them out. -/

namespace FrameViewer

/-- A width and a height in pixels. -/
structure Dims where
  width : Nat
  height : Nat
  deriving DecidableEq, Repr

namespace Dims

def area (dims : Dims) : Nat :=
  dims.width * dims.height

def isEmpty (dims : Dims) : Bool :=
  dims.area == 0

def text (dims : Dims) : String :=
  toString dims.width ++ "x" ++ toString dims.height

end Dims

inductive ResourceId where
  | buffer (id : Nat)
  | texture (id : Nat)
  | sampler (id : Nat)
  | pipeline (id : Nat)
  deriving DecidableEq, Repr

def ResourceId.text : ResourceId → String
  | buffer id => "Buffer " ++ toString id
  | texture id => "Texture " ++ toString id
  | sampler id => "Sampler " ++ toString id
  | pipeline id => "Pipeline " ++ toString id

def ResourceId.number : ResourceId → Nat
  | buffer id | texture id | sampler id | pipeline id => id

inductive BufferUsage where
  | vertex
  | index
  | uniform
  deriving DecidableEq, Repr

def BufferUsage.name : BufferUsage → String
  | vertex => "Vertex"
  | index => "Index"
  | uniform => "Uniform"

structure BufferDesc where
  label : String
  usage : BufferUsage
  /-- The allocation, already rounded to the tier's alignment. -/
  size : Nat
  /-- May be shorter than the allocation; the rest is zero. -/
  contents : Bytes

/-- A texture of one 8-bit channel that is only written by uploads. -/
structure TextureDesc where
  label : String
  dims : Dims

inductive Filter where
  | nearest
  | linear
  deriving DecidableEq, Repr

def Filter.name : Filter → String
  | nearest => "Nearest"
  | linear => "Linear"

inductive Wrap where
  | tile
  | clampToEdge
  deriving DecidableEq, Repr

def Wrap.name : Wrap → String
  | tile => "Repeat"
  | clampToEdge => "ClampToEdge"

structure SamplerDesc where
  label : String
  filter : Filter
  wrap : Wrap

inductive AttributeFormat where
  | float2
  | float3
  deriving DecidableEq, Repr

def AttributeFormat.name : AttributeFormat → String
  | float2 => "Float32x2"
  | float3 => "Float32x3"

/-- The bytes of one attribute. -/
def AttributeFormat.size : AttributeFormat → Nat
  | float2 => 8
  | float3 => 12

structure VertexAttribute where
  location : Nat
  offset : Nat
  format : AttributeFormat
  deriving DecidableEq, Repr

structure VertexLayout where
  stride : Nat
  attributes : List VertexAttribute
  deriving DecidableEq, Repr

/-- The attributes of a layout as `[LOCATION@OFFSET:FORMAT,...]`. -/
def VertexLayout.attributeText (layout : VertexLayout) : String :=
  let one (a : VertexAttribute) :=
    toString a.location ++ "@" ++ toString a.offset ++ ":" ++ a.format.name
  "[" ++ ",".intercalate (layout.attributes.map one) ++ "]"

structure PipelineDesc where
  label : String
  layouts : List VertexLayout
  uniforms : Nat
  texture : Nat
  sampler : Nat
  counterClockwise : Bool
  cullBackFaces : Bool

def PipelineDesc.frontName (desc : PipelineDesc) : String :=
  if desc.counterClockwise then "Ccw" else "Cw"

/-- Part of a texture, and how far apart the rows of its source are. -/
structure Region where
  x : Nat
  y : Nat
  dims : Dims
  bytesPerRow : Nat
  deriving DecidableEq, Repr

structure DrawCall where
  pipeline : Nat
  positions : Nat
  colors : Nat
  indices : Nat
  count : Nat
  deriving DecidableEq, Repr

end FrameViewer
