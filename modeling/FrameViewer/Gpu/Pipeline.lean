import FrameViewer.Gpu.Device
import FrameViewer.Gpu.Shader
import FrameViewer.Graphics.Quad

/-! The device objects that draw the quad, and the check that a tier's shaders compile and link
before anything is drawn with them. -/

namespace FrameViewer.Gpu

/-- Numbers of the layouts of both bind groups. -/
structure GroupLayouts where
  uniforms : Nat
  texture : Nat

structure ShaderModules where
  vertex : Nat
  fragment : Nat

/-- What a pipeline draws with, apart from its shaders and layouts. -/
structure PipelineChoice where
  label : String
  layouts : List VertexLayout
  counterClockwise : Bool
  cullBackFaces : Bool
  format : String

namespace Device

def shaderModule (dialect : ShaderDialect) (stage : ShaderStage) : Act Device Nat :=
  let language : ShaderLanguage := match dialect with
    | .wgsl => .wgsl
    | .glsl => .glsl stage
  let label := dialect.label stage
  make label fun object => .shaderModule object label language (dialect.source stage)

def groupLayout (label : String) (entries : List LayoutEntry) : Act Device Nat :=
  make label fun object => .bindGroupLayout object label entries

/-- The uniform block for both stages; sampler and texture for the fragment stage. -/
def groupLayouts : Act Device GroupLayouts := do
  let uniforms ← groupLayout "quad-uniforms-bgl"
    [{ slot := 0, visibility := [.vertex, .fragment], type := .uniformBuffer }]
  let texture ← groupLayout "quad-texture-bgl"
    [{ slot := 1, visibility := [.fragment], type := .sampler },
     { slot := 2, visibility := [.fragment], type := .texture }]
  return { uniforms, texture }

def renderPipeline (choice : PipelineChoice) (modules : ShaderModules) (groups : GroupLayouts) :
    Act Device Nat := do
  let layout ← make "quad-pl" fun object =>
    .pipelineLayout object "quad-pl" [groups.uniforms, groups.texture]
  make choice.label fun object => .renderPipeline object
    { label := choice.label
      layout
      vertex := modules.vertex
      fragment := modules.fragment
      layouts := choice.layouts
      format := choice.format
      counterClockwise := choice.counterClockwise
      cullBackFaces := choice.cullBackFaces }

/-- Runs an action inside a validation scope of its own. An error that the scope caught becomes a
refusal. -/
def inScope {α : Type} (action : Act Device α) (into : String → RenderError) : Act Device α := do
  pushScope .validation
  let value ← action
  match ← popScope with
  | some e => Act.refuse (into e.text)
  | none => return value

/-- Compiles each stage and links both, one validation scope after another. -/
def validateShaders (tier : Tier) (format : String) : Act Device Unit := do
  let dialect := ShaderDialect.ofTier tier
  let vertex ← inScope (shaderModule dialect .vertex) (.compile .vertex)
  let fragment ← inScope (shaderModule dialect .fragment) (.compile .fragment)
  let choice : PipelineChoice :=
    { label := "quad-pipeline-check"
      layouts := Quad.layouts
      counterClockwise := false
      cullBackFaces := false
      format }
  let _ ← inScope (do renderPipeline choice { vertex, fragment } (← groupLayouts)) .link
  Act.notify (.shadersValid tier)

end Device
end FrameViewer.Gpu
