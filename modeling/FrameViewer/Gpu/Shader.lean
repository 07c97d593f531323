import FrameViewer.Graphics.Error
import FrameViewer.Graphics.Tier

/-! The shader texts of each tier. Stages are separate modules, so that a failure names the stage
that broke. -/

namespace FrameViewer.Gpu

inductive ShaderDialect where
  | wgsl
  | glsl
  deriving DecidableEq, Repr

def ShaderDialect.name : ShaderDialect → String
  | wgsl => "Wgsl"
  | glsl => "Glsl"

/-- The legacy tier takes the older dialect, every other tier the newer one. -/
def ShaderDialect.ofTier : Tier → ShaderDialect
  | .legacy => glsl
  | _ => wgsl

def ShaderDialect.label : ShaderDialect → ShaderStage → String
  | wgsl, .vertex => "quad.vert.wgsl"
  | wgsl, .fragment => "quad.frag.wgsl"
  | glsl, .vertex => "quad.vert"
  | glsl, .fragment => "quad.frag"

def ShaderDialect.lines : ShaderDialect → ShaderStage → List String
  | wgsl, .vertex =>
    ["struct Uniforms \x7b",
     "    model_view_proj: mat4x4<f32>,",
     "    primary_color: vec4<f32>,",
     "    accent_color: vec4<f32>,",
     "\x7d;",
     "",
     "@group(0) @binding(0) var<uniform> uniforms: Uniforms;",
     "",
     "struct VertexOutput \x7b",
     "    @builtin(position) position: vec4<f32>,",
     "    @location(0) tex_coord: vec2<f32>,",
     "    @location(1) color: vec3<f32>,",
     "\x7d;",
     "",
     "@vertex",
     "fn main(",
     "    @location(0) vert_coord: vec2<f32>,",
     "    @location(1) color: vec3<f32>,",
     "    @location(2) tex_coord: vec2<f32>,",
     ") -> VertexOutput \x7b",
     "    var out: VertexOutput;",
     "    out.position = uniforms.model_view_proj * vec4<f32>(vert_coord, 0.0, 1.0);",
     "    out.tex_coord = tex_coord;",
     "    out.color = color;",
     "    return out;",
     "\x7d"]
  | wgsl, .fragment =>
    ["struct Uniforms \x7b",
     "    model_view_proj: mat4x4<f32>,",
     "    primary_color: vec4<f32>,",
     "    accent_color: vec4<f32>,",
     "\x7d;",
     "",
     "@group(0) @binding(0) var<uniform> uniforms: Uniforms;",
     "@group(1) @binding(1) var frame_sampler: sampler;",
     "@group(1) @binding(2) var frame: texture_2d<f32>;",
     "",
     "@fragment",
     "fn main(@location(0) tex_coord: vec2<f32>) -> @location(0) vec4<f32> \x7b",
     "    // pixels are stored as 0/1, which r8unorm reads back as 0 and 1/255",
     "    let lit = clamp(textureSample(frame, frame_sampler, tex_coord).r * 255.0, 0.0, 1.0);",
     "    return mix(uniforms.primary_color, uniforms.accent_color, lit);",
     "\x7d"]
  | glsl, .vertex =>
    ["#version 450",
     "",
     "layout(location = 0) in vec2 aVertCoord;",
     "layout(location = 1) in vec3 aColor;",
     "layout(location = 2) in vec2 aTexCoord;",
     "",
     "layout(set = 0, binding = 0) uniform Uniforms \x7b",
     "    mat4 uModelViewProj;",
     "    vec4 uPrimaryColor;",
     "    vec4 uAccentColor;",
     "\x7d;",
     "",
     "layout(location = 0) out vec2 vTexCoord;",
     "layout(location = 1) out vec3 vColor;",
     "",
     "void main() \x7b",
     "    vTexCoord = aTexCoord;",
     "    vColor = aColor;",
     "    gl_Position = uModelViewProj * vec4(aVertCoord, 0.0, 1.0);",
     "\x7d"]
  | glsl, .fragment =>
    ["#version 450",
     "",
     "layout(location = 0) in vec2 vTexCoord;",
     "",
     "layout(set = 0, binding = 0) uniform Uniforms \x7b",
     "    mat4 uModelViewProj;",
     "    vec4 uPrimaryColor;",
     "    vec4 uAccentColor;",
     "\x7d;",
     "",
     "layout(set = 1, binding = 1) uniform sampler uSampler;",
     "layout(set = 1, binding = 2) uniform texture2D uTexture;",
     "",
     "layout(location = 0) out vec4 outColor;",
     "",
     "void main() \x7b",
     "    float lit = clamp(texture(sampler2D(uTexture, uSampler), vTexCoord).r * 255.0, 0.0, 1.0);",
     "    outColor = mix(uPrimaryColor, uAccentColor, lit);",
     "\x7d"]

/-- The text of the module of a stage; every line ends in a line feed. -/
def ShaderDialect.source (dialect : ShaderDialect) (stage : ShaderStage) : String :=
  String.join ((dialect.lines stage).map (· ++ "\n"))

end FrameViewer.Gpu
