import FrameViewer.Audio.Tone
import FrameViewer.Engine.Basic
import FrameViewer.Gpu.Call
import FrameViewer.Notice

/-! Everything that a run does to its surroundings, in order. Most events have a line in a
report. Steps of an engine, tiers acquired and dropped, numbers handed out and taken back, beeps
that are due, blocks of sound, redraws that the window delivers and failures on their way to the
event loop have none. -/

namespace FrameViewer

inductive TierCall where
  | createBuffer (desc : BufferDesc) (showContents : Bool)
  | createTexture (desc : TextureDesc)
  | createSampler (desc : SamplerDesc)
  | createPipeline (desc : PipelineDesc)
  | upload (texture : Nat) (region : Region) (bytes : Bytes)
  | draw (call : DrawCall)
  | resize (size : Dims)
  | release (id : ResourceId) (stale : Bool)
  | drop (live : Nat)

/-- Who a callback asks for the next one. -/
inductive Host where
  | display
  | window
  deriving DecidableEq, Repr

inductive Event where
  | notice (notice : Notice)
  | acquire (tier : Tier) (nth : Nat)
  /-- An acquisition gave a tier. -/
  | opened (tier : Tier)
  /-- A tier that was acquired is dropped. -/
  | closed (tier : Tier)
  | tier (tier : Tier) (call : TierCall)
  /-- A tier keeps a new object and hands out a number for it; `object` is the number that its
  device has for it. -/
  | handedOut (tier : Tier) (id : ResourceId) (object : Nat)
  /-- A number is given back to a tier; it is stale when the tier has no object for it. -/
  | takenBack (tier : Tier) (id : ResourceId) (stale : Bool)
  | gpu (call : Gpu.Call)
  | engine (serial : Option Nat) (call : EngineCall)
  /-- A beep is due, whatever it is played with. -/
  | cued
  | beep
  | frameRequested (host : Host)
  /-- The window delivers a redraw. What was asked of it before is done with that. -/
  | redrawn
  | soundPlayed (block : Audio.Block)
  /-- The event loop is given a failure to look at. -/
  | raised (cause : RenderError)
  | screenCleared
  | screenText (text : String)
  | windowTitle (title : String)
  | windowCreated (title : String) (least initial : Dims)
  | exit
  | nudge
  | taskText (name text : String) (ms : Int)
  | taskEnd (name : String)

private def spaced (parts : List String) : String := " ".intercalate parts

def TierCall.text : TierCall → String
  | createBuffer desc showContents =>
    spaced
      ["create_buffer", desc.label, desc.usage.name, "size=" ++ toString desc.size,
       "contents=" ++ if showContents then desc.contents.hex else toString desc.contents.size]
  | createTexture desc => spaced ["create_texture", desc.label, desc.dims.text, "R8Unorm"]
  | createSampler desc => spaced ["create_sampler", desc.label, desc.filter.name, desc.wrap.name]
  | createPipeline desc =>
    let layout (l : VertexLayout) := toString l.stride ++ l.attributeText
    spaced
      ["create_pipeline", desc.label, "layouts=" ++ ";".intercalate (desc.layouts.map layout),
       "uniforms=" ++ toString desc.uniforms, "texture=" ++ toString desc.texture,
       "sampler=" ++ toString desc.sampler, "front=" ++ desc.frontName,
       "cull=" ++ if desc.cullBackFaces then "true" else "false"]
  | upload texture region bytes =>
    spaced
      ["upload", toString texture, "origin=" ++ toString region.x ++ "," ++ toString region.y,
       "size=" ++ region.dims.text, "bpr=" ++ toString region.bytesPerRow, "bytes=" ++ bytes.runs]
  | draw call =>
    spaced
      ["submit_frame", "pipeline=" ++ toString call.pipeline,
       "vertex=" ++ toString call.positions ++ "," ++ toString call.colors,
       "index=" ++ toString call.indices, "count=" ++ toString call.count]
  | resize size => "resize " ++ size.text
  | release id stale => "release " ++ id.text ++ if stale then " stale" else ""
  | drop live => "drop live=" ++ toString live

private def pair (dims : Dims) : String :=
  "Some((" ++ toString dims.width ++ ", " ++ toString dims.height ++ "))"

/-- The line of an event in a report, if it has one. -/
def Event.line? : Event → Option String
  | notice n => some (spaced ["log", n.level.name, n.message])
  | acquire kind nth => some (spaced ["acquire", kind.name, toString nth])
  | .tier kind call => some (spaced [kind.name, call.text])
  | gpu call => some ("wgpu " ++ call.text)
  | engine serial call => serial.bind call.line?
  | beep => some "beep"
  | frameRequested .display => some "request_frame"
  | frameRequested .window => some "window request_redraw"
  | opened _ | closed _ | handedOut .. | takenBack .. | cued | soundPlayed _ | redrawn | raised _ =>
    none
  | screenCleared => some "surface clear"
  | screenText text => some ("surface fill_text 16 32 16 " ++ text)
  | windowTitle title => some ("window set_title " ++ title)
  | windowCreated title least initial =>
    some
      (spaced ["event_loop create_window", "title=" ++ title, "min=" ++ pair least,
        "inner=" ++ pair initial])
  | exit => some "event_loop exit"
  | nudge => some "proxy send_event"
  | taskText name text ms => some (name ++ ": " ++ text ++ " at " ++ toString ms)
  | taskEnd name => some (name ++ ": end")

end FrameViewer
