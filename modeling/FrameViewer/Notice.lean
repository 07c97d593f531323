import FrameViewer.Graphics.Descriptor
import FrameViewer.Graphics.Error
import FrameViewer.Loop.Report
import FrameViewer.Text.Quoted

/-! What the viewer tells its log. A notice is a fact with its details; how urgent it is and how
it is worded is said here once. -/

namespace FrameViewer

inductive Level where
  | error
  | warn
  | info
  | debug
  | trace
  deriving DecidableEq, Repr

def Level.name : Level → String
  | error => "ERROR"
  | warn => "WARN"
  | info => "INFO"
  | debug => "DEBUG"
  | trace => "TRACE"

/-- How little urgent a level is. -/
def Level.rank : Level → Nat
  | error => 1
  | warn => 2
  | info => 3
  | debug => 4
  | trace => 5

inductive Notice where
  | loadingRom (name : String) (size : Nat)
  | dimsChanged (dims : Dims)
  | frameSuperseded (generation : Nat)
  | noRedraw (ticks : Nat)
  | tearingDown (tier : Tier)
  | trying (tier : Tier)
  | renderingUsing (tier : Tier)
  | rejected (tier : Tier) (cause : RenderError)
  | exhausted (failure : RenderError)
  | rollingBack (count : Nat) (tier : Tier)
  | built (tier : Tier) (dims : Dims)
  | failed (message : String)
  | audioRunning (rate : Nat)
  | audioMissing
  | beepCut
  | starting
  | started
  | windowFailed (reason : String)
  | renderingWith (tier : Tier)
  | romReceived
  | closing
  | stopping
  | framePresented (ticks : Nat)
  | frameEnded (report : FrameReport)
  | keypad (slot : Nat) (down : Bool)
  | romIgnored (name : String)
  | romLoaded (name : String)
  | unreadable (path reason : String)
  | closeRequested
  | romEmpty
  | adapterFound (tier : Tier) (name : String)
  | forcingFallback
  | shadersValid (tier : Tier)
  | deviceError (text : String)
  | pipelineReady (tier : Tier) (format : String)
  | surfaceTimeout

namespace Notice

def level : Notice → Level
  | exhausted _ | failed _ | windowFailed _ | unreadable .. | deviceError _ => .error
  | noRedraw _ | rejected .. | rollingBack .. | audioMissing | beepCut | closing | stopping
  | romIgnored _ | romEmpty | forcingFallback => .warn
  | loadingRom .. | tearingDown _ | trying _ | renderingUsing _ | audioRunning _ | starting
  | started | renderingWith _ | romReceived | romLoaded _ | closeRequested | adapterFound .. =>
    .info
  | dimsChanged _ | frameSuperseded _ | built .. | framePresented _ | frameEnded _ | keypad ..
  | shadersValid _ | pipelineReady .. | surfaceTimeout => .debug

/-- An adapter as its description lists it; everything but the name is unknown. -/
def adapterText (name : String) : String :=
  "AdapterInfo \x7b name: " ++ Text.quoted name ++
    ", vendor: 0, device: 0, device_type: Other, driver: \"\", driver_info: \"\", backend: Empty \x7d"

def message : Notice → String
  | loadingRom name size => "loading rom '" ++ name ++ "' (" ++ toString size ++ " bytes)"
  | dimsChanged dims => "framebuffer changed to " ++ dims.text ++ ", rebuilding resources"
  | frameSuperseded generation => "frame for generation " ++ toString generation ++ " superseded"
  | noRedraw ticks => "no redraw after " ++ toString ticks ++ " ticks, presenting anyway"
  | tearingDown tier => "tearing down " ++ tier.title ++ " before renegotiating"
  | trying tier => "trying " ++ tier.title ++ " backend"
  | renderingUsing tier => "rendering using " ++ tier.title
  | rejected tier cause => tier.title ++ " rejected: " ++ cause.message
  | exhausted failure => failure.chain
  | rollingBack count tier => "rolling back " ++ toString count ++ " " ++ tier.title ++ " resources"
  | built tier dims => tier.title ++ " resources built for " ++ dims.text ++ " framebuffer"
  | failed message => message
  | audioRunning rate => "audio running at " ++ toString rate ++ " Hz"
  | audioMissing => "no audio device available, beeps are muted"
  | beepCut => "beep queue full; dropping the rest of the beep"
  | starting => "initializing..."
  | started => "initialized"
  | windowFailed reason => "failed to create window: " ++ reason
  | renderingWith tier => "rendering with the " ++ tier.title ++ " backend"
  | romReceived => "loading new rom into rust memory"
  | closing => "closing viewer"
  | stopping => "stopping frame loop"
  | framePresented ticks => "presented after " ++ toString ticks ++ " ticks"
  | frameEnded report => "frame callback: " ++ report.name
  | keypad slot down =>
    "keypad slot " ++ toString slot ++ (if down then " Pressed" else " Released")
  | romIgnored name => "renderer is gone, ignoring rom '" ++ name ++ "'"
  | romLoaded name => "successfully loaded " ++ name
  | unreadable path reason => "couldn't read " ++ path ++ ": " ++ reason
  | closeRequested => "close requested, stopping"
  | romEmpty => "ignoring empty rom"
  | adapterFound tier name =>
    (if tier = .modern then "modern" else "legacy") ++ " adapter: " ++ adapterText name
  | forcingFallback => "failed to find GL adapter, forcing fallback"
  | shadersValid tier => tier.title ++ " shaders validated"
  | deviceError text => "wgpu: " ++ text
  | pipelineReady tier format => tier.title ++ " pipeline ready (" ++ format ++ ")"
  | surfaceTimeout => "surface timed out, dropping frame"

end Notice
end FrameViewer
