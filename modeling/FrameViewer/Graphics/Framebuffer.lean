import FrameViewer.Graphics.Descriptor
import FrameViewer.Graphics.Error

/-! An engine's pixels with the dimensions it claims for them. A reader gets the pixels only when
both agree. -/

namespace FrameViewer

structure Framebuffer where
  dims : Dims
  pixels : Bytes

namespace Framebuffer

/-- The pixels, when there are exactly as many as the dimensions say. -/
def read (frame : Framebuffer) : Except RenderError Bytes :=
  if frame.pixels.size = frame.dims.area then .ok frame.pixels
  else .error (.frameSize frame.dims.area frame.pixels.size)

/-- The same check on a copy, and the copy itself, which holds all the pixels either way. -/
def copyOut (frame : Framebuffer) : Except RenderError Bytes × Bytes :=
  (frame.read, frame.pixels)

/-- The pixels row by row, a character for each: blank when dark, a hash when lit. -/
def rows (frame : Framebuffer) : List String :=
  (List.range frame.dims.height).map fun y =>
    String.ofList ((List.range frame.dims.width).map fun x =>
      if frame.pixels.getD (y * frame.dims.width + x) 0 = 0 then ' ' else '#')

end Framebuffer
end FrameViewer
