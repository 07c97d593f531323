/-! How one display callback ended. -/

namespace FrameViewer

inductive FrameReport where
  | presented (ticks : Nat)
  /-- Another callback owns the frame, or the loop was stopped. -/
  | skipped
  /-- A new program took over while the callback was paused. -/
  | superseded
  deriving DecidableEq, Repr

def FrameReport.name : FrameReport → String
  | presented _ => "Presented"
  | skipped => "Skipped"
  | superseded => "Superseded"

end FrameViewer
