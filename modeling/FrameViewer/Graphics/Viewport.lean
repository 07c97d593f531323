import FrameViewer.Arithmetic.Binary

/-! Where the picture goes on a surface of another shape. All arithmetic is in single precision. -/

namespace FrameViewer

structure Viewport where
  x : Binary
  y : Binary
  width : Binary
  height : Binary
  deriving DecidableEq

def displayAspect : Binary := Format.single.ofNat 2

/-- The largest rectangle of that aspect, centred in the surface and moved to whole pixels. -/
def fitAspect (width height : Nat) (aspect : Binary) : Viewport :=
  let f := Format.single
  let zero := f.ofNat 0
  if width = 0 ∨ height = 0 then ⟨zero, zero, zero, zero⟩
  else
    let w := f.ofNat width
    let h := f.ofNat height
    let fitted :=
      if aspect.lt (w.div f h) then (h.mul f aspect, h) else (w, w.div f aspect)
    let half (x : Binary) := (x.div f (f.ofNat 2)).floor f
    ⟨half (w.sub f fitted.1), half (h.sub f fitted.2), fitted.1, fitted.2⟩

end FrameViewer
