import FrameViewer.Platform

/-! The last line of defence: a failure is logged and drawn as text. A drawing surface takes the
text as it is; a console keeps it as its only line and puts it into the window's title. -/

namespace FrameViewer

/-- Where the text begins, and its height, in pixels. -/
def errorTextPosition : Nat × Nat := (16, 32)

def errorTextSize : Nat := 16

inductive ErrorScreen where
  | drawing
  | console (window : Bool) (lines : List String)
  deriving DecidableEq

namespace ErrorScreen

def lines? : ErrorScreen → Option (List String)
  | drawing => none
  | console _ lines => some lines

def clear : Act ErrorScreen Unit := do
  match ← Act.own with
  | .drawing => Act.emit .screenCleared
  | .console window _ => Act.setOwn (.console window [])

def fillText (text : String) : Act ErrorScreen Unit := do
  match ← Act.own with
  | .drawing => Act.emit (.screenText text)
  | .console window lines =>
    if window then Act.emit (.windowTitle ("chipview: " ++ text))
    Act.setOwn (.console window (lines ++ [text]))

/-- Shows a message in place of all that was there. -/
def present (message : String) : Act ErrorScreen Unit := do
  Act.notify (.failed message)
  clear
  fillText message

/-- The value of a result; an error is shown instead. -/
def guard {α : Type} (result : Except RenderError α) : Act ErrorScreen (Option α) := do
  match result with
  | .ok value => return some value
  | .error cause =>
    present cause.message
    return none

end ErrorScreen
end FrameViewer
