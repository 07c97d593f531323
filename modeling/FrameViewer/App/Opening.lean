import FrameViewer.App.Events

/-! The opening of a run: the window comes up, a tier is negotiated, and the first picture is
shown. -/

namespace FrameViewer.App

/-- Rounds of the event loop, with the clock moved on by a pause after each. -/
def rounds (throttle : Nat) : Nat → List AppEvent
  | 0 => []
  | count + 1 => .idle :: .advance throttle :: rounds throttle count

/-- A picture is unpacked row by row, with a pause after each row. -/
def opening (throttle : Nat) : List AppEvent :=
  [.resumed, .idle, .redraw] ++ rounds throttle Player.height

def handleAll (events : List AppEvent) : Act App Unit :=
  events.forM handle

def picture? (app : App) : Option Framebuffer :=
  match app.2.stage with
  | .starting _ => none
  | .showing s => some (Engine.screen s.loop.session.engine)

/-- Runs the opening on the tiers with drivers. -/
def runOpening {σ : Type} (settings : Settings) : Act σ (Option Framebuffer) := do
  let app ← create settings (Probe.forDrivers settings.preference) [] none
  let (result, app) ← Act.apart app (handleAll (opening settings.loop.throttle))
  Act.settle result
  return app.picture?

end FrameViewer.App
