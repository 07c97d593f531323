import FrameViewer.Engine.Player
import FrameViewer.Files
import FrameViewer.Graphics.Tier
import FrameViewer.Loop.Config

/-! What the viewer is started with. -/

namespace FrameViewer

structure Settings where
  rom : Rom := Player.demo
  loop : LoopConfig := {}
  preference : Preference := .auto
  /-- The window's size as a multiple of the framebuffer. -/
  scale : Nat := 10

end FrameViewer
