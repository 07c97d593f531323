import FrameViewer.Engine.Player
import FrameViewer.Proofs.LoopChanges

/-! A player's picture always fills its screen, whatever program it runs and however far it got,
so a session of players is never refused for the size of its frame. -/

namespace FrameViewer

/-- There is a pixel for every place of the screen, and the current row is one of its rows. -/
structure Player.Whole (player : Player) : Prop where
  pixels : player.pixels.size = width * height
  row : player.row < height

namespace Player

variable {player later : Player}

theorem blank_whole : blank.Whole :=
  ⟨by simp [blank, Bytes.fill], by decide⟩

theorem Whole.unpackRow {pixels : Bytes} (whole : player.Whole)
    (unpacked : player.unpackRow = some pixels) : pixels.size = width * height := by
  simp only [Player.unpackRow] at unpacked
  split at unpacked
  · cases unpacked
  · obtain rfl := Option.some.inj unpacked
    have size := whole.pixels
    have row := whole.row
    simp only [width, height] at size row ⊢
    simp only [unpackedRow, width, List.size_toArray, List.length_append, List.length_take,
      List.length_drop, List.length_map, List.length_range, Array.length_toList, size]
    omega

private theorem advance_whole {pixels : Bytes} (size : pixels.size = width * height) :
    (player.advance pixels).2.Whole := by
  unfold Player.advance
  split
  next more => exact ⟨size, more⟩
  next => exact ⟨size, Nat.succ_pos 31⟩

theorem Whole.tick {report : Tick} (whole : player.Whole)
    (ticked : player.tick = some (report, later)) : later.Whole := by
  unfold Player.tick at ticked
  split at ticked
  · obtain ⟨pixels, unpacked, advanced⟩ := Option.map_eq_some_iff.mp ticked
    have still : (player.advance pixels).2.Whole := advance_whole (whole.unpackRow unpacked)
    rwa [advanced] at still
  · cases ticked
    exact whole

theorem Whole.stepped (whole : player.Whole) (stepped : Engine.Stepped player later) :
    later.Whole := by
  induction stepped with
  | refl => exact whole
  | next _ ih => exact ih
  | tick _ ticked ih => exact ih.tick ticked

theorem Whole.read (whole : player.Whole) : (Engine.screen player).read = .ok player.pixels := by
  unfold Framebuffer.read
  exact if_pos whole.pixels

end Player

/-- The player on show and all that may replace it have whole pictures. -/
structure Session.Whole (session : Session Player) : Prop where
  engine : session.engine.Whole
  factory : ∀ made, (session.factory made).Whole

namespace Session.Whole

variable {session later : Session Player}

theorem loaded (whole : session.Whole) (rom : Rom) : (session.loaded rom).Whole :=
  ⟨⟨Player.blank_whole.pixels, Player.blank_whole.row⟩, whole.factory⟩

theorem keyed (whole : session.Whole) (keyed : session.Keyed later) : later.Whole := by
  rw [keyed.same]
  refine ⟨?_, whole.factory⟩
  obtain same | ⟨code, same | same⟩ := keyed.engine
  · rw [same]
    exact whole.engine
  · rw [same]
    exact ⟨whole.engine.pixels, whole.engine.row⟩
  · rw [same]
    exact ⟨whole.engine.pixels, whole.engine.row⟩

theorem kept {before after : FrameLoop Player} (whole : before.session.Whole)
    (kept : before.Kept after) : after.session.Whole := by
  obtain ⟨engine, stepped, same⟩ := kept.session
  rw [same]
  exact ⟨whole.engine.stepped stepped, whole.factory⟩

/-- Without resources there is one reason to refuse a frame. -/
theorem cause_of_bare {l : FrameLoop Player} {cause : RenderError} (whole : l.session.Whole)
    (bare : l.renderer.resources = none) (unshown : l.Unshown cause) : cause = Renderer.tornDown := by
  rcases unshown with unread | torn
  · rw [whole.engine.read] at unread
    cases unread
  · exact torn bare

end Session.Whole

end FrameViewer
