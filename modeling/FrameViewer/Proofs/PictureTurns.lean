import FrameViewer.Proofs.PictureReel
import FrameViewer.Proofs.TurnReports

/-! A turn on a loop whose engine is a player. The callback that has the frame unpacks the current
picture row by row. It may pause between two rows, and it shows the picture when all of its rows are
there; a player without a picture shows a dark screen at once. -/

namespace FrameViewer
open Act

open Player

def LoopConfig.Roomy (config : LoopConfig) : Prop :=
  ∀ cap, config.maxTicks = some cap → 32 ≤ cap

/-- The loop has shown `index` frames of the program and unpacked `row` rows of the next. -/
structure FrameLoop.Rolled (rom : Bytes) (index row : Nat) (l : FrameLoop Player) : Prop where
  played : Played rom (frameTicks rom * index + row) l.session.engine
  below : row < 32
  empty : countOf rom = 0 → row = 0
  dims : ∀ set, l.renderer.resources = some set → set.dims = ⟨64, 32⟩

variable {rom : Bytes} {index row : Nat} {σ : Type}

namespace FrameLoop

/-- A frame that is complete is what the screen shows. -/
theorem Rolled.screen {l : FrameLoop Player} (rolled : l.Rolled rom (index + 1) 0) :
    Engine.screen l.session.engine = frameOf rom index := by
  have played := rolled.played
  unfold frameOf
  by_cases none : countOf rom = 0
  · rw [if_pos none]
    rw [frameTicks, if_pos none, Nat.zero_mul] at played
    exact played.screen_of_start
  · rw [if_neg none]
    rw [frameTicks, if_neg none] at played
    exact played.screen

private theorem next_plays {ticks : Nat} (scene : Scene (FrameLoop Player))
    (played : Played rom ticks scene.own.session.engine) :
    next.Leads scene
      (fun more after => (more = true ↔ 0 < countOf rom) ∧ after.own = scene.own ∧
        after.platform.marks = scene.platform.marks)
      (fun _ _ => False) := by
  unfold next Session.reportCall
  simp only [leads_bind, leads_own, leads_emit, leads_setOwn, leads_pure]
  refine ⟨?_, rfl, ?_⟩
  · rw [← played.program]
    exact decide_eq_true_iff
  · rw [Platform.marks_record]
    exact List.append_nil _

private theorem tick_plays {ticks : Nat} (scene : Scene (FrameLoop Player))
    (played : Played rom ticks scene.own.session.engine) (positive : 0 < countOf rom) :
    tick.Leads scene
      (fun report after => (report.redraw = true ↔ (ticks + 1) % 32 = 0) ∧
        (report.beep = true ↔ (ticks + 1) % (32 * countOf rom) = 0) ∧
        (∃ engine, Played rom (ticks + 1) engine ∧
          after.own = { scene.own with session := { scene.own.session with engine } }) ∧
        after.platform.marks = scene.platform.marks)
      (fun _ _ => False) := by
  obtain ⟨later, ticked, still⟩ := played.tick positive
  unfold tick Session.reportCall
  simp only [leads_bind, leads_own, leads_checked]
  rw [show Engine.tick scene.own.session.engine = _ from ticked]
  simp only [leads_emit, leads_setOwn, leads_pure, decide_eq_true_eq, true_and]
  refine ⟨⟨later, still, rfl⟩, ?_⟩
  rw [Platform.marks_record]
  exact List.append_nil _

/-- The loop after a tick of its player. -/
theorem Rolled.ticked {l : FrameLoop Player} {engine : Player} (rolled : l.Rolled rom index row)
    (positive : 0 < countOf rom) (played : Played rom (32 * index + row + 1) engine) :
    if row + 1 < 32 then
      { l with session := { l.session with engine } }.Rolled rom index (row + 1)
    else { l with session := { l.session with engine } }.Rolled rom (index + 1) 0 := by
  have below := rolled.below
  have full : frameTicks rom = 32 := if_neg (Nat.ne_of_gt positive)
  split
  next more => exact ⟨by rw [full]; exact played, more, fun none => by omega, rolled.dims⟩
  next last =>
    refine ⟨?_, by decide, fun _ => rfl, rolled.dims⟩
    rw [full, show 32 * (index + 1) + 0 = 32 * index + row + 1 by omega]
    exact played

/-- The step that unpacks a row. With the last one the picture is due. -/
private theorem step_plays {generation : Nat} (scene : Scene (FrameLoop Player))
    (current : generation = scene.own.state.generation)
    (rolled : scene.own.Rolled rom index row) (positive : 0 < countOf rom) :
    (step generation).Leads scene
      (fun outcome after => after.own.state = scene.own.state ∧
        if row + 1 < 32 then outcome = .quiet ∧ after.own.Rolled rom index (row + 1) ∧
          after.platform.marks = scene.platform.marks
        else outcome = .redraw ∧ after.own.Rolled rom (index + 1) 0 ∧
          after.platform.marks = scene.platform.marks ++ cueOf rom index)
      (fun _ _ => True) := by
  have below := rolled.below
  have played := rolled.played
  rw [show frameTicks rom = 32 from if_neg (Nat.ne_of_gt positive)] at played
  unfold step
  simp only [leads_bind, leads_own]
  rw [if_neg (not_not_intro current.symm), leads_bind]
  refine (next_plays scene played).mono (fun more asked answered => ?_) fun _ _ _ => trivial
  obtain ⟨answer, same, unmarked⟩ := answered
  rw [if_pos (answer.mpr positive), leads_bind]
  rw [← same] at played rolled
  refine (tick_plays asked played positive).mono ?_ fun _ _ _ => trivial
  intro report ticked ⟨redraw, beep, ⟨engine, still, moved⟩, quiet⟩
  have state : ticked.own.state = scene.own.state := by rw [moved, same]
  have further := rolled.ticked positive still
  rw [← moved] at further
  by_cases more : row + 1 < 32
  · rw [if_pos more] at further
    have undue : (32 * index + row + 1) % 32 ≠ 0 := by omega
    rw [if_neg (fun due => no_round undue (beep.mp due)), leads_pure,
      if_neg (fun due => undue (redraw.mp due)), if_pos more]
    exact ⟨state, rfl, further, quiet.trans unmarked⟩
  · rw [if_neg more] at further
    have whole : 32 * index + row + 1 = 32 * (index + 1) := by omega
    have due : report.redraw = true := redraw.mpr (by omega)
    have round : report.beep = true ↔ (index + 1) % countOf rom = 0 := by
      rw [beep, whole, Nat.mul_mod_mul_left]
      omega
    have positive' : countOf rom ≠ 0 := Nat.ne_of_gt positive
    unfold cueOf
    by_cases last : (index + 1) % countOf rom = 0
    · rw [if_pos (round.mpr last), leads_bind]
      refine (Audio.beep_sounds ticked).mono (fun _ after sounded => ?_) fun _ _ _ => trivial
      obtain ⟨unmoved, beeped⟩ := sounded
      have added : after.platform.marks = ticked.platform.marks ++ [.cue] :=
        beeped.filterMap rfl rfl rfl
      rw [leads_pure, if_pos due, if_neg more, if_pos ⟨positive', last⟩, unmoved, added, quiet,
        unmarked]
      exact ⟨state, rfl, further, rfl⟩
    · rw [if_neg (fun beeps => last (round.mp beeps)), leads_pure, if_pos due, if_neg more,
        if_neg (fun round => last round.2), List.append_nil]
      exact ⟨state, rfl, further, quiet.trans unmarked⟩

/-- A player without a picture has nothing to run. -/
private theorem step_halts {generation : Nat} (scene : Scene (FrameLoop Player))
    (current : generation = scene.own.state.generation)
    (rolled : scene.own.Rolled rom index row) (none : countOf rom = 0) :
    (step generation).Leads scene
      (fun outcome after => outcome = .halted ∧ after.own = scene.own ∧
        after.platform.marks = scene.platform.marks)
      (fun _ _ => True) := by
  unfold step
  simp only [leads_bind, leads_own]
  rw [if_neg (not_not_intro current.symm), leads_bind]
  refine (next_plays scene rolled.played).mono (fun more asked answered => ?_) fun _ _ _ => trivial
  obtain ⟨answer, same, unmarked⟩ := answered
  rw [if_neg (fun more => Nat.ne_of_gt (answer.mp more) none), leads_pure]
  exact ⟨rfl, same, unmarked⟩

/-- Showing a frame uploads what is on the screen, and the player stays where it is. -/
private theorem present_plays {generation : Nat} (ticks : Nat) (scene : Scene (FrameLoop Player))
    (current : generation = scene.own.state.generation)
    (dims : ∀ set, scene.own.renderer.resources = some set → set.dims = ⟨64, 32⟩) :
    (present generation ticks).Leads scene
      (fun report after => report = .presented ticks ∧ after.own.session = scene.own.session ∧
        after.own.renderer.resources = scene.own.renderer.resources ∧
        after.platform.marks = scene.platform.marks ++
          [.frame (Engine.screen scene.own.session.engine)])
      (fun _ _ => True) := by
  unfold present
  simp only [leads_bind, leads_own, current, ne_eq, not_true_eq_false, if_false, updateState,
    leads_update, leads_attempt, leads_check, leads_pure]
  cases read : (Engine.screen scene.own.session.engine).read with
  | error cause => trivial
  | ok pixels =>
    have same : pixels = scene.own.session.engine.pixels := by
      unfold Framebuffer.read at read
      split at read
      · exact (Except.ok.inj read).symm
      · cases read
    simp only [onRenderer, leads_bind, leads_own, leads_within]
    have kept := Renderer.submit_leads pixels ⟨scene.own.renderer, scene.platform⟩
    refine (kept.and (Renderer.submit_adds pixels _)).mono ?_ ?_
    · intro _ after both
      obtain ⟨⟨resources, _⟩, set, built, added⟩ := both
      refine ⟨trivial, trivial, resources, ?_⟩
      rw [added, dims set built, same]
      rfl
    · intro failure _ _
      cases failure <;> trivial

theorem Rolled.of_same {before after : FrameLoop Player} (rolled : before.Rolled rom index row)
    (session : after.session = before.session)
    (resources : after.renderer.resources = before.renderer.resources) :
    after.Rolled rom index row :=
  ⟨session ▸ rolled.played, rolled.below, rolled.empty, resources ▸ rolled.dims⟩

/-- Without a picture a frame changes nothing. -/
theorem Rolled.unchanged {l : FrameLoop Player} (rolled : l.Rolled rom index row)
    (none : countOf rom = 0) : l.Rolled rom (index + 1) 0 := by
  have played := rolled.played
  rw [frameTicks, if_pos none, Nat.zero_mul, rolled.empty none] at played
  refine ⟨?_, by decide, fun _ => rfl, rolled.dims⟩
  rw [frameTicks, if_pos none, Nat.zero_mul]
  exact played

end FrameLoop

namespace Callback

/-- Where a turn of the callback that has the frame gets: to a row further down the picture, or to
the end of it. -/
inductive Screens (rom : Bytes) (index : Nat) (callback : Callback) (before : List Mark) :
    Progress → Scene (FrameLoop Player) → Prop where
  | unfinished {row : Nat} {progress : Progress} {after : Scene (FrameLoop Player)}
      (rolled : after.own.Rolled rom index row) (unmarked : after.platform.marks = before)
      (reached : progress = .running { callback with ticks := row } ∨
        progress = .paused { callback with ticks := row }) :
      Screens rom index callback before progress after
  | shown {after : Scene (FrameLoop Player)} (rolled : after.own.Rolled rom (index + 1) 0)
      (marked : after.platform.marks =
        before ++ (cueOf rom index ++ [.frame (frameOf rom index)])) :
      Screens rom index callback before (.finished (.presented (frameTicks rom))) after

private theorem present_screens (callback : Callback) {scene : Scene (FrameLoop Player)}
    (current : callback.generation = scene.own.state.generation)
    (rolled : scene.own.Rolled rom (index + 1) 0) (ticks : callback.ticks = frameTicks rom) :
    callback.present.Leads scene
      (fun progress after => progress = .finished (.presented (frameTicks rom)) ∧
        after.own.Rolled rom (index + 1) 0 ∧
        after.platform.marks = scene.platform.marks ++ [.frame (frameOf rom index)])
      (fun _ _ => True) := by
  unfold present
  simp only [leads_bind, leads_emit, leads_pure]
  have presented := FrameLoop.present_plays callback.ticks scene current rolled.dims
  refine presented.mono (fun report after shown => ?_) fun _ _ _ => trivial
  obtain ⟨rfl, session, resources, marked⟩ := shown
  rw [ticks]
  refine ⟨rfl, rolled.of_same session resources, ?_⟩
  rw [Platform.marks_record, marked, rolled.screen]
  exact List.append_nil _

/-- One step of the callback that has the frame. -/
private theorem step_screens (callback : Callback) {scene : Scene (FrameLoop Player)}
    (current : callback.generation = scene.own.state.generation) (roomy : callback.config.Roomy)
    (rolled : scene.own.Rolled rom index callback.ticks) :
    callback.step.Leads scene (Screens rom index callback scene.platform.marks)
      (fun _ _ => True) := by
  have below := rolled.below
  unfold step
  rw [leads_bind]
  by_cases none : countOf rom = 0
  · have halted := FrameLoop.step_halts scene current rolled none
    refine halted.mono (fun outcome after halt => ?_) fun _ _ _ => trivial
    obtain ⟨rfl, same, unmarked⟩ := halt
    have ticks : callback.ticks = frameTicks rom := by
      rw [rolled.empty none, frameTicks, if_pos none]
    rw [← same] at current rolled
    refine (present_screens callback current (rolled.unchanged none) ticks).mono ?_ fun _ _ _ => trivial
    intro progress last ⟨finished, still, marked⟩
    subst finished
    refine .shown still ?_
    rw [marked, unmarked, cueOf, if_neg (fun round => round.1 none), List.nil_append]
  · have stepped := FrameLoop.step_plays scene current rolled (Nat.pos_of_ne_zero none)
    refine stepped.mono (fun outcome after ⟨state, came⟩ => ?_) fun _ _ _ => trivial
    have word : callback.ticks + 1 < tickLimit := by
      unfold tickLimit UInt32.size
      omega
    split at came
    next more =>
      obtain ⟨rfl, further, unmarked⟩ := came
      have uncapped : ({ callback with ticks := callback.ticks + 1 } : Callback).isCapped = false := by
        unfold isCapped
        cases cap : callback.config.maxTicks with
        | none => rfl
        | some cap' =>
          have room := roomy cap' cap
          exact decide_eq_false (show ¬cap' ≤ callback.ticks + 1 by omega)
      simp only [proceed, counted, if_pos word, leads_bind, leads_pure, uncapped,
        Bool.false_eq_true, if_false]
      split
      · exact .unfinished further unmarked (.inl rfl)
      · exact .unfinished further unmarked (.inr rfl)
    next last =>
      obtain ⟨rfl, further, marked⟩ := came
      simp only [proceed, counted, if_pos word, leads_bind, leads_pure]
      have ticks : callback.ticks + 1 = frameTicks rom := by
        rw [frameTicks, if_neg none]
        omega
      rw [← state] at current
      have presented := present_screens { callback with ticks := callback.ticks + 1 } current further
        ticks
      refine presented.mono (fun progress end' ⟨finished, still, shown⟩ => ?_) fun _ _ _ => trivial
      subst finished
      refine .shown still ?_
      rw [shown, marked, List.append_assoc]

private theorem runFor_screens (fuel : Nat) (callback : Callback) (scene : Scene (FrameLoop Player))
    (current : callback.generation = scene.own.state.generation) (roomy : callback.config.Roomy)
    (rolled : scene.own.Rolled rom index callback.ticks) :
    (runFor fuel callback).Leads scene (Screens rom index callback scene.platform.marks)
      (fun _ _ => True) := by
  induction fuel generalizing callback scene with
  | zero => trivial
  | succ fuel ih =>
    rw [runFor, leads_bind]
    have stepped := (step_screens callback current roomy rolled).and (step_turns callback scene)
    apply stepped.mono _ fun _ _ _ => trivial
    intro progress after both
    obtain ⟨screens, turn⟩ := both
    cases progress with
    | running further =>
      -- The callback goes on at once, from the row it has reached by now.
      cases screens with
      | @unfinished row _ _ reached unmarked going =>
        obtain going | paused := going
        case inr => cases paused
        obtain rfl : further = { callback with ticks := row } := Progress.running.inj going
        have same := current.trans turn.kept.generation.symm
        have rest := ih { callback with ticks := row } after same roomy reached
        rw [unmarked] at rest
        refine rest.mono (fun _ last later => ?_) fun _ _ _ => trivial
        cases later with
        | unfinished again unmarked reached => exact .unfinished again unmarked reached
        | shown again marked => exact .shown again marked
    | paused _ | finished _ => exact screens

/-- A turn of the callback that has the frame, up to its next pause or its end. -/
theorem run_screens (callback : Callback) (scene : Scene (FrameLoop Player))
    (current : callback.generation = scene.own.state.generation) (roomy : callback.config.Roomy)
    (rolled : scene.own.Rolled rom index callback.ticks) :
    callback.run.Leads scene (Screens rom index callback scene.platform.marks)
      (fun _ _ => True) :=
  runFor_screens _ callback scene current roomy rolled

end Callback
end FrameViewer
