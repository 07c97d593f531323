import FrameViewer.Proofs.LoopReports
import FrameViewer.Proofs.SoundedCues

/-! What one turn of a callback, from where it goes on to its next pause or its end, does to the
loop. A callback of an older generation does nothing to it. A callback of the loop's generation
steps the engine, and gives the frame back when it ends, however it ends. -/

namespace FrameViewer
open Act

inductive Engine.Stepped {ε : Type} [Engine ε] (first : ε) : ε → Prop where
  | refl : Stepped first first
  | next {engine : ε} (early : Stepped first engine) : Stepped first (Engine.next engine).2
  | tick {engine later : ε} {report : Tick} (early : Stepped first engine)
      (ticked : Engine.tick engine = some (report, later)) : Stepped first later

def Renderer.tornDown : RenderError :=
  .lost "render handle was torn down"

variable {ε σ : Type} [Engine ε]

theorem Engine.Stepped.trans {first second third : ε} (early : Engine.Stepped first second)
    (late : Engine.Stepped second third) : Engine.Stepped first third := by
  induction late with
  | refl => exact early
  | next _ ih => exact ih.next
  | tick _ ticked ih => exact ih.tick ticked

namespace FrameLoop

structure Kept (before after : FrameLoop ε) : Prop where
  generation : after.state.generation = before.state.generation
  running : after.state.running = before.state.running
  session : ∃ engine, Engine.Stepped before.session.engine engine ∧
    after.session = { before.session with engine }
  resources : after.renderer.resources = before.renderer.resources

theorem Kept.refl (l : FrameLoop ε) : l.Kept l :=
  ⟨rfl, rfl, ⟨_, .refl, rfl⟩, rfl⟩

theorem Kept.trans {first second third : FrameLoop ε} (early : first.Kept second)
    (late : second.Kept third) : first.Kept third := by
  obtain ⟨middle, stepped, same⟩ := early.session
  obtain ⟨last, again, further⟩ := late.session
  rw [same] at again further
  exact ⟨late.generation.trans early.generation, late.running.trans early.running,
    ⟨last, stepped.trans again, further⟩, late.resources.trans early.resources⟩

theorem Kept.newest {before after : FrameLoop ε} (kept : before.Kept after) :
    after.session.generation = before.session.generation := by
  obtain ⟨engine, _, same⟩ := kept.session
  rw [same]

private theorem next_leads (scene : Scene (FrameLoop ε)) :
    next.Leads scene
      (fun _ after => scene.own.Kept after.own ∧ after.own.state = scene.own.state)
      (fun _ _ => False) := by
  unfold next Session.reportCall
  simp only [leads_bind, leads_own, leads_emit, leads_setOwn, leads_pure]
  exact ⟨⟨rfl, rfl, ⟨_, .next .refl, rfl⟩, rfl⟩, trivial⟩

private theorem tick_leads (scene : Scene (FrameLoop ε)) :
    tick.Leads scene
      (fun _ after => scene.own.Kept after.own ∧ after.own.state = scene.own.state)
      (fun failure _ => failure = .crashed) := by
  unfold tick Session.reportCall
  simp only [leads_bind, leads_own, leads_checked]
  cases ticked : Engine.tick scene.own.session.engine with
  | none => trivial
  | some result =>
    simp only [leads_emit, leads_setOwn, leads_pure]
    exact ⟨⟨rfl, rfl, ⟨_, .tick .refl ticked, rfl⟩, rfl⟩, trivial⟩

end FrameLoop

namespace FrameLoop

/-- A step for another generation does nothing; for the loop's own it leaves the state alone. -/
theorem step_leads (generation : Nat) (scene : Scene (FrameLoop ε)) :
    (step generation).Leads scene
      (fun outcome after =>
        (generation ≠ scene.own.state.generation → outcome = .superseded ∧ after = scene) ∧
        (generation = scene.own.state.generation → outcome ≠ .superseded ∧
          scene.own.Kept after.own ∧ after.own.state = scene.own.state))
      (fun failure _ => failure = .crashed) := by
  unfold step
  simp only [leads_bind, leads_own]
  split
  next older => exact ⟨fun _ => ⟨rfl, rfl⟩, fun same => absurd same.symm older⟩
  next current =>
    have same : generation = scene.own.state.generation := (Decidable.not_not.mp current).symm
    simp only [leads_bind]
    refine (next_leads scene).mono (fun more stepped ⟨kept, state⟩ => ?_) fun _ _ impossible => impossible.elim
    split
    · simp only [leads_bind]
      refine (tick_leads stepped).mono (fun report ticked ⟨again, later⟩ => ?_) fun _ _ crashed => crashed
      have both := kept.trans again
      have unchanged := later.trans state
      have quiet : ∀ outcome, outcome = (if report.redraw then StepOutcome.redraw else .quiet) →
          outcome ≠ .superseded := by
        intro outcome chosen
        split at chosen <;> simp [chosen]
      split
      · simp only [leads_bind]
        refine (Audio.beep_leads ticked).mono (fun _ heard unmoved => ?_) fun _ _ crashed => crashed
        exact ⟨fun older => absurd same older, fun _ =>
          ⟨quiet _ rfl, by rw [unmoved]; exact both, by rw [unmoved]; exact unchanged⟩⟩
      · exact ⟨fun older => absurd same older, fun _ => ⟨quiet _ rfl, both, unchanged⟩⟩
    · exact ⟨fun older => absurd same older, fun _ => ⟨nofun, kept, state⟩⟩

end FrameLoop

/-- A submission never changes which resources there are, and needs some. -/
theorem Renderer.submit_leads (pixels : Bytes) (scene : Scene Renderer) :
    (submit pixels).Leads scene
      (fun _ after => after.own.resources = scene.own.resources ∧ scene.own.resources ≠ none)
      (fun failure after => after.own.resources = scene.own.resources ∧
        (scene.own.resources = none → failure = .refused tornDown)) := by
  unfold submit
  simp only [leads_bind, leads_own]
  cases built : scene.own.resources with
  | none => exact ⟨built, fun _ => rfl⟩
  | some set =>
    simp only
    split
    · simp only [onBackend, leads_bind, leads_own, leads_within]
      refine .of_forall (fun _ uploaded => ?_) fun _ _ => ⟨built, nofun⟩
      exact .of_forall (fun _ _ => ⟨built, nofun⟩) fun _ _ => ⟨built, nofun⟩
    · exact ⟨built, nofun⟩

namespace FrameLoop

/-- Why a frame was not shown: the engine's buffer does not fit, or the renderer refused it. -/
def Unshown (l : FrameLoop ε) (cause : RenderError) : Prop :=
  (Engine.screen l.session.engine).read = .error cause ∨
    (l.renderer.resources = none → cause = Renderer.tornDown)

/-- Showing the frame gives it back, whether or not that worked. -/
private theorem present_leads (generation ticks : Nat) (scene : Scene (FrameLoop ε))
    (current : generation = scene.own.state.generation) :
    (present generation ticks).Leads scene
      (fun report after => report = .presented ticks ∧ scene.own.Kept after.own ∧
        after.own.state.inFlight = false ∧ scene.own.renderer.resources ≠ none)
      (fun failure after => failure = .crashed ∨ ∃ cause, failure = .refused cause ∧
        scene.own.Kept after.own ∧ after.own.state.inFlight = false ∧
        after.own.Unshown cause) := by
  unfold present
  simp only [leads_bind, leads_own, current, ne_eq, not_true_eq_false, if_false, updateState,
    leads_update, leads_attempt, leads_check]
  cases read : (Engine.screen scene.own.session.engine).read with
  | error cause =>
    exact .inr ⟨cause, rfl, ⟨rfl, rfl, ⟨_, .refl, rfl⟩, rfl⟩, trivial, .inl read⟩
  | ok pixels =>
    simp only [onRenderer, leads_bind, leads_own, leads_within]
    refine (Renderer.submit_leads pixels _).mono ?_ ?_
    · intro _ after ⟨same, built⟩
      exact ⟨rfl, ⟨rfl, rfl, ⟨_, .refl, rfl⟩, same⟩, rfl, built⟩
    · intro failure after ⟨same, torn⟩
      cases failure with
      | crashed => exact .inl trivial
      | refused cause =>
        refine .inr ⟨cause, rfl, ⟨rfl, rfl, ⟨_, .refl, rfl⟩, same⟩, trivial, .inr fun gone => ?_⟩
        exact Failure.refused.inj (torn (same.symm.trans gone))

end FrameLoop

namespace Callback

/-- What a turn of a callback comes to: where it got, or why it failed, and the loop then. -/
inductive Turn (callback : Callback) (before : FrameLoop ε) :
    Except RenderError Progress → FrameLoop ε → Prop where
  | superseded (older : callback.generation ≠ before.state.generation) :
      Turn callback before (.ok (.finished .superseded)) before
  | going {ticks : Nat} {progress : Progress} {after : FrameLoop ε}
      (current : callback.generation = before.state.generation)
      (kept : before.Kept after) (unmoved : after.state = before.state)
      (bounded : ticks < tickLimit)
      (reached : progress = .running { callback with ticks } ∨
        progress = .paused { callback with ticks }) :
      Turn callback before (.ok progress) after
  | presented {ticks : Nat} {after : FrameLoop ε}
      (current : callback.generation = before.state.generation)
      (kept : before.Kept after) (free : after.state.inFlight = false)
      (built : before.renderer.resources ≠ none) :
      Turn callback before (.ok (.finished (.presented ticks))) after
  | refused {cause : RenderError} {after : FrameLoop ε}
      (current : callback.generation = before.state.generation)
      (kept : before.Kept after) (free : after.state.inFlight = false)
      (unshown : after.Unshown cause) :
      Turn callback before (.error cause) after

theorem Turn.kept {callback : Callback} {before after : FrameLoop ε}
    {outcome : Except RenderError Progress} (turn : Turn callback before outcome after) :
    before.Kept after := by
  cases turn with
  | superseded _ => exact .refl before
  | going _ kept _ _ _ | presented _ kept _ _ | refused _ kept _ _ => exact kept

theorem Turn.bare {callback : Callback} {before after : FrameLoop ε}
    {outcome : Except RenderError Progress} (turn : Turn callback before outcome after)
    (bare : before.renderer.resources = none) : after.renderer.resources = none :=
  turn.kept.resources.trans bare

/-- Where an action can lead that is part of the turn of a callback begun in `before`. -/
def Turns (callback : Callback) (before : FrameLoop ε) (scene : Scene (FrameLoop ε))
    (action : Act (FrameLoop ε) Progress) : Prop :=
  action.Leads scene (fun progress after => Turn callback before (.ok progress) after.own)
    fun failure after => failure = .crashed ∨
      ∃ cause, failure = .refused cause ∧ Turn callback before (.error cause) after.own

/-- A turn goes on as one from wherever the callback got without moving the loop's state. -/
theorem Turn.after {callback : Callback} {before middle after : FrameLoop ε} {ticks : Nat}
    {outcome : Except RenderError Progress}
    (current : callback.generation = before.state.generation) (kept : before.Kept middle)
    (unmoved : middle.state = before.state)
    (turn : Turn { callback with ticks } middle outcome after) :
    Turn callback before outcome after := by
  cases turn with
  | superseded older => exact absurd (current.trans (congrArg LoopState.generation unmoved).symm) older
  | going _ further still bounded reached =>
    exact .going current (kept.trans further) (still.trans unmoved) bounded reached
  | presented _ further free built =>
    exact .presented current (kept.trans further) free (by rwa [kept.resources] at built)
  | refused _ further free unshown => exact .refused current (kept.trans further) free unshown

theorem Turns.after {callback : Callback} {before middle : FrameLoop ε} {ticks : Nat}
    {scene : Scene (FrameLoop ε)} {action : Act (FrameLoop ε) Progress}
    (current : callback.generation = before.state.generation) (kept : before.Kept middle)
    (unmoved : middle.state = before.state)
    (turns : Turns { callback with ticks } middle scene action) :
    Turns callback before scene action :=
  turns.mono (fun _ _ turn => turn.after current kept unmoved) fun _ _ failed =>
    failed.imp_right fun ⟨cause, refused, turn⟩ =>
      ⟨cause, refused, turn.after current kept unmoved⟩

private theorem present_turns (callback : Callback) (scene : Scene (FrameLoop ε))
    (current : callback.generation = scene.own.state.generation) :
    Turns callback scene.own scene callback.present := by
  unfold Turns present
  simp only [leads_bind]
  refine (FrameLoop.present_leads callback.generation callback.ticks scene current).mono ?_ ?_
  · intro report after ⟨shown, kept, free, built⟩
    subst shown
    exact .presented current kept free built
  · intro failure after outcome
    rcases outcome with crashed | ⟨cause, refused, kept, free, unshown⟩
    · exact .inl crashed
    · exact .inr ⟨cause, refused, .refused current kept free unshown⟩

theorem step_turns (callback : Callback) (scene : Scene (FrameLoop ε)) :
    Turns callback scene.own scene callback.step := by
  unfold Turns step
  simp only [leads_bind]
  refine (FrameLoop.step_leads callback.generation scene).mono ?_ fun _ _ crashed => .inl crashed
  intro outcome after ⟨stale, fresh⟩
  by_cases current : callback.generation = scene.own.state.generation
  · obtain ⟨live, kept, unmoved⟩ := fresh current
    have same : callback.generation = after.own.state.generation := by rw [current, unmoved]
    -- A counted tick changes the callback alone, which then shows the frame or goes on.
    have counted (next : Callback → Act (FrameLoop ε) Progress)
        (rest : callback.ticks + 1 < tickLimit →
          Turns callback scene.own after (next { callback with ticks := callback.ticks + 1 })) :
        Turns callback scene.own after (callback.counted >>= next) := by
      unfold Turns counted
      rw [leads_bind]
      split
      next bounded => exact rest bounded
      next => exact .inl rfl
    have shown (ticks : Nat) (platform : Platform) :
        Turns callback scene.own ⟨after.own, platform⟩ { callback with ticks := ticks }.present :=
      (present_turns { callback with ticks } ⟨after.own, platform⟩ same).after current kept unmoved
    cases outcome with
    | superseded => exact absurd rfl live
    | halted => exact shown callback.ticks after.platform
    | redraw => exact counted _ fun _ => shown _ after.platform
    | quiet =>
      refine counted _ fun bounded => ?_
      unfold Turns
      split
      · simp only [leads_bind, leads_notify]
        exact shown _ _
      · split
        · exact .going current kept unmoved bounded (.inl rfl)
        · exact .going current kept unmoved bounded (.inr rfl)
  · obtain ⟨rfl, rfl⟩ := stale current
    simp only [proceed, leads_bind, leads_notify, leads_emit, leads_pure]
    exact .superseded current

private theorem runFor_turns (fuel : Nat) (callback : Callback) (scene : Scene (FrameLoop ε)) :
    Turns callback scene.own scene (runFor fuel callback) := by
  induction fuel generalizing callback scene with
  | zero => exact .inl rfl
  | succ fuel ih =>
    unfold Turns runFor
    simp only [leads_bind]
    refine (step_turns callback scene).mono ?_ fun _ _ failed => failed
    intro progress after turn
    cases progress with
    | running further =>
      obtain _ | ⟨current, kept, unmoved, _, reached⟩ := turn
      obtain rfl : further = _ := Progress.running.inj (reached.resolve_right nofun)
      exact (ih _ after).after current kept unmoved
    | paused _ | finished _ => exact turn

/-- A callback's turn, up to its next pause or its end. -/
theorem run_turns (callback : Callback) (scene : Scene (FrameLoop ε)) :
    Turns callback scene.own scene callback.run :=
  runFor_turns _ callback scene

end Callback
end FrameViewer
