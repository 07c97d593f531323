import FrameViewer.Engine.Scripted
import FrameViewer.Proofs.FrameUploads
import FrameViewer.Proofs.TurnReports

/-! Which frames are handed to the tier, and in which shape. A frame that is due is handed over
when the number of its pixels is the area of the engine's dimensions and that of the resources. It
is uploaded in the shape of the resources, which need not be that of the engine any more. -/

namespace FrameViewer
open Act

def Framebuffer.region (frame : Framebuffer) : Region :=
  { x := 0, y := 0, dims := frame.dims, bytesPerRow := frame.dims.width }

private theorem ResourceSet.region_eq_iff (set : ResourceSet) (frame : Framebuffer) :
    set.region = frame.region ↔ set.dims = frame.dims := by
  constructor
  · exact fun same => congrArg Region.dims same
  · intro same
    rw [ResourceSet.region, Framebuffer.region, same]

/-- The callback is still going, for that host, or was superseded: it has shown no frame. -/
def Progress.IsEarly (host : Host) : Progress → Prop
  | running callback | paused callback => callback.host = host
  | finished report => report = .superseded

variable {ε : Type} [Engine ε]

namespace FrameLoop

def screen (l : FrameLoop ε) : Framebuffer :=
  Engine.screen l.session.engine

/-- The engine's buffer has the size that the engine says, and the resources are for that size. -/
structure Fits (l : FrameLoop ε) (set : ResourceSet) : Prop where
  whole : l.screen.pixels.size = l.screen.dims.area
  built : l.renderer.resources = some set
  room : set.dims.area = l.screen.dims.area

/-- Why a frame that is due is not handed to the tier. -/
inductive Withheld (l : FrameLoop ε) : RenderError → Prop where
  | garbled (wrong : l.screen.pixels.size ≠ l.screen.dims.area) :
      Withheld l (.frameSize l.screen.dims.area l.screen.pixels.size)
  | bare (whole : l.screen.pixels.size = l.screen.dims.area)
      (gone : l.renderer.resources = none) : Withheld l Renderer.tornDown
  | misfit {set : ResourceSet} (whole : l.screen.pixels.size = l.screen.dims.area)
      (built : l.renderer.resources = some set) (other : set.dims.area ≠ l.screen.dims.area) :
      Withheld l (.frameSize set.dims.area l.screen.pixels.size)

private theorem fits_iff_not_withheld (l : FrameLoop ε) :
    (∃ set, l.Fits set) ↔ ¬∃ cause, l.Withheld cause := by
  constructor
  · rintro ⟨set, fits⟩ ⟨cause, wrong | ⟨_, gone⟩ | ⟨_, built, other⟩⟩
    · exact wrong fits.whole
    · exact nomatch gone.symm.trans fits.built
    · obtain rfl := Option.some.inj (built.symm.trans fits.built)
      exact other fits.room
  · intro unhindered
    have whole : l.screen.pixels.size = l.screen.dims.area :=
      Decidable.not_not.mp fun wrong => unhindered ⟨_, .garbled wrong⟩
    cases built : l.renderer.resources with
    | none => exact absurd ⟨_, .bare whole built⟩ unhindered
    | some set =>
      have room : set.dims.area = l.screen.dims.area :=
        Decidable.not_not.mp fun other => unhindered ⟨_, .misfit whole built other⟩
      exact ⟨set, whole, built, room⟩

def tried (l : FrameLoop ε) (backend : Backend) : FrameLoop ε :=
  { l with
    renderer := { l.renderer with backend }
    state := { l.state with phase := .presenting, inFlight := false } }

def shown (l : FrameLoop ε) (backend : Backend) : FrameLoop ε :=
  { l.tried backend with state := { (l.tried backend).state with frames := l.state.frames + 1 } }

/-- The engine may have made steps. The loop and its renderer are as they were, and nothing was
asked of the tier. -/
structure Advanced (before after : Scene (FrameLoop ε)) : Prop where
  engine : Engine.Stepped before.own.session.engine after.own.session.engine
  state : after.own.state = before.own.state
  renderer : after.own.renderer = before.own.renderer
  undrawn : before.platform.Extends Event.IsUndrawn after.platform

theorem Advanced.refl (scene : Scene (FrameLoop ε)) : Advanced scene scene :=
  ⟨.refl, rfl, rfl, .refl _⟩

theorem Advanced.trans {first second third : Scene (FrameLoop ε)} (early : Advanced first second)
    (late : Advanced second third) : Advanced first third :=
  ⟨early.engine.trans late.engine, late.state.trans early.state,
    late.renderer.trans early.renderer, early.undrawn.trans late.undrawn⟩

theorem Advanced.unmoved {before middle after : Scene (FrameLoop ε)}
    (advanced : Advanced before middle) (same : after.own = middle.own)
    (undrawn : middle.platform.Extends Event.IsUndrawn after.platform) : Advanced before after := by
  refine advanced.trans ⟨?_, ?_, ?_, undrawn⟩
  · rw [same]
    exact .refl
  · rw [same]
  · rw [same]

/-- How the loop paces itself is no concern of the tier. -/
theorem Advanced.record {before after : Scene (FrameLoop ε)} (advanced : Advanced before after)
    {event : Event} (pacing : event.part = .pacing) :
    Advanced before ⟨after.own, after.platform.record event⟩ := by
  have undrawn : event.IsUndrawn := by
    simp [Event.IsUndrawn, Event.IsRendering, Event.IsDrawing, pacing]
  exact advanced.unmoved rfl (.record _ undrawn)

/-- How the turn of a callback for that host ends, and what it has asked of the tier by then. -/
inductive Ending (host : Host) (before : Scene (FrameLoop ε)) :
    Except Failure Progress → Scene (FrameLoop ε) → Prop
  | early {progress : Progress} {after : Scene (FrameLoop ε)} (advanced : Advanced before after)
      (early : progress.IsEarly host) : Ending host before (.ok progress) after
  | brokenDown {after : Scene (FrameLoop ε)}
      (undrawn : before.platform.Extends Event.IsUndrawn after.platform) :
      Ending host before (.error .crashed) after
  | withheld {due : Scene (FrameLoop ε)} {cause : RenderError} (advanced : Advanced before due)
      (withheld : due.own.Withheld cause) :
      Ending host before (.error (.refused cause))
        ⟨due.own.tried due.own.renderer.backend, due.platform⟩
  | refused {due : Scene (FrameLoop ε)} {set : ResourceSet} {cause : RenderError}
      {last : Scene Backend} (advanced : Advanced before due) (fits : due.own.Fits set)
      (ran : set.submit due.own.screen.pixels ⟨due.own.renderer.backend, due.platform⟩ =
        .error (.refused cause) last) :
      Ending host before (.error (.refused cause)) ⟨due.own.tried last.own, last.platform⟩
  | crashed {due after : Scene (FrameLoop ε)} {set : ResourceSet} {last : Scene Backend}
      (advanced : Advanced before due) (fits : due.own.Fits set)
      (ran : set.submit due.own.screen.pixels ⟨due.own.renderer.backend, due.platform⟩ =
        .error .crashed last) (platform : after.platform = last.platform) :
      Ending host before (.error .crashed) after
  | presented {due : Scene (FrameLoop ε)} {set : ResourceSet} {last : Scene Backend} {ticks : Nat}
      (advanced : Advanced before due) (fits : due.own.Fits set)
      (ran : set.submit due.own.screen.pixels ⟨due.own.renderer.backend, due.platform⟩ =
        .ok () last) :
      Ending host before (.ok (.finished (.presented ticks)))
        ⟨due.own.shown last.own, last.platform.record (.frameRequested host)⟩

theorem Ending.after {host : Host} {before middle after : Scene (FrameLoop ε)}
    {result : Except Failure Progress} (advanced : Advanced before middle)
    (ending : Ending host middle result after) : Ending host before result after := by
  cases ending with
  | early further early => exact .early (advanced.trans further) early
  | brokenDown undrawn => exact .brokenDown (advanced.undrawn.trans undrawn)
  | withheld further withheld => exact .withheld (advanced.trans further) withheld
  | refused further fits ran => exact .refused (advanced.trans further) fits ran
  | crashed further fits ran platform => exact .crashed (advanced.trans further) fits ran platform
  | presented further fits ran => exact .presented (advanced.trans further) fits ran

/-- From `scene` on the action is the rest of a callback's turn begun in `before`. -/
def Ends (host : Host) (before : Scene (FrameLoop ε)) (action : Act (FrameLoop ε) Progress)
    (scene : Scene (FrameLoop ε)) : Prop :=
  action.Leads scene (fun progress after => Ending host before (.ok progress) after)
    fun failure after => Ending host before (.error failure) after

theorem Ends.after {host : Host} {before middle scene : Scene (FrameLoop ε)}
    {action : Act (FrameLoop ε) Progress} (advanced : Advanced before middle)
    (ends : Ends host middle action scene) : Ends host before action scene :=
  ends.mono (fun _ _ ending => ending.after advanced) fun _ _ ending => ending.after advanced

private theorem next_advances (scene : Scene (FrameLoop ε)) :
    next.Leads scene (fun _ after => Advanced scene after) fun _ _ => False := by
  unfold next Session.reportCall
  simp only [leads_bind, leads_own, leads_emit, leads_setOwn, leads_pure]
  exact ⟨.next .refl, rfl, rfl, .record _ nofun⟩

private theorem tick_advances (scene : Scene (FrameLoop ε)) :
    tick.Leads scene (fun _ after => Advanced scene after) fun failure _ => failure = .crashed := by
  unfold tick Session.reportCall
  simp only [leads_bind, leads_own, leads_checked]
  cases ticked : Engine.tick scene.own.session.engine with
  | none => trivial
  | some result =>
    simp only [leads_emit, leads_setOwn, leads_pure]
    exact ⟨.tick .refl ticked, rfl, rfl, .record _ nofun⟩

/-- A step that succeeds only advances the engine, for a callback of the loop's generation. -/
private theorem step_advances (generation : Nat) (scene : Scene (FrameLoop ε)) :
    (step generation).Leads scene
      (fun outcome after => Advanced scene after ∧
        (outcome ≠ .superseded → generation = scene.own.state.generation))
      fun failure after => failure = .crashed ∧
        scene.platform.Extends Event.IsUndrawn after.platform := by
  have undrawn : (step generation : Act (FrameLoop ε) StepOutcome).Emits Event.IsUndrawn :=
    (step_emits generation).mono Event.IsPlayed.isUndrawn
  suffices stepped : (step generation).Leads scene
      (fun outcome after => Advanced scene after ∧
        (outcome ≠ .superseded → generation = scene.own.state.generation))
      fun failure _ => failure = .crashed by
    refine (stepped.and (undrawn scene)).mono (fun _ _ both => both.1) fun _ _ both => both
  unfold step
  simp only [leads_bind, leads_own]
  split
  next older => exact ⟨.refl scene, fun live => absurd rfl live⟩
  next current =>
    have same : generation = scene.own.state.generation := (Decidable.not_not.mp current).symm
    rw [leads_bind]
    refine (next_advances scene).mono (fun more stepped advanced => ?_) fun _ _ impossible => impossible.elim
    split
    · refine (tick_advances stepped).bind fun report ticked further => ?_
      have both := advanced.trans further
      split
      · rw [leads_bind]
        refine ((Audio.beep_leads ticked).and (Audio.beep_emits ticked)).mono ?_ fun _ _ failed => failed.1
        intro _ heard ⟨unmoved, sounded⟩
        have unseen := sounded.mono fun event part => Event.IsPlayed.isUndrawn event (.inr part)
        exact ⟨both.unmoved unmoved unseen, fun _ => same⟩
      · exact ⟨both, fun _ => same⟩
    · exact ⟨advanced, fun _ => same⟩

end FrameLoop

/-- A renderer that takes a frame asks its tier for that upload and that draw. -/
private theorem Renderer.submit_of_room {pixels : Bytes} {scene : Scene Renderer} {set : ResourceSet}
    {done : Unit → Scene Renderer → Prop} {failed : Failure → Scene Renderer → Prop}
    (built : scene.own.resources = some set) (room : pixels.size = set.dims.area) :
    (submit pixels).Leads scene done failed ↔
      (set.submit pixels).Leads ⟨scene.own.backend, scene.platform⟩
        (fun value last => done value ⟨{ scene.own with backend := last.own }, last.platform⟩)
        fun failure last => failed failure ⟨{ scene.own with backend := last.own }, last.platform⟩ := by
  unfold submit ResourceSet.submit
  simp only [leads_bind, leads_own, built, if_pos room, onBackend, leads_within]

namespace FrameLoop

/-- What becomes of a frame that is due. -/
inductive Showing (due : Scene (FrameLoop ε)) : Except Failure Unit → Scene (FrameLoop ε) → Prop
  | withheld {cause : RenderError} (withheld : due.own.Withheld cause) :
      Showing due (.error (.refused cause)) ⟨due.own.tried due.own.renderer.backend, due.platform⟩
  | refused {set : ResourceSet} {cause : RenderError} {last : Scene Backend}
      (fits : due.own.Fits set)
      (ran : set.submit due.own.screen.pixels ⟨due.own.renderer.backend, due.platform⟩ =
        .error (.refused cause) last) :
      Showing due (.error (.refused cause)) ⟨due.own.tried last.own, last.platform⟩
  | crashed {after : Scene (FrameLoop ε)} {set : ResourceSet} {last : Scene Backend}
      (fits : due.own.Fits set)
      (ran : set.submit due.own.screen.pixels ⟨due.own.renderer.backend, due.platform⟩ =
        .error .crashed last) (platform : after.platform = last.platform) :
      Showing due (.error .crashed) after
  | shown {set : ResourceSet} {last : Scene Backend} (fits : due.own.Fits set)
      (ran : set.submit due.own.screen.pixels ⟨due.own.renderer.backend, due.platform⟩ =
        .ok () last) :
      Showing due (.ok ()) ⟨due.own.shown last.own, last.platform⟩

/-- Whether a frame that is due is handed over, and how, depends on its sizes alone. -/
theorem present_shows {generation : Nat} (ticks : Nat) (due : Scene (FrameLoop ε))
    (current : generation = due.own.state.generation) :
    (present generation ticks).Leads due
      (fun report after => report = .presented ticks ∧ Showing due (.ok ()) after)
      fun failure after => Showing due (.error failure) after := by
  unfold present
  simp only [leads_bind, leads_own, current, ne_eq, not_true_eq_false, if_false, updateState,
    leads_update, leads_attempt, leads_check, onRenderer, leads_within]
  by_cases whole : due.own.screen.pixels.size = due.own.screen.dims.area
  · have read : (Engine.screen due.own.session.engine).read = .ok due.own.screen.pixels :=
      if_pos whole
    simp only [read]
    cases built : due.own.renderer.resources with
    | none =>
      unfold Renderer.submit
      simp only [leads_bind, leads_own, built, leads_refuse]
      exact .withheld (.bare whole built)
    | some set =>
      by_cases room : due.own.screen.pixels.size = set.dims.area
      · have fits : due.own.Fits set := ⟨whole, built, room.symm.trans whole⟩
        rw [Renderer.submit_of_room built room]
        refine (leads_ran _ _).mono ?_ ?_
        · exact fun _ _ ran => ⟨rfl, .shown fits ran⟩
        · intro failure last ran
          cases failure with
          | refused cause => exact .refused fits ran
          | crashed => exact .crashed fits ran rfl
      · unfold Renderer.submit
        simp only [leads_bind, leads_own, built, if_neg room, leads_refuse]
        exact .withheld (.misfit whole built fun same => room (whole.trans same.symm))
  · have read : (Engine.screen due.own.session.engine).read =
        .error (.frameSize due.own.screen.dims.area due.own.screen.pixels.size) := if_neg whole
    simp only [read]
    exact .withheld (.garbled whole)

private theorem present_ends (callback : Callback) (due : Scene (FrameLoop ε))
    (current : callback.generation = due.own.state.generation) :
    Ends callback.host due callback.present due := by
  unfold Ends Callback.present
  rw [leads_bind]
  refine (present_shows callback.ticks due current).mono ?_ ?_
  · intro report after both
    obtain ⟨presented, showing⟩ := both
    obtain _ | _ | _ | ⟨fits, ran⟩ := showing
    rw [presented]
    exact .presented (.refl due) fits ran
  · intro failure after showing
    cases showing with
    | withheld withheld => exact .withheld (.refl due) withheld
    | refused fits ran => exact .refused (.refl due) fits ran
    | crashed fits ran platform => exact .crashed (.refl due) fits ran platform

end FrameLoop

namespace Callback
open FrameLoop

private theorem step_ends (callback : Callback) (scene : Scene (FrameLoop ε)) :
    Ends callback.host scene callback.step scene := by
  unfold Ends step
  rw [leads_bind]
  refine (step_advances callback.generation scene).mono ?_ ?_
  · intro outcome after both
    obtain ⟨advanced, live⟩ := both
    -- Counting a tick changes the callback alone.
    have counted (next : Callback → Act (FrameLoop ε) Progress)
        (rest : Ends callback.host scene (next { callback with ticks := callback.ticks + 1 }) after) :
        Ends callback.host scene (callback.counted >>= next) after := by
      unfold Ends Callback.counted
      rw [leads_bind]
      split
      · exact rest
      · exact .brokenDown advanced.undrawn
    have shown (ticks : Nat) (due : Scene (FrameLoop ε)) (late : Advanced scene due)
        (current : callback.generation = scene.own.state.generation) :
        Ends callback.host scene { callback with ticks := ticks }.present due :=
      (present_ends { callback with ticks } due (current.trans (congrArg _ late.state).symm)).after late
    cases outcome with
    | superseded =>
      simp only [proceed, leads_bind, leads_notify, leads_emit, leads_pure]
      exact .early ((advanced.record rfl).record rfl) rfl
    | halted => exact shown callback.ticks after advanced (live (by decide))
    | redraw => exact counted _ (shown _ after advanced (live (by decide)))
    | quiet =>
      refine counted _ ?_
      unfold Ends
      split
      · simp only [leads_bind, leads_notify]
        exact shown _ _ (advanced.record rfl) (live (by decide))
      · split
        · exact .early advanced rfl
        · exact .early advanced rfl
  · rintro failure after ⟨rfl, undrawn⟩
    exact .brokenDown undrawn

theorem runFor_ends (fuel : Nat) (callback : Callback) (scene : Scene (FrameLoop ε)) :
    Ends callback.host scene (runFor fuel callback) scene := by
  induction fuel generalizing callback scene with
  | zero => exact .brokenDown (.refl _)
  | succ fuel ih =>
    unfold Ends runFor
    rw [leads_bind]
    refine (step_ends callback scene).mono (fun progress after ending => ?_) fun _ _ ending => ending
    cases progress with
    | running further =>
      obtain ⟨advanced, same⟩ := ending
      exact (same ▸ ih further after).after advanced
    | paused _ | finished _ => exact ending

omit [Engine ε] in
private theorem begin_hands_nothing (host : Host) (config : LoopConfig) (now : Binary)
    (scene : Scene (FrameLoop ε)) :
    (begin host config now).Leads scene
      (fun _ after => after.own.renderer = scene.own.renderer ∧ after.platform = scene.platform)
      fun _ _ => False := by
  unfold begin FrameLoop.begin
  simp only [leads_bind, leads_own, updateState]
  split
  · simp only [leads_bind, leads_update, leads_pure]
    trivial
  · trivial

/-- Taking the frame asks nothing of the tier. A turn of the callback then steps the engine, and
asks nothing of the tier either until a frame is due. That frame is handed over when the engine's
buffer has the size of the engine's dimensions and of those of the resources: it is uploaded whole
and drawn once. Otherwise it is refused without a word to the tier, and the frame given back. The
upload has the shape that the engine has by then exactly when the resources have its dimensions;
that the sizes agree is not enough for that. A frame that the tier takes is one upload in its report
and then one draw, but for a surface that has timed out. -/
theorem frame_handed_over_iff_sizes_agree (host : Host) (config : LoopConfig) (now : Binary)
    (callback : Callback) (scene : Scene (FrameLoop ε)) :
    (begin host config now).Leads scene
      (fun _ after => after.own.renderer = scene.own.renderer ∧ after.platform = scene.platform)
      (fun _ _ => False) ∧
    Ends callback.host scene callback.run scene ∧
    (∀ due : FrameLoop ε, (∃ set, due.Fits set) ↔ ¬∃ cause, due.Withheld cause) ∧
    (∀ (due : FrameLoop ε) (set : ResourceSet),
      set.region = due.screen.region ↔ set.dims = due.screen.dims) ∧
    ∀ (set : ResourceSet) (pixels : Bytes) (asked : Scene Backend),
      (set.submit pixels).Leads asked
        (fun _ after => asked.platform.Displays after.platform) fun _ _ => True :=
  ⟨begin_hands_nothing host config now scene, runFor_ends _ callback scene,
    fits_iff_not_withheld, fun due set => set.region_eq_iff due.screen,
    ResourceSet.submit_displays⟩

end Callback

def Event.region? : Event → Option Region
  | .tier _ (.upload _ region _) | gpu (.writeTexture _ region _) => some region
  | _ => none

/-- A screen of two columns and three rows that is turned on its side at the first tick. -/
def FrameLoop.turning : Act Unit (FrameLoop ScriptedEngine) := do
  let script : EngineScript :=
    { dims := ⟨2, 3⟩, size := 6, steps := [.tick { redraw := true }]
      change := some { tick := 1, dims := ⟨3, 2⟩, size := 6 } }
  let session ← Session.create (ScriptedEngine.factory [script])
  let renderer ← Renderer.build (.simulated {}) session.dims
  return .ofSession session renderer

/-- One callback on that loop, from its beginning to its first pause or its end. -/
def FrameLoop.afterFrame (beginning : Act Unit (FrameLoop ε)) : Act Unit (FrameLoop ε) := do
  let (result, l) ← Act.apart (← beginning) do
    match ← Callback.begin .display {} (millis 0) with
    | none => pure none
    | some callback => some <$> callback.run
  let _ ← Act.settle result
  return l

/-- The turned screen is shown in the shape that it had before. -/
theorem FrameLoop.turned_screen_uploaded_unturned :
    (afterFrame turning).Leads ⟨(), {}⟩
      (fun l after => l.session.dims = ⟨3, 2⟩ ∧ l.state.frames = 1 ∧
        after.platform.events.toList.filterMap Event.region? =
          [{ x := 0, y := 0, dims := ⟨2, 3⟩, bytesPerRow := 2 }])
      (fun _ _ => False) := by
  decide +kernel

end FrameViewer
