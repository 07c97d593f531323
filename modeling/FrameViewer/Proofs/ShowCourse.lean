import FrameViewer.Proofs.ActionBounds
import FrameViewer.Proofs.FailureDisplay

/-! What the event loop does with a show never sets it back. A load that fails is raised only while
no failure is on display; a failure that the event loop finds is shown, and ends the show. -/

namespace FrameViewer
open Act

variable {α β : Type}

/-- What the actions between two turns leave of a loop, short of a load. -/
structure FrameLoop.Undisturbed (before after : FrameLoop Player) : Prop where
  frame : before.SameFrame after
  whole : before.session.Whole → after.session.Whole
  stopped : before.state.running = false → after.state.running = false
  bare : before.renderer.resources = none → after.renderer.resources = none

/-- A change between two turns that leaves the loop undisturbed and can at most break down. -/
structure FrameLoop.Minor (action : Act (FrameLoop Player) α) : Prop where
  emits : action.Emits Event.IsRoutine
  leaves : ∀ scene, action.Leads scene (fun _ after => scene.own.Undisturbed after.own)
    fun failure _ => failure = .crashed

namespace FrameLoop

theorem stop_minor : Minor stop := by
  unfold stop updateState
  refine ⟨.update _, fun scene => ?_⟩
  exact ⟨⟨rfl, rfl, rfl⟩, fun whole => whole, fun _ => rfl, fun bare => bare⟩

theorem resize_minor (size : Dims) : Minor (onRenderer (Renderer.resize size)) := by
  refine ⟨(onRenderer_emits (Renderer.resize_emits size)).mono Event.IsDrawing.isRoutine, ?_⟩
  intro scene
  simp only [onRenderer, leads_bind, leads_own, leads_within]
  have resized := (Renderer.resize_leads size ⟨scene.own.renderer, scene.platform⟩).and
    (Renderer.resize_unrefused size _)
  refine resized.mono ?_ fun _ _ both => both.2
  exact fun _ _ both => ⟨⟨rfl, rfl, rfl⟩, fun whole => whole, fun stopped => stopped, both.1.trans⟩

private theorem keyed_minor {action : Act (Session Player) α}
    (leads : ∀ scene, action.Leads scene (fun _ after => scene.own.Keyed after.own)
      fun _ _ => False)
    (emits : action.Emits fun event => event.part = .engine) : Minor (onSession action) := by
  refine ⟨(onSession_emits emits).mono fun event part => Event.IsPlayed.isRoutine event (.inl part), ?_⟩
  intro scene
  simp only [onSession, leads_bind, leads_own, leads_within]
  refine (leads _).mono (fun _ after keyed => ?_) fun _ _ impossible => impossible.elim
  have newest := congrArg Session.generation keyed.same
  exact ⟨⟨rfl, rfl, newest⟩, fun whole => whole.keyed keyed, fun stopped => stopped, fun bare => bare⟩

theorem handleKey_minor (keys : KeyMap String) (code : String) (down : Bool) :
    Minor (onSession (if down then Session.keyDown keys code else Session.keyUp keys code)) := by
  split
  · exact keyed_minor (Session.keyDown_leads _ _) (Session.keyDown_emits _ _)
  · exact keyed_minor (Session.keyUp_leads _ _) (Session.keyUp_emits _ _)

end FrameLoop

theorem Course.Stands.undisturbed {course : Course} {s : Show} {loop : FrameLoop Player}
    {display : Display} (stands : course.Stands s display) (undisturbed : s.loop.Undisturbed loop) :
    course.Stands { s with loop } display := by
  cases course with
  | underway => exact ⟨stands.screen, stands.shown, stands.waiting⟩
  | ended first aftermath =>
    have stopped := undisturbed.stopped stands.stopped
    have bare := undisturbed.bare stands.bare
    exact stands.withLoop stopped bare undisturbed.frame.inFlight

namespace Show

def Stays (action : Act Show α) : Prop :=
  ∀ course held scene, scene.own.Fit course held scene.platform.display →
    action.Leads scene (fun _ after => after.own.Fit course held after.platform.display)
      fun failure _ => failure = .crashed

@[reducible] def advancing : Bounds (Scene Show) where
  done before after := ∀ course held, before.own.Fit course held before.platform.display →
    after.own.Reaches course held after.platform.display
  failed failure before _ :=
    ∀ course held, before.own.Fit course held before.platform.display → failure = .crashed
  allows := Event.IsPlain
  refl _ _ _ fit := fit.reaches
  trans early late course held fit := by
    obtain ⟨middle, leads, reached⟩ := early course held fit
    obtain ⟨last, further, ended⟩ := late middle held reached
    exact ⟨last, leads.trans further, ended⟩
  broken early late course held fit := by
    obtain ⟨middle, _, reached⟩ := early course held fit
    exact late middle held reached

/-- However far the show has come, the action leads it no way back. -/
def Advances (action : Act Show α) : Prop :=
  action.Respects (fun scene => scene) advancing

instance : Hearing (fun scene : Scene Show => scene) advancing where
  record scene event plain _ _ fit := by
    rw [Platform.display_plain _ plain]
    exact fit.reaches

namespace Advances

variable {action : Act Show α} {course : Course} {held : List Nat} {scene : Scene Show}

theorem leads (advances : Advances action) (fit : scene.own.Fit course held scene.platform.display) :
    action.Leads scene (fun _ after => after.own.Reaches course held after.platform.display)
      fun failure _ => failure = .crashed :=
  (advances scene).mono (fun _ _ done => done course held fit) fun _ _ failed => failed course held fit

theorem of_leads (kept : ∀ course held scene, scene.own.Fit course held scene.platform.display →
      action.Leads scene (fun _ after => after.own.Reaches course held after.platform.display)
        fun failure _ => failure = .crashed) : Advances action := by
  intro scene
  exact leads_forall fun course => leads_forall fun held => leads_forall fun fit =>
    kept course held scene fit

end Advances

namespace Stays

variable {action : Act Show α}

theorem advances (stays : Stays action) : Advances action :=
  .of_leads fun course held scene fit =>
    (stays course held scene fit).mono (fun _ _ still => still.reaches) fun _ _ crashed => crashed

theorem of_same (emits : action.Emits Event.IsPlain)
    (same : ∀ scene, action.Leads scene (fun _ after => after.own = scene.own)
      fun failure _ => failure = .crashed) : Stays action := by
  intro course held scene fit
  refine ((emits scene).and (same scene)).mono ?_ fun _ _ both => both.2
  intro _ after ⟨grown, unmoved⟩
  rw [unmoved, grown.display]
  exact fit

theorem onLoop {action : Act (FrameLoop Player) α} (minor : FrameLoop.Minor action) :
    Stays (onLoop action) := by
  intro course held scene fit
  have plain := minor.emits.mono Event.IsRoutine.isPlain
  simp only [Show.onLoop, leads_bind, leads_own, leads_within]
  refine ((plain _).and (minor.leaves _)).mono ?_ fun _ _ both => both.2
  intro _ after ⟨grown, kept⟩
  refine ⟨fit.owned.of_sameFrame kept.frame, kept.whole fit.whole, ?_⟩
  rw [grown.display]
  exact fit.stands.undisturbed kept

end Stays

theorem audio_stays {action : Act Show Unit} (emits : action.Emits fun event => event.part = .sound)
    (same : ∀ scene, action.Leads scene (fun _ after => after.own = scene.own)
      fun failure _ => failure = .crashed) : Stays action :=
  .of_same (emits.mono fun event part =>
    Event.IsRoutine.isPlain event (by simp [Event.IsRoutine, part])) same

theorem handleKey_advances (code : String) (down again : Bool) :
    Advances (handleKey code down again) := by
  unfold handleKey
  refine .ite (.bind .own fun s => .bind ?_ fun place => ?_) (.pure _)
  · exact (Stays.onLoop (FrameLoop.handleKey_minor s.keys code down)).advances
  · cases place with
    | none => exact .pure _
    | some place => exact .emit ⟨rfl, rfl, rfl⟩

/-- A failure waits for the event loop unless one waits already. -/
theorem raise_leads (cause : RenderError) (scene : Scene Show) :
    (raise cause).Leads scene
      (fun _ after =>
        after.own = { scene.own with fatal := ⟨some (scene.own.fatal.slot.getD cause)⟩ } ∧
          after.platform.display = { scene.platform.display with
            raised := scene.platform.display.raised ++ [cause] })
      (fun _ _ => False) := by
  have told (platform : Platform) : (platform.record (.raised cause)).display =
      { platform.display with raised := platform.display.raised ++ [cause] } := by
    simp [Platform.display_record, Event.cause?, Event.failure?, Event.title?]
  obtain ⟨⟨loop, config, keys, ⟨slot⟩, screen⟩, platform⟩ := scene
  unfold raise onFatal Mailbox.post Mailbox.postWith
  simp only [leads_bind, leads_emit, leads_own, leads_within]
  cases slot with
  | some first => exact ⟨rfl, told platform⟩
  | none =>
    simp only [leads_bind, leads_setOwn, leads_emit]
    refine ⟨rfl, ?_⟩
    rw [Platform.display_plain _ ⟨rfl, rfl, rfl⟩]
    exact told platform

section Underway

variable {s : Show} {display : Display} {held : List Nat} {loop : FrameLoop Player} {rom : Rom}

theorem Underway.raise (underway : s.Underway display) (cause : RenderError) :
    Underway { s with loop, fatal := ⟨some (s.fatal.slot.getD cause)⟩ }
      { display with raised := display.raised ++ [cause] } := by
  refine ⟨underway.screen, underway.shown, ?_⟩
  rw [underway.waiting]
  cases display.raised <;> rfl

private theorem Fit.afterLoad (fit : s.Fit .underway held display)
    (session : loop.session = s.loop.session.loaded rom)
    (state : loop.state = { generation := s.loop.session.generation + 1 }) (titles : List String) :
    Fit .underway held { s with loop } { display with titles } := by
  have stands : s.Underway display := fit.stands
  refine ⟨fit.owned.restart ?_ ?_ ?_, ?_, ⟨stands.screen, stands.shown, stands.waiting⟩⟩
  · rw [state]
    exact Nat.lt_succ_self _
  · rw [state, session]
    rfl
  · rw [state]
  · rw [session]
    exact fit.whole.loaded rom

private theorem Fit.afterFailedLoad (fit : s.Fit .underway held display)
    (session : loop.session = s.loop.session.loaded rom) (state : loop.state = s.loop.state)
    (cause : RenderError) :
    Fit .underway held { s with loop, fatal := ⟨some (s.fatal.slot.getD cause)⟩ }
      { display with raised := display.raised ++ [cause] } := by
  have stands : s.Underway display := fit.stands
  refine ⟨fit.owned.outdate state ?_, ?_, stands.raise cause⟩
  · rw [session]
    exact Nat.le_succ _
  · rw [session]
    exact fit.whole.loaded rom

end Underway

private theorem announce_display (platform : Platform) (name title : String) :
    (((platform.record (.notice (.romLoaded name))).record (.windowTitle title)).record
        (.frameRequested .window)).display =
      { platform.display with titles := platform.display.titles ++ [title] } := by
  rw [Platform.display_plain _ ⟨rfl, rfl, rfl⟩, Platform.display_record,
    Platform.display_plain _ ⟨rfl, rfl, rfl⟩]
  simp [Event.cause?, Event.failure?, Event.title?]

/-- A load is ignored when a failure is on display; before, a failed one is raised. -/
theorem loadRom_advances (rom : Rom) : Advances (loadRom rom) := by
  refine .of_leads fun course held scene fit => ?_
  unfold loadRom
  simp only [leads_bind, leads_own]
  split
  next stopped =>
    have ignored : Advances (notify (.romIgnored rom.name)) := .notify ⟨rfl, rfl, rfl⟩
    exact ignored.leads fit
  next going =>
    -- After the end a load is ignored, so none can fail then.
    cases course with
    | ended first aftermath =>
      rw [isStopped, fit.stands.screen] at going
      exact absurd rfl going
    | underway =>
      simp only [onLoop, leads_bind, leads_own, leads_attempt, leads_within]
      have plain := (FrameLoop.loadRom_emits (ε := Player) rom).mono Event.IsRoutine.isPlain
      refine ((plain _).and (FrameLoop.loadRom_leads rom _)).mono ?_ ?_
      · intro _ after ⟨grown, session, state, _⟩
        simp only [leads_bind, leads_notify, updateTitle, requestRedraw, leads_own, leads_emit]
        rw [announce_display, grown.display]
        exact (fit.afterLoad session state _).reaches
      · intro failure after ⟨grown, session, state, _⟩
        cases failure with
        | crashed => trivial
        | refused cause =>
          refine (raise_leads cause _).mono ?_ fun _ _ impossible => impossible.elim
          intro _ last ⟨own, display⟩
          rw [own, display, grown.display]
          exact (fit.afterFailedLoad session state cause).reaches

theorem loadFile_advances (files : Files) (path : String) : Advances (loadFile files path) := by
  unfold loadFile
  cases files.read path with
  | ok bytes => exact loadRom_advances _
  | error reason => exact .emit ⟨rfl, rfl, rfl⟩

theorem presentError_leads (cause : RenderError) (scene : Scene Show) :
    (presentError cause).Leads scene
      (fun _ after =>
        after.own = { scene.own with screen := some (.console true [cause.message]) } ∧
          after.platform.display = { scene.platform.display with
            shown := scene.platform.display.shown ++ [cause.message]
            titles := scene.platform.display.titles ++ ["chipview: " ++ cause.message] })
      (fun _ _ => False) := by
  simp only [presentError, ErrorScreen.present, ErrorScreen.clear, ErrorScreen.fillText, leads_bind,
    leads_own, leads_within, leads_notify, leads_setOwn, leads_emit, if_true]
  refine ⟨rfl, ?_⟩
  rw [Platform.display_record, Platform.display_record]
  simp [Event.cause?, Event.failure?, Event.title?]

structure Halted (before after : Show) : Prop where
  same : after = { before with loop := after.loop }
  frame : before.loop.SameFrame after.loop
  session : after.loop.session = before.loop.session
  stopped : after.loop.state.running = false
  bare : after.loop.renderer.resources = none

private theorem halt_leads (scene : Scene Show) :
    halt.Leads scene
      (fun _ after => scene.own.Halted after.own ∧ after.platform.display = scene.platform.display)
      (fun failure _ => failure = .crashed) := by
  simp only [halt, onLoop, FrameLoop.stop, FrameLoop.updateState, FrameLoop.onRenderer, leads_bind,
    leads_own, leads_within, leads_update]
  have plain := Renderer.teardown_emits.mono fun event rendering =>
    Event.IsRoutine.isPlain event rendering.isRoutine
  have torn := (plain _).and ((Renderer.teardown_leads _).and
    (Renderer.teardown_unrefused ⟨scene.own.loop.renderer, scene.platform⟩))
  refine torn.mono ?_ fun _ _ all => all.2.2
  intro _ after all
  obtain ⟨grown, bare, _⟩ := all
  exact ⟨⟨rfl, ⟨rfl, rfl, rfl⟩, rfl, rfl, bare⟩, grown.display⟩

section Halted

variable {s after : Show} {display : Display} {cause : RenderError}
  (waits : s.fatal.slot = some cause) (halted : Halted { s with fatal := ⟨none⟩ } after)
include waits halted

/-- The first failure to be shown is the first that was raised. -/
theorem Underway.shows (underway : s.Underway display) :
    Ended { after with screen := some (.console true [cause.message]) }
      { display with
        shown := display.shown ++ [cause.message]
        titles := display.titles ++ ["chipview: " ++ cause.message] }
      cause (if s.loop.state.inFlight then .awaiting else .settled) := by
  have first : display.raised.head? = some cause := underway.waiting.symm.trans waits
  have free : after.fatal.slot = none := by rw [halted.same]
  have inFlight : after.loop.state.inFlight = s.loop.state.inFlight := halted.frame.inFlight
  cases flying : s.loop.state.inFlight with
  | false | true =>
    exact
      { raised := first
        shown := by rw [underway.shown]; rfl
        screen := rfl
        title := List.getLast?_concat
        stopped := halted.stopped
        bare := halted.bare
        waiting := free
        inFlight := inFlight.trans flying }

/-- Only the failure of the callback that was on its way can follow. -/
theorem Ended.shows {first : RenderError} {aftermath : Aftermath}
    (ended : s.Ended display first aftermath) :
    aftermath = .refused ∧
      Ended { after with screen := some (.console true [cause.message]) }
        { display with
          shown := display.shown ++ [cause.message]
          titles := display.titles ++ ["chipview: " ++ cause.message] }
        first .replaced := by
  have waiting := ended.waiting.symm.trans waits
  cases aftermath with
  | settled | awaiting | replaced => cases waiting
  | refused =>
    obtain rfl : Renderer.tornDown = cause := Option.some.inj waiting
    refine ⟨rfl, ?_⟩
    exact
      { raised := ended.raised
        shown := by rw [ended.shown]; rfl
        screen := rfl
        title := List.getLast?_concat
        stopped := halted.stopped
        bare := halted.bare
        waiting := by rw [halted.same]; rfl
        inFlight := halted.frame.inFlight.trans ended.inFlight }

end Halted

theorem withoutFailure {s : Show} (free : s.fatal.slot = none) : { s with fatal := ⟨none⟩ } = s := by
  obtain ⟨loop, config, keys, ⟨slot⟩, screen⟩ := s
  cases free
  rfl

/-- The event loop finds a failure only on a course that leads on to its display. -/
theorem handleFatal_advances : Advances handleFatal := by
  refine .of_leads fun course held scene fit => ?_
  obtain ⟨s, platform⟩ := scene
  unfold handleFatal onFatal Mailbox.take
  simp only [leads_bind, leads_own, leads_within, leads_setOwn, leads_pure]
  cases waits : s.fatal.slot with
  | none =>
    rw [leads_pure, withoutFailure waits]
    exact fit.reaches
  | some cause =>
    rw [leads_bind]
    refine (halt_leads _).mono (fun _ ended ⟨halted, still⟩ => ?_) fun _ _ crashed => crashed
    refine (presentError_leads cause ended).mono ?_ fun _ _ impossible => impossible.elim
    intro _ after ⟨own, display⟩
    have owned := fit.owned.of_sameFrame halted.frame
    have whole : ended.own.loop.session.Whole := halted.session ▸ fit.whole
    rw [own, display, still]
    cases course with
    | underway =>
      have stands : s.Underway platform.display := fit.stands
      exact ⟨.ended cause _, .underway _, owned, whole, stands.shows waits halted⟩
    | ended first aftermath =>
      have stands : s.Ended platform.display first aftermath := fit.stands
      obtain ⟨rfl, shown⟩ := stands.shows waits halted
      exact ⟨.ended first .replaced, .ended first .display, owned, whole, shown⟩

/-- A show begins underway, if nothing was said of failures before. -/
theorem start_leads {σ : Type} {session : Session Player} {scene : Scene σ} (renderer : Renderer)
    (config : LoopConfig) (whole : session.Whole) (calm : scene.platform.display.shown = [])
    (quiet : scene.platform.display.raised = []) :
    (start session renderer config : Act σ Show).Leads scene
      (fun begun after => after.own = scene.own ∧ begun.Fit .underway [] after.platform.display)
      (fun failure _ => failure = .crashed) := by
  unfold start
  simp only [leads_bind, leads_platform, leads_apart]
  have resized := Stays.onLoop (FrameLoop.resize_minor scene.platform.window)
  refine (resized .underway [] _ ⟨.ofSession session renderer, whole, rfl, calm, ?_⟩).mono ?_ ?_
  · rw [quiet]
    rfl
  · intro _ resized fit
    refine (audio_stays Audio.start_emits Audio.start_leads _ _ resized fit).mono ?_ ?_
    · intro _ heard fit
      have stands : heard.own.Underway heard.platform.display := fit.stands
      simp only [updateTitle, requestRedraw, leads_bind, leads_own, leads_emit, leads_settle,
        leads_pure]
      refine ⟨trivial, fit.owned, fit.whole, ?_⟩
      rw [Platform.display_plain _ ⟨rfl, rfl, rfl⟩, Platform.display_record]
      refine ⟨stands.screen, ?_, ?_⟩
      · simpa [Event.failure?] using stands.shown
      · simpa [Event.cause?] using stands.waiting
    · intro failure after crashed
      exact crashed
  · intro failure after crashed
    exact crashed

end Show
end FrameViewer
