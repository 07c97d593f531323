import FrameViewer.Proofs.LastingRenderers
import FrameViewer.Proofs.NextFrame

/-! What lasts of a renderer lasts through a show. Whatever the event loop does and whichever tasks
run, the application goes on showing and negotiates nothing, and its renderer is as good as before. -/

namespace FrameViewer
open Act

variable {α β : Type} {Good : Renderer → Platform → Prop} {fits : Prop}

namespace Show

/-- The renderer is good; and until a failure is on display, that holds besides. -/
structure Bears (Good : Renderer → Platform → Prop) (fits : Prop) (s : Show) (platform : Platform) :
    Prop where
  good : Good s.loop.renderer platform
  fits : s.screen = none → fits

theorem onLoop_bears {action : Act (FrameLoop Player) α} (bears : action.Bears Good (·.renderer)) :
    Preserves (Bears Good fits) (onLoop action) := by
  refine .of_leads fun scene now => ?_
  unfold onLoop
  simp only [leads_bind, leads_own, leads_within]
  refine Leads.mono (Preserves.leads bears now.good) ?_ ?_
  · exact fun _ _ still => ⟨still, now.fits⟩
  · exact fun _ _ still => ⟨still, now.fits⟩

private theorem stop_bears : Preserves (Bears Good fits) (onLoop FrameLoop.stop) :=
  onLoop_bears fun _ good => good

section Lasting

variable (lasting : Renderer.Lasting Good)
include lasting

private theorem bears_deaf : Deaf (Bears Good fits) :=
  fun s _ _ grown now => ⟨lasting.deaf s.loop.renderer grown now.good, now.fits⟩

private theorem emit_bears {event : Event} (part : event.part = .application) :
    Preserves (Bears Good fits) (emit event) :=
  (bears_deaf lasting).emit (.of_application part)

private theorem onFatal_bears {action : Act (Mailbox RenderError) α} (emits : action.Emits Event.IsAside) :
    Preserves (Bears Good fits) (onFatal action) := by
  refine .of_leads fun scene now => ?_
  unfold onFatal
  simp only [leads_bind, leads_own, leads_within]
  apply Leads.mono (emits ⟨scene.own.fatal, scene.platform⟩)
  · exact fun _ _ grown => ⟨lasting.deaf _ grown now.good, now.fits⟩
  · exact fun _ _ grown => ⟨lasting.deaf _ grown now.good, now.fits⟩

private theorem raise_bears (cause : RenderError) : Preserves (Bears Good fits) (raise cause) := by
  refine .bind (emit_bears lasting rfl) fun _ => onFatal_bears lasting (.bind .own fun box => ?_)
  cases box.slot with
  | some _ => exact .pure _
  | none => exact .bind (.setOwn _) fun _ => .emit (.of_part nofun nofun nofun)

/-- Once the failure is on display nothing else is asked of the renderer. -/
private theorem presentError_bears (cause : RenderError) : Preserves (Bears Good fits) (presentError cause) := by
  refine .of_leads fun scene now => ?_
  simp only [presentError, ErrorScreen.present, ErrorScreen.clear, ErrorScreen.fillText, leads_bind,
    leads_own, leads_within, leads_notify, leads_setOwn, leads_emit, if_true]
  have failed : Event.IsAside (.notice (.failed cause.message)) := .of_application rfl
  have titled : Event.IsAside (.windowTitle ("chipview: " ++ cause.message)) := .of_application rfl
  have told := (Platform.Extends.record scene.platform failed).trans (.record _ titled)
  refine ⟨lasting.deaf _ told now.good, fun absent => ?_⟩
  cases absent

private theorem updateTitle_bears : Preserves (Bears Good fits) updateTitle :=
  .bind .own fun _ => emit_bears lasting rfl

private theorem requestRedraw_bears : Preserves (Bears Good fits) requestRedraw :=
  (bears_deaf lasting).emit (.of_part nofun nofun nofun)

theorem loadRom_bears (rom : Rom) : Preserves (Bears Good fits) (loadRom rom) := by
  refine .bind .own fun s => .ite (emit_bears lasting rfl) ?_
  refine .bind (.attempt (onLoop_bears (FrameLoop.loadRom_bears lasting rom))) fun result => ?_
  cases result with
  | error cause => exact raise_bears lasting cause
  | ok _ =>
    exact .bind (emit_bears lasting rfl) fun _ =>
      .bind (updateTitle_bears lasting) fun _ => requestRedraw_bears lasting

private theorem loadFile_bears (files : Files) (path : String) :
    Preserves (Bears Good fits) (loadFile files path) := by
  unfold loadFile
  cases files.read path with
  | ok bytes => exact loadRom_bears lasting _
  | error reason => exact emit_bears lasting rfl

private theorem handleFatal_bears : Preserves (Bears Good fits) handleFatal := by
  refine .bind (onFatal_bears lasting (.bind .own fun _ => .bind (.setOwn _) fun _ => .pure _)) fun found => ?_
  cases found with
  | none => exact .pure _
  | some cause =>
    have halted : Preserves (Bears Good fits) halt :=
      .bind stop_bears fun _ => onLoop_bears (FrameLoop.onRenderer_bears lasting.teardown)
    exact .bind halted fun _ => presentError_bears lasting cause

private theorem handleKey_bears (code : String) (down again : Bool) :
    Preserves (Bears Good fits) (handleKey code down again) := by
  refine .ite (.bind .own fun s => .bind (onLoop_bears (FrameLoop.onSession_bears lasting ?_))
    fun place => ?_) (.pure _)
  · split
    · exact Session.keyDown_emits _ _
    · exact Session.keyUp_emits _ _
  · cases place with
    | none => exact .pure _
    | some place => exact emit_bears lasting rfl

private theorem follow_bears (callback : Callback) : Preserves (Bears Good fits) (follow callback) := by
  refine .bind (.attempt (onLoop_bears (Callback.runFor_bears lasting _ callback))) fun outcome => ?_
  cases outcome with
  | error cause => exact .bind (raise_bears lasting cause) fun _ => .pure _
  | ok progress =>
    cases progress with
    | running _ | paused _ => exact .bind .platform fun _ => .pure _
    | finished report =>
      cases report <;> exact .bind (emit_bears lasting rfl) fun _ => .pure _

private theorem beginFrame_bears : Preserves (Bears Good fits) beginFrame := by
  have begins (host : Host) (config : LoopConfig) (now : Binary) :
      (Callback.begin host config now).Bears Good fun l : FrameLoop Player => l.renderer := by
    refine .bind (.bind .own fun l => .ite (.bind (.change fun _ good => good) fun _ => .pure _)
      (.pure _)) fun generation => ?_
    cases generation <;> exact .pure _
  refine .bind .platform fun platform => .bind .own fun s => ?_
  refine .bind (onLoop_bears (begins .window s.config _)) fun begun => ?_
  cases begun with
  | none => exact .bind (emit_bears lasting rfl) fun _ => .pure _
  | some callback => exact follow_bears lasting callback

end Lasting
end Show

namespace Task

def IsNegotiation : Task → Prop
  | negotiate .. => True
  | frame | resume _ => False

end Task

namespace Viewer

/-- The viewer shows a session with a renderer that is good. -/
def Bears (Good : Renderer → Platform → Prop) (fits : Prop) (v : Viewer) (platform : Platform) : Prop :=
  ∃ s, v.stage = .showing s ∧ s.Bears Good fits platform

private theorem onShow_bears {action : Act Show α} (bears : Preserves (Show.Bears Good fits) action) :
    Preserves (Bears Good fits) (onShow action) := by
  refine .of_leads fun scene ⟨s, stage, now⟩ => ?_
  unfold onShow
  rw [leads_bind, leads_own, stage]
  simp only [leads_bind, leads_within, leads_pure]
  refine Leads.mono (bears.leads now) ?_ ?_
  · exact fun _ after still => ⟨after.own, rfl, still⟩
  · exact fun _ after still => ⟨after.own, rfl, still⟩

/-- The viewer shows a session with a renderer that is good, and no task is to negotiate another. -/
structure Presents (Good : Renderer → Platform → Prop) (fits : Prop) (tasks : List Task) (v : Viewer)
    (platform : Platform) : Prop where
  agreed : ∀ task ∈ tasks, ¬ task.IsNegotiation
  bears : v.Bears Good fits platform

variable (lasting : Renderer.Lasting Good)
include lasting

private theorem tend_bears : Preserves (Bears Good fits) tend := by
  refine .of_leads fun scene now => ?_
  unfold tend
  rw [leads_bind, leads_own, leads_bind, leads_setOwn]
  have looked : Preserves (Show.Bears Good fits) (Show.handleFatal >>= fun _ => Audio.process) :=
    .bind (Show.handleFatal_bears lasting) fun _ => Audio.process_preserves (Show.bears_deaf lasting)
  have closed : Preserves (Show.Bears Good fits) (if scene.own.closeAsked then emit .exit >>= fun _ =>
      Show.handleFatal >>= fun _ => Audio.process else Show.handleFatal >>= fun _ => Audio.process) :=
    .ite (.bind (Show.emit_bears lasting rfl) fun _ => looked) looked
  have stopped : Preserves (Show.Bears Good fits) (if scene.own.stopAsked = true then _ else _) :=
    .ite (.bind Show.stop_bears fun _ => closed) closed
  refine Preserves.leads (.bind (onShow_bears ?_) fun _ => .pure _) now
  cases scene.own.uploaded with
  | none => exact stopped
  | some bytes =>
    exact .ite (.bind (Show.emit_bears lasting rfl) fun _ => stopped)
      (.bind (Show.loadRom_bears lasting _) fun _ => stopped)

/-- A task that runs meanwhile leaves at most a callback behind. -/
private theorem poll_presents (task : Task) {others : List Task} {scene : Scene Viewer}
    (now : scene.own.Presents Good fits (task :: others) scene.platform) :
    (poll task).Leads scene
      (fun polled after => after.own.Presents Good fits (polled.left ++ others) after.platform)
      fun _ after => after.own.Bears Good fits after.platform := by
  have runs : Preserves (Bears Good fits) (poll task) := by
    cases task with
    | negotiate probes dims => exact absurd trivial (now.agreed _ List.mem_cons_self)
    | frame => exact .bind (onShow_bears (Show.beginFrame_bears lasting)) fun _ => .pure _
    | resume callback => exact .bind (onShow_bears (Show.follow_bears lasting callback)) fun _ => .pure _
  apply ((runs.leads now.bears).and (poll_parks task scene)).mono
  · intro polled after ⟨still, parks⟩
    refine ⟨fun other member => ?_, still⟩
    rcases List.mem_append.mp member with left | old
    · obtain ⟨spawned, resumed⟩ := parks
      rw [Polled.left, spawned, List.nil_append] at left
      obtain ⟨⟨deadline, _⟩, parked, rfl⟩ := Option.map_eq_some_iff.mp (Option.mem_toList.mp left)
      obtain ⟨callback, rfl⟩ := resumed _ _ parked
      exact id
    · exact now.agreed other (List.mem_cons_of_mem _ old)
  · exact fun _ _ both => both.1

end Viewer

namespace App

/-- Between two events the application shows a session with a renderer that is good, and no task is
to negotiate another. -/
def Presents (Good : Renderer → Platform → Prop) (fits : Prop) (scene : Scene App) : Prop :=
  Executor.Keeps (Viewer.Presents Good fits) scene

/-- The application goes on presenting; and even if the run breaks down, its renderer is good. -/
def Sustains (Good : Renderer → Platform → Prop) (fits : Prop) (action : Act App α) : Prop :=
  action.Respects (fun scene => scene) (.keeping (Presents Good fits)
    (fun _ after => after.own.2.Bears Good fits after.platform) fun _ => False)

namespace Sustains

theorem onViewer {action : Act Viewer α} (preserves : Preserves (Viewer.Bears Good fits) action) :
    Sustains Good fits (onViewer action) := by
  refine .of_leads fun scene now => ?_
  simp only [App.onViewer, leads_bind, leads_own, leads_within]
  refine Leads.mono (preserves.leads now.good.bears) ?_ ?_
  · exact fun _ _ still => ⟨now.numbered, now.good.agreed, still⟩
  · exact fun _ _ still => still

theorem onShow {action : Act Show Unit} (preserves : Preserves (Show.Bears Good fits) action) :
    Sustains Good fits (onShow action) :=
  .bind (Sustains.onViewer (Viewer.onShow_bears preserves)) fun _ => .pure _

theorem updateViewer {f : Viewer → Viewer} (same : ∀ v, (f v).stage = v.stage) :
    Sustains Good fits (updateViewer f) := by
  intro scene now
  obtain ⟨s, stage, bears⟩ := now.good.bears
  exact ⟨now.numbered, now.good.agreed, s, (same scene.own.2).trans stage, bears⟩

theorem spawn {task : Task} (other : ¬ task.IsNegotiation) : Sustains Good fits (spawn task) := by
  intro scene now
  refine ⟨⟨now.numbered.distinct, now.numbered.bounded⟩, fun each member => ?_, now.good.bears⟩
  simp only [Executor.pending, Executor.spawn, List.mem_append, List.mem_singleton] at member
  rcases member with (old | rfl) | old
  · exact now.good.agreed each (List.mem_append_left _ old)
  · exact other
  · exact now.good.agreed each (List.mem_append_right _ old)

/-- Only what is for a show matters. -/
theorem attended {first : Startup → Act App Unit} {second : Show → Act App Unit}
    (showing : ∀ s, Sustains Good fits (second s)) :
    Sustains Good fits (do match (← Act.own).2.stage with
      | .starting s => first s
      | .showing s => second s) := by
  refine .of_leads fun scene now => ?_
  obtain ⟨s, stage, _⟩ := now.good.bears
  rw [leads_bind, leads_own, stage]
  exact (showing s).leads now

end Sustains

section Lasting

variable (lasting : Renderer.Lasting Good)
include lasting

private theorem updatePlatform_sustains {f : Platform → Platform} (same : ∀ p, (f p).events = p.events) :
    Sustains Good fits (updatePlatform f) := by
  intro scene now
  obtain ⟨s, stage, bears⟩ := now.good.bears
  have told : scene.platform.Extends Event.IsAside (f scene.platform) := .of_events_eq (same _)
  exact ⟨now.numbered, now.good.agreed, s, stage, Show.bears_deaf lasting s told bears⟩

private theorem emit_sustains {event : Event} (part : event.part = .application) :
    Sustains Good fits (emit event) := by
  intro scene now
  obtain ⟨s, stage, bears⟩ := now.good.bears
  have aside : event.IsAside := .of_application part
  exact ⟨now.numbered, now.good.agreed, s, stage,
    Show.bears_deaf lasting s (.record _ aside) bears⟩

private theorem drive_sustains : Sustains Good fits drive := by
  refine .of_leads fun scene now => ?_
  apply Executor.drive_keeps _ _ _ now
  · intro tasks others v platform same presents
    exact ⟨fun task member => presents.agreed task (same.mem_iff.mpr member), presents.bears⟩
  · exact fun task others v platform presents => Viewer.poll_presents lasting task presents

/-- Whatever happens to a show, short of another size of its window. -/
private theorem handle_sustains (event : AppEvent) (unsized : ∀ size, event ≠ .resized size) :
    Sustains Good fits (handle event) := by
  have heard := Audio.start_preserves (@Show.bears_deaf _ fits lasting)
  cases event with
  | resumed => exact .attended fun _ => .pure _
  | woken => exact .attended fun _ => .onShow (Show.handleFatal_bears lasting)
  | idle =>
    exact .bind (drive_sustains lasting) fun _ => Sustains.attended fun _ => .onViewer (Viewer.tend_bears lasting)
  | drive => exact drive_sustains lasting
  | advance micros | innerSize size =>
    unfold handle
    refine updatePlatform_sustains lasting fun p => ?_
    rfl
  | plug rate =>
    refine .bind .platform fun platform => ?_
    cases platform.cue with
    | bell => exact .pure _
    | speaker output =>
      refine updatePlatform_sustains lasting fun p => ?_
      rfl
  | upload bytes => exact .bind (emit_sustains lasting rfl) fun _ => Sustains.updateViewer fun _ => rfl
  | requestClose | requestStop =>
    exact .bind (emit_sustains lasting rfl) fun _ => Sustains.updateViewer fun _ => rfl
  | closeRequested =>
    refine .bind .own fun app => ?_
    cases app.2.stage with
    | starting s => exact emit_sustains lasting rfl
    | showing s => exact .bind (emit_sustains lasting rfl) fun _ => emit_sustains lasting rfl
  | redraw =>
    refine .bind (emit_sustains lasting rfl) fun _ => Sustains.attended fun s => ?_
    split
    · exact .pure _
    · exact .spawn id
  | resized size => exact absurd rfl (unsized size)
  | key code down again =>
    have pressed := @Show.handleKey_bears _ fits lasting code down again
    exact .onShow (.ite (.bind heard fun _ => pressed) pressed)
  | pointer => exact .onShow heard
  | focus => exact .pure _
  | dropped path => exact .bind .own fun _ => Sustains.onShow (Show.loadFile_bears lasting _ _)

end Lasting
end App

/-- What is good about a renderer whose surface has some size lasts, and another size only takes the
place of the first. -/
structure Renderer.Sized (Good : Dims → Renderer → Platform → Prop) : Prop where
  lasting : ∀ size, Renderer.Lasting (Good size)
  resize : ∀ size told scene, Good size scene.own scene.platform →
    (resize told).Leads scene (fun _ after => Good told after.own after.platform)
      fun _ after => Good told after.own after.platform

/-- What is good about a renderer may be good for a reason that lasts. -/
theorem Renderer.Sized.indexed {ι : Type} {Good : ι → Dims → Renderer → Platform → Prop}
    (sized : ∀ i, Renderer.Sized (Good i)) :
    Renderer.Sized fun size renderer platform => ∃ i, Good i size renderer platform where
  lasting size :=
    { deaf := fun own _ _ grown ⟨i, good⟩ => ⟨i, ((sized i).lasting size).deaf own grown good⟩
      submit := fun pixels => .indexed fun i => ((sized i).lasting size).submit pixels
      rebuild := fun dims => .indexed fun i => ((sized i).lasting size).rebuild dims
      teardown := .indexed fun i => ((sized i).lasting size).teardown }
  resize size told scene := by
    rintro ⟨i, good⟩
    apply ((sized i).resize size told scene good).mono
    · exact fun _ _ good => ⟨i, good⟩
    · exact fun _ _ good => ⟨i, good⟩

/-- The size of the window as far as the host has told of it, when it was `size` before. -/
def AppEvent.told (size : Dims) : AppEvent → Dims
  | .resized told => told
  | _ => size

namespace App

variable {Good : Dims → Renderer → Platform → Prop} {size : Dims} {scene : Scene App}

/-- The application presents a renderer that is good for some size; until a failure is on display,
for that one. -/
def Shows (Good : Dims → Renderer → Platform → Prop) (size : Dims) (scene : Scene App) : Prop :=
  ∃ last, Presents (Good last) (last = size) scene

variable (sized : Renderer.Sized Good)
include sized

/-- A show that has ended takes no other size. -/
private theorem resized_shows (told : Dims) (shows : Shows Good size scene) :
    (handle (.resized told)).Leads scene (fun _ after => Shows Good told after)
      fun _ after => ∃ last, after.own.2.Bears (Good last) True after.platform := by
  obtain ⟨last, now⟩ := shows
  obtain ⟨s, stage, bears⟩ := now.good.bears
  simp only [handle, onShow, onViewer, Viewer.onShow, leads_bind, leads_own, leads_within, stage,
    leads_pure]
  by_cases stopped : s.isStopped = true
  · rw [if_pos stopped, leads_pure]
    refine ⟨last, now.numbered, now.good.agreed, s, rfl, bears.good, fun absent => ?_⟩
    rw [Show.isStopped, absent] at stopped
    cases stopped
  · rw [if_neg stopped]
    simp only [Show.onLoop, FrameLoop.onRenderer, leads_bind, leads_own, leads_within]
    apply (sized.resize last told ⟨s.loop.renderer, scene.platform⟩ bears.good).mono
    · exact fun _ after good => ⟨told, now.numbered, now.good.agreed, _, rfl, good, fun _ => rfl⟩
    · exact fun _ after good => ⟨told, _, rfl, good, fun _ => trivial⟩

theorem handle_shows (event : AppEvent) (shows : Shows Good size scene) :
    (handle event).Leads scene (fun _ after => Shows Good (event.told size) after)
      fun _ after => ∃ last, after.own.2.Bears (Good last) True after.platform := by
  by_cases sizing : ∃ told, event = .resized told
  · obtain ⟨told, rfl⟩ := sizing
    exact resized_shows sized told shows
  · have unsized (told : Dims) : event ≠ .resized told := fun same => sizing ⟨told, same⟩
    have same : event.told size = size := by
      cases event with
      | resized told => exact absurd rfl (unsized told)
      | _ => rfl
    obtain ⟨last, now⟩ := shows
    rw [same]
    refine Leads.mono ((handle_sustains (sized.lasting last) event unsized).leads now) ?_ ?_
    · exact fun _ after still => ⟨last, still⟩
    · exact fun _ after ⟨s, stage, bears⟩ => ⟨last, s, stage, bears.good, fun _ => trivial⟩

/-- Whatever happens to a show, its renderer is good for the size that the host told last. -/
theorem handleAll_shows (events : List AppEvent) (shows : Shows Good size scene) :
    (handleAll events).Leads scene (fun _ after => Shows Good (events.foldl AppEvent.told size) after)
      fun _ after => ∃ last, after.own.2.Bears (Good last) True after.platform := by
  induction events generalizing size scene with
  | nil => exact shows
  | cons event rest ih => exact (handle_shows sized event shows).bind fun _ _ still => ih still

end App
end FrameViewer
