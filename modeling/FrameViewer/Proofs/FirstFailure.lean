import FrameViewer.App.Opening
import FrameViewer.Proofs.ViewerCourse

/-! Whatever happens to the application, and in whatever order, the first failure stays on display
unless a callback was on its way when it was shown. -/

namespace FrameViewer
open Act

variable {σ α : Type}

namespace App

def Reaches (course : Course) (scene : Scene App) : Prop :=
  Executor.Keeps (fun tasks v platform => v.stage.Reaches course tasks platform.display) scene

def Advances (action : Act App α) : Prop :=
  action.Respects (fun scene => scene)
    (.each fun course => .keeping (Reaches course) (fun failure _ => failure = .crashed) fun _ => False)

namespace Advances

theorem leads {action : Act App α} {course : Course} {scene : Scene App} (advances : Advances action)
    (reaches : Reaches course scene) :
    action.Leads scene (fun _ after => Reaches course after) fun failure _ => failure = .crashed :=
  (respects_each.mp advances course).leads reaches

theorem of_leads {action : Act App α} (kept : ∀ course scene, Reaches course scene →
      action.Leads scene (fun _ after => Reaches course after) fun failure _ => failure = .crashed) :
    Advances action :=
  respects_each.mpr fun course => .of_leads (kept course)

theorem onViewer {action : Act Viewer α} (advances : Viewer.Advances action) :
    Advances (onViewer action) := by
  refine .of_leads fun course scene reaches => ?_
  obtain ⟨⟨e, v⟩, platform⟩ := scene
  simp only [App.onViewer, leads_bind, leads_own, leads_within]
  refine (advances course _ ⟨v, platform⟩ reaches.good).mono ?_ fun _ _ crashed => crashed
  exact fun _ _ good => ⟨reaches.numbered, good⟩

theorem onShow {action : Act Show Unit} (advances : Show.Advances action) :
    Advances (onShow action) :=
  .bind (Advances.onViewer (Viewer.onShow_advances advances)) fun _ => .pure _

theorem updatePlatform {f : Platform → Platform} (same : ∀ p, (f p).display = p.display) :
    Advances (updatePlatform f) := by
  intro scene course reaches
  refine ⟨reaches.numbered, ?_⟩
  show scene.own.2.stage.Reaches _ _ (f scene.platform).display
  rw [same]
  exact reaches.good

theorem emit {event : Event} (plain : event.IsPlain) : Advances (emit event) :=
  Advances.updatePlatform fun p => p.display_plain plain

theorem updateViewer {f : Viewer → Viewer} (same : ∀ v, (f v).stage = v.stage) :
    Advances (updateViewer f) := by
  intro scene course reaches
  refine ⟨reaches.numbered, ?_⟩
  show (f scene.own.2).stage.Reaches _ _ _
  rw [same]
  exact reaches.good

theorem spawn {task : Task} (none : task.generation? = none) : Advances (spawn task) := by
  intro scene course reaches
  refine ⟨⟨reaches.numbered.distinct, reaches.numbered.bounded⟩, ?_⟩
  refine Stage.Reaches.of_generations ?_ reaches.good
  have fresh : Task.generations [task] = [] := by simp [Task.generations, none]
  simp only [Executor.pending, Executor.spawn, Task.generations_append, fresh, List.append_nil]
  exact .rfl

end Advances

private theorem drive_advances : Advances drive := by
  refine .of_leads fun course scene reaches => ?_
  refine Executor.drive_leads ?_ ?_ _ reaches
  · exact fun _ _ _ _ same good => good.of_generations (same.filterMap _)
  · exact fun task _ _ _ good => Viewer.poll_reaches task good

private theorem openWindow_reaches {course : Course} {scene : Scene App} {s : Startup}
    (stage : scene.own.2.stage = .starting s) (reaches : Reaches course scene) :
    (openWindow s).Leads scene (fun _ after => Reaches course after)
      fun failure _ => failure = .crashed := by
  obtain ⟨⟨e, v⟩, platform⟩ := scene
  have good : (Stage.starting s).Reaches course e.pending platform.display := stage ▸ reaches.good
  have opened (started : Platform) (same : started.display = platform.display) :
      Reaches course ⟨(e, { v with stage := .starting { s with window := true } }), started⟩ := by
    obtain ⟨underway, none, calm⟩ := good
    refine ⟨reaches.numbered, underway, none, calm.whole, fun absent => ?_⟩
    rw [same]
    exact calm.quiet absent
  have begun : (platform.record (.notice .starting)).display = platform.display :=
    Platform.display_plain _ ⟨rfl, rfl, rfl⟩
  unfold openWindow
  simp only [leads_bind, leads_own, leads_notify, leads_checked]
  cases windowSize? v.settings.scale with
  | none => trivial
  | some size =>
    simp only [leads_emit]
    have created (event : Event) (plain : event.IsPlain) :
        ((platform.record (.notice .starting)).record event).display = platform.display := by
      rw [Platform.display_plain _ plain, begun]
    cases v.windowFault with
    | some reason =>
      refine Advances.leads (.bind (Advances.emit ⟨rfl, rfl, rfl⟩) fun _ =>
        Advances.emit ⟨rfl, rfl, rfl⟩) ⟨reaches.numbered, ?_⟩
      show v.stage.Reaches _ _ _
      rw [created _ ⟨rfl, rfl, rfl⟩]
      exact reaches.good
    | none =>
      simp only [onViewer, Viewer.setStartup, leads_bind, leads_own, leads_within, leads_update]
      exact Advances.leads (.bind (Advances.spawn rfl) fun _ => Advances.emit ⟨rfl, rfl, rfl⟩)
        (opened _ (created _ ⟨rfl, rfl, rfl⟩))

private theorem resume_advances : Advances resume := by
  refine .of_leads fun course scene reaches => ?_
  unfold resume
  rw [leads_bind, leads_own]
  cases stage : scene.own.2.stage with
  | showing s => exact reaches
  | starting s =>
    simp only
    split
    · exact reaches
    · exact openWindow_reaches stage reaches

private theorem attended_advances {first : Startup → Act App Unit} {second : Show → Act App Unit}
    (starting : ∀ s, Advances (first s)) (showing : ∀ s, Advances (second s)) :
    Advances (do match (← Act.own).2.stage with
      | .starting s => first s
      | .showing s => second s) := by
  refine .bind .own fun app => ?_
  cases app.2.stage with
  | starting s => exact starting s
  | showing s => exact showing s

/-- Whatever happens, the application is led no way back. -/
theorem handle_advances (event : AppEvent) : Advances (handle event) := by
  cases event with
  | resumed => exact resume_advances
  | woken =>
    exact attended_advances (fun _ => .onViewer Viewer.takeNegotiated_advances) fun _ =>
      .onShow Show.handleFatal_advances
  | idle =>
    exact .bind drive_advances fun _ =>
      attended_advances (fun _ => .onViewer Viewer.takeNegotiated_advances) fun _ =>
        .onViewer Viewer.tend_advances
  | drive => exact drive_advances
  | advance micros | innerSize size =>
    unfold handle
    refine .updatePlatform fun p => ?_
    rfl
  | plug rate =>
    refine .bind .platform fun platform => ?_
    cases platform.cue with
    | bell => exact .pure _
    | speaker output =>
      refine Advances.updatePlatform fun p => ?_
      rfl
  | upload bytes =>
    exact .bind (Advances.emit ⟨rfl, rfl, rfl⟩) fun _ => Advances.updateViewer fun _ => rfl
  | requestClose | requestStop =>
    exact .bind (Advances.emit ⟨rfl, rfl, rfl⟩) fun _ => Advances.updateViewer fun _ => rfl
  | closeRequested =>
    refine .bind .own fun app => ?_
    cases app.2.stage with
    | starting s => exact Advances.emit ⟨rfl, rfl, rfl⟩
    | showing s =>
      exact .bind (Advances.emit ⟨rfl, rfl, rfl⟩) fun _ => Advances.emit ⟨rfl, rfl, rfl⟩
  | redraw =>
    refine .bind (Advances.emit ⟨rfl, rfl, rfl⟩) fun _ => attended_advances (fun _ => .pure _) fun s => ?_
    split
    · exact .pure _
    · exact .spawn rfl
  | resized size =>
    exact .onShow (.bind .own fun s => .ite (.pure _) (Show.Stays.onLoop (FrameLoop.resize_minor size)).advances)
  | key code down again =>
    have heard := (Show.audio_stays Audio.start_emits Audio.start_leads).advances
    have pressed := Show.handleKey_advances code down again
    exact .onShow (.ite (.bind heard fun _ => pressed) pressed)
  | pointer => exact .onShow (Show.audio_stays Audio.start_emits Audio.start_leads).advances
  | focus => exact .pure _
  | dropped path => exact .bind .own fun _ => Advances.onShow (Show.loadFile_advances _ _)

theorem handleAll_advances (events : List AppEvent) : Advances (handleAll events) :=
  Respects.listForM handle_advances events

private theorem withRom_leads (rom : Rom) (scene : Scene σ) :
    (Session.withRom (fun _ => Player.blank) rom).Leads scene (fun session _ => session.Whole)
      (fun _ _ => False) := by
  simp only [Session.withRom, Session.create, Session.make, Session.reportCall, leads_bind,
    leads_emit, leads_pure, leads_apart]
  refine (Session.loadRom_leads rom _).mono ?_ fun _ _ impossible => impossible
  intro _ after loaded
  simp only [leads_settle, loaded]
  exact Session.Whole.loaded ⟨Player.blank_whole, fun _ => Player.blank_whole⟩ _

theorem create_leads (settings : Settings) (probes : List Probe) (files : Files)
    (windowFault : Option String) (platform : Platform) {scene : Scene σ}
    (fresh : scene.platform = platform.fresh) :
    (create settings probes files windowFault).Leads scene
      (fun app after => Reaches .underway ⟨app, after.platform⟩) (fun _ _ => False) := by
  have plain : (Session.withRom (fun _ => Player.blank) settings.rom : Act σ _).Emits Event.IsPlain :=
    (Session.withRom_emits _ _).mono fun event part =>
      Event.IsRoutine.isPlain event (by simp [Event.IsRoutine, part])
  unfold create
  simp only [leads_bind, leads_pure]
  refine ((plain scene).and (withRom_leads settings.rom scene)).mono ?_ fun _ _ both => both.2
  intro session after both
  obtain ⟨grown, whole⟩ := both
  refine ⟨⟨.nil, fun _ member => absurd member List.not_mem_nil⟩, rfl, rfl, whole, fun _ => ?_⟩
  rw [grown.display, fresh, Platform.display_fresh]
  exact ⟨rfl, rfl⟩

/-- Once a failure is on display, what is shown and the title stay as they are for as long as no
callback that was on its way then ends in one too. The first failure shown is the first that was
raised; the only one that ever takes its place says that the renderer is gone. -/
theorem first_failure_stays_iff_no_callback_ends (settings : Settings) (probes : List Probe)
    (files : Files) (windowFault : Option String) (platform : Platform)
    (before after : List AppEvent) :
    (create settings probes files windowFault).Leads (⟨(), platform.fresh⟩ : Scene Unit)
      (fun app begun =>
        (handleAll before).Leads ⟨app, begun.platform⟩
          (fun _ early => ∀ s, early.own.2.stage = .showing s → s.isStopped →
            ∃ first aftermath, s.Ended early.platform.display first aftermath ∧
              (handleAll after).Leads early
                (fun _ late => ∃ t later, late.own.2.stage = .showing t ∧
                  aftermath.LeadsTo later ∧ t.Ended late.platform.display first later ∧
                  (late.platform.display.shown = early.platform.display.shown ∧
                      late.platform.display.title? = early.platform.display.title? ↔
                    (s.IsUnsettled → t.IsUnsettled)))
                (fun failure _ => failure = .crashed))
          (fun failure _ => failure = .crashed))
      (fun _ _ => False) := by
  refine (create_leads settings probes files windowFault platform rfl).mono ?_ fun _ _ no => no
  intro app begun reaches
  refine ((handleAll_advances before).leads reaches).mono ?_ fun _ _ crashed => crashed
  intro _ early reached s showing stopped
  obtain ⟨course, _, fit⟩ : s.Reaches .underway _ _ := showing ▸ reached.good
  cases course with
  | underway =>
    have stands : s.Underway early.platform.display := fit.stands
    rw [Show.isStopped, stands.screen] at stopped
    cases stopped
  | ended first aftermath =>
    have ended : s.Ended early.platform.display first aftermath := fit.stands
    refine ⟨first, aftermath, ended, ?_⟩
    -- The second run starts from the course that the first one ended on, not from the beginning.
    have since : Reaches (.ended first aftermath) early := by
      refine ⟨reached.numbered, ?_⟩
      rw [showing]
      exact fit.reaches
    refine ((handleAll_advances after).leads since).mono ?_ fun _ _ crashed => crashed
    intro _ late further
    have good := further.good
    cases stage : late.own.2.stage with
    | starting startup =>
      rw [stage] at good
      cases good.1
    | showing t =>
      rw [stage] at good
      obtain ⟨_, leads, last⟩ := good
      cases leads with
      | @ended _ _ later leads =>
        have still : t.Ended late.platform.display first later := last.stands
        exact ⟨t, later, rfl, leads, still, ended.stays_iff still leads⟩

def losingTier : Probe :=
  .simulated
    { tier := .modern
      attempts := [.gives { faults := [⟨"upload", some 1, .lost "device lost"⟩] }] }

/-- The second redraw comes while the callback of the first is paused. -/
def overlapping : List AppEvent :=
  [.resumed, .idle, .redraw, .idle, .advance 50, .redraw, .idle]

/-- The first callback loses the device. In the same drive the second one begins, and its failure
displaces the first when it ends. -/
theorem second_callback_displaces_first_failure :
    (create { loop := { throttle := 50, maxTicks := some 2 } } [losingTier] [] none).Leads
      (⟨(), {}⟩ : Scene Unit)
      (fun app begun =>
        (handleAll overlapping).Leads ⟨app, begun.platform⟩
          (fun _ early =>
            early.platform.display.shown = ["render session lost: device lost"] ∧
              (handleAll [.advance 50, .idle]).Leads early
                (fun _ late =>
                  late.platform.display.shown =
                    ["render session lost: device lost",
                      "render session lost: render handle was torn down"] ∧
                  late.platform.display.title? =
                    some "chipview: render session lost: render handle was torn down")
                (fun _ _ => False))
          (fun _ _ => False))
      (fun _ _ => False) := by
  decide +kernel

end App
end FrameViewer
