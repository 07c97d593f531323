import FrameViewer.Proofs.LastingShows

/-! The negotiation of an application, from the first event on. The events of the host alone decide
when it is started, when it runs and when its outcome is taken; what the outcome is, and what holds of
the tiers meanwhile, is a matter of the terms that the negotiation is held on. -/

namespace FrameViewer
open Act

variable {σ : Type}

structure Bid where
  settings : Settings
  probes : List Probe
  windowFault : Option String
  session : Session Player

inductive Juncture where
  /-- There is no window to negotiate for. -/
  | closed
  /-- A task is to negotiate. -/
  | awaiting
  /-- The outcome is in the mailbox. -/
  | posted
  | settled
  deriving DecidableEq

namespace Juncture

def next : Juncture → AppEvent → Juncture
  | closed, .resumed => awaiting
  | awaiting, .drive => posted
  | awaiting, .idle => settled
  | posted, .woken => settled
  | posted, .idle => settled
  | juncture, _ => juncture

def after (juncture : Juncture) (events : List AppEvent) : Juncture :=
  events.foldl next juncture

end Juncture

inductive Plot where
  | closed
  | awaiting
  | posted (outcome : Except RenderError Renderer)
  | settled (outcome : Except RenderError Renderer)

namespace Plot

def juncture : Plot → Juncture
  | closed => .closed
  | awaiting => .awaiting
  | posted _ => .posted
  | settled _ => .settled

def outcome? : Plot → Option (Except RenderError Renderer)
  | closed | awaiting => none
  | posted outcome | settled outcome => some outcome

end Plot

inductive Standing where
  /-- No tier was acquired yet. -/
  | vacant
  | won (renderer : Renderer)
  | lost (cause : RenderError)
  /-- The renderer is shown on a window of that size. -/
  | shown (size : Dims) (renderer : Renderer)
  /-- The run broke down. -/
  | broken

namespace Standing

def ofOutcome : Except RenderError Renderer → Standing
  | .ok renderer => won renderer
  | .error cause => lost cause

def ofFailure : Failure → Standing
  | .refused cause => lost cause
  | .crashed => broken

end Standing

/-- Tells of the application alone, and neither of a failure nor of a title. -/
structure Event.IsHumdrum (event : Event) : Prop where
  plain : event.IsPlain
  part : event.part = .application

namespace Bid

/-- What `Holds` says keeps, on these terms, through negotiation and show. -/
structure Terms (bid : Bid) (Holds : Standing → Platform → Prop) : Prop where
  aside : ∀ standing {before after : Platform}, before.Extends Event.IsAside after →
    after.gpu = before.gpu → Holds standing before → Holds standing after
  negotiates : ∀ platform, Holds .vacant platform →
    (Negotiator.negotiate bid.session.dims).Leads ⟨{ probes := bid.probes }, platform⟩
      (fun _ after => ∃ renderer, after.own.active = some renderer ∧
        Holds (.won renderer) after.platform)
      fun failure after => Holds (.ofFailure failure) after.platform
  begins : ∀ size scene, Holds (.won scene.own) scene.platform →
    (Renderer.resize size).Leads scene
      (fun _ after => Holds (.shown size after.own) after.platform) fun _ _ => False
  sized : Renderer.Sized fun size renderer => Holds (.shown size renderer)
  breaks : ∀ standing platform, Holds standing platform → Holds .broken platform

/-- The negotiation that began on one platform has come to that outcome on another. -/
inductive Concludes (bid : Bid) (begun ended : Platform) : Except RenderError Renderer → Prop where
  | won {last : Negotiator} {renderer : Renderer}
    (ran : Negotiator.negotiate bid.session.dims ⟨{ probes := bid.probes }, begun⟩ =
      .ok () ⟨last, ended⟩)
    (active : last.active = some renderer) : Concludes bid begun ended (.ok renderer)
  | lost {last : Negotiator} {cause : RenderError}
    (ran : Negotiator.negotiate bid.session.dims ⟨{ probes := bid.probes }, begun⟩ =
      .error (.refused cause) ⟨last, ended⟩) : Concludes bid begun ended (.error cause)

structure Opens (bid : Bid) (startup : Startup) (v : Viewer) : Prop where
  settings : v.settings = bid.settings
  probes : v.probes = bid.probes
  windowFault : v.windowFault = bid.windowFault
  stage : v.stage = .starting startup

def task (bid : Bid) : Task :=
  .negotiate bid.probes bid.session.dims

def waiting (bid : Bid) : Startup :=
  { session := bid.session, window := true }

def notified (bid : Bid) (outcome : Except RenderError Renderer) : Startup :=
  { bid.waiting with negotiated := ⟨some outcome⟩ }

def failed (bid : Bid) (cause : RenderError) : Startup :=
  { bid.waiting with screen := some (.console true [cause.message]) }

/-- The application stands at that point of the plot, and that much holds there. Up to the end of the
negotiation no other task is about, and the session is the one that was brought. -/
inductive Stands (bid : Bid) (Holds : Standing → Platform → Prop) (scene : Scene App) : Plot → Prop where
  | closed (tasks : scene.own.1 = {}) (viewer : bid.Opens { session := bid.session } scene.own.2)
    (quiet : scene.platform.display.shown = []) (holds : Holds .vacant scene.platform) :
    Stands bid Holds scene .closed
  | awaiting (tasks : scene.own.1 = ({} : Executor Task).spawn bid.task)
    (viewer : bid.Opens bid.waiting scene.own.2)
    (quiet : scene.platform.display.shown = []) (holds : Holds .vacant scene.platform) :
    Stands bid Holds scene .awaiting
  | posted {begun ended : Platform} {outcome : Except RenderError Renderer}
    (concludes : bid.Concludes begun ended outcome) (tasks : scene.own.1 = { next := 1 })
    (viewer : bid.Opens (bid.notified outcome) scene.own.2)
    (quiet : scene.platform.display.shown = [])
    (holds : Holds (.ofOutcome outcome) scene.platform) : Stands bid Holds scene (.posted outcome)
  | shown {begun ended : Platform} {renderer : Renderer} {size : Dims}
    (concludes : bid.Concludes begun ended (.ok renderer))
    (shows : App.Shows (fun size renderer => Holds (.shown size renderer)) size scene) :
    Stands bid Holds scene (.settled (.ok renderer))
  | lost {begun ended : Platform} {cause : RenderError}
    (concludes : bid.Concludes begun ended (.error cause)) (tasks : scene.own.1 = { next := 1 })
    (viewer : bid.Opens (bid.failed cause) scene.own.2)
    (shown : scene.platform.display.shown = [cause.message])
    (holds : Holds (.lost cause) scene.platform) : Stands bid Holds scene (.settled (.error cause))

inductive Breaks (bid : Bid) (after : Scene App) : Prop where
  /-- The window's size does not fit the words it is counted in. -/
  | window (overflow : App.windowSize? bid.settings.scale = none)
  /-- The negotiation itself breaks down. -/
  | negotiation {begun : Platform} {last : Scene Negotiator}
    (crashed : Negotiator.negotiate bid.session.dims ⟨{ probes := bid.probes }, begun⟩ =
      .error .crashed last)
  | presenting {s : Show} (showing : after.own.2.stage = .showing s)

/-- The negotiated renderer has just taken on the size of the window, and the session is shown. -/
structure Promoted (bid : Bid) (Holds : Standing → Platform → Prop) (renderer : Renderer)
    (scene : Scene App) : Prop where
  shows : App.Shows (fun size renderer => Holds (.shown size renderer)) scene.platform.window scene
  begins : ∃ s, scene.own.2.stage = .showing s ∧ s.screen = none ∧ s.fatal.slot = none ∧
    s.loop.session = bid.session ∧ ∃ early late,
      Renderer.resize scene.platform.window ⟨renderer, early⟩ = .ok () ⟨s.loop.renderer, late⟩

structure Turns (bid : Bid) (Holds : Standing → Platform → Prop) (plot : Plot) (event : AppEvent)
    (after : Scene App) (later : Plot) : Prop where
  juncture : bid.windowFault = none → later.juncture = plot.juncture.next event
  outcome : ∀ outcome, plot.outcome? = some outcome → later.outcome? = some outcome
  promoted : plot.juncture ≠ .settled → ∀ renderer, later = .settled (.ok renderer) →
    bid.Promoted Holds renderer after
  stands : bid.Stands Holds after later

structure Runs (bid : Bid) (Holds : Standing → Platform → Prop) (plot : Plot) (events : List AppEvent)
    (after : Scene App) (later : Plot) : Prop where
  juncture : bid.windowFault = none → later.juncture = plot.juncture.after events
  outcome : ∀ outcome, plot.outcome? = some outcome → later.outcome? = some outcome
  stands : bid.Stands Holds after later

end Bid

/-- Neither opens the window, nor runs tasks, nor looks for what they left. -/
def AppEvent.IsBystander : AppEvent → Prop
  | .resumed | .woken | .idle | .drive => False
  | _ => True

namespace App

variable {bid : Bid} {Holds : Standing → Platform → Prop} {plot : Plot} {startup : Startup}
  {scene before after : Scene App}

/-- Nothing of a startup has changed, and nothing was asked of a tier. -/
structure Lingers (before after : Scene App) : Prop where
  tasks : after.own.1 = before.own.1
  viewer : ∀ (bid : Bid) startup, bid.Opens startup before.own.2 → bid.Opens startup after.own.2
  report : before.platform.Extends Event.IsHumdrum after.platform
  gpu : after.platform.gpu = before.platform.gpu

theorem Lingers.refl (scene : Scene App) : Lingers scene scene :=
  ⟨rfl, fun _ _ opens => opens, .refl _, rfl⟩

theorem handle_lingers (event : AppEvent) (bystander : event.IsBystander)
    (stage : scene.own.2.stage = .starting startup) :
    (handle event).Leads scene (fun _ after => Lingers scene after) fun _ _ => False := by
  have told {event : Event} (part : event.part = .application) (plain : event.IsPlain) (v : Viewer)
      (viewer : ∀ (bid : Bid) startup, bid.Opens startup scene.own.2 → bid.Opens startup v) :
      Lingers scene ⟨(scene.own.1, v), scene.platform.record event⟩ :=
    ⟨rfl, viewer, .record _ ⟨plain, part⟩, rfl⟩
  have still (platform : Platform) (events : platform.events = scene.platform.events)
      (gpu : platform.gpu = scene.platform.gpu) : Lingers scene ⟨scene.own, platform⟩ :=
    ⟨rfl, fun _ _ opens => opens, .of_events_eq events, gpu⟩
  cases event with
  | resumed | woken | idle | drive => exact bystander.elim
  | advance micros | innerSize size =>
    simp only [handle, leads_updatePlatform]
    exact still _ rfl rfl
  | plug rate =>
    simp only [handle, leads_bind, leads_platform]
    cases scene.platform.cue with
    | bell => exact still _ rfl rfl
    | speaker output => exact still _ rfl rfl
  | upload bytes | requestClose | requestStop =>
    simp only [handle, updateViewer, leads_bind, leads_notify, leads_update]
    exact told rfl ⟨rfl, rfl, rfl⟩ _ fun _ _ opens =>
      ⟨opens.settings, opens.probes, opens.windowFault, opens.stage⟩
  | closeRequested | redraw =>
    simp only [handle, leads_bind, leads_emit, leads_own, stage, leads_pure]
    exact told rfl ⟨rfl, rfl, rfl⟩ _ fun _ _ opens => opens
  | resized size | key code down again | pointer | dropped path =>
    simp only [handle, onShow, onViewer, Viewer.onShow, leads_bind, leads_own, leads_within, stage,
      leads_pure]
    exact still _ rfl rfl
  | focus => exact still _ rfl rfl

/-- Where there is no outcome to look at, looking changes nothing. -/
theorem take_lingers (stage : scene.own.2.stage = .starting startup)
    (nothing : startup.window = true → startup.screen = none → startup.negotiated.slot = none) :
    (onViewer Viewer.takeNegotiated).Leads scene (fun _ after => Lingers scene after) fun _ _ => False := by
  simp only [onViewer, Viewer.takeNegotiated, leads_bind, leads_own, leads_within, stage]
  by_cases looks : startup.window && startup.screen.isNone
  · obtain ⟨window, absent⟩ := Bool.and_eq_true_iff.mp looks
    have slot := nothing window (Option.isNone_iff_eq_none.mp absent)
    have same : { startup with negotiated := {} } = startup := by
      obtain ⟨session, window, ⟨_⟩, screen⟩ := startup
      obtain rfl := slot
      rfl
    simp only [looks, if_true, Viewer.setStartup, leads_bind, leads_update, slot, leads_pure, same]
    refine ⟨rfl, fun bid other opens => ?_, .refl _, rfl⟩
    exact ⟨opens.settings, opens.probes, opens.windowFault, stage.symm.trans opens.stage⟩
  · rw [if_neg looks, leads_pure]
    exact .refl scene

/-- Before there is a show, the event loop looks for the outcome whenever it is woken. -/
theorem woken_leads {done : Unit → Scene App → Prop} {failed : Failure → Scene App → Prop}
    (stage : scene.own.2.stage = .starting startup) :
    (handle .woken).Leads scene done failed =
      (onViewer Viewer.takeNegotiated).Leads scene done failed := by
  simp only [handle, leads_bind, leads_own, stage]

/-- A drive with no task at all does nothing. -/
theorem drive_leads_idle {done : Unit → Scene App → Prop} {failed : Failure → Scene App → Prop}
    {count : Nat} (tasks : scene.own.1 = { next := count }) :
    drive.Leads scene done failed = done () scene := by
  obtain ⟨⟨e, v⟩, platform⟩ := scene
  obtain rfl : e = { next := count } := tasks
  rfl

/-- A drive with one new task runs that. -/
theorem drive_leads_task {done : Unit → Scene App → Prop} {failed : Failure → Scene App → Prop}
    {task : Task} (tasks : scene.own.1 = ({} : Executor Task).spawn task)
    (ends : (Viewer.poll task).Leads ⟨scene.own.2, scene.platform⟩
      (fun polled after => polled = {} ∧ done () ⟨({ next := 1 }, after.own), after.platform⟩)
      fun failure after => ∀ e, failed failure ⟨(e, after.own), after.platform⟩) :
    drive.Leads scene done failed := by
  obtain ⟨⟨e, v⟩, platform⟩ := scene
  obtain rfl : e = ({} : Executor Task).spawn task := tasks
  simp only [drive, Executor.drive, leads_bind, leads_platform, leads_update, leads_own]
  change (Executor.runReady Viewer.poll 1).Leads
    ⟨({ next := 1, tasks := [(0, task)], ready := [0] }, v), platform⟩ done failed
  rw [Executor.runReady, leads_bind, leads_own]
  change Act.Leads (do
    Act.update fun s : App => ({ next := 1 }, s.2)
    let s ← Act.own
    let polled ← Act.within s.2 (fun rest => (({ next := 1 } : Executor Task), rest)) (Viewer.poll task)
    Act.update fun s : App => (s.1.settle 0 polled, s.2)
    Executor.runReady Viewer.poll 0) _ done failed
  simp only [leads_bind, leads_update, leads_own, leads_within]
  apply ends.mono
  · rintro _ after ⟨rfl, reached⟩
    exact reached
  · exact fun _ _ broken => broken _

/-- A startup with no task has nothing to do, unless there is a window to open or an outcome to look
at. -/
theorem handle_rests (event : AppEvent) {count : Nat} (tasks : scene.own.1 = { next := count })
    (stage : scene.own.2.stage = .starting startup)
    (opened : event = .resumed → startup.window = true)
    (nothing : event = .woken ∨ event = .idle →
      startup.window = true → startup.screen = none → startup.negotiated.slot = none) :
    (handle event).Leads scene (fun _ after => Lingers scene after) fun _ _ => False := by
  cases event with
  | resumed =>
    simp only [handle, resume, leads_bind, leads_own, stage, opened rfl, if_true, leads_pure]
    exact .refl scene
  | woken =>
    rw [woken_leads stage]
    exact take_lingers stage (nothing (.inl rfl))
  | idle =>
    rw [handle, leads_bind, drive_leads_idle tasks, leads_bind, leads_own, stage]
    exact take_lingers stage (nothing (.inr rfl))
  | drive =>
    rw [handle, drive_leads_idle tasks]
    exact .refl scene
  | _ => exact handle_lingers _ trivial stage

end App

section Window

variable {τ : Type} (size : Dims)

private abbrev KeepsWindow (action : Act τ σ) : Prop :=
  Preserves (fun _ platform => platform.window = size) action

private theorem Gpu.Device.deliverAll_window (due : List Gpu.DeviceError) : KeepsWindow size (deliverAll due) := by
  refine .listForM (fun e => .bind .own fun device => ?_) due
  cases catchIn e device.scopes with
  | some scopes => exact fun _ same => same
  | none =>
    cases device.listener with
    | absent => exact .crash
    | installed pending => exact .bind (fun _ same => same) fun _ _ same => same

theorem Renderer.resize_window (told : Dims) : KeepsWindow size (resize told) := by
  have configured (config : Gpu.SurfaceConfig) : KeepsWindow size (Gpu.Device.configure config) :=
    .bind (fun _ same => same) fun _ => .bind .own fun _ => .bind .platform fun _ =>
      .bind (.updatePlatform fun _ same => same) fun _ => Gpu.Device.deliverAll_window size _
  refine .of_leads fun scene same => ?_
  simp only [resize, onBackend, Backend.resize, Backend.run, leads_bind, leads_own, leads_within]
  cases scene.own.backend with
  | null => exact same
  | simulated b => exact same
  | gpu b =>
    simp only [leads_within, Gpu.Backend.resize, Gpu.Backend.onDevice, leads_bind, leads_own, leads_setOwn]
    exact Leads.mono ((configured _).leads same) (fun _ _ same => same) fun _ _ same => same

end Window

end FrameViewer
