import FrameViewer.Proofs.FirstFailure
import FrameViewer.Proofs.ParkedTasks
import FrameViewer.Proofs.RedrawRequests

/-! A show never stops unnoticed. Between two events, while it runs and no failure is on display,
its next frame is on its way: the window owes a redraw, a task is to begin a callback, the callback
that has the frame waits for its timer, or a failure waits to be shown. -/

namespace FrameViewer
open Act

variable {σ α : Type}

namespace Viewer

/-- Callbacks are of the window, and the show, if there is one, is awake with those tasks. -/
structure Awake (tasks : List Task) (v : Viewer) (platform : Platform) : Prop where
  window : ∀ callback, .resume callback ∈ tasks → callback.host = .window
  shown : ∀ s, v.stage = .showing s → s.Awake tasks platform

variable {tasks others : List Task}

theorem Awake.withTasks {v : Viewer} {platform : Platform} (awake : v.Awake tasks platform)
    (fewer : ∀ callback, .resume callback ∈ others → .resume callback ∈ tasks)
    (kept : .frame ∈ tasks → .frame ∈ others) : v.Awake others platform where
  window callback member := awake.window callback (fewer callback member)
  shown s stage := (awake.shown s stage).withTasks kept

theorem Awake.grown {v : Viewer} {before after : Platform} (awake : v.Awake tasks before)
    (grown : before.Extends Event.IsUndelivered after) : v.Awake tasks after where
  window := awake.window
  shown s stage := (awake.shown s stage).grown grown

theorem Awake.starting {v : Viewer} {before : Platform} (awake : v.Awake tasks before)
    (startup : Startup) (after : Platform) :
    Awake tasks { v with stage := .starting startup } after := by
  refine ⟨awake.window, ?_⟩
  rintro s ⟨⟩

private theorem onShow_awake {action : Act Show α} (shown : Maintains (Show.Awake tasks) action) :
    Maintains (Awake tasks) (onShow action) := by
  refine .of_leads fun scene awake => ?_
  obtain ⟨v, platform⟩ := scene
  simp only [onShow, leads_bind, leads_own]
  cases stage : v.stage with
  | starting s => exact awake
  | showing s =>
    simp only [leads_bind, leads_within, leads_pure]
    refine Leads.mono (shown.leads (awake.shown s stage)) ?_ fun _ _ failed => failed
    intro _ after still
    refine ⟨awake.window, ?_⟩
    rintro _ ⟨⟩
    exact still

private theorem setStartup_awake (startup : Startup) : Maintains (Awake tasks) (setStartup startup) :=
  fun _ awake => awake.starting startup _

/-- What a run of a callback leaves is of the window again, and the show is awake with it. -/
theorem turn_awake {action : Act Show (Polled Task)} {scene : Scene Viewer} {task : Task}
    (awake : scene.own.Awake (task :: others) scene.platform)
    (turn : ∀ s, scene.own.stage = .showing s →
      action.Leads ⟨s, scene.platform⟩
        (fun polled after => after.own.Awake others after.platform ∧
          ∀ further, .resume further ∈ polled.left → further.host = .window)
        fun _ _ => True) :
    (do return (← onShow action).getD {} : Act Viewer (Polled Task)).Leads scene
      (fun polled after => after.own.Awake (polled.left ++ others) after.platform)
      fun _ _ => True := by
  obtain ⟨v, platform⟩ := scene
  have waiting (callback : Callback) (member : .resume callback ∈ others) : callback.host = .window :=
    awake.window callback (List.mem_cons_of_mem _ member)
  simp only [onShow, leads_bind, leads_own]
  cases stage : v.stage with
  | starting s =>
    simp only [leads_pure]
    refine ⟨waiting, ?_⟩
    intro s showing
    rw [stage] at showing
    cases showing
  | showing s =>
    simp only [leads_bind, leads_within, leads_pure]
    refine (turn s stage).mono ?_ fun _ _ failed => failed
    intro polled after both
    obtain ⟨still, hosts⟩ := both
    refine ⟨?_, ?_⟩
    · intro callback member
      rcases List.mem_append.mp member with left | old
      · exact hosts callback left
      · exact waiting callback old
    · rintro _ ⟨⟩
      exact still.withTasks fun member => List.mem_append_right _ member

private theorem negotiate_awake (probes : List Probe) (dims : Dims) :
    Maintains (Awake tasks) (negotiate probes dims) := by
  refine .of_leads fun scene awake => ?_
  have undelivered := (Negotiator.negotiate_emits dims).mono fun event negotiating =>
    Event.IsRoutine.isUndelivered event negotiating.isRoutine
  unfold negotiate
  simp only [leads_bind, leads_apart]
  refine Leads.mono (undelivered.attempt ⟨{ probes }, scene.platform⟩) ?_ ?_
  · intro result negotiated grown
    simp only [leads_settle, leads_own]
    cases stage : scene.own.stage with
    | showing s => exact awake.grown grown
    | starting s =>
      rw [leads_within]
      exact .of_forall (fun _ _ => awake.starting _ _) fun _ _ => trivial
  · intro failure negotiated _
    trivial

private theorem poll_awake (task : Task) {scene : Scene Viewer}
    (awake : scene.own.Awake (task :: others) scene.platform) :
    (poll task).Leads scene
      (fun polled after => after.own.Awake (polled.left ++ others) after.platform)
      fun _ _ => True := by
  cases task with
  | negotiate probes dims =>
    have still : scene.own.Awake others scene.platform :=
      awake.withTasks (fun _ => List.mem_cons_of_mem _) fun frame => by simpa using frame
    unfold poll
    rw [leads_bind]
    exact (negotiate_awake probes dims).leads still
  | frame => exact turn_awake awake fun s _ => Show.beginFrame_awake _
  | resume callback =>
    refine turn_awake awake fun s stage => ?_
    apply Show.follow_awake (awake.window callback List.mem_cons_self)
    exact (awake.shown s stage).withTasks fun frame => by simpa using frame

private theorem takeNegotiated_awake : Maintains (Awake tasks) takeNegotiated := by
  refine .of_leads fun scene awake => ?_
  obtain ⟨v, platform⟩ := scene
  unfold takeNegotiated
  simp only [leads_bind, leads_own]
  cases stage : v.stage with
  | showing s => exact awake
  | starting s =>
    simp only
    split
    · simp only [setStartup, leads_bind, leads_update]
      cases s.negotiated.slot with
      | none => exact awake.starting _ _
      | some outcome =>
        cases outcome with
        | ok renderer =>
          simp only [leads_bind, leads_notify]
          refine (Show.start_asks renderer _ _).mono ?_ fun _ _ failed => failed
          exact fun begun after due => ⟨awake.window, fun _ _ _ _ => .asked due⟩
        | error cause =>
          rw [leads_within]
          exact .of_forall (fun _ _ => awake.starting _ _) fun _ _ => trivial
    · exact awake

private theorem tend_awake : Maintains (Awake tasks) tend := by
  refine .of_leads fun scene awake => ?_
  obtain ⟨v, platform⟩ := scene
  unfold tend
  simp only [leads_bind, leads_own, leads_setOwn]
  refine (onShow_awake ?_).leads ⟨awake.window, awake.shown⟩
  have looked : Maintains (Show.Awake tasks) (Show.handleFatal >>= fun _ => Audio.process) :=
    .bind Show.handleFatal_awake fun _ => Show.audio_awake Audio.process_emits Audio.process_leads
  have closed : Maintains (Show.Awake tasks) (if v.closeAsked then emit .exit >>= fun _ =>
      Show.handleFatal >>= fun _ => Audio.process else Show.handleFatal >>= fun _ => Audio.process) :=
    .ite (.bind (Show.emit_awake nofun) fun _ => looked) looked
  have stopped : Maintains (Show.Awake tasks) (if v.stopAsked = true then _ else _) :=
    .ite (.bind (Show.minor_awake FrameLoop.stop_minor) fun _ => closed) closed
  cases v.uploaded with
  | none => exact stopped
  | some bytes =>
    exact .ite (.bind (Show.emit_awake nofun) fun _ => stopped)
      (.bind (Show.loadRom_awake _) fun _ => stopped)

end Viewer

def Task.IsResumed (task : Task) : Prop :=
  ∃ callback, task = .resume callback

theorem Polled.Parks.ended : ({} : Polled Task).Parks Task.IsResumed :=
  ⟨rfl, nofun⟩

namespace Show

private theorem follow_parks (callback : Callback) (scene : Scene Show) :
    (follow callback).Leads scene (fun polled _ => polled.Parks Task.IsResumed) fun _ _ => True := by
  unfold follow
  simp only [leads_bind, leads_attempt]
  have parks (deadline : Nat) (further : Callback) :
      ({ parked := some (deadline, .resume further) } : Polled Task).Parks Task.IsResumed := by
    refine ⟨rfl, ?_⟩
    rintro _ _ ⟨⟩
    exact ⟨further, rfl⟩
  refine .of_forall (fun progress after => ?_) fun failure after => ?_
  · cases progress with
    | running further | paused further => exact parks _ further
    | finished report => cases report <;> exact .ended
  · cases failure with
    | crashed => trivial
    | refused cause => exact .of_forall (fun _ _ => .ended) fun _ _ => trivial

private theorem beginFrame_parks (scene : Scene Show) :
    beginFrame.Leads scene (fun polled _ => polled.Parks Task.IsResumed) fun _ _ => True := by
  unfold beginFrame
  simp only [leads_bind, leads_platform, leads_own]
  refine .of_forall (fun begun after => ?_) fun _ _ => trivial
  cases begun with
  | none => exact .ended
  | some callback => exact follow_parks callback after

end Show

namespace Viewer

private theorem onShow_parks {action : Act Show (Polled Task)}
    (parks : ∀ scene, action.Leads scene (fun polled _ => polled.Parks Task.IsResumed) fun _ _ => True)
    (scene : Scene Viewer) :
    (do return (← onShow action).getD {} : Act Viewer (Polled Task)).Leads scene
      (fun polled _ => polled.Parks Task.IsResumed) fun _ _ => True := by
  simp only [onShow, leads_bind, leads_own]
  cases scene.own.stage with
  | starting s => exact .ended
  | showing s =>
    simp only [leads_bind, leads_within, leads_pure]
    exact parks _

/-- Tasks spawn no others, and what they park goes on with a callback. -/
theorem poll_parks (task : Task) (scene : Scene Viewer) :
    (poll task).Leads scene (fun polled _ => polled.Parks Task.IsResumed) fun _ _ => True := by
  cases task with
  | negotiate probes dims =>
    unfold poll
    rw [leads_bind]
    exact .of_forall (fun _ _ => .ended) fun _ _ => trivial
  | frame => exact onShow_parks Show.beginFrame_parks scene
  | resume callback => exact onShow_parks (Show.follow_parks callback) scene

end Viewer

namespace App

/-- Every callback is parked and of the window, what was spawned is no callback, and the show, if
there is one, is awake. -/
structure Awake (app : App) (platform : Platform) : Prop where
  rested : app.1.Rested Task.IsResumed
  spawned : ∀ task ∈ app.1.incoming, task.generation? = none
  viewer : app.2.Awake app.1.pending platform

theorem Awake.grown {app : App} {before after : Platform} (awake : Awake app before)
    (grown : before.Extends Event.IsUndelivered after) : Awake app after :=
  ⟨awake.rested, awake.spawned, awake.viewer.grown grown⟩

private theorem onViewer_awake {action : Act Viewer α}
    (viewer : ∀ tasks, Maintains (Viewer.Awake tasks) action) : Maintains Awake (onViewer action) := by
  refine .of_leads fun scene awake => ?_
  obtain ⟨⟨e, v⟩, platform⟩ := scene
  simp only [onViewer, leads_bind, leads_own, leads_within]
  refine Leads.mono ((viewer _).leads awake.viewer) ?_ fun _ _ failed => failed
  exact fun _ _ still => ⟨awake.rested, awake.spawned, still⟩

private theorem onShow_awake {action : Act Show Unit} (shown : ∀ tasks, Maintains (Show.Awake tasks) action) :
    Maintains Awake (onShow action) :=
  .bind (onViewer_awake fun tasks => Viewer.onShow_awake (shown tasks)) fun _ => .pure _

private theorem updatePlatform_awake {f : Platform → Platform} (same : ∀ p, (f p).events = p.events) :
    Maintains Awake (updatePlatform f) :=
  fun scene awake => awake.grown (.of_events_eq (same scene.platform))

theorem emit_awake {event : Event} (undelivered : event.IsUndelivered) : Maintains Awake (emit event) :=
  fun scene awake => awake.grown (.record scene.platform undelivered)

private theorem updateViewer_awake {f : Viewer → Viewer} (same : ∀ v, (f v).stage = v.stage) :
    Maintains Awake (updateViewer f) := by
  intro scene awake
  refine ⟨awake.rested, awake.spawned, awake.viewer.window, ?_⟩
  intro s stage
  exact awake.viewer.shown s (same scene.own.2 ▸ stage)

/-- A task that was spawned may be what the next frame depends on from now on. -/
theorem spawn_leads {app : App} {platform : Platform} {task : Task}
    (rested : app.1.Rested Task.IsResumed) (first : task.generation? = none)
    (spawned : ∀ other ∈ app.1.incoming, other.generation? = none)
    (window : ∀ callback, .resume callback ∈ app.1.pending → callback.host = .window)
    (shown : ∀ s, app.2.stage = .showing s → s.Awake (task :: app.1.pending) platform) :
    (spawn task).Leads ⟨app, platform⟩ (fun _ after => Awake after.own after.platform)
      fun _ _ => True := by
  have same (other : Task) : other ∈ (app.1.spawn task).pending ↔ other ∈ task :: app.1.pending := by
    simp only [Executor.pending, Executor.spawn, List.mem_append, List.mem_cons, List.not_mem_nil,
      or_false]
    tauto
  refine ⟨rested.spawn task, ?_, ?_, fun s stage => (shown s stage).withTasks (same _).mpr⟩
  · intro other member
    rcases List.mem_append.mp member with old | new
    · exact spawned other old
    · obtain rfl := List.mem_singleton.mp new
      exact first
  · intro callback member
    rcases List.mem_cons.mp ((same _).mp member) with rfl | old
    · cases first
    · exact window callback old

private theorem drive_awake : Maintains Awake drive := by
  refine .of_leads fun scene awake => ?_
  have keeps : Executor.Keeps (fun tasks (v : Viewer) platform => v.Awake tasks platform) scene :=
    ⟨awake.rested.numbered, awake.viewer⟩
  have kept := Executor.drive_leads (fun _ _ _ _ same good => good.withTasks
    (fun _ => same.mem_iff.mpr) same.mem_iff.mp) (fun task _ _ _ good => Viewer.poll_awake task good)
    (fun _ => 1) keeps
  have rests := Executor.drive_rests Viewer.poll_parks (fun _ => Nat.le_refl 1)
    awake.rested.toScheduled
  refine (kept.and rests).mono ?_ fun _ _ _ => trivial
  intro _ after ⟨kept, rested, taken⟩
  refine ⟨rested, ?_, kept.good⟩
  rw [taken]
  exact nofun

private theorem openWindow_awake (startup : Startup) : Maintains Awake (openWindow startup) := by
  refine .bind .own fun app => .bind (emit_awake nofun) fun _ => .bind ?_ fun initial =>
    .bind (emit_awake nofun) fun _ => ?_
  · refine .of_leads fun scene awake => ?_
    rw [leads_checked]
    split
    · exact awake
    · trivial
  · cases app.2.windowFault with
    | some reason => exact .bind (emit_awake nofun) fun _ => emit_awake nofun
    | none =>
      refine .bind (onViewer_awake fun _ => Viewer.setStartup_awake _) fun _ =>
        .bind (.of_leads fun scene awake => ?_) fun _ => emit_awake nofun
      apply spawn_leads awake.rested rfl awake.spawned awake.viewer.window
      exact fun s stage =>
        (awake.viewer.shown s stage).withTasks fun member => List.mem_cons_of_mem _ member

private theorem attended_awake {first : Startup → Act App Unit} {second : Show → Act App Unit}
    (starting : ∀ s, Maintains Awake (first s)) (showing : ∀ s, Maintains Awake (second s)) :
    Maintains Awake (do match (← Act.own).2.stage with
      | .starting s => first s
      | .showing s => second s) := by
  refine .bind .own fun app => ?_
  cases app.2.stage with
  | starting s => exact starting s
  | showing s => exact showing s

/-- Whatever happens, a show that was awake is awake afterwards. -/
private theorem handle_awake (event : AppEvent) : Maintains Awake (handle event) := by
  have tended := attended_awake (fun _ => onViewer_awake fun _ => Viewer.takeNegotiated_awake)
    fun _ => onViewer_awake fun _ => Viewer.tend_awake
  cases event with
  | resumed =>
    exact attended_awake (fun s => .ite (.pure _) (openWindow_awake s)) fun _ => .pure _
  | woken =>
    exact attended_awake (fun _ => onViewer_awake fun _ => Viewer.takeNegotiated_awake)
      fun _ => onShow_awake fun _ => Show.handleFatal_awake
  | idle => exact .bind drive_awake fun _ => tended
  | drive => exact drive_awake
  | advance micros | innerSize size =>
    unfold handle
    refine updatePlatform_awake fun p => ?_
    rfl
  | plug rate =>
    refine .bind .platform fun platform => ?_
    cases platform.cue with
    | bell => exact .pure _
    | speaker output =>
      refine updatePlatform_awake fun p => ?_
      rfl
  | upload bytes => exact .bind (emit_awake nofun) fun _ => updateViewer_awake fun _ => rfl
  | requestClose | requestStop =>
    exact .bind (emit_awake nofun) fun _ => updateViewer_awake fun _ => rfl
  | closeRequested =>
    refine .bind .own fun app => ?_
    cases app.2.stage with
    | starting s => exact emit_awake nofun
    | showing s => exact .bind (emit_awake nofun) fun _ => emit_awake nofun
  | redraw =>
    -- The window owes nothing any more, and the task that begins a callback takes over.
    refine .of_leads fun scene awake => ?_
    unfold handle
    simp only [leads_bind, leads_emit, leads_own]
    cases stage : scene.own.2.stage with
    | starting s =>
      refine ⟨awake.rested, awake.spawned, awake.viewer.window, ?_⟩
      intro s showing
      rw [stage] at showing
      cases showing
    | showing s =>
      simp only
      split
      next stopped =>
        refine ⟨awake.rested, awake.spawned, awake.viewer.window, ?_⟩
        intro s showing absent
        rw [stage] at showing
        cases showing
        rw [Show.isStopped, absent] at stopped
        cases stopped
      next =>
        apply spawn_leads awake.rested rfl awake.spawned awake.viewer.window
        exact fun _ _ _ _ => .spawned List.mem_cons_self
  | resized size =>
    exact onShow_awake fun _ => .bind .own fun s =>
      .ite (.pure _) (Show.minor_awake (FrameLoop.resize_minor size))
  | key code down again =>
    have pressed (tasks : List Task) := @Show.handleKey_awake tasks code down again
    exact onShow_awake fun tasks =>
      .ite (.bind (Show.audio_awake Audio.start_emits Audio.start_leads) fun _ => pressed tasks)
        (pressed tasks)
  | pointer => exact onShow_awake fun _ => Show.audio_awake Audio.start_emits Audio.start_leads
  | focus => exact .pure _
  | dropped path => exact .bind .own fun _ => onShow_awake fun _ => Show.loadFile_awake _ _

private theorem handleAll_awake (events : List AppEvent) : Maintains Awake (handleAll events) :=
  Respects.listForM handle_awake events

private theorem create_awake (settings : Settings) (probes : List Probe) (files : Files)
    (windowFault : Option String) (scene : Scene σ) :
    (create settings probes files windowFault).Leads scene
      (fun app after => Awake app after.platform) fun _ _ => True := by
  unfold create
  rw [leads_bind]
  refine .of_forall (fun session after => ?_) fun _ _ => trivial
  refine ⟨⟨⟨⟨.nil, nofun⟩, .refl _, nofun⟩, rfl⟩, nofun, nofun, ?_⟩
  rintro s ⟨⟩

/-- How the next frame of a show is on its way. -/
inductive NextFrame (app : App) (platform : Platform) (s : Show) : Prop where
  /-- The window owes a redraw. -/
  | asked (due : platform.redrawDue = true)
  /-- A task that is to begin a callback was spawned and has not run yet. -/
  | spawned (frame : .frame ∈ app.1.incoming)
  /-- The one callback of the show's generation is parked, and has a timer of its own. -/
  | parked {id deadline : Nat} {callback : Callback} (taken : s.loop.state.inFlight = true)
    (current : callback.generation = s.loop.state.generation)
    (only : (Task.generations app.1.pending).count s.loop.state.generation = 1)
    (task : (id, .resume callback) ∈ app.1.tasks) (timer : (deadline, id) ∈ app.1.timers)
    (own : (app.1.timers.map (·.2)).count id = 1) (distinct : (app.1.tasks.map (·.1)).count id = 1)
  /-- A failure waits for the event loop. -/
  | failed {cause : RenderError} (waits : s.fatal.slot = some cause)

/-- Between two events, what a show is awake for is there for the event loop to find. -/
private theorem Awake.nextFrame {app : App} {platform : Platform} {s : Show} (awake : Awake app platform)
    (stage : app.2.stage = .showing s) (owned : s.loop.Owned (Task.generations app.1.pending))
    (absent : s.screen = none) (running : s.loop.state.running = true) : NextFrame app platform s := by
  have parked (task : Task) (member : task ∈ app.1.pending) :
      task ∈ app.1.incoming ∨ ∃ id, (id, task) ∈ app.1.tasks := by
    rcases List.mem_append.mp member with incoming | old
    · exact .inl incoming
    · obtain ⟨⟨id, _⟩, inside, rfl⟩ := List.mem_map.mp old
      exact .inr ⟨id, inside⟩
  cases awake.viewer.shown s stage absent running with
  | asked due => exact .asked due
  | failed waits =>
    obtain ⟨cause, posted⟩ := Option.ne_none_iff_exists'.mp waits
    exact .failed posted
  | spawned frame =>
    rcases parked _ frame with incoming | ⟨id, inside⟩
    · exact .spawned incoming
    · obtain ⟨callback, resumed⟩ := awake.rested.waits inside
      cases resumed
  | taken inFlight =>
    obtain ⟨task, member, generation⟩ := List.mem_filterMap.mp (owned.taken.mp inFlight)
    rcases parked task member with incoming | ⟨id, inside⟩
    · rw [awake.spawned task incoming] at generation
      cases generation
    · obtain ⟨callback, resumed⟩ := awake.rested.waits inside
      obtain rfl : task = .resume callback := resumed
      obtain ⟨deadline, timer, own, distinct⟩ := awake.rested.timer inside
      have only := owned.count_owners
      rw [inFlight] at only
      exact .parked inFlight (Option.some.inj generation) only inside timer own distinct

/-- In every run, between any two events: while no failure is on display and the loop runs, the
next frame of the show is on its way. -/
theorem running_show_awaits_next_frame (settings : Settings) (probes : List Probe) (files : Files)
    (windowFault : Option String) (platform : Platform) (events : List AppEvent) :
    (create settings probes files windowFault).Leads (⟨(), platform.fresh⟩ : Scene Unit)
      (fun app begun =>
        (handleAll events).Leads ⟨app, begun.platform⟩
          (fun _ after => ∀ s, after.own.2.stage = .showing s → s.screen = none →
            s.loop.state.running = true → NextFrame after.own after.platform s)
          (fun failure _ => failure = .crashed))
      (fun _ _ => False) := by
  have begins := (create_leads settings probes files windowFault platform rfl).and
    (create_awake settings probes files windowFault ⟨(), platform.fresh⟩)
  refine begins.mono ?_ fun _ _ both => both.1
  intro app begun ⟨reaches, awake⟩
  have advanced := (handleAll_advances events).leads reaches
  have woken : (handleAll events).Leads ⟨app, begun.platform⟩ _ _ := (handleAll_awake events).leads awake
  refine (advanced.and woken).mono ?_ fun _ _ both => both.1
  intro _ after ⟨reached, still⟩ s stage absent running
  obtain ⟨_, _, fit⟩ : s.Reaches .underway _ _ := stage ▸ reached.good
  exact still.nextFrame stage fit.owned absent running

end App
end FrameViewer
