import FrameViewer.Proofs.NegotiationPlot

/-! How an application gets through the plot of its negotiation. Each event moves it on as its juncture
says, or breaks the run down where the negotiation, the window or the show does. -/

namespace FrameViewer
open Act

variable {σ : Type}

/-- An audio output is opened, or there is none. -/
private theorem Audio.start_opens (scene : Scene σ) :
    start.Leads scene (fun _ after => after.own = scene.own ∧ after.platform.window = scene.platform.window)
      fun _ _ => False := by
  unfold start
  simp only [leads_bind, leads_platform]
  cases scene.platform.cue with
  | bell => exact ⟨rfl, rfl⟩
  | speaker output => rcases output with ⟨_ | rate, _ | stream⟩ <;> exact ⟨rfl, rfl⟩

namespace Bid

variable {bid : Bid} {Holds : Standing → Platform → Prop}

namespace Terms

variable (terms : bid.Terms Holds)
include terms

private theorem humdrum {before after : Platform} (standing : Standing)
    (report : before.Extends Event.IsHumdrum after) (gpu : after.gpu = before.gpu)
    (holds : Holds standing before) : Holds standing after := by
  exact terms.aside standing (report.mono fun _ humdrum => .of_application humdrum.part) gpu holds

/-- The task ends with an outcome, which it leaves in the mailbox, unless the negotiation breaks
down. -/
theorem poll_concludes {v : Viewer} {platform : Platform} (viewer : bid.Opens bid.waiting v)
    (holds : Holds .vacant platform) :
    (Viewer.poll bid.task).Leads ⟨v, platform⟩
      (fun polled after => polled = {} ∧ ∃ ended outcome, bid.Concludes platform ended outcome ∧
        bid.Opens (bid.notified outcome) after.own ∧
        after.platform.display = platform.display ∧ Holds (.ofOutcome outcome) after.platform)
      fun failure after => failure = .crashed ∧ Holds .broken after.platform ∧
        ∃ last, Negotiator.negotiate bid.session.dims ⟨{ probes := bid.probes }, platform⟩ =
          .error .crashed last := by
  have plain := (Negotiator.negotiate_emits bid.session.dims).mono fun event negotiating =>
    Event.IsRoutine.isPlain event negotiating.isRoutine
  have ends := ((leads_ran _ _).and (terms.negotiates platform holds)).and
    (plain ⟨{ probes := bid.probes }, platform⟩)
  have posted {outcome : Except RenderError Renderer} {ended : Platform}
      (concludes : bid.Concludes platform ended outcome) (grown : platform.Extends Event.IsPlain ended)
      (good : Holds (.ofOutcome outcome) ended) :
      (Mailbox.post outcome).Leads ⟨{}, ended⟩
        (fun _ after => ∃ late outcome, bid.Concludes platform late outcome ∧
          bid.Opens (bid.notified outcome)
            { v with stage := .starting { bid.waiting with negotiated := after.own } } ∧
          after.platform.display = platform.display ∧ Holds (.ofOutcome outcome) after.platform)
        fun _ _ => False := by
    refine ⟨ended, outcome, concludes, ?_, ?_, ?_⟩
    · exact ⟨viewer.settings, viewer.probes, viewer.windowFault, rfl⟩
    · rw [Platform.display_plain _ ⟨rfl, rfl, rfl⟩, grown.display]
    · exact terms.humdrum _ (.record _ ⟨⟨rfl, rfl, rfl⟩, rfl⟩) rfl good
  simp only [task, Viewer.poll, Viewer.negotiate, leads_bind, leads_apart, leads_attempt]
  apply ends.mono
  · rintro _ after ⟨⟨ran, renderer, active, good⟩, grown⟩
    simp only [leads_settle, leads_own, viewer.stage, leads_within, active, Except.bind, leads_pure]
    apply (posted (.won ran active) grown good).mono
    · exact fun _ _ stands => ⟨trivial, stands⟩
    · exact fun _ _ impossible => impossible.elim
  · rintro failure after ⟨⟨ran, good⟩, grown⟩
    cases failure with
    | crashed => exact ⟨rfl, good, _, ran⟩
    | refused cause =>
      simp only [leads_settle, leads_own, viewer.stage, leads_within, Except.bind, leads_pure]
      apply (posted (.lost ran) grown good).mono
      · exact fun _ _ stands => ⟨trivial, stands⟩
      · exact fun _ _ impossible => impossible.elim

/-- A renderer that was won takes on the size of the window, and then the session is shown. -/
theorem start_leads {renderer : Renderer} (config : LoopConfig) (scene : Scene σ)
    (holds : Holds (.won renderer) scene.platform) :
    (Show.start bid.session renderer config).Leads scene
      (fun begun after => after.own = scene.own ∧ begun.screen = none ∧ begun.fatal.slot = none ∧
        begun.loop.session = bid.session ∧
        Holds (.shown after.platform.window begun.loop.renderer) after.platform ∧
        ∃ early late, Renderer.resize after.platform.window ⟨renderer, early⟩ =
          .ok () ⟨begun.loop.renderer, late⟩) fun _ _ => False := by
  have begins := terms.begins scene.platform.window ⟨renderer, scene.platform⟩ holds
  have window : (Renderer.resize scene.platform.window).Leads ⟨renderer, scene.platform⟩ _ _ :=
    (Renderer.resize_window scene.platform.window scene.platform.window).leads rfl
  have resizes := ((leads_ran _ _).and begins).and window
  simp only [Show.start, leads_bind, leads_platform, leads_apart, Show.onLoop, FrameLoop.onRenderer,
    leads_own, leads_within, FrameLoop.ofSession]
  apply resizes.mono
  · intro _ resized both
    obtain ⟨⟨ran, good⟩, same⟩ := both
    have deaf := (terms.sized.lasting scene.platform.window).through fun s : Show => s.loop.renderer
    apply ((Audio.start_opens _).and ((Audio.start_preserves deaf).leads good)).mono
    · intro _ heard both
      obtain ⟨⟨own, still⟩, good⟩ := both
      simp only [Show.updateTitle, Show.requestRedraw, leads_bind, leads_own, leads_emit, leads_settle,
        leads_pure]
      have window : heard.platform.window = scene.platform.window := still.trans same
      have titled (title : String) : Event.IsAside (.windowTitle title) := .of_application rfl
      have requested : Event.IsAside (.frameRequested .window) :=
        .of_part (by decide) (by decide) (by decide)
      refine ⟨trivial, ?_, ?_, ?_, ?_, ?_⟩
      · rw [own]
      · rw [own]
      · rw [own]
      · show Holds (.shown heard.platform.window _) _
        rw [window]
        exact deaf heard.own ((Platform.Extends.record _ (titled _)).trans (.record _ requested)) good
      · refine ⟨scene.platform, resized.platform, ?_⟩
        show Renderer.resize heard.platform.window _ = _
        rw [window, own]
        exact ran
    · exact fun _ _ both => both.1.elim
  · exact fun _ _ both => both.1.2.elim

/-- The first look at the outcome settles the negotiation. -/
theorem take_settles {scene : Scene App} {begun ended : Platform} {outcome : Except RenderError Renderer}
    (concludes : bid.Concludes begun ended outcome) (tasks : scene.own.1 = { next := 1 })
    (viewer : bid.Opens (bid.notified outcome) scene.own.2) (quiet : scene.platform.display.shown = [])
    (holds : Holds (.ofOutcome outcome) scene.platform) :
    (App.onViewer Viewer.takeNegotiated).Leads scene
      (fun _ after => bid.Stands Holds after (.settled outcome) ∧
        ∀ renderer, outcome = .ok renderer → bid.Promoted Holds renderer after) fun _ _ => False := by
  obtain ⟨⟨e, v⟩, platform⟩ := scene
  obtain rfl : e = { next := 1 } := tasks
  have stage : v.stage = .starting (bid.notified outcome) := viewer.stage
  simp only [App.onViewer, Viewer.takeNegotiated, Viewer.setStartup, leads_bind, leads_own, leads_within,
    stage, notified, waiting, Option.isNone_none, Bool.and_self, if_true, leads_update]
  cases outcome with
  | error cause =>
    simp only [ErrorScreen.present, ErrorScreen.clear, ErrorScreen.fillText, leads_within, leads_bind,
      leads_notify, leads_own, leads_setOwn, leads_emit, if_true]
    have failed : Event.IsAside (.notice (.failed cause.message)) := .of_application rfl
    have titled : Event.IsAside (.windowTitle ("chipview: " ++ cause.message)) := .of_application rfl
    have told := (Platform.Extends.record platform failed).trans (.record _ titled)
    refine ⟨.lost concludes rfl ⟨viewer.settings, viewer.probes, viewer.windowFault, rfl⟩ ?_ ?_, ?_⟩
    · show ((platform.record _).record _).display.shown = _
      rw [Platform.display_record, Platform.display_record]
      simpa [Event.failure?] using quiet
    · exact terms.aside _ told rfl holds
    · intro renderer same
      cases same
  | ok renderer =>
    simp only [leads_bind, leads_notify]
    have good : Holds (.won renderer) (platform.record (.notice (.renderingWith renderer.tier))) :=
      terms.humdrum _ (.record _ ⟨⟨rfl, rfl, rfl⟩, rfl⟩) rfl holds
    apply (terms.start_leads v.settings.loop ⟨_, _⟩ good).mono
    · intro begun after started
      obtain ⟨own, absent, idle, session, good, resized⟩ := started
      rw [leads_update]
      have shows : App.Shows (fun size renderer => Holds (.shown size renderer)) after.platform.window
          ⟨({ next := 1 }, { after.own with stage := .showing begun }), after.platform⟩ :=
        ⟨_, ⟨.nil, fun _ member => absurd member List.not_mem_nil⟩,
          fun _ member => absurd member List.not_mem_nil, begun, rfl, good, fun _ => rfl⟩
      refine ⟨.shown concludes shows, fun other same => ?_⟩
      obtain rfl := Except.ok.inj same
      exact ⟨shows, begun, rfl, absent, idle, session, resized⟩
    · exact fun _ _ impossible => impossible

/-- What lingers leaves the plot where it is. -/
theorem linger {plot : Plot} {before after : Scene App} (lingers : App.Lingers before after)
    (stands : bid.Stands Holds before plot) (early : ∀ renderer, plot ≠ .settled (.ok renderer)) :
    bid.Stands Holds after plot := by
  have display : after.platform.display = before.platform.display :=
    (lingers.report.mono fun _ humdrum => humdrum.plain).display
  have still {messages : List String} (shown : before.platform.display.shown = messages) :
      after.platform.display.shown = messages := by
    rw [display]
    exact shown
  have good {standing : Standing} (holds : Holds standing before.platform) :
      Holds standing after.platform :=
    terms.humdrum _ lingers.report lingers.gpu holds
  cases stands with
  | closed tasks viewer quiet holds =>
    exact .closed (lingers.tasks.trans tasks) (lingers.viewer _ _ viewer) (still quiet) (good holds)
  | awaiting tasks viewer quiet holds =>
    exact .awaiting (lingers.tasks.trans tasks) (lingers.viewer _ _ viewer) (still quiet) (good holds)
  | posted concludes tasks viewer quiet holds =>
    exact .posted concludes (lingers.tasks.trans tasks) (lingers.viewer _ _ viewer) (still quiet)
      (good holds)
  | shown => exact absurd rfl (early _)
  | lost concludes tasks viewer shown holds =>
    exact .lost concludes (lingers.tasks.trans tasks) (lingers.viewer _ _ viewer) (still shown)
      (good holds)

end Terms

private theorem unshown_of_juncture {plot : Plot} (unsettled : plot.juncture ≠ .settled) (renderer : Renderer) :
    plot ≠ .settled (.ok renderer) := by
  rintro rfl
  exact unsettled rfl

/-- A show is what a negotiation that was won has come to. -/
theorem Stands.showing_iff {plot : Plot} {scene : Scene App} (stands : bid.Stands Holds scene plot) :
    (∃ s, scene.own.2.stage = .showing s) ↔ ∃ renderer, plot = .settled (.ok renderer) := by
  cases stands with
  | shown concludes shows =>
    obtain ⟨_, presents⟩ := shows
    obtain ⟨s, stage, _⟩ := presents.good.bears
    exact ⟨fun _ => ⟨_, rfl⟩, fun _ => ⟨s, stage⟩⟩
  | closed _ viewer | awaiting _ viewer | posted _ _ viewer | lost _ _ viewer =>
    constructor
    · rintro ⟨s, stage⟩
      exact Stage.noConfusion (viewer.stage.symm.trans stage)
    · rintro ⟨renderer, same⟩
      cases same

/-- What holds wherever the plot stands holds even if the run breaks down. -/
theorem Stands.broken {plot : Plot} {scene : Scene App} (stands : bid.Stands Holds scene plot)
    (terms : bid.Terms Holds) : Holds .broken scene.platform := by
  cases stands with
  | closed _ _ _ holds | awaiting _ _ _ holds | posted _ _ _ _ holds | lost _ _ _ _ holds =>
    exact terms.breaks _ _ holds
  | shown _ shows =>
    obtain ⟨_, presents⟩ := shows
    obtain ⟨_, _, bears⟩ := presents.good.bears
    exact terms.breaks _ _ bears.good

/-- An event may leave the plot where it is. -/
theorem Turns.stay {plot : Plot} {event : AppEvent} {after : Scene App}
    (juncture : plot.juncture.next event = plot.juncture) (stands : bid.Stands Holds after plot) :
    bid.Turns Holds plot event after plot where
  juncture _ := juncture.symm
  outcome _ same := same
  promoted := by
    rintro unsettled renderer rfl
    exact absurd rfl unsettled
  stands := stands

/-- Before there is an outcome an event may bring the plot on by a step that does not settle it. -/
theorem Turns.early {plot later : Plot} {event : AppEvent} {after : Scene App}
    (juncture : bid.windowFault = none → later.juncture = plot.juncture.next event)
    (vacant : plot.outcome? = none) (unsettled : later.juncture ≠ .settled)
    (stands : bid.Stands Holds after later) : bid.Turns Holds plot event after later where
  juncture := juncture
  outcome outcome same := by
    rw [vacant] at same
    cases same
  promoted _ _ same := absurd (same ▸ rfl) unsettled
  stands := stands

/-- An event may settle the plot, with the outcome there is if there is one. -/
theorem Turns.settles {plot : Plot} {event : AppEvent} {after : Scene App}
    {outcome : Except RenderError Renderer} (juncture : plot.juncture.next event = .settled)
    (known : ∀ earlier, plot.outcome? = some earlier → earlier = outcome)
    (settled : bid.Stands Holds after (.settled outcome) ∧
      ∀ renderer, outcome = .ok renderer → bid.Promoted Holds renderer after) :
    bid.Turns Holds plot event after (.settled outcome) where
  juncture _ := juncture.symm
  outcome earlier same := congrArg some (known earlier same).symm
  promoted _ renderer same := settled.2 renderer (Plot.settled.inj same)
  stands := settled.1

section Turning

variable {plot : Plot} {scene : Scene App} (terms : bid.Terms Holds)
include terms

/-- An event that lingers is over with the plot as it was. -/
theorem stays {action : Act App Unit} {event : AppEvent} (stands : bid.Stands Holds scene plot)
    (early : ∀ renderer, plot ≠ .settled (.ok renderer))
    (juncture : plot.juncture.next event = plot.juncture)
    (lingers : action.Leads scene (fun _ after => App.Lingers scene after) fun _ _ => False) :
    action.Leads scene (fun _ after => ∃ later, bid.Turns Holds plot event after later)
      fun _ after => Holds .broken after.platform ∧ bid.Breaks after := by
  apply lingers.mono
  · exact fun _ after same => ⟨plot, .stay juncture (terms.linger same stands early)⟩
  · exact fun _ _ impossible => impossible.elim

/-- A show goes on. -/
private theorem shown_turns (event : AppEvent) {renderer : Renderer}
    (stands : bid.Stands Holds scene (.settled (.ok renderer))) :
    (App.handle event).Leads scene
      (fun _ after => ∃ later, bid.Turns Holds (.settled (.ok renderer)) event after later)
      fun _ after => Holds .broken after.platform ∧ bid.Breaks after := by
  cases stands with
  | shown concludes shows =>
    apply (App.handle_shows terms.sized event shows).mono
    · intro _ after still
      have juncture : Juncture.settled.next event = .settled := by cases event <;> rfl
      exact ⟨_, .stay juncture (.shown concludes still)⟩
    · intro _ after crashed
      obtain ⟨last, s, showing, bears⟩ := crashed
      exact ⟨terms.breaks _ _ bears.good, .presenting showing⟩

/-- A window that is opened has one negotiation started for it. -/
private theorem opening_turns (stands : bid.Stands Holds scene .closed) :
    (App.handle .resumed).Leads scene
      (fun _ after => ∃ later, bid.Turns Holds .closed .resumed after later)
      fun _ after => Holds .broken after.platform ∧ bid.Breaks after := by
  obtain ⟨⟨e, v⟩, platform⟩ := scene
  cases id stands with
  | closed tasks viewer quiet holds =>
    obtain rfl : e = {} := tasks
    have stage : v.stage = .starting { session := bid.session } := viewer.stage
    have settings : v.settings = bid.settings := viewer.settings
    have probes : v.probes = bid.probes := viewer.probes
    simp only [App.handle, App.resume, App.openWindow, leads_bind, leads_own, stage, leads_notify,
      leads_checked, settings, Bool.false_eq_true, if_false]
    have told {before : Platform} (since : platform.Extends Event.IsHumdrum before) (event : Event)
        (plain : event.IsPlain) (part : event.part = .application) :
        platform.Extends Event.IsHumdrum (before.record event) :=
      since.trans (.record before ⟨plain, part⟩)
    have starting := told (.refl platform) (.notice .starting) ⟨rfl, rfl, rfl⟩ rfl
    cases fits : App.windowSize? bid.settings.scale with
    | none => exact ⟨terms.breaks _ _ (terms.humdrum _ starting rfl holds), .window fits⟩
    | some size =>
      simp only [leads_emit]
      have created := told starting (.windowCreated "chipview" ⟨Player.width, Player.height⟩ size)
        ⟨rfl, rfl, rfl⟩ rfl
      cases fault : v.windowFault with
      | some reason =>
        simp only [leads_bind, leads_notify, leads_emit]
        have exits := told (told created (.notice (.windowFailed reason)) ⟨rfl, rfl, rfl⟩ rfl) .exit
          ⟨rfl, rfl, rfl⟩ rfl
        have unsettled : Plot.closed.juncture ≠ .settled := Juncture.noConfusion
        refine ⟨.closed, .early (fun opens => ?_) rfl unsettled
          (terms.linger ?_ stands (unshown_of_juncture unsettled))⟩
        · rw [← viewer.windowFault, fault] at opens
          cases opens
        · exact ⟨rfl, fun _ _ opens => opens, exits, rfl⟩
      | none =>
        simp only [App.onViewer, App.spawn, Viewer.setStartup, leads_bind, leads_own, leads_within,
          leads_update, leads_notify]
        have started := told created (.notice .started) ⟨rfl, rfl, rfl⟩ rfl
        refine ⟨.awaiting, .early (fun _ => rfl) rfl Juncture.noConfusion (.awaiting ?_ ?_ ?_ ?_)⟩
        · rw [probes]
          rfl
        · exact ⟨settings, probes, viewer.windowFault, rfl⟩
        · rw [(started.mono fun _ humdrum => humdrum.plain).display]
          exact quiet
        · exact terms.humdrum _ started rfl holds

private theorem closed_turns (event : AppEvent) (stands : bid.Stands Holds scene .closed) :
    (App.handle event).Leads scene
      (fun _ after => ∃ later, bid.Turns Holds .closed event after later)
      fun _ after => Holds .broken after.platform ∧ bid.Breaks after := by
  by_cases resumes : event = .resumed
  · obtain rfl := resumes
    exact opening_turns terms stands
  · have juncture : Juncture.closed.next event = .closed := by
      cases event with
      | resumed => exact absurd rfl resumes
      | _ => rfl
    refine stays terms stands (unshown_of_juncture Juncture.noConfusion) juncture ?_
    cases stands with
    | closed tasks viewer quiet holds =>
      exact App.handle_rests event tasks viewer.stage (fun same => absurd same resumes)
        fun _ opened => absurd opened Bool.false_ne_true

/-- The task that negotiates is the only one. Driven by itself it leaves its outcome in the mailbox;
before the event loop waits, that is looked at too. -/
private theorem awaiting_turns (event : AppEvent) (stands : bid.Stands Holds scene .awaiting) :
    (App.handle event).Leads scene
      (fun _ after => ∃ later, bid.Turns Holds .awaiting event after later)
      fun _ after => Holds .broken after.platform ∧ bid.Breaks after := by
  cases id stands with
  | awaiting tasks viewer quiet holds =>
    have stays := @stays _ _ .awaiting scene terms (App.handle event) event stands
      (unshown_of_juncture Juncture.noConfusion)
    have broken {failure : Failure} {after : Scene Viewer} {e : Executor Task}
        (breaks : failure = .crashed ∧ Holds .broken after.platform ∧ ∃ last,
          Negotiator.negotiate bid.session.dims ⟨{ probes := bid.probes }, scene.platform⟩ =
            .error .crashed last) :
        Holds .broken after.platform ∧ bid.Breaks ⟨(e, after.own), after.platform⟩ := by
      obtain ⟨_, good, last, crashed⟩ := breaks
      exact ⟨good, .negotiation crashed⟩
    cases event with
    | resumed =>
      refine stays rfl ?_
      simp only [App.handle, App.resume, leads_bind, leads_own, viewer.stage]
      exact .refl scene
    | woken =>
      refine stays rfl ?_
      rw [App.woken_leads viewer.stage]
      exact App.take_lingers viewer.stage fun _ _ => rfl
    | drive =>
      rw [App.handle]
      apply App.drive_leads_task tasks
      apply (terms.poll_concludes viewer holds).mono
      · intro polled after concluded
        obtain ⟨ended, _, outcome, concludes, opens, same, good⟩ := concluded
        have posted : bid.Stands Holds ⟨({ next := 1 }, after.own), after.platform⟩ (.posted outcome) :=
          .posted concludes rfl opens (same ▸ quiet) good
        exact ⟨ended, .posted outcome, .early (fun _ => rfl) rfl Juncture.noConfusion posted⟩
      · exact fun _ _ breaks e => broken breaks
    | idle =>
      rw [App.handle, leads_bind]
      apply App.drive_leads_task tasks
      apply (terms.poll_concludes viewer holds).mono
      · intro polled after concluded
        obtain ⟨ended, _, outcome, concludes, opens, same, good⟩ := concluded
        refine ⟨ended, ?_⟩
        rw [leads_bind, leads_own, opens.stage]
        apply (terms.take_settles concludes rfl opens (same ▸ quiet) good).mono
        · intro _ _ settled
          exact ⟨.settled outcome,
            .settles rfl (fun _ same => absurd same.symm (Option.some_ne_none _)) settled⟩
        · exact fun _ _ impossible => impossible.elim
      · exact fun _ _ breaks e => broken breaks
    | _ => exact stays rfl (App.handle_lingers _ trivial viewer.stage)

/-- The first event that looks for the outcome takes it. -/
private theorem posted_turns (event : AppEvent) {outcome : Except RenderError Renderer}
    (stands : bid.Stands Holds scene (.posted outcome)) :
    (App.handle event).Leads scene
      (fun _ after => ∃ later, bid.Turns Holds (.posted outcome) event after later)
      fun _ after => Holds .broken after.platform ∧ bid.Breaks after := by
  cases id stands with
  | posted concludes tasks viewer quiet holds =>
    by_cases looks : event = .woken ∨ event = .idle
    · have juncture : Juncture.posted.next event = .settled := by obtain rfl | rfl := looks <;> rfl
      have takes {done : Unit → Scene App → Prop} {failed : Failure → Scene App → Prop} :
          (App.handle event).Leads scene done failed =
            (App.onViewer Viewer.takeNegotiated).Leads scene done failed := by
        obtain rfl | rfl := looks
        · exact App.woken_leads viewer.stage
        · rw [App.handle, leads_bind, App.drive_leads_idle tasks, leads_bind, leads_own, viewer.stage]
      rw [takes]
      apply (terms.take_settles concludes tasks viewer quiet holds).mono
      · intro _ _ settled
        exact ⟨.settled outcome, .settles juncture (fun _ same => (Option.some.inj same).symm) settled⟩
      · exact fun _ _ impossible => impossible.elim
    · have juncture : Juncture.posted.next event = .posted := by
        cases event with
        | woken => exact absurd (.inl rfl) looks
        | idle => exact absurd (.inr rfl) looks
        | _ => rfl
      exact stays terms stands (unshown_of_juncture Juncture.noConfusion) juncture
        (App.handle_rests event tasks viewer.stage (fun _ => rfl) fun same => absurd same looks)

/-- Nothing happens any more. -/
private theorem lost_turns (event : AppEvent) {cause : RenderError}
    (stands : bid.Stands Holds scene (.settled (.error cause))) :
    (App.handle event).Leads scene
      (fun _ after => ∃ later, bid.Turns Holds (.settled (.error cause)) event after later)
      fun _ after => Holds .broken after.platform ∧ bid.Breaks after := by
  have juncture : Juncture.settled.next event = .settled := by cases event <;> rfl
  have unshown (renderer : Renderer) : Plot.settled (.error cause) ≠ .settled (.ok renderer) := by
    intro same
    cases same
  refine stays terms stands unshown juncture ?_
  cases stands with
  | lost concludes tasks viewer shown holds =>
    exact App.handle_rests event tasks viewer.stage (fun _ => rfl)
      fun _ _ absent => absurd absent (Option.some_ne_none _)

/-- Every event turns the plot as its juncture says. -/
theorem handle_turns (event : AppEvent) (stands : bid.Stands Holds scene plot) :
    (App.handle event).Leads scene (fun _ after => ∃ later, bid.Turns Holds plot event after later)
      fun _ after => Holds .broken after.platform ∧ bid.Breaks after := by
  cases plot with
  | closed => exact closed_turns terms event stands
  | awaiting => exact awaiting_turns terms event stands
  | posted outcome => exact posted_turns terms event stands
  | settled outcome =>
    cases outcome with
    | ok renderer => exact shown_turns terms event stands
    | error cause => exact lost_turns terms event stands

/-- However the events come, the negotiation has come as far as they say, and an outcome that there
was is the outcome still. -/
theorem handleAll_runs (events : List AppEvent) (stands : bid.Stands Holds scene plot) :
    (App.handleAll events).Leads scene (fun _ after => ∃ later, bid.Runs Holds plot events after later)
      fun _ after => Holds .broken after.platform ∧ bid.Breaks after := by
  induction events generalizing scene plot with
  | nil => exact ⟨plot, fun _ => rfl, fun _ same => same, stands⟩
  | cons event rest ih =>
    refine (handle_turns terms event stands).bind fun _ middle turned => ?_
    obtain ⟨next, turns⟩ := turned
    refine (ih turns.stands).mono (fun _ after ran => ?_) fun _ _ breaks => breaks
    obtain ⟨later, runs⟩ := ran
    refine ⟨later, fun opens => ?_, fun outcome same => ?_, runs.stands⟩
    · rw [runs.juncture opens, turns.juncture opens]
      rfl
    · exact runs.outcome outcome (turns.outcome outcome same)

end Turning
end Bid

/-- An application is created with its negotiation to come. -/
theorem App.create_stands {Holds : Standing → Platform → Prop} (settings : Settings) (probes : List Probe)
    (files : Files) (windowFault : Option String) {scene : Scene σ}
    (terms : ∀ bid : Bid, bid.probes = probes → bid.Terms Holds)
    (quiet : scene.platform.display.shown = []) (vacant : Holds .vacant scene.platform) :
    (create settings probes files windowFault).Leads scene
      (fun app begun => ∃ bid : Bid, bid.settings = settings ∧ bid.probes = probes ∧
        bid.windowFault = windowFault ∧ bid.Stands Holds ⟨app, begun.platform⟩ .closed)
      fun _ _ => False := by
  have gpu : (Session.withRom (fun _ => Player.blank) settings.rom).Leads scene
      (fun _ after => after.platform.gpu = scene.platform.gpu) fun _ _ => False := by
    simp only [Session.withRom, Session.create, Session.make, Session.reportCall, Session.loadRom,
      leads_bind, leads_emit, leads_pure, leads_apart, leads_notify, leads_own, leads_setOwn, leads_settle]
    rfl
  simp only [create, leads_bind, leads_pure]
  apply ((Session.withRom_emits _ _ scene).and gpu).mono
  · intro session begun both
    obtain ⟨grown, same⟩ := both
    let bid : Bid := ⟨settings, probes, windowFault, session⟩
    refine ⟨bid, rfl, rfl, rfl, .closed rfl ⟨rfl, rfl, rfl, rfl⟩ ?_ ?_⟩
    · have plain := grown.mono fun event part =>
        Event.IsRoutine.isPlain event (by simp [Event.IsRoutine, part])
      rw [plain.display]
      exact quiet
    · have aside := grown.mono fun event part => Event.IsPlayed.isAside event (.inl part)
      exact (terms bid rfl).aside _ aside same vacant
  · exact fun _ _ both => both.2

end FrameViewer
