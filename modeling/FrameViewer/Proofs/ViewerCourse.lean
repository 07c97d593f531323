import FrameViewer.App.Events
import FrameViewer.Proofs.ShowTurns

/-! The course of a viewer: a show that has come some way, or one that is yet to begin, with the
tasks that have not ended. Neither a task nor the event loop sets it back. -/

namespace FrameViewer
open Act

variable {σ α : Type}

theorem Task.generations_append (tasks others : List Task) :
    Task.generations (tasks ++ others) = Task.generations tasks ++ Task.generations others :=
  List.filterMap_append

/-- Before there is a show: nothing was said of failures, unless the negotiation failed. -/
structure Startup.Calm (s : Startup) (display : Display) : Prop where
  whole : s.session.Whole
  quiet : s.screen = none → display.shown = [] ∧ display.raised = []

namespace Stage

def Reaches (course : Course) (tasks : List Task) (display : Display) : Stage → Prop
  | starting s => course = .underway ∧ Task.generations tasks = [] ∧ s.Calm display
  | showing s => s.Reaches course (Task.generations tasks) display

theorem Reaches.of_generations {course : Course} {tasks others : List Task} {stage : Stage}
    {display : Display} (same : (Task.generations tasks).Perm (Task.generations others))
    (reaches : stage.Reaches course tasks display) : stage.Reaches course others display := by
  cases stage with
  | starting s =>
    obtain ⟨underway, none, calm⟩ := reaches
    rw [none] at same
    exact ⟨underway, List.nil_perm.mp same, calm⟩
  | showing s =>
    obtain ⟨later, leads, fit⟩ := reaches
    exact ⟨later, leads, fit.owned.perm same, fit.whole, fit.stands⟩

end Stage

namespace Viewer

def Advances (action : Act Viewer α) : Prop :=
  ∀ course tasks scene, scene.own.stage.Reaches course tasks scene.platform.display →
    action.Leads scene (fun _ after => after.own.stage.Reaches course tasks after.platform.display)
      fun failure _ => failure = .crashed

theorem onShow_advances {action : Act Show α} (advances : Show.Advances action) :
    Advances (onShow action) := by
  intro course tasks scene reaches
  obtain ⟨v, platform⟩ := scene
  simp only [onShow, leads_bind, leads_own]
  cases stage : v.stage with
  | starting s => exact reaches
  | showing s =>
    obtain ⟨early, leads, fit⟩ : s.Reaches course _ _ := stage ▸ reaches
    simp only [leads_bind, leads_within, leads_pure]
    refine Leads.mono (advances.leads fit) ?_ fun _ _ crashed => crashed
    intro _ after ⟨later, further, last⟩
    exact ⟨later, leads.trans further, last⟩

/-- A run of a callback, if there is a show, leaves what it comes to. -/
theorem turn_reaches {action : Act Show (Polled Task)} {course : Course} (held : List Task)
    {tasks : List Task} {scene : Scene Viewer}
    (reaches : scene.own.stage.Reaches course (held ++ tasks) scene.platform.display)
    (turn : ∀ later shown, shown.own.Fit later (Task.generations (held ++ tasks)) shown.platform.display →
      action.Leads shown
        (fun polled after => after.own.Reaches later
          (Task.generations polled.left ++ Task.generations tasks) after.platform.display)
        fun failure _ => failure = .crashed) :
    (do return (← onShow action).getD {} : Act Viewer (Polled Task)).Leads scene
      (fun polled after =>
        after.own.stage.Reaches course (polled.left ++ tasks) after.platform.display)
      fun failure _ => failure = .crashed := by
  obtain ⟨v, platform⟩ := scene
  simp only [onShow, leads_bind, leads_own]
  cases stage : v.stage with
  | starting s =>
    obtain ⟨underway, none, calm⟩ : (Stage.starting s).Reaches course _ _ := stage ▸ reaches
    rw [Task.generations_append, List.append_eq_nil_iff] at none
    rw [leads_pure, leads_pure, stage]
    exact ⟨underway, none.2, calm⟩
  | showing s =>
    obtain ⟨early, leads, fit⟩ : s.Reaches course _ _ := stage ▸ reaches
    simp only [leads_bind, leads_within, leads_pure]
    refine (turn early ⟨s, platform⟩ fit).mono ?_ fun _ _ crashed => crashed
    intro polled after ⟨later, further, last⟩
    rw [← Task.generations_append] at last
    exact ⟨later, leads.trans further, last⟩

private theorem post_leads {β : Type} (value : β) (scene : Scene (Mailbox β)) :
    (Mailbox.post value).Leads scene
      (fun _ after => after.platform.display = scene.platform.display) (fun _ _ => False) := by
  unfold Mailbox.post Mailbox.postWith
  simp only [leads_bind, leads_own]
  cases scene.own.slot with
  | some _ => rfl
  | none => exact Platform.display_plain _ ⟨rfl, rfl, rfl⟩

private theorem negotiate_advances (probes : List Probe) (dims : Dims) : Advances (negotiate probes dims) := by
  intro course tasks scene reaches
  have plain := (Negotiator.negotiate_emits dims).mono fun event negotiating =>
    Event.IsRoutine.isPlain event negotiating.isRoutine
  have ended := (plain.attempt ⟨{ probes }, scene.platform⟩).and
    (Unrefused.attempt (Negotiator.negotiate dims) ⟨{ probes }, scene.platform⟩)
  unfold negotiate
  simp only [leads_bind, leads_apart]
  refine ended.mono ?_ ?_
  · intro result negotiated ⟨grown, _⟩
    simp only [leads_settle, leads_own]
    have still : scene.own.stage.Reaches course tasks negotiated.platform.display := by
      rw [grown.display]
      exact reaches
    cases stage : scene.own.stage with
    | showing s =>
      rw [leads_pure, stage]
      exact stage ▸ still
    | starting s =>
      obtain ⟨underway, none, calm⟩ : (Stage.starting s).Reaches course _ _ := stage ▸ still
      rw [leads_within]
      refine (post_leads _ _).mono ?_ fun _ _ impossible => impossible.elim
      intro _ posted same
      refine ⟨underway, none, ⟨calm.whole, fun absent => ?_⟩⟩
      rw [same]
      exact calm.quiet absent
  · intro failure _ ⟨_, crashed⟩
    exact crashed

theorem poll_reaches (task : Task) {course : Course} {others : List Task} {scene : Scene Viewer}
    (reaches : scene.own.stage.Reaches course (task :: others) scene.platform.display) :
    (poll task).Leads scene
      (fun polled after =>
        after.own.stage.Reaches course (polled.left ++ others) after.platform.display)
      fun failure _ => failure = .crashed := by
  cases task with
  | negotiate probes dims =>
    have others' : scene.own.stage.Reaches course others scene.platform.display :=
      reaches.of_generations .rfl
    unfold poll
    rw [leads_bind]
    exact negotiate_advances probes dims course others scene others'
  | frame =>
    exact turn_reaches [.frame] reaches fun _ _ fit => Show.beginFrame_leads fit
  | resume callback =>
    exact turn_reaches [.resume callback] reaches fun _ _ fit => Show.follow_leads fit

/-- The show begins with nothing said of failures. A failed negotiation is shown instead, and then
no show begins. -/
theorem takeNegotiated_advances : Advances takeNegotiated := by
  intro course tasks scene reaches
  obtain ⟨v, platform⟩ := scene
  unfold takeNegotiated
  simp only [leads_bind, leads_own]
  cases stage : v.stage with
  | showing s =>
    rw [leads_pure, stage]
    exact stage ▸ reaches
  | starting s =>
    obtain ⟨rfl, none, calm⟩ : (Stage.starting s).Reaches course _ _ := stage ▸ reaches
    simp only
    split
    next open_ =>
      have absent : s.screen = Option.none := by
        simpa using (Bool.and_eq_true_iff.mp open_).2
      obtain ⟨shown, raised⟩ := calm.quiet absent
      simp only [setStartup, leads_bind, leads_update]
      cases s.negotiated.slot with
      | none => exact ⟨rfl, none, calm.whole, fun _ => ⟨shown, raised⟩⟩
      | some outcome =>
        cases outcome with
        | ok renderer =>
          simp only [leads_bind, leads_notify]
          refine (Show.start_leads renderer _ calm.whole ?_ ?_).mono ?_ fun _ _ crashed => crashed
          · rw [Platform.display_plain _ ⟨rfl, rfl, rfl⟩]
            exact shown
          · rw [Platform.display_plain _ ⟨rfl, rfl, rfl⟩]
            exact raised
          · intro begun after both
            have fit := both.2
            rw [leads_update]
            show begun.Reaches _ (Task.generations tasks) _
            rw [none]
            exact fit.reaches
        | error cause =>
          simp only [ErrorScreen.present, ErrorScreen.clear, ErrorScreen.fillText, leads_bind,
            leads_own, leads_within, leads_notify, leads_setOwn, leads_emit, if_true]
          exact ⟨rfl, none, calm.whole, fun absent => by cases absent⟩
    next => exact reaches

theorem tend_advances : Advances tend := by
  intro course tasks scene reaches
  obtain ⟨v, platform⟩ := scene
  unfold tend
  simp only [leads_bind, leads_own, leads_setOwn]
  refine onShow_advances ?_ course tasks _ reaches
  -- The end is the same whatever was asked for before.
  have looked : Show.Advances (Show.handleFatal >>= fun _ => Audio.process) :=
    .bind Show.handleFatal_advances fun _ =>
      (Show.audio_stays Audio.process_emits Audio.process_leads).advances
  have closed : Show.Advances (if v.closeAsked then emit .exit >>= fun _ =>
      Show.handleFatal >>= fun _ => Audio.process else Show.handleFatal >>= fun _ => Audio.process) :=
    .ite (.bind (.emit ⟨rfl, rfl, rfl⟩) fun _ => looked) looked
  have stopped : Show.Advances (if v.stopAsked = true then _ else _) :=
    .ite (.bind (Show.Stays.onLoop FrameLoop.stop_minor).advances fun _ => closed) closed
  cases v.uploaded with
  | none => exact stopped
  | some bytes =>
    exact .ite (.bind (.emit ⟨rfl, rfl, rfl⟩) fun _ => stopped)
      (.bind (Show.loadRom_advances _) fun _ => stopped)

end Viewer

end FrameViewer
