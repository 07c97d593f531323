import FrameViewer.Proofs.ExecutorTasks
import FrameViewer.Proofs.ShowCourse

/-! What the callbacks of a show do to its course. A frame is refused only while no failure is on
display, or to the callback that was on its way when the first was shown. -/

namespace FrameViewer
open Act

namespace Show

section Turns

variable {s : Show} {display : Display} {course : Course} {held : List Nat} {callback : Callback}
  {loop : FrameLoop Player}
  (fit : s.Fit course (callback.generation :: held) display)
include fit

/-- A turn that is not refused leaves the show where it is. Without a renderer it shows no
frame. -/
theorem Fit.goesOn {progress : Progress} (turn : callback.Turn s.loop (.ok progress) loop) :
    Fit course ((Callback.rest? (.ok progress)).toList.map (·.generation) ++ held) { s with loop }
      display := by
  refine ⟨turn.owned fit.owned, fit.whole.kept turn.kept, ?_⟩
  cases course with
  | underway => exact ⟨fit.stands.screen, fit.stands.shown, fit.stands.waiting⟩
  | ended first aftermath =>
    have stands : s.Ended display first aftermath := fit.stands
    have inFlight : loop.state.inFlight = s.loop.state.inFlight := by
      cases turn with
      | superseded _ => rfl
      | going _ _ unmoved _ _ => rw [unmoved]
      | presented _ _ _ built => exact absurd stands.bare built
    have stopped := turn.kept.running.trans stands.stopped
    exact stands.withLoop stopped (turn.bare stands.bare) inFlight

/-- A turn is refused while nothing is on display, or it is the one that the first failure left on
its way. -/
private theorem Fit.isRefused {cause : RenderError} (turn : callback.Turn s.loop (.error cause) loop) :
    Reaches course held { s with loop, fatal := ⟨some (s.fatal.slot.getD cause)⟩ }
      { display with raised := display.raised ++ [cause] } := by
  have owned : loop.Owned held := turn.owned fit.owned
  have whole := fit.whole.kept turn.kept
  obtain _ | _ | _ | ⟨current, kept, free, unshown⟩ := turn
  cases course with
  | underway =>
    have stands : s.Underway display := fit.stands
    exact Fit.reaches ⟨owned, whole, stands.raise cause⟩
  | ended first aftermath =>
    have stands : s.Ended display first aftermath := fit.stands
    have bare : loop.renderer.resources = none := kept.resources.trans stands.bare
    obtain rfl : cause = Renderer.tornDown := whole.cause_of_bare bare unshown
    -- A held callback of the loop's generation is the one that has the frame, so the first failure
    -- was shown while it was on its way.
    have mine : s.loop.state.inFlight = true :=
      fit.owned.taken.mpr (current ▸ List.mem_cons_self)
    obtain rfl : aftermath = .awaiting := of_decide_eq_true (stands.inFlight.symm.trans mine)
    have empty : s.fatal.slot = none := stands.waiting
    refine ⟨.ended first .refused, .ended first .refuse, owned, whole, ?_⟩
    exact
      { raised := by rw [List.head?_append, stands.raised]; rfl
        shown := stands.shown
        screen := stands.screen
        title := stands.title
        stopped := kept.running.trans stands.stopped
        bare
        waiting := by rw [empty]; rfl
        inFlight := free }

end Turns
end Show

def Task.generation? : Task → Option Nat
  | resume callback => some callback.generation
  | _ => none

def Task.generations (tasks : List Task) : List Nat :=
  tasks.filterMap Task.generation?

namespace Show

theorem follow_leads {course : Course} {held : List Nat} {callback : Callback} {scene : Scene Show}
    (fit : scene.own.Fit course (callback.generation :: held) scene.platform.display) :
    (follow callback).Leads scene
      (fun polled after =>
        after.own.Reaches course (Task.generations polled.left ++ held) after.platform.display)
      (fun failure _ => failure = .crashed) := by
  have plain := callback.run_emits (ε := Player) |>.mono Event.IsRoutine.isPlain
  simp only [follow, onLoop, leads_bind, leads_own, leads_attempt, leads_within]
  refine ((plain _).and (callback.run_turns ⟨scene.own.loop, scene.platform⟩)).mono ?_ ?_
  · intro progress after ends
    obtain ⟨grown, turn⟩ := ends
    have kept := fit.goesOn turn
    rw [← grown.display] at kept
    cases progress with
    | running further | paused further => exact kept.reaches
    | finished report =>
      -- However it ended, its task is done and a notice tells of it.
      have ended (notice : Notice) (event : Event.IsPlain (.notice notice)) :
          Reaches course held { scene.own with loop := after.own }
            (after.platform.record (.notice notice)).display := by
        rw [Platform.display_plain _ event]
        exact kept.reaches
      cases report with
      | presented ticks => exact ended (.framePresented ticks) ⟨rfl, rfl, rfl⟩
      | skipped | superseded => exact ended (.frameEnded _) ⟨rfl, rfl, rfl⟩
  · intro failure after ends
    obtain ⟨grown, rfl | ⟨cause, rfl, turn⟩⟩ := ends
    · trivial
    · refine (raise_leads cause _).mono ?_ fun _ _ impossible => impossible.elim
      intro _ last both
      obtain ⟨own, display⟩ := both
      have raised := fit.isRefused turn
      rw [← grown.display] at raised
      rw [leads_pure, own, display]
      exact raised

/-- A callback begins only while nothing is on display. -/
theorem beginFrame_leads {course : Course} {held : List Nat} {scene : Scene Show}
    (fit : scene.own.Fit course held scene.platform.display) :
    beginFrame.Leads scene
      (fun polled after =>
        after.own.Reaches course (Task.generations polled.left ++ held) after.platform.display)
      (fun failure _ => failure = .crashed) := by
  simp only [beginFrame, onLoop, leads_bind, leads_platform, leads_own, leads_within]
  refine (FrameLoop.begin_leads .window _ _ _).mono ?_ fun _ _ impossible => impossible.elim
  intro begun after outcome
  split at outcome
  next free =>
    obtain ⟨rfl, rfl⟩ := outcome
    obtain ⟨running, idle⟩ : scene.own.loop.state.running = true ∧
        scene.own.loop.state.inFlight = false := by simpa using free
    cases course with
    | ended first aftermath =>
      rw [fit.stands.stopped] at running
      cases running
    | underway =>
      have stands : scene.own.Underway scene.platform.display := fit.stands
      exact follow_leads ⟨fit.owned.take idle _, fit.whole, ⟨stands.screen, stands.shown, stands.waiting⟩⟩
  next =>
    obtain ⟨rfl, rfl⟩ := outcome
    simp only [leads_bind, leads_notify, leads_pure]
    rw [Platform.display_plain _ ⟨rfl, rfl, rfl⟩]
    exact fit.reaches

end Show
end FrameViewer
