import FrameViewer.Loop.Callback
import FrameViewer.Proofs.DrawingReports

/-! A frame loop reports what it draws, how it steps its engine, what is heard of it and how it
paces itself, and nothing that the application alone may report. -/

namespace FrameViewer
open Act

/-- Tells of anything but the application itself. -/
def Event.IsRoutine (event : Event) : Prop :=
  event.part ≠ .application

theorem Event.IsRendering.isRoutine (event : Event) (rendering : event.IsRendering) :
    event.IsRoutine := by
  rcases rendering with part | part
  · simp [Event.IsRoutine, show event.part = .drawing from part]
  · simp [Event.IsRoutine, part]

theorem Event.IsNegotiating.isRoutine (event : Event) (negotiating : event.IsNegotiating) :
    event.IsRoutine := by
  rcases negotiating with rendering | part
  · exact rendering.isRoutine
  · simp [Event.IsRoutine, part]

def Event.IsPlayed (event : Event) : Prop :=
  event.part = .engine ∨ event.part = .sound

theorem Event.IsPlayed.isRoutine (event : Event) (played : event.IsPlayed) : event.IsRoutine := by
  rcases played with part | part <;> simp [Event.IsRoutine, part]

theorem Event.IsDrawing.isRoutine (event : Event) (drawing : event.IsDrawing) : event.IsRoutine :=
  drawing.isRendering.isRoutine

variable {σ α ε κ : Type} [Engine ε] [BEq κ]

namespace Audio

theorem start_emits : (start : Act σ Unit).Emits (fun event => event.part = .sound) := by
  refine .bind .platform fun p => ?_
  cases p.cue with
  | bell => exact .pure _
  | speaker output =>
    rcases output with ⟨_ | rate, _ | stream⟩
    · exact .notify rfl
    · exact .pure _
    · exact .bind (.updatePlatform fun _ => .of_events_eq rfl) fun _ => .notify rfl
    · exact .pure _

theorem beep_emits : (beep : Act σ Unit).Emits (fun event => event.part = .sound) := by
  refine .bind (.emit rfl) fun _ => .bind .platform fun p => ?_
  cases p.cue with
  | bell => exact .emit rfl
  | speaker output =>
    rcases output with ⟨device, _ | stream⟩
    · exact .pure _
    · exact .bind (.checked _) fun _ => .bind (.updatePlatform fun _ => .of_events_eq rfl) fun _ =>
        .ite (.notify rfl) (.pure _)

private theorem play_emits (count : Nat) (queue : List Block) :
    (play count queue : Act σ (List Block)).Emits (fun event => event.part = .sound) := by
  induction count generalizing queue with
  | zero => exact .pure _
  | succ count ih => exact .bind (.emit rfl) fun _ => ih _

theorem process_emits : (process : Act σ Unit).Emits (fun event => event.part = .sound) := by
  refine .bind .platform fun p => ?_
  cases p.cue with
  | bell => exact .pure _
  | speaker output =>
    rcases output with ⟨device, _ | stream⟩
    · exact .pure _
    · exact .bind (.checked _) fun _ => .bind (play_emits _ _) fun _ => .updatePlatform fun _ => .of_events_eq rfl

end Audio

namespace Session

theorem reportCall_emits (engine : ε) (call : EngineCall) :
    (reportCall engine call : Act σ Unit).Emits (fun event => event.part = .engine) :=
  .emit rfl

theorem create_emits (factory : Nat → ε) :
    (create factory : Act σ (Session ε)).Emits (fun event => event.part = .engine) :=
  .bind (.bind (reportCall_emits _ _) fun _ => .pure _) fun _ => .pure _

theorem loadRom_emits (rom : Rom) :
    (loadRom rom : Act (Session ε) Unit).Emits (fun event => event.part = .engine) :=
  .bind (.notify rfl) fun _ => .bind .own fun _ =>
    .bind (.bind (reportCall_emits _ _) fun _ => .pure _) fun _ =>
      .bind (reportCall_emits _ _) fun _ => .setOwn _

theorem withRom_emits (factory : Nat → ε) (rom : Rom) :
    (withRom factory rom : Act σ (Session ε)).Emits (fun event => event.part = .engine) :=
  .bind (create_emits _) fun _ => .bind (.apart (loadRom_emits _)) fun _ =>
    .bind (.settle _) fun _ => .pure _

theorem keyDown_emits (map : KeyMap κ) (key : κ) :
    (keyDown map key : Act (Session ε) _).Emits (fun event => event.part = .engine) := by
  unfold keyDown
  cases map.get? key with
  | none => exact .pure _
  | some binding =>
    exact .bind .own fun _ => .bind (.setOwn _) fun _ =>
      .ite (.bind (.bind .own fun _ => .bind (reportCall_emits _ _) fun _ => .setOwn _) fun _ =>
        .pure _) (.pure _)

theorem keyUp_emits (map : KeyMap κ) (key : κ) :
    (keyUp map key : Act (Session ε) _).Emits (fun event => event.part = .engine) := by
  unfold keyUp
  cases map.get? key with
  | none => exact .pure _
  | some binding =>
    exact .bind .own fun _ => .bind (.setOwn _) fun _ =>
      .ite (.bind (.bind .own fun _ => .bind (reportCall_emits _ _) fun _ => .setOwn _) fun _ =>
        .pure _) (.pure _)

end Session

namespace FrameLoop

omit [Engine ε] in
theorem onSession_emits {action : Act (Session ε) α} {kind : Event → Prop}
    (emits : action.Emits kind) : (onSession action).Emits kind :=
  .bind .own fun _ => .within emits

omit [Engine ε] in
theorem onRenderer_emits {action : Act Renderer α} {kind : Event → Prop}
    (emits : action.Emits kind) : (onRenderer action : Act (FrameLoop ε) α).Emits kind :=
  .bind .own fun _ => .within emits

theorem loadRom_emits (rom : Rom) :
    (loadRom rom : Act (FrameLoop ε) Unit).Emits Event.IsRoutine := by
  have engine : ∀ event : Event, event.part = .engine → event.IsRoutine :=
    fun event part => by simp [Event.IsRoutine, part]
  refine .bind (onSession_emits ((Session.loadRom_emits rom).mono engine)) fun _ =>
    .bind .own fun l => ?_
  have restarted (_ : Unit) : (Act.update fun l : FrameLoop ε =>
      { l with state := { generation := l.session.generation } }).Emits Event.IsRoutine := .update _
  refine .ite ?_ (restarted ())
  refine .bind (.notify (by simp [Event.IsRoutine, Event.part, Notice.part])) fun _ => ?_
  exact .bind (onRenderer_emits ((Renderer.rebuild_emits _).mono Event.IsRendering.isRoutine)) restarted

theorem next_emits : (next : Act (FrameLoop ε) Bool).Emits (fun event => event.part = .engine) :=
  .bind .own fun _ => .bind (Session.reportCall_emits _ _) fun _ => .bind (.setOwn _) fun _ => .pure _

theorem tick_emits : (tick : Act (FrameLoop ε) Tick).Emits (fun event => event.part = .engine) :=
  .bind .own fun _ => .bind (.checked _) fun _ => .bind (Session.reportCall_emits _ _) fun _ =>
    .bind (.setOwn _) fun _ => .pure _

theorem answered_emits (more : Bool) :
    (do
      if more then
        let report ← tick
        if report.beep then Audio.beep
        return if report.redraw then .redraw else .quiet
      else return .halted : Act (FrameLoop ε) StepOutcome).Emits Event.IsPlayed :=
  .ite (.bind (tick_emits.mono fun _ => .inl) fun _ =>
    .ite (.bind (Audio.beep_emits.mono fun _ => .inr) fun _ => .pure _) (.pure _)) (.pure _)

theorem step_emits (generation : Nat) :
    (step generation : Act (FrameLoop ε) StepOutcome).Emits Event.IsPlayed :=
  .bind .own fun _ => .ite (.pure _) <| .bind (next_emits.mono fun _ => .inl) answered_emits

private theorem present_emits (generation ticks : Nat) :
    (present generation ticks : Act (FrameLoop ε) FrameReport).Emits Event.IsRoutine :=
  .bind .own fun _ => .ite (.pure _) <| .bind (.update _) fun _ => .bind .own fun _ =>
    .bind (.attempt (.bind (.check _) fun _ =>
      onRenderer_emits ((Renderer.submit_emits _).mono Event.IsDrawing.isRoutine))) fun _ =>
      .bind (.update _) fun _ => .bind (.check _) fun _ => .bind (.update _) fun _ => .pure _

end FrameLoop

namespace Callback

private theorem present_emits (callback : Callback) :
    (callback.present : Act (FrameLoop ε) Progress).Emits Event.IsRoutine :=
  .bind (FrameLoop.present_emits _ _) fun _ =>
    .bind (.emit (by simp [Event.IsRoutine, Event.part])) fun _ => .pure _

omit [Engine ε] in
theorem counted_emits (callback : Callback) {kind : Event → Prop} :
    (callback.counted : Act (FrameLoop ε) Callback).Emits kind :=
  .ite (.pure _) .crash

theorem proceed_emits (callback : Callback) (outcome : StepOutcome) :
    (callback.proceed outcome : Act (FrameLoop ε) Progress).Emits Event.IsRoutine := by
  cases outcome with
  | superseded =>
    exact .bind (.notify (by simp [Event.IsRoutine, Event.part, Notice.part])) fun _ =>
      .bind (.emit (by simp [Event.IsRoutine, Event.part])) fun _ => .pure _
  | halted => exact present_emits _
  | redraw => exact .bind (counted_emits _) fun _ => present_emits _
  | quiet =>
    refine .bind (counted_emits _) fun _ => .ite ?_ (.ite (.pure _) (.pure _))
    exact .bind (.notify (by simp [Event.IsRoutine, Event.part, Notice.part])) fun _ =>
      present_emits _

theorem step_emits (callback : Callback) :
    (callback.step : Act (FrameLoop ε) Progress).Emits Event.IsRoutine :=
  .bind ((FrameLoop.step_emits _).mono Event.IsPlayed.isRoutine) callback.proceed_emits

theorem runFor_emits (fuel : Nat) (callback : Callback) :
    (runFor fuel callback : Act (FrameLoop ε) Progress).Emits Event.IsRoutine := by
  induction fuel generalizing callback with
  | zero => exact .crash
  | succ fuel ih =>
    refine .bind (step_emits callback) fun progress => ?_
    cases progress with
    | running callback => exact ih callback
    | paused callback => exact .pure _
    | finished report => exact .pure _

theorem run_emits (callback : Callback) :
    (callback.run : Act (FrameLoop ε) Progress).Emits Event.IsRoutine :=
  runFor_emits _ _

end Callback
end FrameViewer
