import FrameViewer.Proofs.LoopChronicle

/-! How often the display is asked for the next callback. A turn asks once when it ends with a frame
shown or superseded, and never otherwise; nothing but a turn asks. -/

namespace FrameViewer
open Act

def Event.isRequest : Event → Bool
  | frameRequested _ => true
  | _ => false

def Event.IsUnasked (event : Event) : Prop :=
  event.isRequest = false

private theorem Event.isUnasked_of_part (event : Event) (part : event.part ≠ .pacing) :
    event.IsUnasked := by
  cases event with
  | frameRequested host => exact absurd rfl part
  | _ => rfl

theorem Event.IsDrawing.isUnasked (event : Event) (drawing : event.IsDrawing) :
    event.IsUnasked :=
  event.isUnasked_of_part fun pacing => nomatch drawing.symm.trans pacing

theorem Event.IsAttended.isUnasked (event : Event) (attended : event.IsAttended) :
    event.IsUnasked := by
  apply event.isUnasked_of_part
  intro pacing
  rcases attended with part | part | part
  · exact nomatch part.symm.trans pacing
  · exact nomatch part.symm.trans pacing
  · exact nomatch part.symm.trans pacing

theorem Event.IsPlayed.isUnasked (event : Event) (played : event.IsPlayed) : event.IsUnasked := by
  apply event.isUnasked_of_part
  intro pacing
  rcases played with part | part
  · exact nomatch part.symm.trans pacing
  · exact nomatch part.symm.trans pacing

def Platform.requests (platform : Platform) : Nat :=
  platform.events.toList.countP Event.isRequest

namespace Platform

@[simp] theorem requests_request (platform : Platform) (host : Host) :
    (platform.record (.frameRequested host)).requests = platform.requests + 1 := by
  simp [requests, record, Event.isRequest]

@[simp] theorem requests_notice (platform : Platform) (notice : Notice) :
    (platform.record (.notice notice)).requests = platform.requests := by
  simp [requests, record, Event.isRequest]

theorem Extends.requests {before after : Platform} (grown : before.Extends Event.IsUnasked after) :
    after.requests = before.requests := by
  obtain ⟨added, same, each⟩ := grown
  have none : added.countP Event.isRequest = 0 :=
    List.countP_eq_zero.mpr fun event inside => Bool.not_eq_true _ ▸ each event inside
  rw [Platform.requests, same, List.countP_append, none, Nat.add_zero]
  rfl

end Platform

/-- Whether a callback that ends so asks for the next one. -/
def FrameReport.handsOn : FrameReport → Bool
  | presented _ | superseded => true
  | skipped => false

def Callback.handsOn : Except RenderError Progress → Bool
  | .ok (.finished report) => report.handsOn
  | _ => false

variable {ε : Type}

namespace Callback

/-- A part of a turn asks for a frame exactly when the turn ends with it and hands on. -/
def AsksOnce (action : Act (FrameLoop ε) Progress) : Prop :=
  ∀ scene, action.Leads scene
    (fun progress after => after.platform.requests =
      scene.platform.requests + if handsOn (.ok progress) then 1 else 0)
    fun _ after => after.platform.requests = scene.platform.requests

namespace AsksOnce

theorem pure {progress : Progress} (goes : handsOn (.ok progress) = false) :
    AsksOnce (pure progress : Act (FrameLoop ε) Progress) := by
  intro scene
  rw [leads_pure, goes]
  rfl

theorem crash : AsksOnce (crash : Act (FrameLoop ε) Progress) :=
  fun _ => rfl

theorem bind {α : Type} {action : Act (FrameLoop ε) α} {next : α → Act (FrameLoop ε) Progress}
    (first : action.Emits Event.IsUnasked) (rest : ∀ value, AsksOnce (next value)) :
    AsksOnce (action >>= next) := by
  intro scene
  rw [leads_bind]
  refine Leads.mono (first scene) (fun value middle grown => ?_) fun _ _ grown => grown.requests
  have same : middle.platform.requests = scene.platform.requests := grown.requests
  simpa only [same] using rest value middle

theorem ite {condition : Prop} [Decidable condition] {first second : Act (FrameLoop ε) Progress}
    (positive : AsksOnce first) (negative : AsksOnce second) :
    AsksOnce (if condition then first else second) := by
  split <;> assumption

end AsksOnce

end Callback

variable [Engine ε]

namespace FrameLoop

theorem loadRom_unasked (rom : Rom) :
    (loadRom rom : Act (FrameLoop ε) Unit).Emits Event.IsUnasked := by
  have loaded := (Session.loadRom_emits (ε := ε) rom).mono fun _ part =>
    Event.IsAttended.isUnasked _ (.inl part)
  have rebuilt (dims : Dims) := (Renderer.rebuild_emits dims).mono fun _ rendering =>
    Event.IsAttended.isUnasked _ (.inr rendering)
  refine .bind (onSession_emits loaded) fun _ => .bind .own fun l => ?_
  refine .ite (.bind (.notify rfl) fun _ => ?_) (.update _)
  exact .bind (onRenderer_emits (rebuilt _)) fun _ => .update _

private theorem present_unasked (generation ticks : Nat) :
    (present generation ticks : Act (FrameLoop ε) FrameReport).Emits Event.IsUnasked := by
  have submitted (pixels : Bytes) := (Renderer.submit_emits pixels).mono Event.IsDrawing.isUnasked
  refine .bind .own fun _ => .ite (.pure _) (.bind (.update _) fun _ => .bind .own fun _ => ?_)
  refine .bind (.attempt (.bind (.check _) fun pixels => onRenderer_emits (submitted pixels))) ?_
  exact fun _ => .bind (.update _) fun _ => .bind (.check _) fun _ => .bind (.update _) fun _ =>
    .pure _

/-- A callback that comes to show its frame is not skipped any more. -/
private theorem present_handsOn (generation ticks : Nat) (scene : Scene (FrameLoop ε)) :
    (present generation ticks).Leads scene (fun report _ => report.handsOn = true)
      fun _ _ => True := by
  unfold present
  simp only [leads_bind, leads_own]
  split
  · rfl
  · simp only [updateState, leads_bind, leads_update, leads_own, leads_attempt, leads_check,
      leads_pure]
    cases (Engine.screen scene.own.session.engine).read with
    | error cause => trivial
    | ok pixels =>
      refine .of_forall (fun _ _ => rfl) fun failure _ => ?_
      cases failure <;> trivial

end FrameLoop

namespace Callback

private theorem present_asksOnce (callback : Callback) :
    AsksOnce (callback.present : Act (FrameLoop ε) Progress) := by
  intro scene
  unfold present
  simp only [leads_bind, leads_emit, leads_pure]
  have shown := FrameLoop.present_handsOn (ε := ε) callback.generation callback.ticks scene
  have quiet := FrameLoop.present_unasked (ε := ε) callback.generation callback.ticks scene
  refine (shown.and quiet).mono ?_ fun _ _ both => both.2.requests
  intro report after ⟨hands, grown⟩
  rw [Platform.requests_request, grown.requests, handsOn, hands]
  rfl

private theorem proceed_asksOnce (callback : Callback) (outcome : StepOutcome) :
    AsksOnce (callback.proceed outcome : Act (FrameLoop ε) Progress) := by
  cases outcome with
  | superseded =>
    intro scene
    simp only [proceed, leads_bind, leads_notify, leads_emit, leads_pure,
      Platform.requests_request, Platform.requests_notice]
    rfl
  | halted => exact callback.present_asksOnce
  | redraw => exact .bind callback.counted_emits fun further => further.present_asksOnce
  | quiet =>
    refine .bind callback.counted_emits fun further => .ite ?_ (.ite (.pure rfl) (.pure rfl))
    exact .bind (.notify rfl) fun _ => further.present_asksOnce

private theorem step_asksOnce (callback : Callback) :
    AsksOnce (callback.step : Act (FrameLoop ε) Progress) :=
  .bind ((FrameLoop.step_emits _).mono Event.IsPlayed.isUnasked) callback.proceed_asksOnce

private theorem runFor_asksOnce (fuel : Nat) (callback : Callback) :
    AsksOnce (runFor fuel callback : Act (FrameLoop ε) Progress) := by
  induction fuel generalizing callback with
  | zero => exact .crash
  | succ fuel ih =>
    intro scene
    rw [runFor, leads_bind]
    refine (callback.step_asksOnce scene).mono ?_ fun _ _ same => same
    intro progress after asked
    cases progress with
    | running further =>
      -- A callback that runs on has not asked yet, so the rest of the turn accounts for it.
      have same : after.platform.requests = scene.platform.requests := asked
      simpa only [same] using ih further after
    | paused _ | finished _ => exact asked

theorem run_asksOnce (callback : Callback) :
    AsksOnce (callback.run : Act (FrameLoop ε) Progress) :=
  runFor_asksOnce _ _

end Callback
end FrameViewer
