import FrameViewer.App.Opening
import FrameViewer.Proofs.ActionBounds
import FrameViewer.Proofs.ExecutorTasks
import FrameViewer.Proofs.LoopReports

/-! What is said of a renderer and the report, and kept true by drawing, rebuilding and releasing, is
true of the renderer of a show through all that happens to the show. -/

namespace FrameViewer
open Act

/-- Tells neither of how a tier is come by nor of what is done with it. -/
def Event.IsAside (event : Event) : Prop :=
  ¬ event.IsNegotiating

theorem Event.IsAside.of_part {event : Event} (drawing : event.part ≠ .drawing)
    (holding : event.part ≠ .holding) (negotiation : event.part ≠ .negotiation) : event.IsAside := by
  rintro ((drawn | held) | negotiated)
  · exact drawing drawn
  · exact holding held
  · exact negotiation negotiated

theorem Event.IsAside.of_application {event : Event} (part : event.part = .application) :
    event.IsAside := by
  apply Event.IsAside.of_part <;> rw [part] <;> nofun

theorem Event.IsPlayed.isAside (event : Event) (played : event.IsPlayed) : event.IsAside := by
  rcases played with part | part <;> exact .of_part (part ▸ nofun) (part ▸ nofun) (part ▸ nofun)

variable {σ τ α β ε κ : Type} [Engine ε] [BEq κ]

namespace Act

/-- However it ends, the action leaves what is good about its part and the platform. -/
def Preserves (Good : σ → Platform → Prop) (action : Act σ α) : Prop :=
  action.Respects (fun scene => scene)
    (.keeping (fun scene => Good scene.own scene.platform) (fun _ after => Good after.own after.platform)
      fun _ => False)

namespace Preserves

variable {Good : σ → Platform → Prop} {action : Act σ α}

theorem of_leads (kept : ∀ scene, Good scene.own scene.platform →
      action.Leads scene (fun _ after => Good after.own after.platform)
        fun _ after => Good after.own after.platform) : Preserves Good action :=
  Respects.of_leads kept

theorem leads {scene : Scene σ} (preserves : Preserves Good action)
    (good : Good scene.own scene.platform) :
    action.Leads scene (fun _ after => Good after.own after.platform)
      fun _ after => Good after.own after.platform :=
  Respects.leads preserves good

theorem indexed {ι : Type} {Good : ι → σ → Platform → Prop}
    (preserves : ∀ i, Preserves (Good i) action) :
    Preserves (fun own p => ∃ i, Good i own p) action := by
  apply of_leads
  intro scene ⟨i, good⟩
  exact ((preserves i).leads good).mono (fun _ _ good => ⟨i, good⟩) fun _ _ good => ⟨i, good⟩

end Preserves

/-- No event that is told aside makes a difference to what is good. -/
def Deaf (Good : σ → Platform → Prop) : Prop :=
  ∀ own {before after : Platform}, before.Extends Event.IsAside after → Good own before → Good own after

namespace Deaf

variable {Good : σ → Platform → Prop} (deaf : Deaf Good)
include deaf

theorem emit {event : Event} (aside : event.IsAside) : Preserves Good (emit event) :=
  fun scene good => deaf scene.own (.record scene.platform aside) good

theorem updatePlatform {f : Platform → Platform} (same : ∀ p, (f p).events = p.events) :
    Preserves Good (updatePlatform f) :=
  fun scene good => deaf scene.own (.of_events_eq (same scene.platform)) good

end Deaf

abbrev Bears (Good : Renderer → Platform → Prop) (renderer : σ → Renderer) (action : Act σ α) : Prop :=
  Preserves (fun own p => Good (renderer own) p) action

end Act

namespace Audio

variable {Good : σ → Platform → Prop} (deaf : Deaf Good)
include deaf

theorem start_preserves : Preserves Good start := by
  refine .bind .platform fun p => ?_
  cases p.cue with
  | bell => exact .pure _
  | speaker output =>
    rcases output with ⟨_ | rate, _ | stream⟩
    · exact deaf.emit (.of_part nofun nofun nofun)
    · exact .pure _
    · exact .bind (deaf.updatePlatform fun _ => rfl) fun _ => deaf.emit (.of_part nofun nofun nofun)
    · exact .pure _

private theorem beep_preserves : Preserves Good beep := by
  refine .bind (deaf.emit (.of_part nofun nofun nofun)) fun _ => .bind .platform fun p => ?_
  cases p.cue with
  | bell => exact deaf.emit (.of_part nofun nofun nofun)
  | speaker output =>
    rcases output with ⟨device, _ | stream⟩
    · exact .pure _
    · exact .bind (.checked _) fun _ => .bind (deaf.updatePlatform fun _ => rfl) fun _ =>
        .ite (deaf.emit (.of_part nofun nofun nofun)) (.pure _)

private theorem play_preserves (count : Nat) (queue : List Block) : Preserves Good (play count queue) := by
  induction count generalizing queue with
  | zero => exact .pure _
  | succ count ih => exact .bind (deaf.emit (.of_part nofun nofun nofun)) fun _ => ih _

theorem process_preserves : Preserves Good process := by
  refine .bind .platform fun p => ?_
  cases p.cue with
  | bell => exact .pure _
  | speaker output =>
    rcases output with ⟨device, _ | stream⟩
    · exact .pure _
    · exact .bind (.checked _) fun _ => .bind (play_preserves deaf _ _) fun _ =>
        deaf.updatePlatform fun _ => rfl

end Audio

/-- What is good about a renderer stays so, whatever is done with it short of giving it another size,
and whatever is told aside. -/
structure Renderer.Lasting (Good : Renderer → Platform → Prop) : Prop where
  deaf : Deaf Good
  submit : ∀ pixels, Preserves Good (submit pixels)
  rebuild : ∀ dims, Preserves Good (rebuild dims)
  teardown : Preserves Good teardown

variable {Good : Renderer → Platform → Prop}

section Lasting

variable (lasting : Renderer.Lasting Good)
include lasting

namespace Renderer.Lasting

theorem through (renderer : σ → Renderer) : Deaf fun own p => Good (renderer own) p :=
  fun own _ _ grown good => lasting.deaf (renderer own) grown good

theorem emit {renderer : σ → Renderer} {event : Event} (aside : event.IsAside) :
    (emit event).Bears Good renderer :=
  (lasting.through renderer).emit aside

/-- An action that keeps away from the renderer, and tells of other things. -/
theorem of_aside {renderer : σ → Renderer} {kind : Event → Prop} {action : Act σ α}
    (emits : action.Emits kind) (aside : ∀ event, kind event → event.IsAside)
    (same : ∀ scene, action.Leads scene (fun _ after => renderer after.own = renderer scene.own)
      fun _ after => renderer after.own = renderer scene.own) : action.Bears Good renderer := by
  refine .of_leads fun scene good => ?_
  have kept (after : Scene σ) (both : scene.platform.Extends Event.IsAside after.platform ∧
      renderer after.own = renderer scene.own) : Good (renderer after.own) after.platform := by
    rw [both.2]
    exact lasting.deaf _ both.1 good
  exact ((emits.mono aside scene).and (same scene)).mono (fun _ => kept) fun _ => kept

end Renderer.Lasting

namespace FrameLoop

omit [Engine ε] lasting in
theorem onRenderer_bears {action : Act Renderer α} (preserves : Preserves Good action) :
    (onRenderer action : Act (FrameLoop ε) α).Bears Good (·.renderer) := by
  refine .of_leads fun scene good => ?_
  unfold onRenderer
  simp only [leads_bind, leads_own, leads_within]
  exact preserves.leads good

omit [Engine ε] in
theorem onSession_bears {action : Act (Session ε) α}
    (emits : action.Emits fun event => event.part = .engine) :
    (onSession action).Bears Good (·.renderer) := by
  refine lasting.of_aside (onSession_emits emits) (fun event part => ?_) fun scene => ?_
  · exact Event.IsPlayed.isAside event (.inl part)
  · unfold onSession
    simp only [leads_bind, leads_own, leads_within]
    exact .of_forall (fun _ _ => trivial) fun _ _ => trivial

theorem loadRom_bears (rom : Rom) : (loadRom rom : Act (FrameLoop ε) Unit).Bears Good (·.renderer) := by
  have restarted : (Act.update fun l : FrameLoop ε =>
      { l with state := { generation := l.session.generation } }).Bears Good (·.renderer) :=
    .change fun _ good => good
  refine .bind (onSession_bears lasting (Session.loadRom_emits rom)) fun _ => .bind .own fun l => ?_
  refine .ite (.bind (lasting.emit (.of_part nofun nofun nofun)) fun _ => ?_) restarted
  exact .bind (onRenderer_bears (lasting.rebuild _)) fun _ => restarted

private theorem next_bears : (next : Act (FrameLoop ε) Bool).Bears Good (·.renderer) := by
  refine lasting.of_aside next_emits (fun event part => Event.IsPlayed.isAside event (.inl part)) fun scene => ?_
  unfold next Session.reportCall
  simp only [leads_bind, leads_own, leads_emit, leads_setOwn, leads_pure]

private theorem tick_bears : (tick : Act (FrameLoop ε) Tick).Bears Good (·.renderer) := by
  refine lasting.of_aside tick_emits (fun event part => Event.IsPlayed.isAside event (.inl part)) fun scene => ?_
  unfold tick Session.reportCall
  simp only [leads_bind, leads_own, leads_checked]
  cases Engine.tick scene.own.session.engine with
  | none => trivial
  | some answer => simp only [leads_emit, leads_setOwn, leads_pure]

private theorem step_bears (generation : Nat) :
    (step generation : Act (FrameLoop ε) StepOutcome).Bears Good (·.renderer) := by
  refine .bind .own fun l => .ite (.pure _) (.bind (next_bears lasting) fun more => .ite ?_ (.pure _))
  exact .bind (tick_bears lasting) fun report =>
    .ite (.bind (Audio.beep_preserves (lasting.through _)) fun _ => .pure _) (.pure _)

private theorem present_bears (generation ticks : Nat) :
    (present generation ticks : Act (FrameLoop ε) FrameReport).Bears Good (·.renderer) := by
  refine .bind .own fun l => .ite (.pure _) ?_
  refine .bind (.change fun _ good => good) fun _ => .bind .own fun l => ?_
  refine .bind (.attempt (.bind (.check _) fun pixels => onRenderer_bears (lasting.submit pixels)))
    fun shown => ?_
  exact .bind (.change fun _ good => good) fun _ => .bind (.check shown) fun _ =>
    .bind (.change fun _ good => good) fun _ => .pure _

end FrameLoop

namespace Callback

private theorem present_bears (callback : Callback) :
    (callback.present : Act (FrameLoop ε) Progress).Bears Good (·.renderer) :=
  .bind (FrameLoop.present_bears lasting _ _) fun _ =>
    .bind (lasting.emit (.of_part nofun nofun nofun)) fun _ => .pure _

private theorem proceed_bears (callback : Callback) (outcome : StepOutcome) :
    (callback.proceed outcome : Act (FrameLoop ε) Progress).Bears Good (·.renderer) := by
  have counted : (callback.counted : Act (FrameLoop ε) Callback).Bears Good (·.renderer) :=
    .ite (.pure _) .crash
  cases outcome with
  | superseded =>
    exact .bind (lasting.emit (.of_part nofun nofun nofun)) fun _ =>
      .bind (lasting.emit (.of_part nofun nofun nofun)) fun _ => .pure _
  | halted => exact present_bears lasting callback
  | redraw => exact .bind counted (present_bears lasting)
  | quiet =>
    refine .bind counted fun further => .ite ?_ (.ite (.pure _) (.pure _))
    exact .bind (lasting.emit (.of_part nofun nofun nofun)) fun _ => present_bears lasting further

theorem runFor_bears (fuel : Nat) (callback : Callback) :
    (runFor fuel callback : Act (FrameLoop ε) Progress).Bears Good (·.renderer) := by
  induction fuel generalizing callback with
  | zero => exact .crash
  | succ fuel ih =>
    refine .bind (.bind (FrameLoop.step_bears lasting _) (proceed_bears lasting callback)) fun progress => ?_
    cases progress with
    | running further => exact ih further
    | paused _ | finished _ => exact .pure _

end Callback
end Lasting
end FrameViewer
