import FrameViewer.Proofs.CallbackTurns

/-! What a turn leaves in the report. A stale callback leaves a notice and asks for a frame. One of
the loop's generation asks the engine first, and draws nothing when there are no resources. -/

namespace FrameViewer
open Act

variable {ε : Type} [Engine ε]

def FrameLoop.asked (l : FrameLoop ε) (platform : Platform) : Platform :=
  let (more, engine) := Engine.next l.session.engine
  platform.record (.engine (Engine.serial engine) (.next more))

/-- A step for the loop's generation begins with that question. -/
private theorem FrameLoop.step_asks (scene : Scene (FrameLoop ε)) {generation : Nat}
    (current : generation = scene.own.state.generation) :
    (step generation).Grows Event.IsPlayed (scene.own.asked scene.platform) scene := by
  unfold step Grows
  rw [leads_bind, leads_own, if_neg (not_not_intro current.symm)]
  refine Grows.bind ?_ answered_emits
  unfold next Session.reportCall Grows
  simp only [leads_bind, leads_own, leads_emit, leads_setOwn, leads_pure]
  exact .refl _

namespace Callback

/-- A callback of another generation ends at once. It leaves a notice and asks for a frame. -/
theorem run_of_stale (callback : Callback) (scene : Scene (FrameLoop ε))
    (counted : callback.ticks < tickLimit)
    (stale : callback.generation ≠ scene.own.state.generation) :
    callback.run scene = .ok (.finished .superseded)
      ⟨scene.own, (scene.platform.record (.notice (.frameSuperseded callback.generation))).record
        (.frameRequested callback.host)⟩ := by
  obtain ⟨fuel, positive⟩ := Nat.exists_eq_add_of_lt counted
  have steps : tickLimit - callback.ticks = fuel + 1 := by omega
  apply Leads.eq_ok
  unfold run
  rw [steps]
  simp only [runFor, step, FrameLoop.step, leads_bind, leads_own, if_pos (Ne.symm stale), leads_pure,
    proceed, leads_notify, leads_emit]
  trivial

/-- A callback of the loop's generation begins its turn by asking the engine. -/
theorem run_asks (callback : Callback) (scene : Scene (FrameLoop ε))
    (counted : callback.ticks < tickLimit)
    (current : callback.generation = scene.own.state.generation) :
    callback.run.Grows Event.IsRoutine (scene.own.asked scene.platform) scene := by
  obtain ⟨fuel, positive⟩ := Nat.exists_eq_add_of_lt counted
  have steps : tickLimit - callback.ticks = fuel + 1 := by omega
  have asked := (FrameLoop.step_asks scene current).mono Event.IsPlayed.isRoutine
  unfold run
  rw [steps]
  refine Grows.bind (Grows.bind asked callback.proceed_emits) fun progress => ?_
  cases progress with
  | running further => exact runFor_emits fuel further
  | paused _ | finished _ => exact .pure _

end Callback

/-- Tells of anything but tiers and their objects. -/
def Event.IsUndrawn (event : Event) : Prop :=
  ¬event.IsRendering

theorem Event.IsPlayed.isUndrawn (event : Event) (played : event.IsPlayed) : event.IsUndrawn := by
  rcases played with part | part <;> simp [Event.IsUndrawn, IsRendering, IsDrawing, part]

section Bare

variable {scene : Scene (FrameLoop ε)} (bare : scene.own.renderer.resources = none)
include bare

private theorem FrameLoop.present_of_bare (generation ticks : Nat) :
    (present generation ticks).Leads scene (fun _ after => after.platform = scene.platform)
      fun _ after => after.platform = scene.platform := by
  unfold present
  simp only [leads_bind, leads_own]
  split
  · rfl
  · simp only [updateState, leads_bind, leads_own, leads_update, leads_attempt, leads_check]
    cases (Engine.screen scene.own.session.engine).read with
    | error cause => trivial
    | ok pixels =>
      simp only [onRenderer, Renderer.submit, leads_bind, leads_own, leads_within, bare, leads_refuse]

private theorem Callback.present_of_bare (callback : Callback) :
    callback.present.Grows Event.IsUndrawn scene.platform scene := by
  refine Grows.bind ?_ fun _ => .bind (.emit nofun) fun _ => .pure _
  refine (FrameLoop.present_of_bare bare _ _).mono ?_ ?_
  · exact fun _ _ same => .of_events_eq (congrArg _ same)
  · exact fun _ _ same => .of_events_eq (congrArg _ same)

private theorem Callback.proceed_of_bare (callback : Callback) (outcome : StepOutcome) :
    (callback.proceed outcome).Grows Event.IsUndrawn scene.platform scene := by
  have counted : callback.counted.Leads scene (fun _ after => after = scene) fun _ _ => True := by
    unfold Callback.counted
    split <;> trivial
  cases outcome with
  | superseded =>
    have ended : (callback.proceed .superseded : Act (FrameLoop ε) Progress).Emits Event.IsUndrawn :=
      .bind (.notify nofun) fun _ => .bind (.emit nofun) fun _ => .pure _
    exact ended scene
  | halted => exact callback.present_of_bare bare
  | redraw =>
    refine Grows.bind_leads (counted_emits callback scene) counted fun further after same => ?_
    rw [same]
    exact further.present_of_bare bare
  | quiet =>
    refine Grows.bind_leads (counted_emits callback scene) counted fun further after same => ?_
    rw [same]
    split
    · have noticed : (Act.notify (.noRedraw further.ticks)).Leads scene
          (fun _ after => after.own = scene.own) fun _ _ => True := rfl
      have grown : (Act.notify (.noRedraw further.ticks)).Grows Event.IsUndrawn scene.platform scene :=
        .record scene.platform nofun
      refine grown.bind_leads noticed ?_
      intro _ after same
      exact further.present_of_bare (same ▸ bare)
    · split <;> exact .refl _

private theorem Callback.step_of_bare (callback : Callback) :
    callback.step.Grows Event.IsUndrawn scene.platform scene := by
  have stepped : (FrameLoop.step callback.generation).Leads scene
      (fun _ after => after.own.renderer.resources = none) fun _ _ => True := by
    refine (FrameLoop.step_leads callback.generation scene).mono ?_ fun _ _ _ => trivial
    intro outcome after ⟨stale, fresh⟩
    by_cases current : callback.generation = scene.own.state.generation
    · exact (fresh current).2.1.resources.trans bare
    · rw [(stale current).2]
      exact bare
  have played := (FrameLoop.step_emits (ε := ε) callback.generation).mono Event.IsPlayed.isUndrawn
  exact Grows.bind_leads (played scene) stepped fun outcome _ still => callback.proceed_of_bare still outcome

omit bare in
/-- Without resources a turn draws nothing. -/
theorem Callback.runFor_of_bare (fuel : Nat) (callback : Callback) (scene : Scene (FrameLoop ε))
    (bare : scene.own.renderer.resources = none) :
    (runFor fuel callback).Grows Event.IsUndrawn scene.platform scene := by
  induction fuel generalizing callback scene with
  | zero => exact .refl _
  | succ fuel ih =>
    have turned := (step_turns callback scene).mono (fun _ _ turn => turn.bare bare)
      fun _ _ _ => trivial
    refine (callback.step_of_bare bare).bind_leads turned fun progress after still => ?_
    cases progress with
    | running further => exact ih further after still
    | paused _ | finished _ => exact .refl _

end Bare
end FrameViewer
