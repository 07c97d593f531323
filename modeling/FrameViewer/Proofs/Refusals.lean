import FrameViewer.Proofs.CallbackTurns

/-! Resizing, releasing and tearing down are never refused. They end well, or the run breaks
down. -/

namespace FrameViewer
open Act

variable {σ τ α β : Type}

namespace Act

/-- Nothing is asked of a platform but that an action that fails has crashed. -/
@[reducible] def crashing : Bounds Platform where
  done _ _ := True
  failed failure _ _ := failure = .crashed
  allows _ := True
  refl _ := trivial
  trans _ _ := trivial
  broken _ crashed := crashed

instance : Hearing (Scene.platform : Scene σ → Platform) crashing where
  record _ _ _ := trivial

/-- Wherever it begins, the action ends with a value unless the run breaks down. -/
def Unrefused (action : Act σ α) : Prop :=
  action.Respects Scene.platform crashing

namespace Unrefused

theorem crash : (crash : Act σ α).Unrefused :=
  fun _ => rfl

theorem attempt (action : Act σ α) : (attempt action).Unrefused := by
  intro scene
  rw [leads_attempt]
  refine .of_forall (fun _ _ => trivial) fun failure _ => ?_
  cases failure <;> trivial

end Unrefused
end Act

namespace Gpu

private theorem Device.deliver_unrefused (e : DeviceError) : (deliver e).Unrefused := by
  refine .bind .own fun device => ?_
  cases catchIn e device.scopes with
  | some scopes => exact .setOwn _
  | none =>
    cases device.listener with
    | absent => exact Unrefused.crash
    | installed pending => exact .bind (.emit trivial) fun _ => .setOwn _

private theorem Device.deliverAll_unrefused (due : List DeviceError) : (deliverAll due).Unrefused :=
  .listForM deliver_unrefused due

private theorem Device.configure_unrefused (config : SurfaceConfig) : (configure config).Unrefused :=
  .bind (.emit trivial) fun _ => .bind .own fun _ => .bind .platform fun _ =>
    .bind (.updatePlatform fun _ => trivial) fun _ => deliverAll_unrefused _

namespace Backend

theorem resize_unrefused (size : Dims) : (resize size).Unrefused :=
  .bind .own fun _ => .bind (.setOwn _) fun _ =>
    .bind .own fun _ => .within (Device.configure_unrefused _)

private theorem release_unrefused (id : ResourceId) : (release id).Unrefused := by
  have told (id : ResourceId) (stale : Bool) : (takeBack id stale).Unrefused :=
    .bind .own fun _ => .emit trivial
  refine .bind .own fun b => ?_
  cases id with
  | buffer number =>
    exact .bind (.setOwn _) fun _ => .bind (told _ _) fun _ => .forM fun _ => .emit trivial
  | texture number =>
    exact .bind (.setOwn _) fun _ => .bind (told _ _) fun _ => .forM fun _ => .emit trivial
  | sampler number => exact .bind (.setOwn _) fun _ => told _ _
  | pipeline number => exact .bind (.setOwn _) fun _ => told _ _

end Backend
end Gpu

private theorem Simulated.Backend.reportCall_unrefused (call : TierCall) : (reportCall call).Unrefused :=
  .bind .own fun _ => .emit trivial

private theorem Backend.run_unrefused {simulated : Act Simulated.Backend α} {gpu : Act Gpu.Backend α}
    {otherwise : Act Backend α} (first : simulated.Unrefused) (second : gpu.Unrefused)
    (last : otherwise.Unrefused) : (run simulated gpu otherwise).Unrefused := by
  refine .bind .own fun backend => ?_
  cases backend with
  | null => exact last
  | simulated b => exact .within first
  | gpu b => exact .within second

private theorem Backend.release_unrefused (id : ResourceId) : (release id).Unrefused :=
  run_unrefused
    (.bind .own fun _ => .bind (.setOwn _) fun _ =>
      .bind (Simulated.Backend.reportCall_unrefused _) fun _ => .emit trivial)
    (Gpu.Backend.release_unrefused id) (.pure _)

private theorem ResourceSet.releaseAll_unrefused (ids : List ResourceId) : (releaseAll ids).Unrefused :=
  .listForM Backend.release_unrefused ids

namespace Renderer

theorem resize_unrefused (size : Dims) : (resize size).Unrefused :=
  .bind .own fun _ => .within
    (Backend.run_unrefused (Simulated.Backend.reportCall_unrefused _)
      (Gpu.Backend.resize_unrefused size) (.pure _))

theorem teardown_unrefused : teardown.Unrefused := by
  refine .bind .own fun r => ?_
  cases r.resources with
  | none => exact .pure _
  | some set => exact .bind (.setOwn _) fun _ => .bind .own fun _ => .within (ResourceSet.releaseAll_unrefused _)

end Renderer

namespace Audio

theorem start_leads (scene : Scene σ) :
    start.Leads scene (fun _ after => after.own = scene.own) (fun failure _ => failure = .crashed) := by
  unfold start
  simp only [leads_bind, leads_platform]
  cases scene.platform.cue with
  | bell => rfl
  | speaker output =>
    rcases output with ⟨_ | rate, _ | stream⟩ <;> rfl

private theorem play_leads (count : Nat) (queue : List Block) (scene : Scene σ) :
    (play count queue).Leads scene (fun _ after => after.own = scene.own)
      (fun failure _ => failure = .crashed) := by
  induction count generalizing queue scene with
  | zero => rfl
  | succ count ih =>
    simp only [play, leads_bind, leads_emit]
    exact ih queue.tail _

theorem process_leads (scene : Scene σ) :
    process.Leads scene (fun _ after => after.own = scene.own) (fun failure _ => failure = .crashed) := by
  unfold process
  simp only [leads_bind, leads_platform]
  cases scene.platform.cue with
  | bell => rfl
  | speaker output =>
    rcases output with ⟨device, _ | stream⟩
    · rfl
    · simp only [leads_bind, leads_checked]
      cases dueBlocks? stream (millis scene.platform.clock) with
      | none => trivial
      | some due => exact play_leads _ _ scene

end Audio
end FrameViewer
