import FrameViewer.Proofs.CallbackTurns

/-! What happens to a loop between the turns of its callbacks: programs are loaded, keys go up and
down, the renderer is resized or torn down. Only a load that works touches the loop's state. -/

namespace FrameViewer
open Act

private theorem ResourceSet.build_leads (dims : Dims) (scene : Scene Backend) :
    (build dims).Leads scene (fun set _ => set.dims = dims) (fun _ _ => True) := by
  unfold build
  split
  · trivial
  · simp only [leads_bind, leads_own, leads_notify, leads_pure]
    iterate 7 refine .of_forall (fun _ _ => ?_) fun _ _ => trivial
    trivial

namespace Renderer

theorem teardown_leads (scene : Scene Renderer) :
    teardown.Leads scene (fun _ after => after.own.resources = none)
      (fun _ after => after.own.resources = none) := by
  unfold teardown
  simp only [leads_bind, leads_own]
  cases built : scene.own.resources with
  | none => exact built
  | some set =>
    simp only [leads_bind, leads_setOwn, onBackend, leads_own, leads_within]
    exact .of_forall (fun _ _ => trivial) fun _ _ => trivial

theorem rebuild_leads (dims : Dims) (scene : Scene Renderer) :
    (rebuild dims).Leads scene
      (fun _ after => ∃ set, after.own.resources = some set ∧ set.dims = dims)
      (fun _ after => after.own.resources = none) := by
  unfold rebuild
  rw [leads_bind]
  refine (teardown_leads scene).mono (fun _ torn bare => ?_) fun _ _ bare => bare
  simp only [onBackend, leads_bind, leads_own, leads_within, leads_update]
  exact (ResourceSet.build_leads dims _).mono (fun set _ same => ⟨set, rfl, same⟩) fun _ _ _ => bare

theorem resize_leads (size : Dims) (scene : Scene Renderer) :
    (resize size).Leads scene (fun _ after => after.own.resources = scene.own.resources)
      (fun _ after => after.own.resources = scene.own.resources) := by
  unfold resize onBackend
  simp only [leads_bind, leads_own, leads_within]
  exact .of_forall (fun _ _ => trivial) fun _ _ => trivial

end Renderer

variable {ε κ : Type} [Engine ε] [BEq κ]

namespace Session

def loaded (session : Session ε) (rom : Rom) : Session ε :=
  { session with
    engine := Engine.load rom.bytes (session.factory session.made)
    made := session.made + 1
    keys := {}
    generation := session.generation + 1
    romName := some rom.name }

theorem loadRom_leads (rom : Rom) (scene : Scene (Session ε)) :
    (loadRom rom).Leads scene (fun _ after => after.own = scene.own.loaded rom)
      (fun _ _ => False) := by
  unfold loadRom make reportCall
  simp only [leads_bind, leads_notify, leads_own, leads_emit, leads_pure, leads_setOwn]
  rfl

structure Keyed (before after : Session ε) : Prop where
  same : after = { before with engine := after.engine, keys := after.keys }
  engine : after.engine = before.engine ∨ ∃ code,
    after.engine = Engine.setKey code before.engine ∨
      after.engine = Engine.unsetKey code before.engine

theorem keyDown_leads (map : KeyMap κ) (key : κ) (scene : Scene (Session ε)) :
    (keyDown map key).Leads scene (fun _ after => scene.own.Keyed after.own)
      (fun _ _ => False) := by
  unfold keyDown setKey reportCall
  cases map.get? key with
  | none => exact ⟨rfl, .inl rfl⟩
  | some binding =>
    simp only [leads_bind, leads_own, leads_setOwn]
    split
    · simp only [leads_bind, leads_own, leads_emit, leads_setOwn, leads_pure]
      exact ⟨rfl, .inr ⟨_, .inl rfl⟩⟩
    · exact ⟨rfl, .inl rfl⟩

theorem keyUp_leads (map : KeyMap κ) (key : κ) (scene : Scene (Session ε)) :
    (keyUp map key).Leads scene (fun _ after => scene.own.Keyed after.own)
      (fun _ _ => False) := by
  unfold keyUp unsetKey reportCall
  cases map.get? key with
  | none => exact ⟨rfl, .inl rfl⟩
  | some binding =>
    simp only [leads_bind, leads_own, leads_setOwn]
    split
    · simp only [leads_bind, leads_own, leads_emit, leads_setOwn, leads_pure]
      exact ⟨rfl, .inr ⟨_, .inr rfl⟩⟩
    · exact ⟨rfl, .inl rfl⟩

end Session

namespace FrameLoop

/-- A load always changes the session. The loop starts over only when the renderer fits the new
engine in the end; otherwise the renderer is left without resources. -/
theorem loadRom_leads (rom : Rom) (scene : Scene (FrameLoop ε)) :
    (loadRom rom).Leads scene
      (fun _ after => after.own.session = scene.own.session.loaded rom ∧
        after.own.state = { generation := scene.own.session.generation + 1 } ∧
        ∃ set, after.own.renderer.resources = some set ∧ set.dims = after.own.session.dims)
      (fun _ after => after.own.session = scene.own.session.loaded rom ∧
        after.own.state = scene.own.state ∧ after.own.renderer.resources = none) := by
  unfold loadRom onSession
  simp only [leads_bind, leads_own, leads_within]
  refine (Session.loadRom_leads rom _).mono (fun _ loaded same => ?_) fun _ _ impossible => impossible.elim
  simp only [same]
  split
  · simp only [leads_bind, leads_notify, onRenderer, leads_own, leads_within, leads_update]
    exact (Renderer.rebuild_leads _ _).mono (fun _ _ built => ⟨trivial, rfl, built⟩) fun _ _ bare =>
      ⟨trivial, trivial, bare⟩
  next fits =>
    simp only [leads_update]
    obtain ⟨set, built, dims⟩ := Option.map_eq_some_iff.mp (Decidable.not_not.mp fits)
    exact ⟨trivial, rfl, set, built, dims⟩

end FrameLoop
end FrameViewer
