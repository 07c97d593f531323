import FrameViewer.Proofs.TierBuilds
import FrameViewer.Proofs.TierLineage

/-! A tier that listens to its device does not break down, whatever is raised, and what it holds is
as the report has it. Building and releasing the resources of a renderer keeps both. -/

namespace FrameViewer
open Act

section Carrying

variable {σ τ α β : Type}

/-- From `pre` the action gets to `post`; or it is refused, and `pre` holds again. -/
def Carries (pre : Scene σ → Prop) (post : α → Scene σ → Prop) (action : Act σ α) : Prop :=
  ∀ scene, pre scene → action.Leads scene post fun failure after => failure ≠ .crashed ∧ pre after

namespace Carries

variable {pre : Scene σ → Prop} {post : β → Scene σ → Prop}

theorem refuse {post : α → Scene σ → Prop} (cause : RenderError) :
    Carries pre post (refuse cause : Act σ α) :=
  fun _ now => ⟨nofun, now⟩

theorem bind {action : Act σ α} {next : α → Act σ β} (early : Carries pre (fun _ => pre) action)
    (rest : ∀ value, Carries pre post (next value)) : Carries pre post (action >>= next) :=
  fun scene now => (early scene now).bind fun value after still => rest value after still

theorem own {next : σ → Act σ β} (rest : ∀ part, Carries pre post (next part)) :
    Carries pre post (Act.own >>= next) :=
  fun scene now => rest scene.own scene now

theorem onFailure {post : α → Scene σ → Prop} {action : Act σ α} {undo : Act σ Unit}
    (carries : Carries pre post action)
    (undone : ∀ scene, pre scene → undo.Leads scene (fun _ after => pre after) fun _ _ => False) :
    Carries pre post (onFailure action undo) := by
  intro scene now
  rw [leads_onFailure]
  apply (carries scene now).mono
  · exact fun _ _ done => done
  · intro failure middle ⟨uncrashed, still⟩
    apply (undone middle still).mono
    · exact fun _ _ last => ⟨uncrashed, last⟩
    · exact fun _ _ impossible => impossible.elim

end Carries
end Carrying

namespace Gpu

variable {api : Api} {waiting : List DeviceError} {start : Platform} {held : Holdings}
  {scene : Scene Backend}

/-- The tier listens to its device. What waits there was raised, and was not told of yet. -/
def Attentive (api : Api) (scene : Scene Backend) : Prop :=
  ∃ waiting, scene.own.device = Regime.listened.device api waiting ∧
    waiting ⊆ scene.platform.gpu.raised api

theorem Attentive.after {after : Scene Backend} {used : List String}
    (early : waiting ⊆ scene.platform.gpu.raised api)
    (uses : Machine.Used api used scene.platform.gpu after.platform.gpu)
    (device : after.own.device =
      Regime.listened.device api (waiting ++ scene.platform.gpu.due api used)) :
    Attentive api after := by
  refine ⟨_, device, ?_⟩
  rw [uses.raised]
  exact List.append_subset.mpr ⟨List.Subset.trans early (List.subset_append_left _ _),
    List.subset_append_right _ _⟩

/-- What the tier holds, with those pipelines, is as the report since `start` has it, and the tier
listens. -/
def Steady (start : Platform) (api : Api) (pipelines : List Nat) (scene : Scene Backend) : Prop :=
  (∃ held, Tracked start held scene ∧ held.pipelines.ids = pipelines) ∧ Attentive api scene

private theorem steady_of_tracked {α : Type} {pipelines : List Nat} {later : α → List Nat} {action : Act Backend α}
    (tracked : ∀ held scene, held.pipelines.ids = pipelines → Tracked start held scene →
      action.Leads scene
        (fun value after => ∃ held, Tracked start held after ∧ held.pipelines.ids = later value)
        fun _ after => Tracked start held after)
    (attentive : Carries (Attentive api) (fun _ => Attentive api) action) :
    Carries (Steady start api pipelines) (fun value => Steady start api (later value)) action := by
  intro scene ⟨⟨held, now, same⟩, listening⟩
  apply ((tracked held scene same now).and (attentive scene listening)).mono
  · exact fun _ _ both => both
  · exact fun _ _ ⟨still, uncrashed, attends⟩ => ⟨uncrashed, ⟨held, still, same⟩, attends⟩

namespace Backend

/-- After a check nothing waits. -/
theorem checks_attentive {α : Type} (others : Failure → Prop)
    {kept : Backend → α → Backend → Device → Prop} {action : Act Backend α}
    (checks : ∀ (frame : Backend) (waiting : List DeviceError), ∃ points,
      Checks frame.On points waiting others (kept frame) frame.On action)
    (same : ∀ frame value b device, kept frame value b device → b.device = device)
    (uncrashed : ∀ failure, others failure → failure ≠ .crashed) :
    Carries (Attentive api) (fun _ => Attentive api) action := by
  intro scene ⟨waiting, at_, _⟩
  obtain ⟨points, checks⟩ := checks scene.own waiting
  apply (checks api scene (.of_device_eq at_)).mono
  · exact fun value after ⟨_, _, now, _⟩ => ⟨[], same _ _ _ _ now, List.nil_subset _⟩
  · intro failure after ⟨part, _, told, now, _⟩
    refine ⟨?_, [], now.device_eq, List.nil_subset _⟩
    cases met : waiting ++ scene.platform.gpu.due api part with
    | nil =>
      rw [met] at told
      exact uncrashed failure told
    | cons first rest =>
      rw [met] at told
      obtain ⟨cause, rfl, _⟩ := told
      nofun

/-- What is raised waits for the next check. -/
private theorem leaves_attentive {α : Type} (others : Failure → Prop) {action : Act Backend α}
    (leaves : ∀ frame : Backend, Leaves frame.On others action)
    (uncrashed : ∀ failure, others failure → failure ≠ .crashed) :
    Carries (Attentive api) (fun _ => Attentive api) action := by
  intro scene ⟨waiting, at_, raised⟩
  apply ((leaves scene.own).leads (.of_device_eq at_)).mono
  · exact fun _ after ⟨_, used, now⟩ => .after raised used now.device_eq
  · exact fun failure after ⟨other, _, used, now⟩ =>
      ⟨uncrashed failure other, .after raised used now.device_eq⟩

variable {pipelines : List Nat}

private theorem createBuffer_steady (desc : BufferDesc) (fits : desc.contents.size ≤ desc.size) :
    Carries (Steady start api pipelines) (fun _ => Steady start api pipelines) (createBuffer desc) := by
  apply steady_of_tracked
  · intro held scene same tracked
    exact (createBuffer_tracked desc tracked).mono (fun _ _ ⟨_, later⟩ => ⟨_, later, same⟩)
      fun _ _ still => still
  · exact checks_attentive (fun _ => False)
      (fun _ _ => ⟨_, createBuffer_checks desc fun short => absurd fits (Nat.not_le.mpr short)⟩)
      (fun _ _ _ _ ⟨_, _, on⟩ => on.device_eq) fun _ impossible => impossible.elim

private theorem createTexture_steady (desc : TextureDesc) :
    Carries (Steady start api pipelines) (fun _ => Steady start api pipelines) (createTexture desc) := by
  apply steady_of_tracked
  · intro held scene same tracked
    exact (createTexture_tracked desc tracked).mono (fun _ _ ⟨_, later⟩ => ⟨_, later, same⟩)
      fun _ _ still => still
  · exact checks_attentive (fun _ => False) (fun _ _ => ⟨_, createTexture_checks desc⟩)
      (fun _ _ _ _ ⟨_, _, on⟩ => on.device_eq) fun _ impossible => impossible.elim

private theorem createSampler_steady (desc : SamplerDesc) :
    Carries (Steady start api pipelines) (fun _ => Steady start api pipelines) (createSampler desc) := by
  apply steady_of_tracked
  · intro held scene same tracked
    exact (createSampler_tracked desc tracked).mono (fun _ _ ⟨_, later⟩ => ⟨_, later, same⟩)
      fun _ _ still => still
  · exact checks_attentive (fun _ => False) (fun _ _ => ⟨_, createSampler_checks desc⟩)
      (fun _ _ _ _ ⟨_, _, on⟩ => on.device_eq) fun _ impossible => impossible.elim

private theorem createPipeline_steady (desc : PipelineDesc) :
    Carries (Steady start api []) (fun number => Steady start api [number]) (createPipeline desc) := by
  apply steady_of_tracked
  · intro held scene same tracked
    apply (createPipeline_tracked desc tracked).mono
    · rintro _ after ⟨rfl, objects, later⟩
      refine ⟨_, later, ?_⟩
      simpa [Slots.insert, Slots.ids] using same
    · exact fun _ _ still => still
  · apply checks_attentive (· ≠ .crashed)
    · exact fun _ _ => ⟨_, createPipeline_checks desc fun _ _ => by simp⟩
    · intro _ _ _ _ kept
      obtain ⟨_, _, on⟩ := kept
      exact on.device_eq
    · exact fun _ uncrashed => uncrashed

theorem upload_steady (texture : Nat) (region : Region) (bytes : Bytes) :
    Carries (Steady start api pipelines) (fun _ => Steady start api pipelines)
      (upload texture region bytes) := by
  apply steady_of_tracked
  · intro held scene same tracked
    exact (upload_tracked texture region bytes tracked).mono (fun _ _ still => ⟨held, still, same⟩)
      fun _ _ still => still
  · exact leaves_attentive (· ≠ .crashed) (fun _ => upload_leaves texture region bytes fun _ => nofun)
      fun _ uncrashed => uncrashed

private theorem submit_attentive (call : DrawCall) :
    Carries (Attentive api) (fun _ => Attentive api) (submit call) := by
  intro scene ⟨waiting, at_, raised⟩
  apply (submit_leads (· ≠ .crashed) call (fun _ _ => nofun) (fun _ => nofun) (.of_device_eq at_)).mono
  · exact fun _ after ⟨_, _, used, now⟩ => .after (List.nil_subset _) used now.device_eq
  · intro failure after told
    cases waiting with
    | nil =>
      obtain ⟨uncrashed, _, used, now⟩ := told
      exact ⟨uncrashed, .after (List.nil_subset _) used now.device_eq⟩
    | cons first rest =>
      obtain ⟨rfl, _, now⟩ := told
      exact ⟨nofun, [], now.device_eq, List.nil_subset _⟩

theorem submit_steady (call : DrawCall) :
    Carries (Steady start api pipelines) (fun _ => Steady start api pipelines) (submit call) := by
  apply steady_of_tracked
  · intro held scene same tracked
    exact (submit_tracked call tracked).mono (fun _ _ still => ⟨held, still, same⟩) fun _ _ still => still
  · exact submit_attentive call

theorem resize_steady (size : Dims) :
    Carries (Steady start api pipelines) (fun _ => Steady start api pipelines) (resize size) := by
  apply steady_of_tracked
  · intro held scene same tracked
    exact (tracked.leads (resize_calm size)).mono (fun _ _ still => ⟨held, still, same⟩)
      fun _ _ still => still
  · intro scene ⟨waiting, at_, raised⟩
    apply (resize_leads size (.of_device_eq at_)).mono
    · exact fun _ after ⟨now, used⟩ => .after raised used now.device_eq
    · exact fun _ _ impossible => impossible.elim

private theorem release_attentive (id : ResourceId) (attentive : Attentive api scene) :
    (release id).Leads scene (fun _ after => Attentive api after) fun _ _ => False := by
  obtain ⟨waiting, at_, raised⟩ := attentive
  apply (release_leads id scene).mono
  · intro _ after ⟨same, _, still⟩
    refine ⟨waiting, same.trans at_, ?_⟩
    rw [Machine.raised, still]
    exact raised
  · exact fun _ _ impossible => impossible

/-- Once no pipeline is left anything may be released. -/
theorem release_steady (id : ResourceId) (steady : Steady start api [] scene) :
    (release id).Leads scene (fun _ after => Steady start api [] after) fun _ _ => False := by
  obtain ⟨⟨held, tracked, same⟩, attentive⟩ := steady
  have unpiped : held.pipelines.items = [] := List.map_eq_nil_iff.mp same
  apply ((release_tracked id tracked fun _ => unpiped).and (release_attentive id attentive)).mono
  · refine fun _ after ⟨later, attends⟩ => ⟨⟨_, later, ?_⟩, attends⟩
    cases id with
    | pipeline number => simp [without, Slots.remove, Slots.ids, unpiped]
    | _ => exact same
  · exact fun _ _ impossible => impossible.1

private theorem releasePipeline_steady (number : Nat) (steady : Steady start api [number] scene) :
    (release (.pipeline number)).Leads scene (fun _ after => Steady start api [] after)
      fun _ _ => False := by
  obtain ⟨⟨held, tracked, same⟩, attentive⟩ := steady
  apply ((release_tracked (.pipeline number) tracked fun other => absurd rfl (other number)).and
    (release_attentive _ attentive)).mono
  · refine fun _ after ⟨later, attends⟩ => ⟨⟨_, later, ?_⟩, attends⟩
    obtain ⟨entry, single, rfl⟩ := List.map_eq_singleton_iff.mp same
    simp [without, Slots.remove, Slots.ids, single]
  · exact fun _ _ impossible => impossible.1

end Backend
end Gpu

def Backend.Steady (start : Platform) (api : Gpu.Api) (pipelines : List Nat) (scene : Scene Backend) : Prop :=
  ∃ b, scene.own = .gpu b ∧ Gpu.Steady start api pipelines ⟨b, scene.platform⟩

section Building

variable {α : Type} {start : Platform} {api : Gpu.Api} {pipelines : List Nat} {scene : Scene Backend}

namespace Backend

theorem run_steady {later : α → List Nat} {simulated : Act Simulated.Backend α} {gpu : Act Gpu.Backend α}
    {otherwise : Act Backend α}
    (carries : Carries (Gpu.Steady start api pipelines) (fun value => Gpu.Steady start api (later value)) gpu) :
    Carries (Steady start api pipelines) (fun value => Steady start api (later value))
      (run simulated gpu otherwise) := by
  rintro ⟨_, platform⟩ ⟨b, rfl, steady⟩
  rw [run, leads_bind, leads_own, leads_within]
  apply (carries ⟨b, platform⟩ steady).mono
  · exact fun _ after still => ⟨after.own, rfl, still⟩
  · exact fun _ after both => ⟨both.1, after.own, rfl, both.2⟩

theorem release_steady (id : ResourceId) (steady : Steady start api [] scene) :
    (release id).Leads scene (fun _ after => Steady start api [] after) fun _ _ => False := by
  obtain ⟨_, platform⟩ := scene
  obtain ⟨b, rfl, steady⟩ := steady
  rw [release, run, leads_bind, leads_own, leads_within]
  apply (Gpu.Backend.release_steady id steady).mono
  · exact fun _ after still => ⟨after.own, rfl, still⟩
  · exact fun _ _ impossible => impossible

private theorem releasePipeline_steady (number : Nat) (steady : Steady start api [number] scene) :
    (release (.pipeline number)).Leads scene (fun _ after => Steady start api [] after)
      fun _ _ => False := by
  obtain ⟨_, platform⟩ := scene
  obtain ⟨b, rfl, steady⟩ := steady
  rw [release, run, leads_bind, leads_own, leads_within]
  apply (Gpu.Backend.releasePipeline_steady number steady).mono
  · exact fun _ after still => ⟨after.own, rfl, still⟩
  · exact fun _ _ impossible => impossible

theorem Steady.record {event : Event} (steady : Steady start api pipelines scene) (mute : Gpu.Mute event) :
    Steady start api pipelines ⟨scene.own, scene.platform.record event⟩ := by
  obtain ⟨b, same, ⟨held, ⟨lineage, made, sound, stands⟩, piped⟩, attentive⟩ := steady
  refine ⟨b, same, ⟨held, ⟨lineage, made, sound, ?_⟩, piped⟩, attentive⟩
  exact (mute lineage).1 ▸ stands.record (mute lineage).2

theorem drop_steady (steady : Steady start api pipelines scene) :
    drop.Leads scene (fun _ after => after.own = scene.own ∧ Steady start api pipelines after)
      fun _ _ => False := by
  have mute : Gpu.Mute (.closed scene.own.tier) := fun _ => ⟨rfl, trivial⟩
  have closed := steady.record mute
  obtain ⟨_, platform⟩ := scene
  obtain ⟨b, rfl, _⟩ := steady
  exact ⟨rfl, closed⟩

end Backend

namespace ResourceSet

private theorem releaseAll_steady (ids : List ResourceId) (steady : Backend.Steady start api [] scene) :
    (releaseAll ids).Leads scene (fun _ after => Backend.Steady start api [] after) fun _ _ => False := by
  induction ids generalizing scene with
  | nil => exact steady
  | cons id rest ih =>
    apply (Backend.release_steady id steady).bind
    exact fun _ _ still => ih still

/-- The pipeline goes first, and with it all that was bound to the rest. -/
theorem release_steady (set : ResourceSet) (steady : Backend.Steady start api [set.pipeline] scene) :
    set.release.Leads scene (fun _ after => Backend.Steady start api [] after) fun _ _ => False := by
  apply (Backend.releasePipeline_steady set.pipeline steady).bind
  exact fun _ _ still => releaseAll_steady _ still

private theorem rollBack_steady (created : List ResourceId) (steady : Backend.Steady start api [] scene) :
    (rollBack created).Leads scene (fun _ after => Backend.Steady start api [] after)
      fun _ _ => False := by
  rw [rollBack]
  split
  · rw [leads_bind, leads_own, leads_bind, leads_notify]
    exact releaseAll_steady created (steady.record (Gpu.notice_mute _))
  · exact releaseAll_steady created steady

private theorem step_steady {later : Nat → List Nat} {action : Act Backend Nat} (created : List ResourceId)
    (carries : Carries (Backend.Steady start api []) (fun number => Backend.Steady start api (later number))
      action) :
    Carries (Backend.Steady start api []) (fun number => Backend.Steady start api (later number))
      (step created action) :=
  carries.onFailure fun _ still => rollBack_steady created still

private theorem buffer_steady (label : String) (usage : BufferUsage) (contents : Bytes)
    (member : contents ∈ [Quad.vertexBytes, Quad.colorBytes, Quad.indexBytes, Quad.uniformBytes]) :
    Carries (Backend.Steady start api []) (fun _ => Backend.Steady start api []) (buffer label usage contents) := by
  obtain ⟨size, fits, least⟩ := quad_fits contents member
  rintro scene ⟨b, same, steady⟩
  rw [buffer, leads_bind, leads_own, same, show (Backend.gpu b).alignment = Quad.alignment from rfl, fits]
  exact Backend.run_steady (Gpu.Backend.createBuffer_steady _ least) scene ⟨b, same, steady⟩

/-- The pipeline comes last, so that a build that fails leaves none. -/
theorem build_steady (dims : Dims) :
    Carries (Backend.Steady start api []) (fun set => Backend.Steady start api [set.pipeline]) (build dims) := by
  rw [build]
  by_cases empty : dims.isEmpty = true
  · rw [if_pos empty]
    exact .refuse _
  rw [if_neg empty]
  apply Carries.own
  intro backend
  apply Carries.bind (step_steady _ (buffer_steady _ _ _ (by simp)))
  intro positions
  apply Carries.bind (step_steady _ (buffer_steady _ _ _ (by simp)))
  intro colors
  apply Carries.bind (step_steady _ (buffer_steady _ _ _ (by simp)))
  intro indices
  apply Carries.bind (step_steady _ (buffer_steady _ _ _ (by simp)))
  intro uniforms
  apply Carries.bind (step_steady _ (Backend.run_steady (Gpu.Backend.createTexture_steady _)))
  intro texture
  apply Carries.bind (step_steady _ (Backend.run_steady (Gpu.Backend.createSampler_steady _)))
  intro sampler scene steady
  apply Leads.bind (step_steady _ (Backend.run_steady (Gpu.Backend.createPipeline_steady _)) scene steady)
  intro pipeline middle steady
  rw [leads_bind, leads_notify, leads_pure]
  exact steady.record (Gpu.notice_mute _)

end ResourceSet
end Building
end FrameViewer
