import FrameViewer.Proofs.LastingShows
import FrameViewer.Proofs.SurfaceReports
import FrameViewer.Proofs.TierLineage

/-! A tier and its surface. Whatever is done with the tier, the surface stays configured as the tier
has it, and all of its pipelines draw in that format; another size is taken on at once. -/

namespace FrameViewer
open Act

variable {σ α : Type}

namespace Gpu

structure Mount where
  /-- What the drivers offer. -/
  formats : Api → List String
  /-- While tiers are being acquired, that is what the scripts of the drivers say. -/
  acquiring : Prop
  api : Api
  config : SurfaceConfig

def Mount.sized (m : Mount) (size : Dims) : Mount :=
  { m with config := { m.config with dims := size.filled } }

namespace Backend

/-- The surface is configured as the tier has it, and the pipelines of the tier draw in its format, as
those do that were just made. -/
structure Hangs (m : Mount) (made : List Nat) (b : Backend) (platform : Platform) : Prop where
  config : b.config = m.config
  faces : Faces m.formats m.acquiring (some m.api) (some m.config)
    (made ++ b.pipelines.items.map fun entry => entry.2.pipeline) platform
  chosen : Acquire.chooseFormat (m.formats m.api) = some m.config.format
  filled : ∃ size : Dims, m.config.dims = size.filled

variable {m : Mount} {made : List Nat}

theorem Hangs.subset {b : Backend} {platform : Platform} {fewer : List Nat} (hangs : b.Hangs m made platform)
    (subset : fewer ⊆ made ++ b.pipelines.items.map fun entry => entry.2.pipeline) :
    b.Hangs m fewer platform :=
  { hangs with faces := hangs.faces.subset (List.append_subset.mpr ⟨subset, List.subset_append_right _ _⟩) }

private theorem onDevice_hangs {action : Act Device α} (unseen : Unseen action) :
    Preserves (Hangs m made) (onDevice action) := by
  refine .of_leads fun scene hangs => ?_
  simp only [onDevice, leads_bind, leads_own, leads_within]
  refine Leads.mono ((unseen.preserves Faces.blind).leads hangs.faces) ?_ ?_
  · exact fun _ _ faces => ⟨hangs.config, faces, hangs.chosen, hangs.filled⟩
  · exact fun _ _ faces => ⟨hangs.config, faces, hangs.chosen, hangs.filled⟩

private theorem emit_hangs {event : Event} (blank : Blank event) : Preserves (Hangs m made) (emit event) :=
  fun _ hangs => { hangs with faces := Faces.blind.record blank hangs.faces }

private theorem notify_hangs (notice : Notice) : Preserves (Hangs m made) (notify notice) :=
  emit_hangs (.of_uncalled fun _ => nofun)

private theorem newObject_hangs : Preserves (Hangs m made) newObject := by
  refine .of_leads fun scene hangs => ?_
  simp only [newObject, leads_bind, leads_platform, leads_updatePlatform, leads_pure]
  exact { hangs with faces := Faces.blind.gpu (fun api => by cases api <;> rfl) hangs.faces }

private theorem failOnPending_hangs (into : String → RenderError) :
    Preserves (Hangs m made) (failOnPending into) := by
  refine .bind (onDevice_hangs Device.takePending_unseen) fun pending => ?_
  cases pending with
  | none => exact .pure _
  | some reason => exact .refuse _

private theorem find_hangs (found : Option α) (cause : RenderError) : Preserves (Hangs m made) (find found cause) := by
  cases found with
  | none => exact .refuse _
  | some object => exact .pure _

private theorem makeBuffer_hangs (desc : BufferDesc) : Preserves (Hangs m made) (makeBuffer desc) := by
  refine .bind (onDevice_hangs (Device.make_unseen fun _ _ _ => ⟨rfl, trivial⟩)) fun object => ?_
  refine .bind (failOnPending_hangs _) fun _ => .ite .crash ?_
  exact .bind (emit_hangs fun _ _ => ⟨rfl, trivial⟩) fun _ => .pure _

private theorem makeTexture_hangs (desc : TextureDesc) : Preserves (Hangs m made) (makeTexture desc) := by
  refine .bind (onDevice_hangs (Device.make_unseen fun _ _ _ => ⟨rfl, trivial⟩)) fun object => ?_
  refine .bind newObject_hangs fun _ => .bind (emit_hangs fun _ _ => ⟨rfl, trivial⟩) fun _ => ?_
  exact .bind (failOnPending_hangs _) fun _ => .pure _

private theorem makeSampler_hangs (desc : SamplerDesc) : Preserves (Hangs m made) (makeSampler desc) :=
  .bind (onDevice_hangs (Device.make_unseen fun _ _ _ => ⟨rfl, trivial⟩)) fun _ =>
    .bind (failOnPending_hangs _) fun _ => .pure _

private theorem compile_hangs (stage : ShaderStage) : Preserves (Hangs m made) (compile stage) :=
  .bind .own fun _ => .bind (onDevice_hangs (Device.shaderModule_unseen _ _)) fun _ =>
    .bind (failOnPending_hangs _) fun _ => .pure _

/-- What is kept besides pipelines makes no difference. -/
theorem kept_hangs {objects : Type} {make : Act Backend objects} (preserves : Preserves (Hangs m made) make)
    (keep : objects → Backend → Backend) (id : Backend → ResourceId) (object : objects → Nat)
    (config : ∀ made b, (keep made b).config = b.config)
    (pipelines : ∀ made b, (keep made b).pipelines = b.pipelines) :
    Preserves (Hangs m made) (do
      let made ← make
      let b ← Act.own
      Act.setOwn (keep made b)
      handOut (id b) (object made)) := by
  refine .bind preserves fun objects => .of_leads fun scene hangs => ?_
  simp only [handOut, leads_bind, leads_own, leads_setOwn, leads_emit, leads_pure]
  have kept : (keep objects scene.own).Hangs m made scene.platform :=
    ⟨(config objects scene.own).trans hangs.config, pipelines objects scene.own ▸ hangs.faces, hangs.chosen,
      hangs.filled⟩
  exact { kept with faces := Faces.blind.record (fun _ _ => ⟨rfl, trivial⟩) kept.faces }

private theorem createBuffer_hangs (desc : BufferDesc) : Preserves (Hangs m made) (createBuffer desc) :=
  kept_hangs (makeBuffer_hangs desc) (fun object b => { b with buffers := (b.buffers.insert object).2 })
    (fun b => .buffer b.buffers.next) id (fun _ _ => rfl) fun _ _ => rfl

private theorem createTexture_hangs (desc : TextureDesc) : Preserves (Hangs m made) (createTexture desc) :=
  kept_hangs (makeTexture_hangs desc) (fun objects b => { b with textures := (b.textures.insert objects).2 })
    (fun b => .texture b.textures.next) TextureObjects.texture (fun _ _ => rfl) fun _ _ => rfl

private theorem createSampler_hangs (desc : SamplerDesc) : Preserves (Hangs m made) (createSampler desc) :=
  kept_hangs (makeSampler_hangs desc) (fun object b => { b with samplers := (b.samplers.insert object).2 })
    (fun b => .sampler b.samplers.next) id (fun _ _ => rfl) fun _ _ => rfl

/-- A pipeline is made in the format that the tier has its surface configured in. -/
private theorem makePipeline_hangs (desc : PipelineDesc) {scene : Scene Backend}
    (hangs : scene.own.Hangs m [] scene.platform) :
    (makePipeline desc).Leads scene
      (fun objects after => after.own.Hangs m [objects.pipeline] after.platform)
      fun _ after => after.own.Hangs m [] after.platform := by
  have grouped {label : String} {layout : Nat → List (Nat × Bound)} {group : Nat} :
      Preserves (Hangs m []) (onDevice (Device.make label fun object =>
        .bindGroup object label group (layout object))) :=
    onDevice_hangs (Device.make_unseen fun _ _ _ => ⟨rfl, trivial⟩)
  have step {β γ : Type} {action : Act Backend β} {next : β → Act Backend γ}
      {done : γ → Scene Backend → Prop} {scene : Scene Backend} (preserves : Preserves (Hangs m []) action)
      (hangs : scene.own.Hangs m [] scene.platform)
      (rest : ∀ value middle, middle.own.Hangs m [] middle.platform →
        (next value).Leads middle done fun _ after => after.own.Hangs m [] after.platform) :
      (action >>= next).Leads scene done fun _ after => after.own.Hangs m [] after.platform := by
    rw [leads_bind]
    exact (preserves.leads hangs).mono rest fun _ _ hangs => hangs
  apply step (compile_hangs _) hangs
  intro vertex middle hangs
  apply step (compile_hangs _) hangs
  intro fragment middle hangs
  rw [leads_bind, leads_own]
  have format : middle.own.config = m.config := hangs.config
  apply step (find_hangs _ _) hangs
  intro uniforms middle hangs
  apply step (find_hangs _ _) hangs
  intro texture middle hangs
  apply step (find_hangs _ _) hangs
  intro sampler middle hangs
  apply step (onDevice_hangs Device.groupLayouts_unseen) hangs
  intro groups middle hangs
  apply step grouped hangs
  intro uniformGroup middle hangs
  apply step grouped hangs
  intro textureGroup middle hangs
  apply step (failOnPending_hangs _) hangs
  intro _ middle hangs
  rw [format, leads_bind, onDevice, leads_bind, leads_own, leads_within]
  refine Leads.mono (Device.renderPipeline_faces _ _ hangs.faces fun c same =>
    congrArg SurfaceConfig.format (Option.some.inj same)) ?_ ?_
  · intro pipeline after faces
    have made : Hangs m [pipeline] { middle.own with device := after.own } after.platform :=
      ⟨hangs.config, faces, hangs.chosen, hangs.filled⟩
    rw [leads_bind]
    refine Leads.mono ((failOnPending_hangs _).leads made) ?_ ?_
    · intro _ last hangs
      rw [leads_bind, leads_notify, leads_pure]
      exact (notify_hangs _).leads hangs
    · exact fun _ _ hangs => hangs.subset (List.nil_subset _)
  · exact fun _ _ faces => ⟨hangs.config, faces, hangs.chosen, hangs.filled⟩

private theorem createPipeline_hangs (desc : PipelineDesc) : Preserves (Hangs m []) (createPipeline desc) := by
  refine .of_leads fun scene hangs => ?_
  rw [createPipeline, leads_bind]
  apply (makePipeline_hangs desc hangs).mono
  · intro objects middle hangs
    simp only [handOut, leads_bind, leads_own, leads_setOwn, leads_emit, leads_pure]
    have kept : Hangs m [] { middle.own with pipelines := (middle.own.pipelines.insert objects).2 }
        middle.platform := by
      refine { hangs with faces := hangs.faces.subset ?_ }
      simp [Slots.insert]
    exact { kept with faces := Faces.blind.record (fun _ _ => ⟨rfl, trivial⟩) kept.faces }
  · exact fun _ _ hangs => hangs

private theorem upload_hangs (texture : Nat) (region : Region) (bytes : Bytes) :
    Preserves (Hangs m made) (upload texture region bytes) :=
  .bind .own fun _ => .bind (find_hangs _ _) fun _ => .bind (emit_hangs fun _ _ => ⟨rfl, trivial⟩) fun _ =>
    onDevice_hangs (Device.reach_unseen _)

/-- A pass sets the viewport that fits the configuration and a pipeline of its format, and draws. -/
private theorem pass_fits {formats : Api → List String} {canvas : Canvas} {config : SurfaceConfig} (view : Nat)
    (draw : DrawObjects) (configured : canvas.config = some config)
    (format : canvas.targets draw.pipeline.pipeline = some config.format) :
    canvas.InOrder formats
      (pass view (fitAspect config.dims.width config.dims.height displayAspect) draw) := by
  simp [pass, Canvas.InOrder, Canvas.enter, Canvas.called, Canvas.Allows, configured, format]

private theorem record_hangs (draw : DrawObjects) : Preserves (Hangs m [draw.pipeline.pipeline]) (record draw) := by
  refine .bind newObject_hangs fun view => .bind (emit_hangs fun _ _ => ⟨rfl, trivial⟩) fun _ => ?_
  refine .of_leads fun scene hangs => ?_
  have format := hangs.faces.targets _ (List.mem_append_left _ List.mem_cons_self) m.config rfl
  have inOrder := @pass_fits m.formats _ _ view draw hangs.faces.config format
  have passed := hangs.faces.recordAll inOrder (by simp [pass, Canvas.enter, Canvas.called])
  have sent : Preserves (Hangs m [draw.pipeline.pipeline])
      (do onDevice (Device.reach "submit"); say .present) :=
    .bind (onDevice_hangs (Device.reach_unseen _)) fun _ => emit_hangs fun _ _ => ⟨rfl, trivial⟩
  have ends {drawn : Platform} (hangs : Hangs m [draw.pipeline.pipeline] scene.own drawn) :=
    @Preserves.leads _ _ _ _ ⟨scene.own, drawn⟩ sent hangs
  simp only [say, leads_bind, leads_own, leads_emit, hangs.config] at ends ⊢
  exact ends { hangs with faces := passed }

/-- An outdated surface is configured as it was. -/
private theorem reconfigure_hangs : Preserves (Hangs m made) (onDevice (Device.configure m.config)) := by
  refine .of_leads fun scene hangs => ?_
  obtain ⟨size, filled⟩ := hangs.filled
  rw [onDevice, leads_bind, leads_own, leads_within]
  refine Leads.mono (Device.configure_faces hangs.faces hangs.chosen filled (.inr ⟨_, rfl, rfl⟩)) ?_ ?_
  · exact fun _ _ faces => ⟨hangs.config, faces, hangs.chosen, hangs.filled⟩
  · exact fun _ _ faces => ⟨hangs.config, faces, hangs.chosen, hangs.filled⟩

private theorem submit_hangs (call : DrawCall) : Preserves (Hangs m []) (submit call) := by
  refine .bind (failOnPending_hangs _) fun _ => .of_leads fun scene hangs => ?_
  rw [leads_bind, leads_own, hangs.config]
  apply Leads.bind (find_leads fun _ => hangs)
  rintro pipeline _ ⟨found, rfl⟩
  have held := List.mem_map_of_mem (f := fun entry => entry.2.pipeline) (Slots.mem_items_of_get? found)
  have drawn (positions colors indices count : Nat) : Preserves (Hangs m [pipeline.pipeline])
      (record { pipeline, positions, colors, indices, count }) :=
    record_hangs { pipeline, positions, colors, indices, count }
  have shown : Preserves (Hangs m [pipeline.pipeline]) (onDevice Device.currentTexture) :=
    onDevice_hangs Device.currentTexture_unseen
  refine Leads.mono (Preserves.leads (.bind (find_hangs _ _) fun positions => .bind (find_hangs _ _)
    fun colors => .bind (find_hangs _ _) fun indices => .bind shown fun first => ?_)
    (hangs.subset (List.cons_subset.mpr ⟨held, List.nil_subset _⟩))) ?_ ?_
  · cases first with
    | ready => exact drawn _ _ _ _
    | timeout => exact notify_hangs _
    | outdated =>
      refine .bind reconfigure_hangs fun _ => .bind shown fun second => ?_
      cases second with
      | ready => exact drawn _ _ _ _
      | timeout | outdated | lost | outOfMemory | other => exact .refuse _
    | lost | outOfMemory | other => exact .refuse _
  · exact fun _ _ hangs => hangs.subset (List.nil_subset _)
  · exact fun _ _ hangs => hangs.subset (List.nil_subset _)

/-- The surface takes on another size in the same format. -/
theorem resize_hangs (size : Dims) {scene : Scene Backend} (hangs : scene.own.Hangs m [] scene.platform) :
    (resize size).Leads scene (fun _ after => after.own.Hangs (m.sized size) [] after.platform)
      fun _ after => after.own.Hangs (m.sized size) [] after.platform := by
  simp only [resize, onDevice, leads_bind, leads_own, leads_setOwn, leads_within, hangs.config]
  refine Leads.mono (Device.configure_faces hangs.faces hangs.chosen rfl (.inr ⟨_, rfl, rfl⟩)) ?_ ?_
  · exact fun _ _ faces => ⟨rfl, faces, hangs.chosen, size, rfl⟩
  · exact fun _ _ faces => ⟨rfl, faces, hangs.chosen, size, rfl⟩

private theorem release_hangs (id : ResourceId) : Preserves (Hangs m made) (release id) := by
  have told (id : ResourceId) (stale : Bool) : Preserves (Hangs m made) (takeBack id stale) :=
    .bind .own fun _ => emit_hangs fun _ _ => ⟨rfl, trivial⟩
  refine .of_leads fun scene hangs => ?_
  rw [release, leads_bind, leads_own]
  cases id with
  | buffer number =>
    have destroyed (object : Nat) : Preserves (Hangs m made) (say (.destroyBuffer object)) :=
      emit_hangs fun _ _ => ⟨rfl, trivial⟩
    rw [leads_bind, leads_setOwn]
    exact Preserves.leads (.bind (told _ _) fun _ => .forM destroyed)
      ⟨hangs.config, hangs.faces, hangs.chosen, hangs.filled⟩
  | texture number =>
    have destroyed (objects : TextureObjects) :
        Preserves (Hangs m made) (say (.destroyTexture objects.texture)) :=
      emit_hangs fun _ _ => ⟨rfl, trivial⟩
    rw [leads_bind, leads_setOwn]
    exact Preserves.leads (.bind (told _ _) fun _ => .forM destroyed)
      ⟨hangs.config, hangs.faces, hangs.chosen, hangs.filled⟩
  | sampler number => exact (told _ _).leads ⟨hangs.config, hangs.faces, hangs.chosen, hangs.filled⟩
  | pipeline number =>
    refine (told _ _).leads ⟨hangs.config, hangs.faces.subset ?_, hangs.chosen, hangs.filled⟩
    refine List.append_subset.mpr ⟨List.subset_append_left _ _, ?_⟩
    exact List.Subset.trans (List.map_subset _ (List.filter_subset_self _)) (List.subset_append_right _ _)

end Backend
end Gpu

variable {m : Gpu.Mount}

namespace Backend

/-- The tier is on a graphics device, and so is its surface. -/
def Hangs (m : Gpu.Mount) (backend : Backend) (platform : Platform) : Prop :=
  ∃ b, backend = .gpu b ∧ b.Hangs m [] platform

private theorem run_hangs {simulated : Act Simulated.Backend α} {gpu : Act Gpu.Backend α}
    {otherwise : Act Backend α} (preserves : Preserves (Gpu.Backend.Hangs m []) gpu) :
    Preserves (Hangs m) (run simulated gpu otherwise) := by
  apply Preserves.of_leads
  rintro ⟨_, platform⟩ ⟨b, rfl, hangs⟩
  rw [run, leads_bind, leads_own, leads_within]
  refine Leads.mono (preserves.leads hangs) ?_ ?_
  · exact fun _ after still => ⟨after.own, rfl, still⟩
  · exact fun _ after still => ⟨after.own, rfl, still⟩

private theorem emit_hangs {event : Event} (blank : Gpu.Blank event) : Preserves (Hangs m) (emit event) := by
  apply Preserves.of_leads
  rintro ⟨_, platform⟩ ⟨b, rfl, hangs⟩
  exact ⟨b, rfl, { hangs with faces := Gpu.Faces.blind.record blank hangs.faces }⟩

private theorem notify_hangs (notice : Notice) : Preserves (Hangs m) (notify notice) :=
  emit_hangs (.of_uncalled fun _ => nofun)

theorem drop_hangs : Preserves (Hangs m) drop := by
  refine .bind (run_hangs (.pure _)) fun _ => .bind .own fun backend => ?_
  cases backend with
  | null => exact .pure _
  | simulated b | gpu b => exact emit_hangs (.of_uncalled fun _ => nofun)

end Backend

namespace ResourceSet

private theorem releaseAll_hangs (ids : List ResourceId) : Preserves (Backend.Hangs m) (releaseAll ids) :=
  .listForM (fun id => Backend.run_hangs (Gpu.Backend.release_hangs id)) ids

private theorem step_hangs (created : List ResourceId) {action : Act Backend Nat}
    (preserves : Preserves (Backend.Hangs m) action) : Preserves (Backend.Hangs m) (step created action) := by
  refine .onFailure preserves (.ite (.bind .own fun _ => ?_) (releaseAll_hangs _))
  exact .bind (Backend.notify_hangs _) fun _ => releaseAll_hangs _

private theorem buffer_hangs (label : String) (usage : BufferUsage) (contents : Bytes) :
    Preserves (Backend.Hangs m) (buffer label usage contents) :=
  .bind .own fun _ => .bind (.checked _) fun _ => Backend.run_hangs (Gpu.Backend.createBuffer_hangs _)

theorem build_hangs (dims : Dims) : Preserves (Backend.Hangs m) (build dims) := by
  refine .ite (.refuse _) (.bind .own fun _ => ?_)
  refine .bind (step_hangs _ (buffer_hangs _ _ _)) fun _ => ?_
  refine .bind (step_hangs _ (buffer_hangs _ _ _)) fun _ => ?_
  refine .bind (step_hangs _ (buffer_hangs _ _ _)) fun _ => ?_
  refine .bind (step_hangs _ (buffer_hangs _ _ _)) fun _ => ?_
  refine .bind (step_hangs _ (Backend.run_hangs (Gpu.Backend.createTexture_hangs _))) fun _ => ?_
  refine .bind (step_hangs _ (Backend.run_hangs (Gpu.Backend.createSampler_hangs _))) fun _ => ?_
  refine .bind (step_hangs _ (Backend.run_hangs (Gpu.Backend.createPipeline_hangs _))) fun _ => ?_
  exact .bind (Backend.notify_hangs _) fun _ => .pure _

end ResourceSet

namespace Renderer

/-- The surface of the renderer is configured for a window of that size. -/
def Hangs (formats : Gpu.Api → List String) (acquiring : Prop) (api : Gpu.Api) (size : Dims) (r : Renderer)
    (platform : Platform) : Prop :=
  ∃ config : Gpu.SurfaceConfig, config.dims = size.filled ∧
    r.backend.Hangs ⟨formats, acquiring, api, config⟩ platform

variable {formats : Gpu.Api → List String} {acquiring : Prop} {api : Gpu.Api} {size : Dims}

private theorem onBackend_hangs {action : Act Backend α} (preserves : ∀ m, Preserves (Backend.Hangs m) action) :
    Preserves (Hangs formats acquiring api size) (onBackend action) := by
  refine .of_leads fun scene ⟨config, dims, hangs⟩ => ?_
  rw [onBackend, leads_bind, leads_own, leads_within]
  refine Leads.mono ((preserves _).leads hangs) ?_ ?_
  · exact fun _ _ still => ⟨config, dims, still⟩
  · exact fun _ _ still => ⟨config, dims, still⟩

private theorem submit_hangs (pixels : Bytes) : Preserves (Hangs formats acquiring api size) (submit pixels) := by
  refine .bind .own fun r => ?_
  cases r.resources with
  | none => exact .refuse _
  | some set =>
    refine .ite (.bind (onBackend_hangs fun _ => ?_) fun _ => onBackend_hangs fun _ => ?_) (.refuse _)
    · exact Backend.run_hangs (Gpu.Backend.upload_hangs _ _ _)
    · exact Backend.run_hangs (Gpu.Backend.submit_hangs _)

private theorem teardown_hangs : Preserves (Hangs formats acquiring api size) teardown := by
  refine .of_leads fun scene hangs => ?_
  rw [teardown, leads_bind, leads_own]
  cases scene.own.resources with
  | none => exact hangs
  | some set =>
    rw [leads_bind, leads_setOwn]
    exact (onBackend_hangs fun _ => ResourceSet.releaseAll_hangs set.ids).leads hangs

private theorem rebuild_hangs (dims : Dims) : Preserves (Hangs formats acquiring api size) (rebuild dims) :=
  .bind teardown_hangs fun _ => .bind (onBackend_hangs fun _ => ResourceSet.build_hangs dims) fun _ =>
    .change fun _ hangs => hangs

theorem resize_hangs (told : Dims) {scene : Scene Renderer}
    (hangs : scene.own.Hangs formats acquiring api size scene.platform) :
    (resize told).Leads scene (fun _ after => after.own.Hangs formats acquiring api told after.platform)
      fun _ after => after.own.Hangs formats acquiring api told after.platform := by
  obtain ⟨⟨_, resources⟩, platform⟩ := scene
  obtain ⟨config, _, b, rfl, hangs⟩ := hangs
  simp only [resize, onBackend, Backend.resize, Backend.run, leads_bind, leads_own, leads_within]
  refine Leads.mono (Gpu.Backend.resize_hangs told hangs) ?_ ?_
  · exact fun _ after still => ⟨{ config with dims := told.filled }, rfl, after.own, rfl, still⟩
  · exact fun _ after still => ⟨{ config with dims := told.filled }, rfl, after.own, rfl, still⟩

/-- Once no tier is acquired any more, nothing that is told aside matters. -/
theorem hangs_sized : Renderer.Sized (Hangs formats False api) where
  lasting size :=
    { deaf := by
        intro r before after grown ⟨config, dims, b, on, hangs⟩
        have blank := grown.mono Gpu.Blank.of_aside
        exact ⟨config, dims, b, on, { hangs with faces := hangs.faces.extend blank nofun }⟩
      submit := submit_hangs
      rebuild := rebuild_hangs
      teardown := teardown_hangs }
  resize _ told _ hangs := resize_hangs told hangs

end Renderer
end FrameViewer
