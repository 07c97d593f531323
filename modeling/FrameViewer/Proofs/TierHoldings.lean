import FrameViewer.Proofs.BookedObjects
import FrameViewer.Proofs.DrawingReports

/-! On every tier a creation that works enters one new object and one that fails enters none; a
release of a live object takes it off; drawing changes nothing. -/

namespace FrameViewer
open Act

theorem Event.IsDrawing.unheld (event : Event) (drawing : event.IsDrawing) :
    event.part ≠ .holding := by
  simp [show event.part = .drawing from drawing]

namespace Gpu.Backend

variable {α : Type}

private theorem onDevice_spares {action : Act Device α} (emits : action.Emits Event.IsSetup) :
    Spares .gpu (onDevice action) := by
  refine .of_leads fun audit live scene booked => ?_
  unfold onDevice
  simp only [leads_bind, leads_own, leads_within]
  exact Leads.mono (emits.mono (fun event setup => Event.IsDrawing.unheld event setup.drawing) _)
    (fun _ _ grown => booked.unheld grown fun _ backs => backs)
    fun _ _ grown => booked.unheld grown fun _ backs => backs

private theorem failOnPending_spares (into : String → RenderError) : Spares .gpu (failOnPending into) := by
  refine .bind (onDevice_spares Device.takePending_emits) fun pending => ?_
  cases pending with
  | none => exact .pure _
  | some reason => exact .refuse _

private theorem find_spares (found : Option α) (cause : RenderError) : Spares .gpu (find found cause) := by
  cases found with
  | none => exact .refuse _
  | some object => exact .pure _

private theorem say_spares (call : Call) : Spares .gpu (say call) :=
  .emit nofun

private theorem newObject_spares : Spares .gpu newObject :=
  .bind .platform fun _ => .bind (Spares.updatePlatform fun _ => rfl) fun _ => .pure _

private theorem makeBuffer_spares (desc : BufferDesc) : Spares .gpu (makeBuffer desc) :=
  .bind (onDevice_spares (Device.make_emits _ fun _ => rfl)) fun _ => .bind (failOnPending_spares _) fun _ =>
    .ite .crash (.bind (say_spares _) fun _ => .pure _)

private theorem makeTexture_spares (desc : TextureDesc) : Spares .gpu (makeTexture desc) :=
  .bind (onDevice_spares (Device.make_emits _ fun _ => rfl)) fun _ => .bind newObject_spares fun _ =>
    .bind (say_spares _) fun _ => .bind (failOnPending_spares _) fun _ => .pure _

private theorem makeSampler_spares (desc : SamplerDesc) : Spares .gpu (makeSampler desc) :=
  .bind (onDevice_spares (Device.make_emits _ fun _ => rfl)) fun _ => .bind (failOnPending_spares _) fun _ =>
    .pure _

private theorem compile_spares (stage : ShaderStage) : Spares .gpu (compile stage) :=
  .bind .own fun _ => .bind (onDevice_spares (Device.shaderModule_emits _ _)) fun _ =>
    .bind (failOnPending_spares _) fun _ => .pure _

private theorem makePipeline_spares (desc : PipelineDesc) : Spares .gpu (makePipeline desc) :=
  .bind (compile_spares _) fun _ => .bind (compile_spares _) fun _ => .bind .own fun _ =>
    .bind (find_spares _ _) fun _ => .bind (find_spares _ _) fun _ => .bind (find_spares _ _) fun _ =>
      .bind (onDevice_spares Device.groupLayouts_emits) fun _ =>
        .bind (onDevice_spares (Device.make_emits _ fun _ => rfl)) fun _ =>
          .bind (onDevice_spares (Device.make_emits _ fun _ => rfl)) fun _ =>
            .bind (failOnPending_spares _) fun _ =>
              .bind (onDevice_spares (Device.renderPipeline_emits _ _ _)) fun _ =>
                .bind (failOnPending_spares _) fun _ => .bind (.emit nofun) fun _ => .pure _

theorem upload_spares (texture : Nat) (region : Region) (bytes : Bytes) :
    Spares .gpu (upload texture region bytes) :=
  .bind .own fun _ => .bind (find_spares _ _) fun _ => .bind (say_spares _) fun _ =>
    onDevice_spares (Device.reach_emits _)

private theorem record_spares (draw : DrawObjects) : Spares .gpu (record draw) :=
  .bind newObject_spares fun _ => .bind (say_spares _) fun _ => .bind (say_spares _) fun _ =>
    .bind (say_spares _) fun _ => .bind .own fun _ => .bind (say_spares _) fun _ =>
      .bind (say_spares _) fun _ => .bind (say_spares _) fun _ => .bind (say_spares _) fun _ =>
        .bind (say_spares _) fun _ => .bind (say_spares _) fun _ => .bind (say_spares _) fun _ =>
          .bind (say_spares _) fun _ => .bind (say_spares _) fun _ => .bind (say_spares _) fun _ =>
            .bind (onDevice_spares (Device.reach_emits _)) fun _ => say_spares _

theorem submit_spares (call : DrawCall) : Spares .gpu (submit call) := by
  refine .bind (failOnPending_spares _) fun _ => .bind .own fun _ => .bind (find_spares _ _) fun _ =>
    .bind (find_spares _ _) fun _ => .bind (find_spares _ _) fun _ => .bind (find_spares _ _) fun _ =>
      .bind (onDevice_spares Device.currentTexture_emits) fun shown => ?_
  cases shown with
  | ready => exact record_spares _
  | timeout => exact .emit nofun
  | outdated =>
    refine .bind (onDevice_spares (Device.configure_emits _)) fun _ =>
      .bind (onDevice_spares Device.currentTexture_emits) fun again => ?_
    cases again with
    | ready => exact record_spares _
    | timeout | outdated | lost | outOfMemory | other => exact .refuse _
  | lost | outOfMemory | other => exact .refuse _

theorem resize_spares (size : Dims) : Spares .gpu (resize size) := by
  refine .of_leads fun audit live scene booked => ?_
  unfold resize
  rw [leads_bind, leads_own, leads_bind, leads_setOwn]
  apply (onDevice_spares (Device.configure_emits _)).leads ⟨_, _⟩
  exact booked.unheld (.refl _) fun _ backs => backs

/-- An object that was made is kept under the next number of its storage. -/
theorem kept_adds {objects : Type} {make : Act Backend objects} (spares : Spares .gpu make)
    (keep : objects → Backend → Backend) (next : Backend → Nat) (object : objects → Nat)
    {typed : Nat → ResourceId} (numbered : ∀ n, (typed n).number = n)
    (entry : ∀ made b books tier, (FrameViewer.Backend.gpu b).Backs books →
      typed (next b) ∉ books.handed ∧ (FrameViewer.Backend.gpu (keep made b)).Backs
        (books.enter (.handedOut tier (typed (next b)) (object made)))) :
    Adds .gpu typed (do
      let made ← make
      let b ← Act.own
      Act.setOwn (keep made b)
      handOut (typed (next b)) (object made)) := by
  refine .bind spares fun made audit live scene booked room => ?_
  simp only [handOut, leads_bind, leads_own, leads_setOwn, leads_emit, leads_pure, numbered]
  exact booked.handedOut room fun books backs => entry made scene.own books _ backs

theorem createBuffer_adds (desc : BufferDesc) : Adds .gpu .buffer (createBuffer desc) := by
  refine kept_adds (makeBuffer_spares desc)
    (fun object b => { b with buffers := (b.buffers.insert object).2 }) (·.buffers.next) id
    (fun _ => rfl) ?_
  intro object b books tier ⟨buffers, textures, samplers, pipelines⟩
  exact ⟨buffers.fresh rfl, buffers.handOut object rfl, textures.handOut_other rfl,
    samplers.handOut_other rfl, pipelines.handOut_other rfl⟩

theorem createTexture_adds (desc : TextureDesc) : Adds .gpu .texture (createTexture desc) := by
  refine kept_adds (makeTexture_spares desc)
    (fun objects b => { b with textures := (b.textures.insert objects).2 }) (·.textures.next)
    TextureObjects.texture (fun _ => rfl) ?_
  intro objects b books tier ⟨buffers, textures, samplers, pipelines⟩
  exact ⟨textures.fresh rfl, buffers.handOut_other rfl,
    textures.handOut objects rfl, samplers.handOut_other rfl, pipelines.handOut_other rfl⟩

theorem createSampler_adds (desc : SamplerDesc) : Adds .gpu .sampler (createSampler desc) := by
  refine kept_adds (makeSampler_spares desc)
    (fun object b => { b with samplers := (b.samplers.insert object).2 }) (·.samplers.next) id
    (fun _ => rfl) ?_
  intro object b books tier ⟨buffers, textures, samplers, pipelines⟩
  exact ⟨samplers.fresh rfl, buffers.handOut_other rfl, textures.handOut_other rfl,
    samplers.handOut object rfl, pipelines.handOut_other rfl⟩

theorem createPipeline_adds (desc : PipelineDesc) : Adds .gpu .pipeline (createPipeline desc) := by
  refine kept_adds (makePipeline_spares desc)
    (fun objects b => { b with pipelines := (b.pipelines.insert objects).2 }) (·.pipelines.next)
    PipelineObjects.pipeline (fun _ => rfl) ?_
  intro objects b books tier ⟨buffers, textures, samplers, pipelines⟩
  exact ⟨pipelines.fresh rfl, buffers.handOut_other rfl, textures.handOut_other rfl,
    samplers.handOut_other rfl, pipelines.handOut objects rfl⟩

private theorem forM_spares {found : Option α} {call : α → Call} {audit : Audit}
    {live : List ResourceId} {scene : Scene Backend}
    (booked : Booked audit live ⟨.gpu scene.own, scene.platform⟩) :
    (found.forM fun object => say (call object)).Leads scene
      (fun _ after => Booked audit live ⟨.gpu after.own, after.platform⟩) (fun _ _ => False) := by
  cases found with
  | none => exact booked
  | some object => exact booked.unheld (.record _ nofun) fun _ backs => backs

theorem release_removes (id : ResourceId) : Removes .gpu id (release id) := by
  intro audit live scene booked member
  cases id with
  | buffer number =>
    simp only [release, takeBack, leads_bind, leads_own, leads_setOwn, leads_emit]
    apply forM_spares
    refine booked.takenBack member fun books listed ⟨buffers, textures, samplers, pipelines⟩ => ?_
    obtain ⟨fresh, kept⟩ := buffers.takeBack listed rfl
    exact ⟨fresh, kept, textures.takeBack_other rfl, samplers.takeBack_other rfl,
      pipelines.takeBack_other rfl⟩
  | texture number =>
    simp only [release, takeBack, leads_bind, leads_own, leads_setOwn, leads_emit]
    apply forM_spares
    refine booked.takenBack member fun books listed ⟨buffers, textures, samplers, pipelines⟩ => ?_
    obtain ⟨fresh, kept⟩ := textures.takeBack listed rfl
    exact ⟨fresh, buffers.takeBack_other rfl, kept, samplers.takeBack_other rfl,
      pipelines.takeBack_other rfl⟩
  | sampler number =>
    simp only [release, takeBack, leads_bind, leads_own, leads_setOwn, leads_emit]
    refine booked.takenBack member fun books listed ⟨buffers, textures, samplers, pipelines⟩ => ?_
    obtain ⟨fresh, kept⟩ := samplers.takeBack listed rfl
    exact ⟨fresh, buffers.takeBack_other rfl, textures.takeBack_other rfl, kept,
      pipelines.takeBack_other rfl⟩
  | pipeline number =>
    simp only [release, takeBack, leads_bind, leads_own, leads_setOwn, leads_emit]
    refine booked.takenBack member fun books listed ⟨buffers, textures, samplers, pipelines⟩ => ?_
    obtain ⟨fresh, kept⟩ := pipelines.takeBack listed rfl
    exact ⟨fresh, buffers.takeBack_other rfl, textures.takeBack_other rfl, samplers.takeBack_other rfl,
      kept⟩

end Gpu.Backend

namespace Simulated.Backend

private theorem reportCall_spares (call : TierCall) : Spares .simulated (reportCall call) :=
  .bind .own fun _ => .emit nofun

private theorem reach_spares (point : String) : Spares .simulated (reach point) := by
  refine .bind .own fun b => .bind (Spares.update fun _ _ backs => backs) fun _ => ?_
  cases b.faultAt point with
  | some cause => exact .refuse _
  | none => exact .pure _

/-- Numbers are handed out to objects of every type from one storage. -/
theorem create_adds (call : TierCall) (label : String) {typed : Nat → ResourceId}
    (numbered : ∀ n, (typed n).number = n) : Adds .simulated typed (create call label typed) := by
  refine .bind (reportCall_spares call) fun _ => .bind (reach_spares label) ?_
  intro _ audit live scene booked room
  simp only [leads_bind, leads_own, leads_setOwn, leads_emit, leads_pure]
  refine booked.handedOut room fun books backs => ?_
  have next : some (typed scene.own.live.next).number = some scene.own.live.next := by rw [numbered]
  exact ⟨backs.fresh next, backs.handOut label next⟩

theorem release_removes (id : ResourceId) : Removes .simulated id (release id) := by
  intro audit live scene booked member
  simp only [release, reportCall, leads_bind, leads_own, leads_setOwn, leads_emit]
  have reported : Booked audit live ⟨.simulated scene.own, scene.platform.record
      (.tier scene.own.script.tier (.release id (scene.own.live.remove id.number).1.isNone))⟩ :=
    booked.unheld (.record _ nofun) fun _ backs => backs
  exact reported.takenBack member fun books listed backs => backs.takeBack listed rfl

end Simulated.Backend

namespace Backend

variable {α : Type} {simulated : Act Simulated.Backend α} {gpu : Act Gpu.Backend α}
  {otherwise : Act Backend α}

private theorem run_spares (first : Spares .simulated simulated) (second : Spares .gpu gpu)
    (third : Spares id otherwise) : Spares id (run simulated gpu otherwise) := by
  refine .of_leads fun audit live scene booked => ?_
  unfold run
  rw [leads_bind, leads_own]
  obtain ⟨backend, platform⟩ := scene
  cases backend with
  | null => exact third.leads _ booked
  | simulated b =>
    rw [leads_within]
    exact first.leads ⟨b, platform⟩ booked
  | gpu b =>
    rw [leads_within]
    exact second.leads ⟨b, platform⟩ booked

private theorem run_adds {simulated : Act Simulated.Backend Nat} {gpu : Act Gpu.Backend Nat}
    {typed : Nat → ResourceId} (first : Adds .simulated typed simulated)
    (second : Adds .gpu typed gpu) : Adds id typed (run simulated gpu (Act.refuse absent)) := by
  intro audit live scene booked room
  unfold run
  rw [leads_bind, leads_own]
  obtain ⟨backend, platform⟩ := scene
  cases backend with
  | null => exact booked
  | simulated b =>
    rw [leads_within]
    exact first audit live ⟨b, platform⟩ booked room
  | gpu b =>
    rw [leads_within]
    exact second audit live ⟨b, platform⟩ booked room

theorem createBuffer_adds (desc : BufferDesc) : Adds id .buffer (createBuffer desc) := by
  refine run_adds ?_ (Gpu.Backend.createBuffer_adds desc)
  exact .bind .own fun _ => Simulated.Backend.create_adds _ _ fun _ => rfl

theorem createTexture_adds (desc : TextureDesc) : Adds id .texture (createTexture desc) :=
  run_adds (Simulated.Backend.create_adds _ _ fun _ => rfl) (Gpu.Backend.createTexture_adds desc)

theorem createSampler_adds (desc : SamplerDesc) : Adds id .sampler (createSampler desc) :=
  run_adds (Simulated.Backend.create_adds _ _ fun _ => rfl) (Gpu.Backend.createSampler_adds desc)

theorem createPipeline_adds (desc : PipelineDesc) : Adds id .pipeline (createPipeline desc) :=
  run_adds (Simulated.Backend.create_adds _ _ fun _ => rfl) (Gpu.Backend.createPipeline_adds desc)

theorem upload_spares (texture : Nat) (region : Region) (bytes : Bytes) :
    Spares id (upload texture region bytes) :=
  run_spares (.bind (Simulated.Backend.reportCall_spares _) fun _ =>
    Simulated.Backend.reach_spares _) (Gpu.Backend.upload_spares _ _ _) (.refuse _)

theorem submit_spares (call : DrawCall) : Spares id (submit call) :=
  run_spares (.bind (Simulated.Backend.reportCall_spares _) fun _ =>
    Simulated.Backend.reach_spares _) (Gpu.Backend.submit_spares _) (.refuse _)

theorem resize_spares (size : Dims) : Spares id (resize size) :=
  run_spares (Simulated.Backend.reportCall_spares _) (Gpu.Backend.resize_spares _) (.pure _)

theorem drop_spares : Spares id drop := by
  have reported : Spares .simulated Simulated.Backend.drop :=
    .bind .own fun _ => Simulated.Backend.reportCall_spares _
  refine .bind (run_spares reported (.pure _) (.pure _)) fun _ => .bind .own fun backend => ?_
  cases backend with
  | null => exact .pure _
  | simulated b | gpu b => exact .emit nofun

theorem release_removes (rid : ResourceId) : Removes id rid (release rid) := by
  intro audit live scene booked member
  unfold release run
  rw [leads_bind, leads_own]
  obtain ⟨backend, platform⟩ := scene
  cases backend with
  | null =>
    obtain ⟨log, _, _, held, empty⟩ := booked
    rw [← held, show (audit.start.read log).live = [] from empty] at member
    cases member
  | simulated b =>
    rw [leads_within]
    exact (Simulated.Backend.release_removes rid audit live ⟨b, platform⟩ booked member).mono
      (fun _ _ still => still) fun _ _ impossible => impossible
  | gpu b =>
    rw [leads_within]
    exact (Gpu.Backend.release_removes rid audit live ⟨b, platform⟩ booked member).mono
      (fun _ _ still => still) fun _ _ impossible => impossible

end Backend
end FrameViewer
