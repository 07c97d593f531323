import FrameViewer.Proofs.MemoryHoldings

/-! Whatever a tier is asked for, no call of it reaches memory that was destroyed. A release may
destroy memory only when no pipeline is left; that is for the caller to see to. -/

namespace FrameViewer.Gpu
open Act

variable {α : Type} {start : Platform} {lineage : Lineage} {held : Holdings} {made : Nat}
  {scene after : Scene Backend}

/-- What was reported since `start` comes to that lineage, when the tier has these holdings and at
least so many objects were made. -/
structure Stands (start : Platform) (lineage : Lineage) (held : Holdings) (made : Nat)
    (scene : Scene Backend) : Prop where
  traced : Traced start lineage scene.platform
  holds : scene.own.holdings = held
  made : made ≤ scene.platform.gpu.objects

def Tracked (start : Platform) (held : Holdings) (scene : Scene Backend) : Prop :=
  ∃ lineage made, lineage.Sound held made ∧ Stands start lineage held made scene

namespace Stands

theorem later (stands : Stands start lineage held made scene)
    (calm : Unstirred Backend.holdings scene after) : Stands start lineage held made after :=
  ⟨stands.traced.mute calm.report, calm.same.trans stands.holds, Nat.le_trans stands.made calm.objects⟩

theorem record {event : Event} (stands : Stands start lineage held made scene)
    (allowed : lineage.Allows event) :
    Stands start (lineage.enter event) held made ⟨scene.own, scene.platform.record event⟩ :=
  ⟨stands.traced.record allowed, stands.holds, stands.made⟩

/-- Events of no memory may be reported, and objects made, meanwhile. -/
theorem leads {action : Act Backend α} (stands : Stands start lineage held made scene)
    (calm : Calm Backend.holdings action) :
    action.Leads scene (fun _ after => Stands start lineage held made after)
      fun _ after => Stands start lineage held made after :=
  (calm scene).mono (fun _ _ calm => stands.later calm) fun _ _ calm => stands.later calm

end Stands

theorem Tracked.leads {action : Act Backend α} (tracked : Tracked start held scene)
    (calm : Calm Backend.holdings action) :
    action.Leads scene (fun _ after => Tracked start held after)
      fun _ after => Tracked start held after := by
  obtain ⟨lineage, made, sound, stands⟩ := tracked
  exact (stands.leads calm).mono (fun _ _ later => ⟨_, _, sound, later⟩) fun _ _ later => ⟨_, _, sound, later⟩

namespace Backend

private theorem onDevice_calm {action : Act Device α} (calm : Calm Device.nothing action) :
    Calm holdings (onDevice action) := by
  intro scene
  simp only [onDevice, leads_bind, leads_own, leads_within]
  exact (calm ⟨scene.own.device, scene.platform⟩).mono
    (fun _ _ still => ⟨still.report, still.objects, rfl⟩) fun _ _ still => ⟨still.report, still.objects, rfl⟩

private theorem failOnPending_calm (into : String → RenderError) : Calm holdings (failOnPending into) := by
  refine .bind (onDevice_calm Device.takePending_calm) fun pending => ?_
  cases pending with
  | none => exact .pure _
  | some reason => exact .refuse _

private theorem compile_calm (stage : ShaderStage) : Calm holdings (compile stage) :=
  .bind .own fun _ => .bind (onDevice_calm (Device.shaderModule_calm _ _)) fun _ =>
    .bind (failOnPending_calm _) fun _ => .pure _

/-- What is found is among the holdings. -/
theorem find_leads {found : Option α} {cause : RenderError} {lost : Failure → Scene Backend → Prop}
    (missing : ∀ failure, lost failure scene) :
    (find found cause).Leads scene (fun object after => found = some object ∧ after = scene) lost := by
  cases found with
  | none => exact missing _
  | some object => exact ⟨rfl, rfl⟩

/-- The object that a call makes has a number beyond all of those before it. -/
theorem make_leads (label : String) (call : Nat → Call)
    (stands : Stands start lineage held made scene)
    (allowed : ∀ object, lineage.Allows (.gpu (call object)))
    (sound : ∀ object, made < object → (lineage.called (call object)).Sound held object) :
    (onDevice (Device.make label call)).Leads scene
      (fun object after => made < object ∧ Stands start (lineage.called (call object)) held object after)
      (fun _ after => Tracked start held after) := by
  simp only [onDevice, leads_bind, leads_own, leads_within]
  apply (Device.make_traced ⟨scene.own.device, scene.platform⟩ stands.traced
    fun object _ => allowed object).mono
  · intro object after ⟨fresh, least, traced⟩
    exact ⟨Nat.lt_of_le_of_lt stands.made fresh, traced, stands.holds, least⟩
  · intro _ after ⟨object, fresh, least, traced⟩
    have late := Nat.lt_of_le_of_lt stands.made fresh
    exact ⟨_, object, sound object late, traced, stands.holds, least⟩

/-- A tier that stands so is tracked, and stays so through what is calm. -/
theorem leads_of_calm {action : Act Backend α} (sound : lineage.Sound held made)
    (stands : Stands start lineage held made scene) (calm : Calm holdings action) :
    action.Leads scene (fun _ after => Stands start lineage held made after)
      fun _ after => Tracked start held after :=
  (stands.leads calm).mono (fun _ _ later => later) fun _ _ later => ⟨lineage, made, sound, later⟩

/-- A view is made over what its texture is made over. -/
theorem view_leads {next : Nat → Act Backend α} {done : α → Scene Backend → Prop}
    {failed : Failure → Scene Backend → Prop} (texture : Nat)
    (stands : Stands start lineage held made scene)
    (intact : ∀ memory ∈ lineage.roots texture, memory ∉ lineage.destroyed)
    (rest : ∀ view middle, made < view →
      Stands start (lineage.trace view (lineage.roots texture)) held view middle →
      (next view).Leads middle done failed) :
    (newObject >>= fun view => say (.createView view texture) >>= fun _ => next view).Leads scene
      done failed := by
  simp only [newObject, say, leads_bind, leads_platform, leads_updatePlatform, leads_pure, leads_emit]
  have counted : Traced start lineage { scene.platform with
      gpu := { scene.platform.gpu with objects := scene.platform.gpu.objects + 1 } } :=
    stands.traced.of_events_eq rfl
  apply rest
  · exact Nat.lt_succ_of_le stands.made
  · have allowed : lineage.Allows (.gpu (.createView (scene.platform.gpu.objects + 1) texture)) := by
      refine ⟨?_, fun _ destroyed => by cases destroyed⟩
      simpa [Lineage.reach, Call.names, Lineage.memoryOf] using intact
    exact ⟨counted.record allowed, stands.holds, Nat.le_refl _⟩

private theorem makeBuffer_tracked (desc : BufferDesc) (tracked : Tracked start held scene) :
    (makeBuffer desc).Leads scene
      (fun object after => ∃ lineage made, lineage.Sound held made ∧
        Stands start lineage held made after ∧ lineage.roots object = [.buffer object] ∧
        .buffer object ∉ lineage.registered)
      (fun _ after => Tracked start held after) := by
  obtain ⟨lineage, made, sound, stands⟩ := tracked
  apply Leads.bind (make_leads desc.label
    (fun object => .createBuffer object desc.label desc.size desc.usage) stands
    (fun _ => ⟨nofun, nofun⟩) fun object fresh => sound.trace fresh [.buffer object])
  intro object middle ⟨fresh, stands⟩
  have sound' := sound.trace fresh [.buffer object]
  have roots : (lineage.trace object [.buffer object]).roots object = [.buffer object] := if_pos rfl
  have unknown : Memory.buffer object ∉ lineage.registered := sound.unknown fresh
  apply Leads.bind (leads_of_calm sound' stands (failOnPending_calm _))
  intro _ middle stands
  by_cases short : desc.size < desc.contents.size
  · rw [if_pos short]
    exact ⟨_, _, sound', stands⟩
  · have allowed : (lineage.trace object [.buffer object]).Allows
        (.gpu (.unmap object (desc.contents.resize desc.size 0))) := by
      refine ⟨?_, nofun⟩
      simp only [Lineage.reach, Call.names, Lineage.memoryOf, List.flatMap_singleton, roots,
        List.mem_singleton]
      rintro _ rfl
      exact sound.accounts.not_destroyed unknown
    rw [if_neg short, say, leads_bind, leads_emit]
    exact ⟨_, _, sound', stands.record allowed, roots, unknown⟩

/-- A texture and its view are made over the same memory. -/
private theorem makeTexture_tracked (desc : TextureDesc) (tracked : Tracked start held scene) :
    (makeTexture desc).Leads scene
      (fun objects after => ∃ lineage made, lineage.Sound held made ∧
        Stands start lineage held made after ∧
        lineage.roots objects.texture = [.texture objects.texture] ∧
        lineage.roots objects.view = [.texture objects.texture] ∧
        .texture objects.texture ∉ lineage.registered)
      (fun _ after => Tracked start held after) := by
  obtain ⟨lineage, made, sound, stands⟩ := tracked
  apply Leads.bind (make_leads desc.label (fun object => .createTexture object desc.label desc.dims)
    stands (fun _ => ⟨nofun, nofun⟩) fun texture fresh => sound.trace fresh [.texture texture])
  intro texture middle ⟨fresh, stands⟩
  change Stands start (lineage.trace texture [.texture texture]) held texture middle at stands
  have roots : (lineage.trace texture [.texture texture]).roots texture = [.texture texture] := if_pos rfl
  have unknown : Memory.texture texture ∉ lineage.registered := sound.unknown fresh
  apply view_leads texture stands
  · rw [roots]
    intro memory root
    rw [List.mem_singleton.mp root]
    exact sound.accounts.not_destroyed unknown
  intro view middle late stands
  rw [roots] at stands
  have sound' := (sound.trace fresh [.texture texture]).trace late [.texture texture]
  apply Leads.bind (leads_of_calm sound' stands (failOnPending_calm _))
  intro _ middle stands
  refine ⟨_, _, sound', stands, ?_, if_pos rfl, unknown⟩
  exact (Lineage.trace_roots_of_ne (Nat.ne_of_lt late)).trans roots

private theorem makeSampler_tracked (desc : SamplerDesc) (tracked : Tracked start held scene) :
    (makeSampler desc).Leads scene
      (fun object after => ∃ lineage made, lineage.Sound held made ∧
        Stands start lineage held made after ∧ object ≤ made ∧ lineage.roots object = [])
      (fun _ after => Tracked start held after) := by
  obtain ⟨lineage, made, sound, stands⟩ := tracked
  apply Leads.bind (make_leads desc.label
    (fun object => .createSampler object desc.label desc.wrap desc.filter) stands
    (fun _ => ⟨nofun, nofun⟩) fun _ fresh => sound.later (Nat.le_of_lt fresh))
  intro sampler middle ⟨fresh, stands⟩
  have sound' := sound.later (Nat.le_of_lt fresh)
  apply Leads.bind (leads_of_calm sound' stands (failOnPending_calm _))
  exact fun _ _ stands => ⟨_, _, sound', stands, Nat.le_refl _, sound.unmade sampler fresh⟩

/-- A bind group is made over the memory of its entries, which is there. -/
theorem group_leads (label : String) (layout : Nat) (entries : List (Nat × Bound))
    (sound : lineage.Sound held made) (stands : Stands start lineage held made scene)
    (intact : ∀ entry ∈ entries, ∀ memory ∈ lineage.roots entry.2.object, memory ∉ lineage.destroyed) :
    (onDevice (Device.make label fun object => .bindGroup object label layout entries)).Leads scene
      (fun group after => made < group ∧ ∃ memory, (∀ root ∈ memory, root ∉ lineage.destroyed) ∧
        Stands start (lineage.trace group memory) held group after)
      (fun _ after => Tracked start held after) := by
  have reached (object : Nat) :
      ∀ root ∈ lineage.memoryOf (Call.bindGroup object label layout entries).names,
        root ∉ lineage.destroyed := by
    intro root member
    obtain ⟨_, named, within⟩ := List.mem_flatMap.mp member
    obtain ⟨entry, inside, rfl⟩ := List.mem_map.mp named
    exact intact entry inside root within
  apply (make_leads label (fun object => .bindGroup object label layout entries) stands
    (fun object => ⟨reached object, nofun⟩) fun _ fresh => sound.trace fresh _).mono
  · exact fun group after ⟨fresh, stands⟩ => ⟨fresh, _, reached group, stands⟩
  · exact fun _ _ tracked => tracked

/-- The groups of a pipeline are made over what the tier holds. -/
private theorem makePipeline_tracked (desc : PipelineDesc) (tracked : Tracked start held scene) :
    (makePipeline desc).Leads scene
      (fun objects after => ∃ lineage made, lineage.Sound held made ∧
        Stands start lineage held made after ∧ ∀ group ∈ objects.groups,
          group ≤ made ∧ ∀ memory ∈ lineage.roots group, memory ∉ lineage.destroyed)
      (fun _ after => Tracked start held after) := by
  obtain ⟨lineage, made, sound, stands⟩ := tracked
  apply Leads.bind (leads_of_calm sound stands (compile_calm .vertex))
  intro vertex middle stands
  apply Leads.bind (leads_of_calm sound stands (compile_calm .fragment))
  intro fragment middle stands
  have buffers : middle.own.buffers = held.buffers := congrArg Holdings.buffers stands.holds
  have textures : middle.own.textures = held.textures := congrArg Holdings.textures stands.holds
  have samplers : middle.own.samplers = held.samplers := congrArg Holdings.samplers stands.holds
  rw [leads_bind, leads_own, buffers, textures, samplers]
  have still : Tracked start held middle := ⟨_, _, sound, stands⟩
  apply Leads.bind (find_leads fun _ => still)
  rintro uniforms _ ⟨uniformsFound, rfl⟩
  apply Leads.bind (find_leads fun _ => still)
  rintro texture _ ⟨textureFound, rfl⟩
  apply Leads.bind (find_leads fun _ => still)
  rintro sampler _ ⟨samplerFound, rfl⟩
  apply Leads.bind (leads_of_calm sound stands (onDevice_calm Device.groupLayouts_calm))
  intro groups middle stands
  apply Leads.bind (group_leads "quad-uniforms-bg" groups.uniforms [(0, .buffer uniforms)] sound stands
    fun entry member => by
      rw [List.mem_singleton.mp member]
      exact sound.buffer_intact uniformsFound)
  intro uniformGroup middle ⟨first, uniformMemory, uniformIntact, stands⟩
  have soundFirst := sound.trace first uniformMemory
  apply Leads.bind (group_leads "quad-texture-bg" groups.texture
    [(1, .sampler sampler), (2, .view texture.view)] soundFirst stands
    fun entry member => by
      rw [List.mem_cons, List.mem_singleton] at member
      obtain rfl | rfl := member
      · have bare := (soundFirst.samplers _ (Slots.mem_items_of_get? samplerFound)).2
        simp [Bound.object, bare]
      · exact (soundFirst.texture_intact textureFound).2)
  intro textureGroup middle ⟨second, textureMemory, textureIntact, stands⟩
  have soundSecond := soundFirst.trace second textureMemory
  apply Leads.bind (leads_of_calm soundSecond stands (failOnPending_calm _))
  intro _ middle stands
  apply Leads.bind (leads_of_calm soundSecond stands
    (onDevice_calm (Device.renderPipeline_calm _ _ _)))
  intro pipeline middle stands
  apply Leads.bind (leads_of_calm soundSecond stands (failOnPending_calm _))
  intro _ middle stands
  apply Leads.bind (leads_of_calm soundSecond stands (.emit (notice_mute _)))
  intro _ middle stands
  have roots : ((lineage.trace uniformGroup uniformMemory).trace textureGroup textureMemory).roots
      uniformGroup = uniformMemory :=
    (Lineage.trace_roots_of_ne (Nat.ne_of_lt second)).trans (if_pos rfl)
  have others : ((lineage.trace uniformGroup uniformMemory).trace textureGroup textureMemory).roots
      textureGroup = textureMemory := if_pos rfl
  exact ⟨_, _, soundSecond, stands, List.forall_mem_cons.mpr
    ⟨⟨Nat.le_of_lt second, roots.symm ▸ uniformIntact⟩,
      List.forall_mem_singleton.mpr ⟨Nat.le_refl _, others.symm ▸ textureIntact⟩⟩⟩

theorem createBuffer_tracked (desc : BufferDesc) (tracked : Tracked start held scene) :
    (createBuffer desc).Leads scene
      (fun _ after => ∃ object,
        Tracked start { held with buffers := (held.buffers.insert object).2 } after)
      (fun _ after => Tracked start held after) := by
  apply Leads.bind (makeBuffer_tracked desc tracked)
  rintro object middle ⟨lineage, made, sound, ⟨traced, rfl, least⟩, roots, fresh⟩
  exact ⟨object, _, made, sound.registerBuffer roots fresh, traced.record trivial, rfl, least⟩

theorem createTexture_tracked (desc : TextureDesc) (tracked : Tracked start held scene) :
    (createTexture desc).Leads scene
      (fun _ after => ∃ objects,
        Tracked start { held with textures := (held.textures.insert objects).2 } after)
      (fun _ after => Tracked start held after) := by
  apply Leads.bind (makeTexture_tracked desc tracked)
  rintro objects middle ⟨lineage, made, sound, ⟨traced, rfl, least⟩, texture, view, fresh⟩
  exact ⟨objects, _, made, sound.registerTexture texture view fresh, traced.record trivial, rfl, least⟩

theorem createSampler_tracked (desc : SamplerDesc) (tracked : Tracked start held scene) :
    (createSampler desc).Leads scene
      (fun _ after => ∃ object,
        Tracked start { held with samplers := (held.samplers.insert object).2 } after)
      (fun _ after => Tracked start held after) := by
  apply Leads.bind (makeSampler_tracked desc tracked)
  rintro object middle ⟨lineage, made, sound, ⟨traced, rfl, least⟩, early, roots⟩
  exact ⟨object, _, made, sound.addSampler early roots, traced.record trivial, rfl, least⟩

theorem createPipeline_tracked (desc : PipelineDesc) (tracked : Tracked start held scene) :
    (createPipeline desc).Leads scene
      (fun number after => number = held.pipelines.next ∧ ∃ objects,
        Tracked start { held with pipelines := (held.pipelines.insert objects).2 } after)
      (fun _ after => Tracked start held after) := by
  apply Leads.bind (makePipeline_tracked desc tracked)
  rintro objects middle ⟨lineage, made, sound, ⟨traced, rfl, least⟩, intact⟩
  exact ⟨rfl, objects, _, made, sound.addPipeline intact, traced.record trivial, rfl, least⟩

theorem upload_tracked (texture : Nat) (region : Region) (bytes : Bytes)
    (tracked : Tracked start held scene) :
    (upload texture region bytes).Leads scene (fun _ after => Tracked start held after)
      (fun _ after => Tracked start held after) := by
  obtain ⟨lineage, made, sound, stands⟩ := tracked
  have textures : scene.own.textures = held.textures := congrArg Holdings.textures stands.holds
  rw [upload, leads_bind, leads_own, textures]
  have still : Tracked start held scene := ⟨_, _, sound, stands⟩
  apply Leads.bind (find_leads fun _ => still)
  rintro target _ ⟨found, rfl⟩
  have allowed : lineage.Allows (.gpu (.writeTexture target.texture region bytes)) := by
    refine ⟨?_, nofun⟩
    simpa [Lineage.reach, Call.names, Lineage.memoryOf] using (sound.texture_intact found).1
  rw [say, leads_bind, leads_emit]
  exact Tracked.leads ⟨_, _, sound, stands.record allowed⟩ (onDevice_calm (Device.reach_calm _))

theorem resize_calm (size : Dims) : Calm holdings (resize size) := by
  intro scene
  rw [resize, leads_bind, leads_own, leads_bind, leads_setOwn]
  apply (onDevice_calm (Device.configure_calm _) _).mono
  · exact fun _ _ calm => ⟨calm.report, calm.objects, calm.same⟩
  · exact fun _ _ calm => ⟨calm.report, calm.objects, calm.same⟩

def pass (view : Nat) (viewport : Viewport) (draw : DrawObjects) : List Event :=
  [.commandEncoder "quad-frame", .beginPass "quad-pass" view, .setViewport viewport,
   .setPipeline draw.pipeline.pipeline, .setBindGroup 0 draw.pipeline.uniformGroup,
   .setBindGroup 1 draw.pipeline.textureGroup, .setVertexBuffer 0 draw.positions,
   .setVertexBuffer 1 draw.colors, .setIndexBuffer draw.indices, .drawIndexed draw.count, .endPass,
   .submit].map .gpu

/-- What a draw sets in its pass is there when it draws. -/
private theorem pass_inOrder {view : Nat} {draw : DrawObjects} (viewport : Viewport)
    (bare : lineage.roots view = [])
    (intact : ∀ object ∈ [draw.pipeline.uniformGroup, draw.pipeline.textureGroup, draw.positions,
      draw.colors, draw.indices], ∀ memory ∈ lineage.roots object, memory ∉ lineage.destroyed) :
    lineage.InOrder (pass view viewport draw) := by
  simp only [List.forall_mem_cons] at intact
  obtain ⟨uniforms, texture, positions, colors, indices, -⟩ := intact
  have drawn : ∀ memory, memory ∈ lineage.roots draw.pipeline.uniformGroup ∨
      memory ∈ lineage.roots draw.pipeline.textureGroup ∨ memory ∈ lineage.roots draw.positions ∨
      memory ∈ lineage.roots draw.colors ∨ memory ∈ lineage.roots draw.indices →
      memory ∉ lineage.destroyed := by
    rintro memory (root | root | root | root | root)
    · exact uniforms memory root
    · exact texture memory root
    · exact positions memory root
    · exact colors memory root
    · exact indices memory root
  simpa [pass, Lineage.InOrder, Lineage.enter, Lineage.called, Lineage.Allows, Lineage.reach,
    Call.names, Call.destroys, Lineage.memoryOf, bare] using
    ⟨uniforms, texture, positions, colors, indices, drawn⟩

private theorem record_tracked (draw : DrawObjects) (sound : lineage.Sound held made)
    (stands : Stands start lineage held made scene)
    (intact : ∀ object ∈ [draw.pipeline.uniformGroup, draw.pipeline.textureGroup, draw.positions,
      draw.colors, draw.indices], object ≤ made ∧
        ∀ memory ∈ lineage.roots object, memory ∉ lineage.destroyed) :
    (record draw).Leads scene (fun _ after => Tracked start held after)
      (fun _ after => Tracked start held after) := by
  apply view_leads 0 stands
  · simp [sound.surface]
  intro view middle fresh stands
  have soundView := sound.trace fresh (lineage.roots 0)
  have inOrder (viewport : Viewport) :
      (lineage.trace view (lineage.roots 0)).InOrder (pass view viewport draw) := by
    apply pass_inOrder viewport ((if_pos rfl).trans sound.surface)
    intro object member
    obtain ⟨early, whole⟩ := intact object member
    rw [Lineage.trace_roots_of_ne (by omega)]
    exact whole
  have soundPass (viewport : Viewport) :
      ((lineage.trace view (lineage.roots 0)).read (pass view viewport draw)).Sound held view :=
    soundView.bind _
  have sent : Calm holdings (do onDevice (Device.reach "submit"); say .present) :=
    .bind (onDevice_calm (Device.reach_calm _)) fun _ => say_calm fun _ => ⟨rfl, nofun, nofun⟩
  have tracked (viewport : Viewport) : Tracked start held
      ⟨middle.own, (pass view viewport draw).foldl Platform.record middle.platform⟩ :=
    ⟨_, view, soundPass viewport, stands.traced.recordAll (inOrder viewport), stands.holds, stands.made⟩
  have ends (viewport : Viewport) := (tracked viewport).leads sent
  simp only [say, leads_bind, leads_own, leads_emit] at ends ⊢
  exact ends _

theorem submit_tracked (call : DrawCall) (tracked : Tracked start held scene) :
    (submit call).Leads scene (fun _ after => Tracked start held after)
      (fun _ after => Tracked start held after) := by
  obtain ⟨lineage, made, sound, stands⟩ := tracked
  apply Leads.bind (leads_of_calm sound stands (failOnPending_calm _))
  intro _ middle stands
  have buffers : middle.own.buffers = held.buffers := congrArg Holdings.buffers stands.holds
  have pipelines : middle.own.pipelines = held.pipelines := congrArg Holdings.pipelines stands.holds
  rw [leads_bind, leads_own, buffers, pipelines]
  have still : Tracked start held middle := ⟨_, _, sound, stands⟩
  apply Leads.bind (find_leads fun _ => still)
  rintro pipeline _ ⟨pipelineFound, rfl⟩
  apply Leads.bind (find_leads fun _ => still)
  rintro positions _ ⟨positionsFound, rfl⟩
  apply Leads.bind (find_leads fun _ => still)
  rintro colors _ ⟨colorsFound, rfl⟩
  apply Leads.bind (find_leads fun _ => still)
  rintro indices _ ⟨indicesFound, rfl⟩
  have buffer {number object : Nat} (found : held.buffers.get? number = some object) :
      object ≤ made ∧ ∀ memory ∈ lineage.roots object, memory ∉ lineage.destroyed :=
    ⟨sound.made_of_roots (sound.buffers _ (Slots.mem_items_of_get? found)), sound.buffer_intact found⟩
  have groups := sound.pipelines _ (Slots.mem_items_of_get? pipelineFound)
  have intact : ∀ object ∈ [pipeline.uniformGroup, pipeline.textureGroup, positions, colors, indices],
      object ≤ made ∧ ∀ memory ∈ lineage.roots object, memory ∉ lineage.destroyed := by
    intro object member
    obtain grouped | drawn := List.mem_append.mp (show object ∈ pipeline.groups ++ _ from member)
    · exact groups object grouped
    · simp only [List.mem_cons, List.not_mem_nil, or_false] at drawn
      obtain rfl | rfl | rfl := drawn
      · exact buffer positionsFound
      · exact buffer colorsFound
      · exact buffer indicesFound
  have shown := onDevice_calm Device.currentTexture_calm
  have refused {cause : RenderError} {last : Scene Backend} (stands : Stands start lineage held made last) :
      (Act.refuse cause : Act Backend Unit).Leads last (fun _ after => Tracked start held after)
        fun _ after => Tracked start held after :=
    ⟨_, _, sound, stands⟩
  apply Leads.bind (leads_of_calm sound stands shown)
  intro first middle stands
  cases first with
  | ready => exact record_tracked _ sound stands intact
  | timeout => exact Tracked.leads ⟨_, _, sound, stands⟩ (.emit (notice_mute _))
  | outdated =>
    apply Leads.bind (leads_of_calm sound stands (onDevice_calm (Device.configure_calm _)))
    intro _ middle stands
    apply Leads.bind (leads_of_calm sound stands shown)
    intro second middle stands
    cases second with
    | ready => exact record_tracked _ sound stands intact
    | timeout | outdated | lost | outOfMemory | other => exact refused stands
  | lost | outOfMemory | other => exact refused stands

def without (held : Holdings) : ResourceId → Holdings
  | .buffer number => { held with buffers := (held.buffers.remove number).2 }
  | .texture number => { held with textures := (held.textures.remove number).2 }
  | .sampler number => { held with samplers := (held.samplers.remove number).2 }
  | .pipeline number => { held with pipelines := (held.pipelines.remove number).2 }

/-- A pipeline may always be released; what it is bound to only after it. -/
theorem release_tracked (id : ResourceId) (tracked : Tracked start held scene)
    (unpiped : (∀ number, id ≠ .pipeline number) → held.pipelines.items = []) :
    (release id).Leads scene (fun _ after => Tracked start (without held id) after)
      (fun _ _ => False) := by
  obtain ⟨lineage, made, sound, traced, rfl, least⟩ := tracked
  have told (stale : Bool) :
      Traced start lineage (scene.platform.record (.takenBack scene.own.tier id stale)) :=
    traced.record trivial
  cases id with
  | buffer number =>
    have bare := unpiped nofun
    simp only [release, takeBack, leads_bind, leads_own, leads_setOwn, leads_emit]
    cases found : (scene.own.buffers.remove number).1 with
    | none =>
      have same : without scene.own.holdings (.buffer number) = scene.own.holdings := by
        rw [without, show (holdings scene.own).buffers.remove number = (none, _) from Prod.ext found
          (Slots.remove_of_get?_eq_none found)]
      exact ⟨_, made, same.symm ▸ sound, told _, rfl, least⟩
    | some object =>
      have there := sound.accounts.undestroyed (Holdings.buffer_mem found)
      exact ⟨_, made, sound.destroyBuffer bare found,
        (told _).record ⟨nofun, fun _ same => Option.some.inj same ▸ there⟩, rfl, least⟩
  | texture number =>
    have bare := unpiped nofun
    simp only [release, takeBack, leads_bind, leads_own, leads_setOwn, leads_emit]
    cases found : (scene.own.textures.remove number).1 with
    | none =>
      have same : without scene.own.holdings (.texture number) = scene.own.holdings := by
        rw [without, show (holdings scene.own).textures.remove number = (none, _) from Prod.ext found
          (Slots.remove_of_get?_eq_none found)]
      exact ⟨_, made, same.symm ▸ sound, told _, rfl, least⟩
    | some objects =>
      have there := sound.accounts.undestroyed (Holdings.texture_mem found)
      exact ⟨_, made, sound.destroyTexture bare found,
        (told _).record ⟨nofun, fun _ same => Option.some.inj same ▸ there⟩, rfl, least⟩
  | sampler number => exact ⟨_, _, sound.removeSampler number, told _, rfl, least⟩
  | pipeline number => exact ⟨_, _, sound.removePipeline number, told _, rfl, least⟩

end Backend
end FrameViewer.Gpu
