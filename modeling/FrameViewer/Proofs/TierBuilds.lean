import FrameViewer.Graphics.Renderer
import FrameViewer.Proofs.PendingErrors

/-! Building the resources on a tier that listens to its device. No error raised meanwhile goes
beyond the build: the first one makes it fail, and what it made until then is released. -/

namespace FrameViewer
open Act

namespace Slots

variable {α : Type} {slots : Slots α} {number : Nat}

private theorem mem_ids_insert_next (slots : Slots α) (item : α) : slots.next ∈ (slots.insert item).2.ids := by
  simp [insert, ids]

private theorem mem_ids_insert (item : α) (member : number ∈ slots.ids) : number ∈ (slots.insert item).2.ids := by
  simp only [insert, ids, List.map_append, List.mem_append]
  exact .inl member

theorem get?_ne_none (member : number ∈ slots.ids) : slots.get? number ≠ none := by
  obtain ⟨entry, inside, rfl⟩ := List.mem_map.mp member
  rw [get?, ← Option.isSome_iff_ne_none, List.lookup_isSome_iff]
  exact ⟨entry, inside, BEq.rfl⟩

end Slots

def Gpu.Backend.Has (b : Gpu.Backend) : ResourceId → Prop
  | .buffer number => number ∈ b.buffers.ids
  | .texture number => number ∈ b.textures.ids
  | .sampler number => number ∈ b.samplers.ids
  | .pipeline number => number ∈ b.pipelines.ids

namespace Backend
open Gpu (Check Device Machine Quiet Regime Undergoes)

def Equipped (tier : Tier) (objects : List ResourceId) (backend : Backend) (device : Device) : Prop :=
  ∃ b : Gpu.Backend, backend = .gpu b ∧ b.device = device ∧ b.tier = tier ∧ ∀ id ∈ objects, b.Has id

variable {tier : Tier} {objects : List ResourceId} {rows : List Check} {others : Failure → Prop}

private theorem not_equipped_of_simulated {b : Simulated.Backend} {device : Device} :
    ¬Equipped tier objects (.simulated b) device := by
  intro ⟨_, same, _⟩
  cases same

/-- One more object is had after a creation that works. -/
theorem run_undergoes {typed : Nat → ResourceId} {simulated : Act Simulated.Backend Nat}
    {create : Act Gpu.Backend Nat} {otherwise : Act Backend Nat}
    {kept : Gpu.Backend → Nat → Gpu.Backend → Device → Prop}
    (undergoes : ∀ frame : Gpu.Backend, frame.tier = tier → (∀ id ∈ objects, frame.Has id) →
      Undergoes frame.On rows [] others (kept frame) frame.On create)
    (adds : ∀ frame number b device, kept frame number b device →
      b.device = device ∧ b.tier = frame.tier ∧ b.Has (typed number) ∧ ∀ id, frame.Has id → b.Has id) :
    Undergoes (Equipped tier objects) rows [] others
      (fun number => Equipped tier (typed number :: objects)) (Equipped tier [])
      (run simulated create otherwise) := by
  rintro api ⟨_, platform⟩ ⟨b, rfl, at_, kind, has⟩
  rw [run, leads_bind, leads_own, leads_within]
  apply (undergoes b kind has api ⟨b, platform⟩ (.of_device_eq at_)).mono
  · intro number after ⟨empty, calm, now, used⟩
    obtain ⟨on, same, added, still⟩ := adds b number after.own _ now
    refine ⟨empty, calm, ⟨after.own, rfl, on, same.trans kind, fun id member => ?_⟩, used⟩
    obtain rfl | inside := List.mem_cons.mp member
    · exact added
    · exact still id (has id inside)
  · rintro failure ⟨own, last⟩ ⟨part, ends, rfl, used⟩
    exact ⟨part, ends, ⟨_, rfl, rfl, kind, nofun⟩, used⟩

theorem createBuffer_undergoes (desc : BufferDesc)
    (tooLong : desc.size < desc.contents.size → others .crashed) :
    Undergoes (Equipped tier objects) [⟨[desc.label], .resource "buffer"⟩] [] others
      (fun number => Equipped tier (.buffer number :: objects)) (Equipped tier []) (createBuffer desc) := by
  apply run_undergoes (fun frame _ _ => Gpu.Backend.createBuffer_undergoes desc tooLong)
  rintro frame number b device ⟨rfl, object, rfl⟩
  refine ⟨rfl, rfl, frame.buffers.mem_ids_insert_next object, fun id has => ?_⟩
  cases id with
  | buffer number => exact Slots.mem_ids_insert object has
  | _ => exact has

theorem createTexture_undergoes (desc : TextureDesc) :
    Undergoes (Equipped tier objects) [⟨[desc.label], .resource "texture"⟩] [] others
      (fun number => Equipped tier (.texture number :: objects)) (Equipped tier [])
      (createTexture desc) := by
  apply run_undergoes (fun frame _ _ => Gpu.Backend.createTexture_undergoes desc)
  rintro frame number b device ⟨rfl, made, rfl⟩
  refine ⟨rfl, rfl, frame.textures.mem_ids_insert_next made, fun id has => ?_⟩
  cases id with
  | texture number => exact Slots.mem_ids_insert made has
  | _ => exact has

theorem createSampler_undergoes (desc : SamplerDesc) :
    Undergoes (Equipped tier objects) [⟨[desc.label], .resource "sampler"⟩] [] others
      (fun number => Equipped tier (.sampler number :: objects)) (Equipped tier [])
      (createSampler desc) := by
  apply run_undergoes (fun frame _ _ => Gpu.Backend.createSampler_undergoes desc)
  rintro frame number b device ⟨rfl, object, rfl⟩
  refine ⟨rfl, rfl, frame.samplers.mem_ids_insert_next object, fun id has => ?_⟩
  cases id with
  | sampler number => exact Slots.mem_ids_insert object has
  | _ => exact has

/-- What the pipeline is bound to is there. -/
theorem createPipeline_undergoes (desc : PipelineDesc) (uniforms : .buffer desc.uniforms ∈ objects)
    (texture : .texture desc.texture ∈ objects) (sampler : .sampler desc.sampler ∈ objects) :
    Undergoes (Equipped tier objects) (Gpu.Backend.pipelineChecks tier desc.label) [] others
      (fun number => Equipped tier (.pipeline number :: objects)) (Equipped tier [])
      (createPipeline desc) := by
  have bound {frame : Gpu.Backend} (has : ∀ id ∈ objects, frame.Has id) : frame.Provides desc :=
    ⟨Slots.get?_ne_none (has _ uniforms), Slots.get?_ne_none (has _ texture),
      Slots.get?_ne_none (has _ sampler)⟩
  have undergoes (frame : Gpu.Backend) (kind : frame.tier = tier) (has : ∀ id ∈ objects, frame.Has id) :
      Undergoes frame.On (Gpu.Backend.pipelineChecks tier desc.label) [] others _ frame.On _ :=
    congrArg (Gpu.Backend.pipelineChecks · desc.label) kind ▸
      Gpu.Backend.createPipeline_undergoes desc fun what lacks => absurd (bound has) lacks
  apply run_undergoes undergoes
  rintro frame number b device ⟨rfl, made, rfl⟩
  refine ⟨rfl, rfl, frame.pipelines.mem_ids_insert_next made, fun id has => ?_⟩
  cases id with
  | pipeline number => exact Slots.mem_ids_insert made has
  | _ => exact has

/-- Nothing is raised by a release, and none fails. -/
private theorem release_quiet (id : ResourceId) : Quiet (Equipped tier []) (release id) := by
  rintro ⟨backend, platform⟩
  rw [release, run, leads_bind, leads_own]
  cases backend with
  | null => exact ⟨fun _ same => same, rfl⟩
  | simulated b => exact ⟨fun _ equipped => absurd equipped not_equipped_of_simulated, rfl⟩
  | gpu b =>
    rw [leads_within]
    apply (Gpu.Backend.release_leads id ⟨b, platform⟩).mono
    · rintro _ after ⟨same, kind, still⟩
      refine ⟨?_, still⟩
      rintro device ⟨_, ⟨⟩, rfl, rfl, _⟩
      exact ⟨after.own, rfl, same, kind, nofun⟩
    · exact fun _ _ impossible => impossible

theorem drop_quiet : Quiet (Equipped tier []) drop := by
  rintro ⟨backend, platform⟩
  rw [drop, leads_bind, run, leads_bind, leads_own]
  cases backend with
  | null => exact ⟨fun _ same => same, rfl⟩
  | simulated b => exact ⟨fun _ equipped => absurd equipped not_equipped_of_simulated, rfl⟩
  | gpu b => exact ⟨fun _ same => same, rfl⟩

end Backend

namespace ResourceSet
open Gpu (Check Checks Quiet Undergoes)

variable {tier : Tier} {objects : List ResourceId} {others : Failure → Prop}

theorem releaseAll_quiet (ids : List ResourceId) : Quiet (Backend.Equipped tier []) (releaseAll ids) :=
  .listForM Backend.release_quiet ids

private theorem rollBack_quiet (created : List ResourceId) :
    Quiet (Backend.Equipped tier []) (rollBack created) := by
  rw [rollBack]
  split
  · exact .bind .own fun _ => .bind (.emit trivial) fun _ => releaseAll_quiet created
  · exact releaseAll_quiet created

private theorem step_undergoes {rows : List Check} {kept : Nat → Backend → Gpu.Device → Prop}
    {action : Act Backend Nat} (created : List ResourceId)
    (undergoes : Undergoes (Backend.Equipped tier objects) rows [] others kept (Backend.Equipped tier [])
      action) :
    Undergoes (Backend.Equipped tier objects) rows [] others kept (Backend.Equipped tier [])
      (step created action) :=
  undergoes.onFailure (rollBack_quiet created)

/-- The buffers of the quad have a size that fits their contents. -/
theorem quad_fits : ∀ contents ∈ [Quad.vertexBytes, Quad.colorBytes, Quad.indexBytes, Quad.uniformBytes],
    ∃ size, alignUp? contents.size Quad.alignment = some size ∧ contents.size ≤ size := by
  decide +kernel

private theorem buffer_undergoes (label : String) (usage : BufferUsage) (contents : Bytes)
    (member : contents ∈ [Quad.vertexBytes, Quad.colorBytes, Quad.indexBytes, Quad.uniformBytes]) :
    Undergoes (Backend.Equipped tier objects) [⟨[label], .resource "buffer"⟩] [] others
      (fun number => Backend.Equipped tier (.buffer number :: objects)) (Backend.Equipped tier [])
      (buffer label usage contents) := by
  obtain ⟨size, fits, least⟩ := quad_fits contents member
  apply Undergoes.own
  rintro backend device ⟨b, rfl, _⟩
  rw [show (Backend.gpu b).alignment = Quad.alignment from rfl, fits]
  exact Backend.createBuffer_undergoes _ fun short => absurd least (Nat.not_le.mpr short)

def buildPoints (tier : Tier) : List String :=
  ["quad-positions", "quad-colors", "quad-indices", "quad-uniforms", "framebuffer",
   "framebuffer-sampler"] ++ Gpu.Backend.pipelinePoints tier "quad-pipeline"

def buildChecks (tier : Tier) : List Check :=
  [⟨["quad-positions"], .resource "buffer"⟩, ⟨["quad-colors"], .resource "buffer"⟩,
   ⟨["quad-indices"], .resource "buffer"⟩, ⟨["quad-uniforms"], .resource "buffer"⟩,
   ⟨["framebuffer"], .resource "texture"⟩, ⟨["framebuffer-sampler"], .resource "sampler"⟩] ++
    Gpu.Backend.pipelineChecks tier "quad-pipeline"

/-- A build fails at a check that finds an error, or because there is nothing to draw. -/
theorem build_undergoes (dims : Dims) :
    Undergoes (Backend.Equipped tier []) (buildChecks tier) []
      (fun failure => dims.isEmpty = true ∧ ∃ cause, failure = .refused cause)
      (fun set backend device => dims.isEmpty = false ∧ set.dims = dims ∧
        Backend.Equipped tier set.ids backend device)
      (Backend.Equipped tier []) (build dims) := by
  rw [build]
  by_cases empty : dims.isEmpty = true
  · rw [if_pos empty]
    exact .refuse ⟨empty, _, rfl⟩
  rw [if_neg empty]
  apply Undergoes.own
  intro backend device _
  apply Undergoes.bind [_] (step_undergoes _ (buffer_undergoes _ _ _ (by simp)))
  intro positions
  apply Undergoes.bind [_] (step_undergoes _ (buffer_undergoes _ _ _ (by simp)))
  intro colors
  apply Undergoes.bind [_] (step_undergoes _ (buffer_undergoes _ _ _ (by simp)))
  intro indices
  apply Undergoes.bind [_] (step_undergoes _ (buffer_undergoes _ _ _ (by simp)))
  intro uniforms
  apply Undergoes.bind [_]
    (step_undergoes _ (Backend.createTexture_undergoes { label := "framebuffer", dims }))
  intro texture
  apply Undergoes.bind [_] (step_undergoes _ (Backend.createSampler_undergoes
    { label := "framebuffer-sampler", filter := .nearest, wrap := .tile }))
  intro sampler
  apply Undergoes.bind (Gpu.Backend.pipelineChecks tier "quad-pipeline")
    (step_undergoes _ (Backend.createPipeline_undergoes
      { label := "quad-pipeline", layouts := Quad.layouts, uniforms, texture, sampler,
        counterClockwise := false, cullBackFaces := false } (by simp) (by simp) (by simp)))
  intro pipeline
  apply Undergoes.bind [] (.of_quiet (.emit trivial))
  intro _ api scene at_
  exact ⟨rfl, rfl, ⟨by simpa using empty, rfl, at_⟩, .refl _⟩

/-- Without errors at its points a build works, unless there is nothing to draw. -/
theorem build_checks (dims : Dims) :
    Checks (Backend.Equipped tier []) (buildPoints tier) []
      (fun failure => dims.isEmpty = true ∧ ∃ cause, failure = .refused cause)
      (fun set backend device => dims.isEmpty = false ∧ set.dims = dims ∧
        Backend.Equipped tier set.ids backend device)
      (Backend.Equipped tier []) (build dims) :=
  (build_undergoes dims).checks (by simp [buildChecks, Gpu.Backend.pipelineChecks, RenderError.report?])

end ResourceSet
end FrameViewer
