import FrameViewer.Graphics.Backend
import FrameViewer.Proofs.CheckedActions

/-! Errors that wait to be told. A tier looks for them after each group of calls that can raise one,
and refuses with the first; those that came after it are then done with as well. -/

namespace FrameViewer

/-- What a device said that led to the failure, where a device can have said something. -/
def RenderError.report? : RenderError → Option String
  | resource _ reason => some reason
  | compile _ report => some report
  | link report => some report
  | lost reason => some reason
  | _ => none

namespace Gpu
open Act

variable {τ α β : Type}

/-- The tier is on that device, and all else about it is as in `frame`. -/
def Backend.On (frame b : Backend) (device : Device) : Prop :=
  b = { frame with device }

theorem Backend.On.of_device_eq {b : Backend} {device : Device} (same : b.device = device) : b.On b device :=
  same ▸ rfl

theorem Backend.On.device_eq {frame b : Backend} {device : Device} (on : frame.On b device) :
    b.device = device :=
  congrArg Backend.device (show b = _ from on)

/-- The failure tells what the first of the errors said. When there are none it is one of
`others`. -/
def Tells (others : Failure → Prop) (failure : Failure) : List DeviceError → Prop
  | [] => others failure
  | first :: _ => ∃ cause, failure = .refused cause ∧ cause.report? = some first.text

/-- With these errors waiting the action works only if there are none, and if none is raised at the
points that it uses. Otherwise it tells of the first one, and nothing waits any more. The part is as
in `on` before, as in `kept` when it works, and as in `lost` when it fails. -/
def Checks (on : τ → Device → Prop) (points : List String) (waiting : List DeviceError)
    (others : Failure → Prop) (kept : α → τ → Device → Prop) (lost : τ → Device → Prop)
    (action : Act τ α) : Prop :=
  ∀ (api : Api) (scene : Scene τ), on scene.own (Regime.listened.device api waiting) →
    action.Leads scene
      (fun value after => waiting = [] ∧ scene.platform.gpu.due api points = [] ∧
        kept value after.own (Regime.listened.device api []) ∧
        Machine.Used api points scene.platform.gpu after.platform.gpu)
      (fun failure after => ∃ used, used <+: points ∧
        Tells others failure (waiting ++ scene.platform.gpu.due api used) ∧
        lost after.own (Regime.listened.device api []) ∧
        Machine.Used api used scene.platform.gpu after.platform.gpu)

/-- A row of checks that pass on what an error said finds every error that is raised at its points. -/
theorem Undergoes.checks {on lost : τ → Device → Prop} {checks : List Check} {waiting : List DeviceError}
    {others : Failure → Prop} {kept : α → τ → Device → Prop} {action : Act τ α}
    (undergoes : Undergoes on checks waiting others kept lost action)
    (tells : ∀ check ∈ checks, ∀ text, (check.into text).report? = some text) :
    Checks on (pointsOf checks) waiting others kept lost action := by
  intro api scene at_
  apply (undergoes api scene at_).mono
  · exact fun _ _ done => done
  · intro failure after ⟨used, ends, now, usedNow⟩
    refine ⟨used, ends.used_prefix, ?_, now, usedNow⟩
    cases ends with
    | otherwise among empty calm other =>
      rw [empty, calm]
      exact other
    | @told passed broken first among idle calm raised =>
      obtain ⟨rest, found⟩ := List.head?_eq_some_iff.mp raised
      rw [found]
      exact ⟨_, rfl, tells broken (among.subset (List.mem_concat_self)) first.text⟩

namespace Backend

variable {frame : Backend} {regime : Regime} {points : List String} {waiting : List DeviceError}
  {others : Failure → Prop}

private theorem onDevice_hears {action : Act Device α} (hears : Hears regime Eq points action) :
    Hears regime frame.On points (onDevice action) := by
  rintro api taken ⟨b, platform⟩ rfl
  simp only [onDevice, leads_bind, leads_own, leads_within]
  apply (hears api taken ⟨_, platform⟩ rfl).mono
  · intro _ after ⟨took, now, used⟩
    exact ⟨took, by rw [now, On], used⟩
  · exact fun _ _ refused => refused

/-- The first error that waits is taken, and the others with it. -/
theorem failOnPending_leads (into : String → RenderError) {api : Api} {scene : Scene Backend}
    (at_ : frame.On scene.own (Regime.listened.device api waiting)) :
    (failOnPending into).Leads scene
      (fun _ after => waiting = [] ∧ frame.On after.own (Regime.listened.device api []) ∧
        after.platform = scene.platform)
      (fun failure after =>
        (∃ first rest, waiting = first :: rest ∧ failure = .refused (into first.text)) ∧
        frame.On after.own (Regime.listened.device api []) ∧ after.platform = scene.platform) := by
  obtain ⟨b, platform⟩ := scene
  obtain rfl : b = _ := at_
  simp only [failOnPending, onDevice, Device.takePending, leads_bind, leads_own, leads_within,
    Regime.device, leads_setOwn, leads_pure]
  cases waiting with
  | nil => exact ⟨rfl, rfl, rfl⟩
  | cons first rest => exact ⟨⟨first, rest, rfl, rfl⟩, rfl, rfl⟩

private theorem failOnPending_undergoes (into : String → RenderError) :
    Undergoes frame.On [⟨[], into⟩] waiting others (fun _ => frame.On) frame.On (failOnPending into) := by
  intro api scene at_
  apply (failOnPending_leads into at_).mono
  · intro _ after ⟨empty, now, same⟩
    exact ⟨empty, rfl, now, same ▸ .refl _⟩
  · rintro failure after ⟨⟨first, rest, rfl, rfl⟩, now, same⟩
    exact ⟨_, .told (List.prefix_refl [_]) (absurd rfl) rfl rfl, now, same ▸ .refl _⟩

private theorem find_undergoes {found : Option α} {cause : RenderError}
    (missing : found = none → others (.refused cause)) :
    Undergoes frame.On [] [] others (fun _ => frame.On) frame.On (find found cause) := by
  cases found with
  | none => exact .refuse (missing rfl)
  | some object => exact .of_quiet (.pure object)

theorem makeBuffer_undergoes (desc : BufferDesc)
    (tooLong : desc.size < desc.contents.size → others .crashed) :
    Undergoes frame.On [⟨[desc.label], .resource "buffer"⟩] waiting others (fun _ => frame.On) frame.On
      (makeBuffer desc) := by
  apply Undergoes.hear [_] (onDevice_hears (Device.make_hears _ _))
  intro object waiting
  apply Undergoes.bind [_] (failOnPending_undergoes _)
  intro _
  by_cases short : desc.size < desc.contents.size
  · rw [if_pos short]
    exact .crash (tooLong short)
  · rw [if_neg short]
    exact .of_quiet (.bind (.emit trivial) fun _ => .pure _)

theorem makeTexture_undergoes (desc : TextureDesc) :
    Undergoes frame.On [⟨[desc.label], .resource "texture"⟩] waiting others (fun _ => frame.On) frame.On
      (makeTexture desc) :=
  .hear [_] (onDevice_hears (Device.make_hears _ _)) fun _ _ => .hear [] (.of_quiet .newObject) fun _ _ =>
    .hear [] (.of_quiet (.emit trivial)) fun _ _ => .bind [_] (failOnPending_undergoes _) fun _ =>
      .of_quiet (.pure _)

theorem makeSampler_undergoes (desc : SamplerDesc) :
    Undergoes frame.On [⟨[desc.label], .resource "sampler"⟩] waiting others (fun _ => frame.On) frame.On
      (makeSampler desc) :=
  .hear [_] (onDevice_hears (Device.make_hears _ _)) fun _ _ =>
    .bind [_] (failOnPending_undergoes _) fun _ => .of_quiet (.pure _)

private theorem compile_undergoes (stage : ShaderStage) :
    Undergoes frame.On [⟨[(ShaderDialect.ofTier frame.tier).label stage], .compile stage⟩] waiting others
      (fun _ => frame.On) frame.On (compile stage) := by
  apply Undergoes.own
  rintro b device rfl
  exact .hear [_] (onDevice_hears (Device.shaderModule_hears _ _)) fun _ _ =>
    .bind [_] (failOnPending_undergoes _) fun _ => .of_quiet (.pure _)

def unknownHandle (what : String) : RenderError :=
  .resource "pipeline" ("unknown " ++ what ++ " handle")

structure Provides (b : Backend) (desc : PipelineDesc) : Prop where
  uniforms : b.buffers.get? desc.uniforms ≠ none
  texture : b.textures.get? desc.texture ≠ none
  sampler : b.samplers.get? desc.sampler ≠ none

def pipelinePoints (tier : Tier) (label : String) : List String :=
  [(ShaderDialect.ofTier tier).label .vertex, (ShaderDialect.ofTier tier).label .fragment,
   "quad-uniforms-bgl", "quad-texture-bgl", "quad-uniforms-bg", "quad-texture-bg", "quad-pl", label]

/-- The checks that a pipeline undergoes: of each stage by itself, of all that is bound, and of the rest. -/
def pipelineChecks (tier : Tier) (label : String) : List Check :=
  [⟨[(ShaderDialect.ofTier tier).label .vertex], .compile .vertex⟩,
   ⟨[(ShaderDialect.ofTier tier).label .fragment], .compile .fragment⟩,
   ⟨["quad-uniforms-bgl", "quad-texture-bgl", "quad-uniforms-bg", "quad-texture-bg"],
    .resource "bind group"⟩,
   ⟨["quad-pl", label], .link⟩]

theorem makePipeline_undergoes (desc : PipelineDesc)
    (unknown : ∀ what, ¬ frame.Provides desc → others (.refused (unknownHandle what))) :
    Undergoes frame.On (pipelineChecks frame.tier desc.label) waiting others (fun _ => frame.On) frame.On
      (makePipeline desc) := by
  apply Undergoes.bind [_] (compile_undergoes .vertex)
  intro vertex
  apply Undergoes.bind [_] (compile_undergoes .fragment)
  intro fragment
  apply Undergoes.own
  rintro b device rfl
  apply Undergoes.bind [] (find_undergoes fun gone => unknown _ fun has => has.uniforms gone)
  intro uniforms
  apply Undergoes.bind [] (find_undergoes fun gone => unknown _ fun has => has.texture gone)
  intro texture
  apply Undergoes.bind [] (find_undergoes fun gone => unknown _ fun has => has.sampler gone)
  intro sampler
  apply Undergoes.hear [_, _] (onDevice_hears Device.groupLayouts_hears)
  intro groups _
  apply Undergoes.hear [_] (onDevice_hears (Device.make_hears _ _))
  intro uniformGroup _
  apply Undergoes.hear [_] (onDevice_hears (Device.make_hears _ _))
  intro textureGroup _
  apply Undergoes.bind [_] (failOnPending_undergoes _)
  intro _
  apply Undergoes.hear [_, _] (onDevice_hears (Device.renderPipeline_hears _ _ _))
  intro pipeline _
  apply Undergoes.bind [_] (failOnPending_undergoes _)
  intro _
  exact .of_quiet (.bind (.emit trivial) fun _ => .pure _)

/-- An object that was made is kept under the next number of its storage. -/
theorem kept_undergoes {objects : Type} {make : Act Backend objects} {checks : List Check}
    (undergoes : Undergoes frame.On checks waiting others (fun _ => frame.On) frame.On make)
    (keep : objects → Backend → Backend) (next : Backend → Nat) (typed : Nat → ResourceId)
    (object : objects → Nat) (numbered : ∀ n, (typed n).number = n)
    (apart : ∀ made b device, keep made { b with device } = { keep made b with device }) :
    Undergoes frame.On checks waiting others
      (fun number b device => number = next { frame with device } ∧ ∃ made, (keep made frame).On b device)
      frame.On
      (do
        let made ← make
        let b ← Act.own
        Act.setOwn (keep made b)
        handOut (typed (next b)) (object made)) := by
  intro api scene at_
  rw [leads_bind]
  apply (undergoes api scene at_).mono
  · intro made middle ⟨empty, calm, now, used⟩
    simp only [handOut, leads_bind, leads_own, leads_setOwn, leads_emit, leads_pure]
    rw [now, numbered]
    exact ⟨empty, calm, ⟨rfl, made, apart made frame _⟩, used⟩
  · exact fun _ _ failed => failed

theorem createBuffer_undergoes (desc : BufferDesc)
    (tooLong : desc.size < desc.contents.size → others .crashed) :
    Undergoes frame.On [⟨[desc.label], .resource "buffer"⟩] waiting others
      (fun number b device => number = frame.buffers.next ∧
        ∃ object, ({ frame with buffers := (frame.buffers.insert object).2 } : Backend).On b device)
      frame.On
      (createBuffer desc) :=
  kept_undergoes (makeBuffer_undergoes desc tooLong)
    (fun object b => { b with buffers := (b.buffers.insert object).2 }) (fun b => b.buffers.next)
    .buffer id (fun _ => rfl) fun _ _ _ => rfl

theorem createTexture_undergoes (desc : TextureDesc) :
    Undergoes frame.On [⟨[desc.label], .resource "texture"⟩] waiting others
      (fun number b device => number = frame.textures.next ∧
        ∃ objects, ({ frame with textures := (frame.textures.insert objects).2 } : Backend).On b device)
      frame.On
      (createTexture desc) :=
  kept_undergoes (makeTexture_undergoes desc)
    (fun objects b => { b with textures := (b.textures.insert objects).2 }) (fun b => b.textures.next)
    .texture TextureObjects.texture (fun _ => rfl) fun _ _ _ => rfl

theorem createSampler_undergoes (desc : SamplerDesc) :
    Undergoes frame.On [⟨[desc.label], .resource "sampler"⟩] waiting others
      (fun number b device => number = frame.samplers.next ∧
        ∃ object, ({ frame with samplers := (frame.samplers.insert object).2 } : Backend).On b device)
      frame.On
      (createSampler desc) :=
  kept_undergoes (makeSampler_undergoes desc)
    (fun object b => { b with samplers := (b.samplers.insert object).2 }) (fun b => b.samplers.next)
    .sampler id (fun _ => rfl) fun _ _ _ => rfl

theorem createPipeline_undergoes (desc : PipelineDesc)
    (unknown : ∀ what, ¬ frame.Provides desc → others (.refused (unknownHandle what))) :
    Undergoes frame.On (pipelineChecks frame.tier desc.label) waiting others
      (fun number b device => number = frame.pipelines.next ∧
        ∃ objects, ({ frame with pipelines := (frame.pipelines.insert objects).2 } : Backend).On b device)
      frame.On
      (createPipeline desc) :=
  kept_undergoes (makePipeline_undergoes desc unknown)
    (fun objects b => { b with pipelines := (b.pipelines.insert objects).2 }) (fun b => b.pipelines.next)
    .pipeline PipelineObjects.pipeline (fun _ => rfl) fun _ _ _ => rfl

theorem createBuffer_checks (desc : BufferDesc)
    (tooLong : desc.size < desc.contents.size → others .crashed) :
    Checks frame.On [desc.label] waiting others
      (fun number b device => number = frame.buffers.next ∧
        ∃ object, ({ frame with buffers := (frame.buffers.insert object).2 } : Backend).On b device)
      frame.On
      (createBuffer desc) :=
  (createBuffer_undergoes desc tooLong).checks (by simp [RenderError.report?])

theorem createTexture_checks (desc : TextureDesc) :
    Checks frame.On [desc.label] waiting others
      (fun number b device => number = frame.textures.next ∧
        ∃ objects, ({ frame with textures := (frame.textures.insert objects).2 } : Backend).On b device)
      frame.On
      (createTexture desc) :=
  (createTexture_undergoes desc).checks (by simp [RenderError.report?])

theorem createSampler_checks (desc : SamplerDesc) :
    Checks frame.On [desc.label] waiting others
      (fun number b device => number = frame.samplers.next ∧
        ∃ object, ({ frame with samplers := (frame.samplers.insert object).2 } : Backend).On b device)
      frame.On
      (createSampler desc) :=
  (createSampler_undergoes desc).checks (by simp [RenderError.report?])

theorem createPipeline_checks (desc : PipelineDesc)
    (unknown : ∀ what, ¬ frame.Provides desc → others (.refused (unknownHandle what))) :
    Checks frame.On (pipelinePoints frame.tier desc.label) waiting others
      (fun number b device => number = frame.pipelines.next ∧
        ∃ objects, ({ frame with pipelines := (frame.pipelines.insert objects).2 } : Backend).On b device)
      frame.On
      (createPipeline desc) :=
  (createPipeline_undergoes desc unknown).checks (by simp [pipelineChecks, RenderError.report?])

end Backend

/-- What was raised at the points that were used in between waits behind what waited before. -/
def Queues (on : τ → Device → Prop) (api : Api) (waiting : List DeviceError) (before after : Scene τ) :
    Prop :=
  ∃ used, Machine.Used api used before.platform.gpu after.platform.gpu ∧
    on after.own (Regime.listened.device api (waiting ++ before.platform.gpu.due api used))

theorem Queues.refl {on : τ → Device → Prop} {api : Api} {waiting : List DeviceError} {scene : Scene τ}
    (at_ : on scene.own (Regime.listened.device api waiting)) : Queues on api waiting scene scene :=
  ⟨[], .refl scene.platform.gpu,
    (show on scene.own (Regime.listened.device _ (waiting ++ [])) from (List.append_nil waiting).symm ▸ at_)⟩

@[reducible] def queueing (on : τ → Device → Prop) (others : Failure → Prop) : Bounds (Scene τ) where
  done before after := ∀ api waiting, on before.own (Regime.listened.device api waiting) →
    Queues on api waiting before after
  failed failure before after := ∀ api waiting, on before.own (Regime.listened.device api waiting) →
    others failure ∧ Queues on api waiting before after
  allows _ := False
  refl _ _ _ at_ := .refl at_
  trans early late api waiting at_ := by
    obtain ⟨points, used, now⟩ := early api waiting at_
    obtain ⟨more, usedMore, later⟩ := late api _ now
    rw [List.append_assoc, ← used.due_append] at later
    exact ⟨points ++ more, used.trans usedMore, later⟩
  broken early late api waiting at_ := by
    obtain ⟨points, used, now⟩ := early api waiting at_
    obtain ⟨allowed, more, usedMore, later⟩ := late api _ now
    rw [List.append_assoc, ← used.due_append] at later
    exact ⟨allowed, points ++ more, used.trans usedMore, later⟩

/-- The action may use points, and what is raised there waits; it fails as `others` says. -/
def Leaves (on : τ → Device → Prop) (others : Failure → Prop) (action : Act τ α) : Prop :=
  action.Respects (fun scene => scene) (queueing on others)

namespace Leaves

variable {on : τ → Device → Prop} {points : List String} {others : Failure → Prop} {action : Act τ α}

private theorem of_hears (hears : Hears .listened on points action) : Leaves on others action := by
  intro scene
  refine leads_forall fun api => leads_forall fun waiting => leads_forall fun at_ => ?_
  apply (hears.unfailing at_).mono
  · exact fun _ _ ⟨now, used⟩ => ⟨points, used, now⟩
  · exact fun _ _ impossible => impossible.elim

theorem leads {api : Api} {waiting : List DeviceError} {scene : Scene τ} (leaves : Leaves on others action)
    (at_ : on scene.own (Regime.listened.device api waiting)) :
    action.Leads scene (fun _ after => Queues on api waiting scene after)
      fun failure after => others failure ∧ Queues on api waiting scene after :=
  (leaves scene).mono (fun _ _ done => done api waiting at_) fun _ _ failed => failed api waiting at_

theorem refuse {cause : RenderError} (allowed : others (.refused cause)) :
    Leaves on others (refuse cause : Act τ α) :=
  fun _ _ _ at_ => ⟨allowed, .refl at_⟩

theorem own (others : Failure → Prop) {next : τ → Act τ β}
    (rest : ∀ part device, on part device → Leaves on others (next part)) :
    Leaves on others (Act.own >>= next) := by
  intro scene
  rw [leads_bind, leads_own]
  refine leads_forall fun api => leads_forall fun waiting => leads_forall fun at_ => ?_
  exact (rest scene.own _ at_).leads at_

end Leaves

namespace Backend

variable {frame : Backend} {others : Failure → Prop}

private theorem find_leaves {found : Option α} {cause : RenderError}
    (missing : found = none → others (.refused cause)) : Leaves frame.On others (find found cause) := by
  cases found with
  | none => exact .refuse (missing rfl)
  | some object => exact Leaves.of_hears (.of_quiet (.pure object))

theorem upload_leaves (texture : Nat) (region : Region) (bytes : Bytes)
    (released : frame.textures.get? texture = none →
      others (.refused (.lost "framebuffer texture was released"))) :
    Leaves frame.On others (upload texture region bytes) := by
  apply Leaves.own
  rintro b device rfl
  apply Respects.bind (find_leaves released)
  intro target
  apply Respects.bind (Leaves.of_hears (.of_quiet (.emit trivial)))
  intro _
  exact Leaves.of_hears (onDevice_hears (Device.reach_hears _))

private theorem record_hears (draw : DrawObjects) : Hears .listened frame.On ["submit"] (record draw) := by
  have say {call : Call} : Hears .listened frame.On [] (say call) := .of_quiet (.emit trivial)
  have size : Quiet frame.On Act.own := .own
  exact .bind (.of_quiet .newObject) fun _ => .bind say fun _ => .bind say fun _ => .bind say fun _ =>
    .bind (.of_quiet size) fun _ => .bind say fun _ => .bind say fun _ => .bind say fun _ =>
      .bind say fun _ => .bind say fun _ => .bind say fun _ => .bind say fun _ => .bind say fun _ =>
        .bind say fun _ => .bind say fun _ =>
          .bind (onDevice_hears (Device.reach_hears "submit")) fun _ => say

def deadHandle (what : String) : RenderError :=
  .lost (what ++ " handle is not live")

structure Serves (b : Backend) (call : DrawCall) : Prop where
  pipeline : b.pipelines.get? call.pipeline ≠ none
  positions : b.buffers.get? call.positions ≠ none
  colors : b.buffers.get? call.colors ≠ none
  indices : b.buffers.get? call.indices ≠ none

/-- Nothing that waits is told of by a draw but what waited when it began. -/
theorem submit_leads (others : Failure → Prop) (call : DrawCall) {api : Api} {waiting : List DeviceError}
    {scene : Scene Backend}
    (dead : ∀ what, ¬ frame.Serves call → others (.refused (deadHandle what)))
    (troubled : ∀ trouble : FrameResult, others (.refused (.lost trouble.reason)))
    (at_ : frame.On scene.own (Regime.listened.device api waiting)) :
    (submit call).Leads scene
      (fun _ after => waiting = [] ∧
        ∃ used, Machine.Used api used scene.platform.gpu after.platform.gpu ∧
          frame.On after.own (Regime.listened.device api (scene.platform.gpu.due api used)))
      (fun failure after => match waiting with
        | first :: _ => failure = .refused (.lost first.text) ∧ after.platform = scene.platform ∧
            frame.On after.own (Regime.listened.device api [])
        | [] => others failure ∧
            ∃ used, Machine.Used api used scene.platform.gpu after.platform.gpu ∧
              frame.On after.own (Regime.listened.device api (scene.platform.gpu.due api used))) := by
  have shown : Leaves frame.On others (onDevice Device.currentTexture) :=
    Leaves.of_hears (onDevice_hears Device.currentTexture_hears)
  rw [submit, leads_bind]
  apply (failOnPending_leads .lost at_).mono
  · rintro _ middle ⟨rfl, now, same⟩
    rw [← same]
    refine Leads.mono (Leaves.leads (.own others fun b device on => ?_) now) ?_ ?_
    · obtain rfl : b = _ := on
      apply Respects.bind (find_leaves fun gone => dead _ fun serves => serves.pipeline gone)
      intro pipeline
      apply Respects.bind (find_leaves fun gone => dead _ fun serves => serves.positions gone)
      intro positions
      apply Respects.bind (find_leaves fun gone => dead _ fun serves => serves.colors gone)
      intro colors
      apply Respects.bind (find_leaves fun gone => dead _ fun serves => serves.indices gone)
      intro indices
      apply Respects.bind shown
      intro first
      cases first with
      | ready => exact Leaves.of_hears (record_hears _)
      | timeout => exact Leaves.of_hears (.of_quiet (.emit trivial))
      | outdated =>
        apply Respects.bind (Leaves.of_hears (onDevice_hears (Device.configure_hears _)))
        intro _
        apply Respects.bind shown
        intro second
        cases second with
        | ready => exact Leaves.of_hears (record_hears _)
        | timeout | outdated | lost | outOfMemory | other => exact Leaves.refuse (troubled _)
      | lost | outOfMemory | other => exact Leaves.refuse (troubled _)
    · exact fun _ after left => ⟨rfl, left⟩
    · exact fun failure after left => left
  · rintro failure after ⟨⟨first, rest, rfl, rfl⟩, now, same⟩
    exact ⟨rfl, same, now⟩

def resized (b : Backend) (size : Dims) : Backend :=
  { b with config := { b.config with dims := ⟨max size.width 1, max size.height 1⟩ } }

theorem resize_leads (size : Dims) {api : Api} {waiting : List DeviceError} {scene : Scene Backend}
    (at_ : frame.On scene.own (Regime.listened.device api waiting)) :
    (resize size).Leads scene
      (fun _ after => (frame.resized size).On after.own
          (Regime.listened.device api (waiting ++ scene.platform.gpu.due api ["configure"])) ∧
        Machine.Used api ["configure"] scene.platform.gpu after.platform.gpu)
      fun _ _ => False := by
  obtain ⟨b, platform⟩ := scene
  obtain rfl : b = _ := at_
  have hears : Hears .listened (frame.resized size).On ["configure"]
      (onDevice (Device.configure (frame.resized size).config)) :=
    onDevice_hears (Device.configure_hears _)
  rw [resize, leads_bind, leads_own, leads_bind, leads_setOwn]
  apply hears.unfailing
  rfl

theorem release_leads (id : ResourceId) (scene : Scene Backend) :
    (release id).Leads scene
      (fun _ after => after.own.device = scene.own.device ∧ after.own.tier = scene.own.tier ∧
        after.platform.gpu.driver = scene.platform.gpu.driver)
      fun _ _ => False := by
  cases id with
  | buffer number =>
    simp only [release, takeBack, leads_bind, leads_own, leads_setOwn, leads_emit]
    cases (scene.own.buffers.remove number).1 <;> exact ⟨rfl, rfl, rfl⟩
  | texture number =>
    simp only [release, takeBack, leads_bind, leads_own, leads_setOwn, leads_emit]
    cases (scene.own.textures.remove number).1 <;> exact ⟨rfl, rfl, rfl⟩
  | sampler number | pipeline number => exact ⟨rfl, rfl, rfl⟩

end Backend
end Gpu
end FrameViewer
