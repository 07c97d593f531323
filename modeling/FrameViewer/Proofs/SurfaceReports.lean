import FrameViewer.Gpu.Probe
import FrameViewer.Proofs.LastingRenderers

/-! What a report tells of the surface: how it was configured last, which formats pipelines draw in,
and what the pass at hand was given. It says of every configuration and every draw whether they
agree. -/

namespace FrameViewer

def Dims.filled (dims : Dims) : Dims :=
  ⟨max dims.width 1, max dims.height 1⟩

namespace Gpu
open Act

def Machine.formats (machine : Machine) (api : Api) : List String :=
  (machine.driver api).script.formats

structure Canvas where
  /-- The drivers that were opened last. -/
  api : Option Api := none
  /-- The last configuration of the surface. -/
  config : Option SurfaceConfig := none
  /-- The format that a pipeline draws in. -/
  targets : Nat → Option String := fun _ => none
  /-- The viewport that was set since the pass began. -/
  viewport : Option Viewport := none
  /-- The pipeline that was set since the pass began. -/
  pipeline : Option Nat := none

namespace Canvas

def called (canvas : Canvas) : Call → Canvas
  | .openInstance api => { canvas with api := some api }
  | .configure config => { canvas with config := some config }
  | .renderPipeline object shape =>
    { canvas with targets := fun other => if other = object then some shape.format else canvas.targets other }
  | .beginPass .. => { canvas with viewport := none, pipeline := none }
  | .setViewport viewport => { canvas with viewport := some viewport }
  | .setPipeline object => { canvas with pipeline := some object }
  | _ => canvas

def enter (canvas : Canvas) : Event → Canvas
  | .gpu call => canvas.called call
  | _ => canvas

def read (canvas : Canvas) (log : List Event) : Canvas :=
  log.foldl enter canvas

/-- No side of a surface is ever empty, and its format is the one to choose among those that its
drivers offer. A draw has the viewport that fits the last configuration, and a pipeline of its
format. -/
def Allows (formats : Api → List String) (canvas : Canvas) : Event → Prop
  | .gpu (.configure config) => 1 ≤ config.dims.width ∧ 1 ≤ config.dims.height ∧
      ∃ api, canvas.api = some api ∧ Acquire.chooseFormat (formats api) = some config.format
  | .gpu (.drawIndexed _) => ∃ config pipeline, canvas.config = some config ∧
      canvas.viewport = some (fitAspect config.dims.width config.dims.height displayAspect) ∧
      canvas.pipeline = some pipeline ∧ canvas.targets pipeline = some config.format
  | _ => True

def InOrder (formats : Api → List String) (canvas : Canvas) : List Event → Prop
  | [] => True
  | event :: rest => canvas.Allows formats event ∧ (canvas.enter event).InOrder formats rest

variable {formats : Api → List String} {canvas : Canvas} {log more : List Event}

theorem read_append : canvas.read (log ++ more) = (canvas.read log).read more :=
  List.foldl_append

theorem inOrder_append : canvas.InOrder formats (log ++ more) ↔
    canvas.InOrder formats log ∧ (canvas.read log).InOrder formats more := by
  induction log generalizing canvas with
  | nil => simp [InOrder, read]
  | cons event rest ih => simp only [List.cons_append, InOrder, ih, and_assoc, read, List.foldl_cons]

end Canvas

/-- Tells nothing of the surface. -/
def Blank (event : Event) : Prop :=
  ∀ formats (canvas : Canvas), canvas.enter event = canvas ∧ canvas.Allows formats event

theorem Blank.of_uncalled {event : Event} (uncalled : ∀ call, event ≠ .gpu call) : Blank event := by
  cases event with
  | gpu call => exact absurd rfl (uncalled call)
  | _ => exact fun _ _ => ⟨rfl, trivial⟩

theorem Blank.of_aside (event : Event) (aside : event.IsAside) : Blank event := by
  refine .of_uncalled fun call same => aside ?_
  rw [same]
  exact .inl (.inl rfl)

/-- Blank events are in order and leave the canvas as it is. -/
private theorem Canvas.read_blank {formats : Api → List String} {canvas : Canvas} {log : List Event}
    (blank : ∀ event ∈ log, Blank event) : canvas.read log = canvas ∧ canvas.InOrder formats log := by
  induction log with
  | nil => exact ⟨rfl, trivial⟩
  | cons event rest ih =>
    obtain ⟨same, allowed⟩ := blank event List.mem_cons_self formats canvas
    obtain ⟨read, inOrder⟩ := ih fun other member => blank other (List.mem_cons_of_mem _ member)
    refine ⟨?_, allowed, same.symm ▸ inOrder⟩
    rw [Canvas.read, List.foldl_cons, same]
    exact read

end Gpu

def Platform.canvas (platform : Platform) : Gpu.Canvas :=
  Gpu.Canvas.read {} platform.events.toList

/-- Every configuration of the surface that was reported, and every draw, was in order at its time. -/
def Platform.SurfaceInOrder (formats : Gpu.Api → List String) (platform : Platform) : Prop :=
  Gpu.Canvas.InOrder formats {} platform.events.toList

private theorem Platform.canvas_record (platform : Platform) (event : Event) :
    (platform.record event).canvas = platform.canvas.enter event := by
  simp [canvas, record, Gpu.Canvas.read]

namespace Gpu
open Act

/-- The report is in order. By it those drivers were opened last, the surface is configured like that,
and these pipelines draw in its format. While tiers are being acquired, the drivers offer those
formats. -/
structure Faces (formats : Api → List String) (acquiring : Prop) (opened : Option Api)
    (configured : Option SurfaceConfig) (pipelines : List Nat) (platform : Platform) : Prop where
  inOrder : platform.SurfaceInOrder formats
  api : platform.canvas.api = opened
  config : platform.canvas.config = configured
  targets : ∀ pipeline ∈ pipelines, ∀ last, configured = some last →
    platform.canvas.targets pipeline = some last.format
  scripts : acquiring → platform.gpu.formats = formats

/-- Nothing that is blank makes a difference to what is good, nor does any use of the drivers. -/
structure Blind (Good : Platform → Prop) : Prop where
  record : ∀ {platform event}, Blank event → Good platform → Good (platform.record event)
  gpu : ∀ {platform : Platform} {machine : Machine},
    (∀ api, (machine.driver api).script = (platform.gpu.driver api).script) →
      Good platform → Good { platform with gpu := machine }

/-- Whatever was good to one who sees nothing else still is. -/
@[reducible] def overlooking : Bounds Platform where
  done before after := ∀ Good, Blind Good → Good before → Good after
  failed _ before after := ∀ Good, Blind Good → Good before → Good after
  allows := Blank
  refl _ _ _ good := good
  trans early late Good blind good := late Good blind (early Good blind good)
  broken early late Good blind good := late Good blind (early Good blind good)

instance : overlooking.Steady := ⟨fun _ => id, fun _ => id⟩

instance {σ : Type} : Hearing (σ := σ) Scene.platform overlooking where
  record _ _ blank _ blind good := blind.record blank good

def Unseen {σ α : Type} (action : Act σ α) : Prop :=
  action.Respects Scene.platform overlooking

variable {formats : Api → List String} {acquiring : Prop} {api : Option Api}
  {config : Option SurfaceConfig} {pipelines : List Nat} {σ τ α β : Type}

namespace Faces

variable {platform : Platform}

/-- One more event that is in order, whatever it makes of the surface. -/
theorem enter {event : Event} {api' : Option Api} {config' : Option SurfaceConfig} {pipelines' : List Nat}
    (faces : Faces formats acquiring api config pipelines platform)
    (allowed : platform.canvas.Allows formats event)
    (opened : (platform.canvas.enter event).api = api')
    (configured : (platform.canvas.enter event).config = config')
    (drawn : ∀ pipeline ∈ pipelines', ∀ c, config' = some c →
      (platform.canvas.enter event).targets pipeline = some c.format) :
    Faces formats acquiring api' config' pipelines' (platform.record event) := by
  have told := platform.canvas_record event
  refine ⟨?_, told ▸ opened, told ▸ configured, told ▸ drawn, faces.scripts⟩
  have grown : (platform.record event).events.toList = platform.events.toList ++ [event] := by
    simp [Platform.record]
  rw [Platform.SurfaceInOrder, grown, Canvas.inOrder_append]
  exact ⟨faces.inOrder, allowed, trivial⟩

theorem blind : Blind (Faces formats acquiring api config pipelines) where
  record {platform event} blank faces := by
    obtain ⟨same, allowed⟩ := blank formats platform.canvas
    apply faces.enter allowed <;> rw [same]
    · exact faces.api
    · exact faces.config
    · exact faces.targets
  gpu same faces := by
    refine ⟨faces.inOrder, faces.api, faces.config, faces.targets, fun acquires => ?_⟩
    rw [← faces.scripts acquires]
    exact funext fun api => congrArg Script.formats (same api)

theorem subset {fewer : List Nat} (faces : Faces formats acquiring api config pipelines platform)
    (subset : fewer ⊆ pipelines) : Faces formats acquiring api config fewer platform :=
  { faces with targets := fun pipeline member => faces.targets pipeline (subset member) }

/-- A stretch of the report that is in order and leaves the surface as it is. -/
theorem recordAll {log : List Event} (faces : Faces formats acquiring api config pipelines platform)
    (inOrder : platform.canvas.InOrder formats log)
    (still : ∀ event ∈ log, ∀ canvas : Canvas, (canvas.enter event).api = canvas.api ∧
      (canvas.enter event).config = canvas.config ∧ (canvas.enter event).targets = canvas.targets) :
    Faces formats acquiring api config pipelines (log.foldl Platform.record platform) := by
  induction log generalizing platform with
  | nil => exact faces
  | cons event rest ih =>
    obtain ⟨opened, configured, drawn⟩ := still event List.mem_cons_self platform.canvas
    refine ih ?_ ?_ fun other member => still other (List.mem_cons_of_mem _ member)
    · apply faces.enter inOrder.1 (opened.trans faces.api) (configured.trans faces.config)
      rw [drawn]
      exact faces.targets
    · rw [platform.canvas_record]
      exact inOrder.2

/-- The report may go on with what is blank, whatever becomes of the rest. -/
theorem extend {after : Platform} (faces : Faces formats acquiring api config pipelines platform)
    (grown : platform.Extends Blank after) (scripts : acquiring → after.gpu = platform.gpu) :
    Faces formats acquiring api config pipelines after := by
  obtain ⟨added, same, blank⟩ := grown
  obtain ⟨read, inOrder⟩ := @Canvas.read_blank formats platform.canvas added blank
  have told : after.canvas = platform.canvas := by
    rw [Platform.canvas, same, Canvas.read_append]
    exact read
  refine ⟨?_, told ▸ faces.api, told ▸ faces.config, told ▸ faces.targets, fun acquires => ?_⟩
  · rw [Platform.SurfaceInOrder, same, Canvas.inOrder_append]
    exact ⟨faces.inOrder, inOrder⟩
  · rw [scripts acquires]
    exact faces.scripts acquires

/-- The surface is configured once more, in the format that pipelines draw in. -/
theorem configure {api : Api} {next : SurfaceConfig}
    (faces : Faces formats acquiring (some api) config pipelines platform)
    (chosen : Acquire.chooseFormat (formats api) = some next.format) {size : Dims}
    (dims : next.dims = size.filled)
    (same : pipelines = [] ∨ ∃ last, config = some last ∧ last.format = next.format) :
    Faces formats acquiring (some api) (some next) pipelines (platform.record (.gpu (.configure next))) := by
  refine faces.enter ⟨?_, ?_, api, faces.api, chosen⟩ faces.api rfl fun pipeline member c last => ?_
  · rw [dims]
    exact Nat.le_max_right _ _
  · rw [dims]
    exact Nat.le_max_right _ _
  · obtain rfl := Option.some.inj last
    rcases same with rfl | ⟨last, configured, format⟩
    · cases member
    · rw [← format]
      exact faces.targets pipeline member last configured

/-- A pipeline is made that draws in the format of the surface. -/
theorem renderPipeline {object : Nat} {shape : PipelineShape}
    (faces : Faces formats acquiring api config pipelines platform)
    (format : ∀ c, config = some c → shape.format = c.format) :
    Faces formats acquiring api config (object :: pipelines)
      (platform.record (.gpu (.renderPipeline object shape))) := by
  refine faces.enter trivial faces.api faces.config fun pipeline member c last => ?_
  show (if pipeline = object then some shape.format else platform.canvas.targets pipeline) = _
  by_cases new : pipeline = object
  · rw [if_pos new, format c last]
  · rw [if_neg new]
    exact faces.targets pipeline (List.mem_of_ne_of_mem new member) c last

end Faces

namespace Unseen

variable {action : Act σ α}

theorem preserves {Good : Platform → Prop} (unseen : Unseen action) (blind : Blind Good) :
    Preserves (fun _ => Good) action :=
  .of_leads fun scene good =>
    (unseen scene).mono (fun _ _ kept => kept Good blind good) fun _ _ kept => kept Good blind good

/-- What is good lasts up to the next action. -/
theorem leads_bind {Good : Platform → Prop} {next : α → Act σ β} {scene : Scene σ}
    {done : β → Scene σ → Prop} {failed : Failure → Scene σ → Prop} (unseen : Unseen action)
    (blind : Blind Good) (good : Good scene.platform)
    (rest : ∀ value middle, Good middle.platform → (next value).Leads middle done failed)
    (lost : ∀ failure after, Good after.platform → failed failure after) :
    (action >>= next).Leads scene done failed := by
  rw [Act.leads_bind]
  exact ((unseen.preserves blind).leads good).mono rest lost

end Unseen

theorem say_unseen {call : Call} (blank : Blank (.gpu call)) : Unseen (say call : Act σ Unit) :=
  .emit blank

private theorem newObject_unseen : Unseen (newObject : Act σ Nat) := by
  refine .bind .platform fun p => .bind (fun scene Good blind good => ?_) fun _ => .pure _
  exact blind.gpu (fun api => by cases api <;> rfl) good

/-- The drivers may be used as long as their scripts stay. -/
theorem setDriver_unseen (api : Api) (use : Driver → Driver)
    (same : ∀ driver, (use driver).script = driver.script) (platform : Platform) :
    overlooking.done platform { platform with
      gpu := platform.gpu.setDriver api (use (platform.gpu.driver api)) } := by
  intro Good blind good
  refine blind.gpu (fun other => ?_) good
  cases api <;> cases other <;> first | rfl | exact same _

namespace Device

private theorem deliver_unseen (e : DeviceError) : Unseen (deliver e) := by
  refine .bind .own fun device => ?_
  cases catchIn e device.scopes with
  | some scopes => exact .setOwn _
  | none =>
    cases device.listener with
    | absent => exact .crash
    | installed pending =>
      exact .bind (.notify (.of_uncalled fun _ => nofun)) fun _ => .setOwn _

private theorem deliverAll_unseen (due : List DeviceError) : Unseen (deliverAll due) :=
  .listForM deliver_unseen due

theorem reach_unseen (point : String) : Unseen (reach point) := by
  intro scene
  have used := setDriver_unseen scene.own.api (fun driver => (driver.reach point).2) (fun _ => rfl)
    scene.platform
  simp only [reach, Act.leads_bind, leads_own, leads_platform, leads_updatePlatform]
  apply (deliverAll_unseen _ _).mono
  · exact fun _ _ late => overlooking.trans used late
  · exact fun _ _ late => overlooking.trans used late

theorem make_unseen {label : String} {call : Nat → Call} (blank : ∀ object, Blank (.gpu (call object))) :
    Unseen (make label call) :=
  .bind newObject_unseen fun object => .bind (say_unseen (blank object)) fun _ =>
    .bind (reach_unseen label) fun _ => .pure _

theorem takePending_unseen : Unseen takePending := by
  refine .bind .own fun device => ?_
  cases device.listener with
  | absent => exact .pure _
  | installed pending => exact .bind (.setOwn _) fun _ => .pure _

theorem currentTexture_unseen : Unseen currentTexture := by
  intro scene
  have used := setDriver_unseen scene.own.api (fun driver => driver.requestFrame.2) (fun _ => rfl)
    scene.platform
  simp only [currentTexture, say, Act.leads_bind, leads_own, leads_platform, leads_updatePlatform,
    leads_emit, leads_pure]
  exact fun Good blind good => blind.record (fun _ _ => ⟨rfl, trivial⟩) (used Good blind good)

theorem shaderModule_unseen (dialect : ShaderDialect) (stage : ShaderStage) :
    Unseen (shaderModule dialect stage) :=
  make_unseen fun _ _ _ => ⟨rfl, trivial⟩

theorem groupLayouts_unseen : Unseen groupLayouts :=
  .bind (make_unseen fun _ _ _ => ⟨rfl, trivial⟩) fun _ =>
    .bind (make_unseen fun _ _ _ => ⟨rfl, trivial⟩) fun _ => .pure _

theorem configure_faces {api : Api} {next : SurfaceConfig} {scene : Scene Device}
    (faces : Faces formats acquiring (some api) config pipelines scene.platform)
    (chosen : Acquire.chooseFormat (formats api) = some next.format) {size : Dims}
    (dims : next.dims = size.filled)
    (same : pipelines = [] ∨ ∃ last, config = some last ∧ last.format = next.format) :
    (configure next).Leads scene
      (fun _ after => Faces formats acquiring (some api) (some next) pipelines after.platform)
      fun _ after => Faces formats acquiring (some api) (some next) pipelines after.platform := by
  rw [configure, say, Act.leads_bind, leads_emit]
  exact ((reach_unseen _).preserves Faces.blind).leads (faces.configure chosen dims same)

private theorem layout_unseen (groups : GroupLayouts) : Unseen (make "quad-pl" fun object =>
    .pipelineLayout object "quad-pl" [groups.uniforms, groups.texture]) :=
  make_unseen fun _ _ _ => ⟨rfl, trivial⟩

/-- A pipeline is made that draws in the format of the surface. -/
theorem renderPipeline_faces {choice : PipelineChoice} (modules : ShaderModules) (groups : GroupLayouts)
    {scene : Scene Device} (faces : Faces formats acquiring api config pipelines scene.platform)
    (format : ∀ c, config = some c → choice.format = c.format) :
    (renderPipeline choice modules groups).Leads scene
      (fun object after => Faces formats acquiring api config (object :: pipelines) after.platform)
      fun _ after => Faces formats acquiring api config pipelines after.platform := by
  refine (layout_unseen groups).leads_bind Faces.blind faces (fun layout middle faces => ?_)
    fun _ _ faces => faces
  refine newObject_unseen.leads_bind Faces.blind faces (fun object middle faces => ?_) fun _ _ faces => faces
  simp only [say, Act.leads_bind, leads_emit, leads_pure]
  apply (((reach_unseen _).preserves Faces.blind).leads (faces.renderPipeline format)).mono
  · exact fun _ _ faces => faces
  · exact fun _ _ faces => faces.subset (List.subset_cons_self _ _)

/-- While no pipeline is held, one may be made in any format. -/
private theorem renderPipeline_preserves (choice : PipelineChoice) (modules : ShaderModules) (groups : GroupLayouts) :
    Preserves (fun _ => Faces formats acquiring api config []) (renderPipeline choice modules groups) := by
  refine .bind ((layout_unseen groups).preserves Faces.blind) fun layout => ?_
  refine .bind (newObject_unseen.preserves Faces.blind) fun object => ?_
  refine .bind (fun scene faces => ?_) fun _ =>
    .bind ((reach_unseen _).preserves Faces.blind) fun _ => .pure _
  exact faces.enter trivial faces.api faces.config fun _ member => absurd member List.not_mem_nil

private theorem inScope_preserves {Good : Platform → Prop} (blind : Blind Good) {action : Act Device α}
    (into : String → RenderError) (preserves : Preserves (fun _ => Good) action) :
    Preserves (fun _ => Good) (inScope action into) := by
  have pushed : Unseen (pushScope .validation) :=
    .bind (say_unseen fun _ _ => ⟨rfl, trivial⟩) fun _ => .update _
  have popped : Unseen popScope := by
    refine .bind (say_unseen fun _ _ => ⟨rfl, trivial⟩) fun _ => .bind .own fun device => ?_
    cases device.scopes with
    | nil => exact .pure _
    | cons scope outer => exact .bind (.setOwn _) fun _ => .pure _
  refine .bind (pushed.preserves blind) fun _ => .bind preserves fun value => ?_
  refine .bind (popped.preserves blind) fun caught => ?_
  cases caught with
  | some e => exact .refuse _
  | none => exact .pure _

/-- The pipelines that only check the shaders are not held. -/
theorem validateShaders_preserves (tier : Tier) (format : String) :
    Preserves (fun _ => Faces formats acquiring api config []) (validateShaders tier format) := by
  have compiled {dialect : ShaderDialect} {stage : ShaderStage} :
      Preserves (fun _ => Faces formats acquiring api config []) (shaderModule dialect stage) :=
    (shaderModule_unseen _ _).preserves Faces.blind
  have notified {notice : Notice} : Unseen (notify notice : Act Device Unit) :=
    .notify (.of_uncalled fun _ => nofun)
  refine .bind (inScope_preserves Faces.blind _ compiled) fun vertex => ?_
  refine .bind (inScope_preserves Faces.blind _ compiled) fun fragment => ?_
  refine .bind (inScope_preserves Faces.blind _ ?_) fun _ => notified.preserves Faces.blind
  exact .bind (groupLayouts_unseen.preserves Faces.blind) fun groups => renderPipeline_preserves _ _ groups

end Device
end Gpu
end FrameViewer
