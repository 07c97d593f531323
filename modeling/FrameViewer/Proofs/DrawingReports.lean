import FrameViewer.Graphics.Negotiator
import FrameViewer.Proofs.EventReports

/-! Whatever is drawn, built, released or negotiated, only drawing is reported by it. What comes
before and after a frame puts nothing on the screen. -/

namespace FrameViewer

/-- Tells of tiers and their devices. -/
def Event.IsDrawing (event : Event) : Prop :=
  event.part = .drawing

/-- Tells of tiers and their devices, or of the objects that they hold. -/
def Event.IsRendering (event : Event) : Prop :=
  event.IsDrawing ∨ event.part = .holding

/-- Tells of tiers, how they are come by and what is done with them. -/
def Event.IsNegotiating (event : Event) : Prop :=
  event.IsRendering ∨ event.part = .negotiation

/-- What puts a picture on the screen. -/
inductive Stroke where
  | upload
  | draw
  deriving DecidableEq

def Event.stroke? : Event → Option Stroke
  | .tier _ (.upload ..) | gpu (.writeTexture ..) => some .upload
  | .tier _ (.draw _) | gpu (.drawIndexed _) => some .draw
  | _ => none

/-- Tells of tiers and their devices, and puts nothing on the screen. -/
structure Event.IsSetup (event : Event) : Prop where
  drawing : event.IsDrawing
  still : event.stroke? = none

/-- Tells of tiers, their devices and objects, and puts nothing on the screen. -/
structure Event.IsUpkeep (event : Event) : Prop where
  rendering : event.IsRendering
  still : event.stroke? = none

theorem Event.IsDrawing.isRendering (event : Event) (drawing : event.IsDrawing) :
    event.IsRendering :=
  .inl drawing

theorem Event.IsSetup.isDrawing (event : Event) (setup : event.IsSetup) : event.IsDrawing :=
  setup.drawing

theorem Event.IsSetup.isUpkeep (event : Event) (setup : event.IsSetup) : event.IsUpkeep :=
  ⟨.inl setup.drawing, setup.still⟩

theorem Event.IsUpkeep.isRendering (event : Event) (upkeep : event.IsUpkeep) : event.IsRendering :=
  upkeep.rendering

private theorem Event.IsRendering.isNegotiating (event : Event) (rendering : event.IsRendering) :
    event.IsNegotiating :=
  .inl rendering

variable {σ τ α β : Type}

def Platform.strokes (platform : Platform) : List Stroke :=
  platform.events.toList.filterMap Event.stroke?

/-- The later report is the earlier one with drawing on top. What of it puts a picture on the screen
is some of these strokes, in their order. -/
def Platform.Painted (strokes : List Stroke) (before after : Platform) : Prop :=
  ∃ added, after.events.toList = before.events.toList ++ added ∧ (∀ event ∈ added, event.IsDrawing) ∧
    (added.filterMap Event.stroke?).Sublist strokes

namespace Platform.Painted

variable {strokes others : List Stroke} {first second third : Platform}

theorem of_setup (grown : first.Extends Event.IsSetup second) : first.Painted strokes second := by
  obtain ⟨added, same, each⟩ := grown
  have none : added.filterMap Event.stroke? = [] :=
    List.filterMap_eq_nil_iff.mpr fun event inside => (each event inside).still
  exact ⟨added, same, fun event inside => (each event inside).drawing, none ▸ List.nil_sublist _⟩

theorem trans (early : first.Painted strokes second) (late : second.Painted others third) :
    first.Painted (strokes ++ others) third := by
  obtain ⟨added, same, each, few⟩ := early
  obtain ⟨more, further, every, others⟩ := late
  refine ⟨added ++ more, by rw [further, same, List.append_assoc], ?_, ?_⟩
  · intro event member
    exact (List.mem_append.mp member).elim (each event) (every event)
  · rw [List.filterMap_append]
    exact few.append others

theorem mono (painted : first.Painted strokes second) (fewer : strokes.Sublist others) :
    first.Painted others second := by
  obtain ⟨added, same, each, few⟩ := painted
  exact ⟨added, same, each, few.trans fewer⟩

private theorem of_put (grown : first.Extends Event.IsDrawing second)
    (put : second.strokes = first.strokes ++ strokes) : first.Painted strokes second := by
  obtain ⟨added, same, each⟩ := grown
  rw [Platform.strokes, same, List.filterMap_append] at put
  exact ⟨added, same, each, List.append_cancel_left put ▸ List.Sublist.refl _⟩

theorem grown (painted : first.Painted strokes second) : first.Extends Event.IsDrawing second := by
  obtain ⟨added, same, each, -⟩ := painted
  exact ⟨added, same, each⟩

end Platform.Painted

namespace Act

/-- However it ends, the action puts no more than these strokes on the screen. -/
def Paints (strokes : List Stroke) (action : Act σ α) : Prop :=
  ∀ scene, action.Leads scene (fun _ after => scene.platform.Painted strokes after.platform)
    fun _ after => scene.platform.Painted strokes after.platform

/-- The action puts just these strokes on the screen, or no more than these if it fails. -/
def Puts (strokes : List Stroke) (action : Act σ α) : Prop :=
  ∀ scene, action.Leads scene
    (fun _ after => scene.platform.Extends Event.IsDrawing after.platform ∧
      after.platform.strokes = scene.platform.strokes ++ strokes)
    fun _ after => scene.platform.Painted strokes after.platform

namespace Puts

variable {strokes others : List Stroke} {action : Act σ α} {next : α → Act σ β}

theorem paints (puts : action.Puts strokes) : action.Paints strokes :=
  fun scene => (puts scene).mono (fun _ _ put => .of_put put.1 put.2) fun _ _ painted => painted

theorem of_setup (setup : action.Emits Event.IsSetup) : action.Puts [] := by
  refine fun scene => Leads.mono (setup scene) (fun _ after grown => ?_) fun _ _ grown => .of_setup grown
  refine ⟨grown.mono Event.IsSetup.isDrawing, ?_⟩
  rw [List.append_nil]
  exact grown.filterMap fun _ setup => setup.still

theorem emit {event : Event} {stroke : Stroke} (drawing : event.IsDrawing)
    (same : event.stroke? = some stroke) : (emit event : Act σ Unit).Puts [stroke] := by
  intro scene
  refine ⟨.record scene.platform drawing, ?_⟩
  unfold Platform.strokes Platform.record
  rw [Array.toList_push, List.filterMap_append, List.filterMap_cons_some same, List.filterMap_nil]

theorem refuse (cause : RenderError) : (refuse cause : Act σ α).Puts strokes :=
  fun scene => .of_setup (.refl scene.platform)

theorem bind (first : action.Puts strokes) (rest : ∀ value, (next value).Puts others) :
    (action >>= next).Puts (strokes ++ others) := by
  intro scene
  rw [leads_bind]
  refine (first scene).mono (fun value middle put => ?_) fun _ _ painted =>
    painted.mono (List.sublist_append_left _ _)
  obtain ⟨grown, early⟩ := put
  refine (rest value middle).mono (fun _ _ late => ⟨grown.trans late.1, ?_⟩) fun _ _ painted =>
    (Platform.Painted.of_put grown early).trans painted
  rw [late.2, early, List.append_assoc]

theorem after (first : action.Emits Event.IsSetup) (rest : ∀ value, (next value).Puts strokes) :
    (action >>= next).Puts strokes :=
  (of_setup first).bind rest

theorem before (first : action.Puts strokes) (rest : ∀ value, (next value).Emits Event.IsSetup) :
    (action >>= next).Puts strokes := by
  have puts := first.bind fun value => of_setup (rest value)
  rwa [List.append_nil] at puts

theorem within {part : τ} {put : τ → σ} {inner : Act τ α} (puts : inner.Puts strokes) :
    (within part put inner).Puts strokes := by
  intro scene
  rw [leads_within]
  exact puts ⟨part, scene.platform⟩

end Puts

namespace Paints

variable {strokes others : List Stroke} {action : Act σ α} {next : α → Act σ β}

theorem emits (paints : action.Paints strokes) : action.Emits Event.IsDrawing :=
  fun scene => (paints scene).mono (fun _ _ painted => painted.grown) fun _ _ painted =>
    painted.grown

theorem of_setup (setup : action.Emits Event.IsSetup) : action.Paints strokes :=
  fun scene => Leads.mono (setup scene) (fun _ _ grown => .of_setup grown) fun _ _ grown =>
    .of_setup grown

theorem bind (first : action.Paints strokes) (rest : ∀ value, (next value).Paints others) :
    (action >>= next).Paints (strokes ++ others) := by
  intro scene
  rw [leads_bind]
  refine (first scene).mono (fun value middle painted => ?_) fun _ _ painted =>
    painted.mono (List.sublist_append_left _ _)
  exact (rest value middle).mono (fun _ _ further => painted.trans further) fun _ _ further =>
    painted.trans further

theorem after (first : action.Emits Event.IsSetup) (rest : ∀ value, (next value).Paints strokes) :
    (action >>= next).Paints strokes := by
  have none : action.Paints [] := .of_setup first
  exact none.bind rest

theorem within {part : τ} {put : τ → σ} {inner : Act τ α} (paints : inner.Paints strokes) :
    (within part put inner).Paints strokes := by
  intro scene
  rw [leads_within]
  exact paints ⟨part, scene.platform⟩

end Paints
end Act

namespace Gpu
open Act

private theorem say_emits (call : Call) (still : (Event.gpu call).stroke? = none) :
    (say call : Act σ Unit).Emits Event.IsSetup :=
  .emit ⟨rfl, still⟩

private theorem newObject_emits : (newObject : Act σ Nat).Emits Event.IsSetup :=
  .bind .platform fun _ => .bind (.updatePlatform fun _ => .of_events_eq rfl) fun _ => .pure _

namespace Device

private theorem deliver_emits (e : DeviceError) : (deliver e).Emits Event.IsSetup := by
  refine .bind .own fun device => ?_
  cases catchIn e device.scopes with
  | some scopes => exact .setOwn _
  | none =>
    cases device.listener with
    | absent => exact .crash
    | installed pending => exact .bind (.notify ⟨rfl, rfl⟩) fun _ => .setOwn _

private theorem deliverAll_emits (due : List DeviceError) : (deliverAll due).Emits Event.IsSetup :=
  .listForM deliver_emits due

theorem reach_emits (point : String) : (reach point).Emits Event.IsSetup :=
  .bind .own fun _ => .bind .platform fun _ =>
    .bind (.updatePlatform fun _ => .of_events_eq rfl) fun _ => deliverAll_emits _

theorem make_emits (label : String) {call : Nat → Call}
    (still : ∀ object, (Event.gpu (call object)).stroke? = none) :
    (make label call).Emits Event.IsSetup :=
  .bind newObject_emits fun _ => .bind (say_emits _ (still _)) fun _ =>
    .bind (reach_emits _) fun _ => .pure _

private theorem pushScope_emits (filter : ErrorKind) : (pushScope filter).Emits Event.IsSetup :=
  .bind (say_emits _ rfl) fun _ => .update _

private theorem popScope_emits : popScope.Emits Event.IsSetup := by
  refine .bind (say_emits _ rfl) fun _ => .bind .own fun device => ?_
  cases device.scopes with
  | nil => exact .pure _
  | cons scope outer => exact .bind (.setOwn _) fun _ => .pure _

private theorem listen_emits : listen.Emits Event.IsSetup :=
  .bind (say_emits _ rfl) fun _ => .update _

theorem takePending_emits : takePending.Emits Event.IsSetup := by
  refine .bind .own fun device => ?_
  cases device.listener with
  | absent => exact .pure _
  | installed pending => exact .bind (.setOwn _) fun _ => .pure _

theorem configure_emits (config : SurfaceConfig) : (configure config).Emits Event.IsSetup :=
  .bind (say_emits _ rfl) fun _ => reach_emits _

theorem currentTexture_emits : currentTexture.Emits Event.IsSetup :=
  .bind .own fun _ => .bind .platform fun _ => .bind (.updatePlatform fun _ => .of_events_eq rfl) fun _ =>
    .bind (say_emits _ rfl) fun _ => .pure _

theorem shaderModule_emits (dialect : ShaderDialect) (stage : ShaderStage) :
    (shaderModule dialect stage).Emits Event.IsSetup :=
  make_emits _ fun _ => rfl

theorem groupLayouts_emits : groupLayouts.Emits Event.IsSetup :=
  .bind (make_emits _ fun _ => rfl) fun _ => .bind (make_emits _ fun _ => rfl) fun _ => .pure _

theorem renderPipeline_emits (choice : PipelineChoice) (modules : ShaderModules)
    (groups : GroupLayouts) : (renderPipeline choice modules groups).Emits Event.IsSetup :=
  .bind (make_emits _ fun _ => rfl) fun _ => make_emits _ fun _ => rfl

private theorem inScope_emits {action : Act Device α} {into : String → RenderError}
    (emits : action.Emits Event.IsSetup) : (inScope action into).Emits Event.IsSetup := by
  refine .bind (pushScope_emits _) fun _ => .bind emits fun _ => .bind popScope_emits fun caught => ?_
  cases caught with
  | none => exact .pure _
  | some e => exact .refuse _

private theorem validateShaders_emits (tier : Tier) (format : String) :
    (validateShaders tier format).Emits Event.IsSetup :=
  .bind (inScope_emits (shaderModule_emits _ _)) fun _ =>
    .bind (inScope_emits (shaderModule_emits _ _)) fun _ =>
      .bind (inScope_emits (.bind groupLayouts_emits fun _ => renderPipeline_emits _ _ _)) fun _ =>
        .notify ⟨rfl, rfl⟩

end Device

namespace Backend

theorem onDevice_emits {kind : Event → Prop} {action : Act Device α} (emits : action.Emits kind) :
    (onDevice action).Emits kind :=
  .bind .own fun _ => .within emits

theorem start_emits (tier : Tier) (config : SurfaceConfig) :
    (start tier config).Emits Event.IsSetup :=
  .bind Device.listen_emits fun _ => .bind .own fun _ => .pure _

theorem failOnPending_emits (into : String → RenderError) :
    (failOnPending into).Emits Event.IsSetup := by
  refine .bind (onDevice_emits Device.takePending_emits) fun pending => ?_
  cases pending with
  | none => exact .pure _
  | some reason => exact .refuse _

private theorem handOut_emits (id : ResourceId) (object : Nat) :
    (handOut id object).Emits Event.IsUpkeep :=
  .bind .own fun _ => .bind (.emit ⟨.inr rfl, rfl⟩) fun _ => .pure _

private theorem takeBack_emits (id : ResourceId) (stale : Bool) :
    (takeBack id stale).Emits Event.IsUpkeep :=
  .bind .own fun _ => .emit ⟨.inr rfl, rfl⟩

theorem find_emits (found : Option α) (cause : RenderError) :
    (find found cause).Emits Event.IsSetup := by
  cases found with
  | none => exact .refuse _
  | some object => exact .pure _

theorem makeBuffer_emits (desc : BufferDesc) : (makeBuffer desc).Emits Event.IsSetup :=
  .bind (onDevice_emits (Device.make_emits _ fun _ => rfl)) fun _ => .bind (failOnPending_emits _) fun _ =>
    .ite .crash (.bind (say_emits _ rfl) fun _ => .pure _)

theorem makeTexture_emits (desc : TextureDesc) : (makeTexture desc).Emits Event.IsSetup :=
  .bind (onDevice_emits (Device.make_emits _ fun _ => rfl)) fun _ => .bind newObject_emits fun _ =>
    .bind (say_emits _ rfl) fun _ => .bind (failOnPending_emits _) fun _ => .pure _

theorem makeSampler_emits (desc : SamplerDesc) : (makeSampler desc).Emits Event.IsSetup :=
  .bind (onDevice_emits (Device.make_emits _ fun _ => rfl)) fun _ => .bind (failOnPending_emits _) fun _ =>
    .pure _

private theorem compile_emits (stage : ShaderStage) : (compile stage).Emits Event.IsSetup :=
  .bind .own fun _ => .bind (onDevice_emits (Device.shaderModule_emits _ _)) fun _ =>
    .bind (failOnPending_emits _) fun _ => .pure _

theorem makePipeline_emits (desc : PipelineDesc) : (makePipeline desc).Emits Event.IsSetup :=
  .bind (compile_emits _) fun _ => .bind (compile_emits _) fun _ => .bind .own fun _ =>
    .bind (find_emits _ _) fun _ => .bind (find_emits _ _) fun _ => .bind (find_emits _ _) fun _ =>
      .bind (onDevice_emits Device.groupLayouts_emits) fun _ =>
        .bind (onDevice_emits (Device.make_emits _ fun _ => rfl)) fun _ =>
          .bind (onDevice_emits (Device.make_emits _ fun _ => rfl)) fun _ =>
            .bind (failOnPending_emits _) fun _ =>
              .bind (onDevice_emits (Device.renderPipeline_emits _ _ _)) fun _ =>
                .bind (failOnPending_emits _) fun _ => .bind (.notify ⟨rfl, rfl⟩) fun _ => .pure _

private theorem kept_emits {objects : Type} {make : Act Backend objects} (emits : make.Emits Event.IsSetup)
    (keep : objects → Backend → Backend) (id : Backend → ResourceId) (object : objects → Nat) :
    (do
      let made ← make
      let b ← Act.own
      Act.setOwn (keep made b)
      handOut (id b) (object made)).Emits Event.IsUpkeep :=
  .bind (emits.mono Event.IsSetup.isUpkeep) fun _ => .bind .own fun _ => .bind (.setOwn _)
    fun _ => handOut_emits _ _

private theorem createBuffer_emits (desc : BufferDesc) : (createBuffer desc).Emits Event.IsUpkeep :=
  kept_emits (makeBuffer_emits desc) (fun object b => { b with buffers := (b.buffers.insert object).2 })
    (fun b => .buffer b.buffers.next) id

private theorem createTexture_emits (desc : TextureDesc) : (createTexture desc).Emits Event.IsUpkeep :=
  kept_emits (makeTexture_emits desc)
    (fun objects b => { b with textures := (b.textures.insert objects).2 })
    (fun b => .texture b.textures.next) TextureObjects.texture

private theorem createSampler_emits (desc : SamplerDesc) : (createSampler desc).Emits Event.IsUpkeep :=
  kept_emits (makeSampler_emits desc)
    (fun object b => { b with samplers := (b.samplers.insert object).2 })
    (fun b => .sampler b.samplers.next) id

private theorem createPipeline_emits (desc : PipelineDesc) : (createPipeline desc).Emits Event.IsUpkeep :=
  kept_emits (makePipeline_emits desc)
    (fun objects b => { b with pipelines := (b.pipelines.insert objects).2 })
    (fun b => .pipeline b.pipelines.next) PipelineObjects.pipeline

theorem upload_puts (texture : Nat) (region : Region) (bytes : Bytes) :
    (upload texture region bytes).Puts [.upload] :=
  .after .own fun _ => .after (find_emits _ _) fun _ => .before (.emit rfl rfl) fun _ =>
    onDevice_emits (Device.reach_emits _)

theorem record_puts (draw : DrawObjects) : (record draw).Puts [.draw] :=
  .after newObject_emits fun _ => .after (say_emits _ rfl) fun _ => .after (say_emits _ rfl) fun _ =>
    .after (say_emits _ rfl) fun _ => .after .own fun _ => .after (say_emits _ rfl) fun _ =>
      .after (say_emits _ rfl) fun _ => .after (say_emits _ rfl) fun _ =>
        .after (say_emits _ rfl) fun _ => .after (say_emits _ rfl) fun _ =>
          .after (say_emits _ rfl) fun _ => .after (say_emits _ rfl) fun _ =>
            .before (.emit rfl rfl) fun _ => .bind (say_emits _ rfl) fun _ =>
              .bind (say_emits _ rfl) fun _ => .bind (onDevice_emits (Device.reach_emits _)) fun _ =>
                say_emits _ rfl

theorem submit_paints (call : DrawCall) : (submit call).Paints [.draw] := by
  refine .after (failOnPending_emits _) fun _ => .after .own fun _ => .after (find_emits _ _) fun _ =>
    .after (find_emits _ _) fun _ => .after (find_emits _ _) fun _ => .after (find_emits _ _) fun _ =>
      .after (onDevice_emits Device.currentTexture_emits) fun shown => ?_
  cases shown with
  | ready => exact (record_puts _).paints
  | timeout => exact .of_setup (.notify ⟨rfl, rfl⟩)
  | outdated =>
    refine .after (onDevice_emits (Device.configure_emits _)) fun _ =>
      .after (onDevice_emits Device.currentTexture_emits) fun again => ?_
    cases again with
    | ready => exact (record_puts _).paints
    | timeout | outdated | lost | outOfMemory | other => exact .of_setup (.refuse _)
  | lost | outOfMemory | other => exact .of_setup (.refuse _)

theorem resize_emits (size : Dims) : (resize size).Emits Event.IsSetup :=
  .bind .own fun _ => .bind (.setOwn _) fun _ => onDevice_emits (Device.configure_emits _)

private theorem release_emits (id : ResourceId) : (release id).Emits Event.IsUpkeep := by
  have destroyed {call : Call} (still : (Event.gpu call).stroke? = none) :
      (say call : Act Backend Unit).Emits Event.IsUpkeep :=
    (say_emits call still).mono Event.IsSetup.isUpkeep
  refine .bind .own fun b => ?_
  cases id with
  | buffer id =>
    exact .bind (.setOwn _) fun _ => .bind (takeBack_emits _ _) fun _ => .forM fun _ => destroyed rfl
  | texture id =>
    exact .bind (.setOwn _) fun _ => .bind (takeBack_emits _ _) fun _ => .forM fun _ => destroyed rfl
  | sampler id => exact .bind (.setOwn _) fun _ => takeBack_emits _ _
  | pipeline id => exact .bind (.setOwn _) fun _ => takeBack_emits _ _

end Backend

namespace Acquire

private theorem script_emits (tier : Tier) : (script tier : Act σ Script).Emits Event.IsSetup :=
  .bind .platform fun _ => .pure _

private theorem requestAdapter_emits (tier : Tier) (fallback withSurface : Bool) :
    (requestAdapter tier fallback withSurface : Act σ Bool).Emits Event.IsSetup :=
  .bind (say_emits _ rfl) fun _ => .bind .platform fun _ => .bind (.updatePlatform fun _ => .of_events_eq rfl) fun _ =>
    .pure _

private theorem announceAdapter_emits (tier : Tier) :
    (announceAdapter tier : Act σ Unit).Emits Event.IsSetup :=
  .bind (script_emits _) fun _ => .notify ⟨rfl, rfl⟩

private theorem requestDevice_emits (tier : Tier) (label : String) :
    (requestDevice tier label : Act σ Device).Emits Event.IsSetup := by
  refine .bind (script_emits _) fun given => .bind (say_emits _ rfl) fun _ => ?_
  cases given.deviceError with
  | some reason => exact .refuse _
  | none => exact .pure _

private theorem createSurface_emits (tier : Tier) :
    (createSurface tier : Act σ Unit).Emits Event.IsSetup := by
  refine .bind (say_emits _ rfl) fun _ => .bind (script_emits _) fun given => ?_
  cases given.surfaceError with
  | some reason => exact .refuse _
  | none => exact .pure _

private theorem surfaceConfig_emits (tier : Tier) :
    (surfaceConfig tier : Act σ SurfaceConfig).Emits Event.IsSetup := by
  refine .bind (say_emits _ rfl) fun _ => .bind (script_emits _) fun given => ?_
  cases chooseFormat given.formats with
  | none => exact .refuse _
  | some format => exact .bind .platform fun _ => .pure _

private theorem withDevice_emits {device : Device} {action : Act Device α}
    (emits : action.Emits Event.IsSetup) :
    (withDevice device action : Act σ α).Emits Event.IsSetup :=
  .bind (.apart emits) fun _ => .settle _

private theorem modern_emits : (modern : Act σ Backend).Emits Event.IsSetup :=
  .bind (say_emits _ rfl) fun _ => .bind (requestAdapter_emits _ _ _) fun _ =>
    .ite
      (.bind (announceAdapter_emits _) fun _ => .bind (requestDevice_emits _ _) fun _ =>
        withDevice_emits <| .bind (Device.validateShaders_emits _ _) fun _ =>
          .bind (createSurface_emits _) fun _ => .bind (surfaceConfig_emits _) fun _ =>
            .bind (Device.configure_emits _) fun _ => Backend.start_emits _ _)
      (.refuse _)

private theorem legacyAdapter_emits : (legacyAdapter : Act σ Bool).Emits Event.IsSetup :=
  .bind (requestAdapter_emits _ _ _) fun _ =>
    .ite (.pure _) (.bind (.notify ⟨rfl, rfl⟩) fun _ => requestAdapter_emits _ _ _)

private theorem legacy_emits : (legacy : Act σ Backend).Emits Event.IsSetup :=
  .bind (say_emits _ rfl) fun _ => .bind (createSurface_emits _) fun _ =>
    .bind legacyAdapter_emits fun _ =>
      .ite
        (.bind (announceAdapter_emits _) fun _ => .bind (requestDevice_emits _ _) fun _ =>
          withDevice_emits <| .bind (surfaceConfig_emits _) fun _ =>
            .bind (Device.validateShaders_emits _ _) fun _ =>
              .bind (Device.configure_emits _) fun _ => Backend.start_emits _ _)
        (.refuse _)

private theorem tier_emits (which : Tier) : (tier which : Act σ Backend).Emits Event.IsSetup := by
  cases which with
  | legacy => exact legacy_emits
  | modern | none => exact modern_emits

end Acquire
end Gpu

namespace Simulated
open Act

namespace Backend

theorem reportCall_emits {kind : Event → Prop} {call : TierCall}
    (allowed : ∀ tier, kind (.tier tier call)) : (reportCall call).Emits kind :=
  .bind .own fun _ => .emit (allowed _)

theorem reach_emits (point : String) : (reach point).Emits Event.IsSetup := by
  refine .bind .own fun b => .bind (.update _) fun _ => ?_
  cases b.faultAt point with
  | some cause => exact .refuse _
  | none => exact .pure _

theorem create_emits {call : TierCall} (label : String) (typed : Nat → ResourceId)
    (still : ∀ tier, (Event.tier tier call).stroke? = none) :
    (create call label typed).Emits Event.IsUpkeep :=
  .bind (reportCall_emits fun tier => ⟨.inl rfl, still tier⟩) fun _ =>
    .bind ((reach_emits _).mono Event.IsSetup.isUpkeep) fun _ => .bind .own fun _ =>
      .bind (.setOwn _) fun _ => .bind (.emit ⟨.inr rfl, rfl⟩) fun _ => .pure _

private theorem createBuffer_emits (desc : BufferDesc) : (createBuffer desc).Emits Event.IsUpkeep :=
  .bind .own fun _ => create_emits _ _ fun _ => rfl

theorem upload_puts (texture : Nat) (region : Region) (bytes : Bytes) :
    (upload texture region bytes).Puts [.upload] :=
  .before (.after .own fun _ => .emit rfl rfl) fun _ => reach_emits _

theorem submit_puts (call : DrawCall) : (submit call).Puts [.draw] :=
  .before (.after .own fun _ => .emit rfl rfl) fun _ => reach_emits _

private theorem release_emits (id : ResourceId) : (release id).Emits Event.IsUpkeep :=
  .bind .own fun _ => .bind (.setOwn _) fun _ =>
    .bind (reportCall_emits fun _ => ⟨.inl rfl, rfl⟩) fun _ => .emit ⟨.inr rfl, rfl⟩

private theorem drop_emits : drop.Emits Event.IsSetup :=
  .bind .own fun _ => reportCall_emits fun _ => ⟨rfl, rfl⟩

end Backend

theorem Probe.acquire_emits (probe : Probe) :
    (probe.acquire : Act σ _).Emits Event.IsSetup := by
  refine .bind (.emit ⟨rfl, rfl⟩) fun _ => ?_
  cases (probe.attempts[probe.uses]?).or probe.attempts.getLast? with
  | none => exact .pure _
  | some attempt => cases attempt <;> exact .pure _

end Simulated

namespace Backend
open Act

theorem run_emits {kind : Event → Prop} {simulated : Act Simulated.Backend α}
    {gpu : Act Gpu.Backend α} {otherwise : Act Backend α} (first : simulated.Emits kind)
    (second : gpu.Emits kind) (third : otherwise.Emits kind) :
    (run simulated gpu otherwise).Emits kind := by
  refine .bind .own fun backend => ?_
  cases backend with
  | null => exact third
  | simulated b => exact .within first
  | gpu b => exact .within second

private theorem createBuffer_emits (desc : BufferDesc) : (createBuffer desc).Emits Event.IsUpkeep :=
  run_emits (Simulated.Backend.createBuffer_emits _) (Gpu.Backend.createBuffer_emits _) (.refuse _)

private theorem createTexture_emits (desc : TextureDesc) : (createTexture desc).Emits Event.IsUpkeep :=
  run_emits (Simulated.Backend.create_emits _ _ fun _ => rfl) (Gpu.Backend.createTexture_emits _)
    (.refuse _)

private theorem createSampler_emits (desc : SamplerDesc) : (createSampler desc).Emits Event.IsUpkeep :=
  run_emits (Simulated.Backend.create_emits _ _ fun _ => rfl) (Gpu.Backend.createSampler_emits _)
    (.refuse _)

private theorem createPipeline_emits (desc : PipelineDesc) : (createPipeline desc).Emits Event.IsUpkeep :=
  run_emits (Simulated.Backend.create_emits _ _ fun _ => rfl) (Gpu.Backend.createPipeline_emits _)
    (.refuse _)

private theorem run_paints {strokes : List Stroke} {simulated : Act Simulated.Backend α}
    {gpu : Act Gpu.Backend α} {otherwise : Act Backend α} (first : simulated.Paints strokes)
    (second : gpu.Paints strokes) (third : otherwise.Paints strokes) :
    (run simulated gpu otherwise).Paints strokes := by
  refine .after .own fun backend => ?_
  cases backend with
  | null => exact third
  | simulated b => exact .within first
  | gpu b => exact .within second

theorem upload_paints (texture : Nat) (region : Region) (bytes : Bytes) :
    (upload texture region bytes).Paints [.upload] :=
  run_paints (Simulated.Backend.upload_puts _ _ _).paints (Gpu.Backend.upload_puts _ _ _).paints
    (.of_setup (.refuse _))

theorem submit_paints (call : DrawCall) : (submit call).Paints [.draw] :=
  run_paints (Simulated.Backend.submit_puts _).paints (Gpu.Backend.submit_paints _)
    (.of_setup (.refuse _))

theorem resize_emits (size : Dims) : (resize size).Emits Event.IsSetup :=
  run_emits (Simulated.Backend.reportCall_emits fun _ => ⟨rfl, rfl⟩) (Gpu.Backend.resize_emits _)
    (.pure _)

private theorem release_emits (id : ResourceId) : (release id).Emits Event.IsUpkeep :=
  run_emits (Simulated.Backend.release_emits _) (Gpu.Backend.release_emits _) (.pure _)

private theorem drop_emits {kind : Event → Prop} (drawing : ∀ event : Event, event.IsDrawing → kind event)
    (closed : ∀ tier, kind (.closed tier)) : drop.Emits kind := by
  refine .bind (run_emits (Simulated.Backend.drop_emits.mono fun event setup =>
    drawing event setup.drawing) (.pure _) (.pure _)) fun _ =>
    .bind .own fun backend => ?_
  cases backend with
  | null => exact .pure _
  | simulated b | gpu b => exact .emit (closed _)

end Backend

namespace Probe

theorem ask_emits (probe : Probe) : (probe.ask : Act σ _).Emits Event.IsSetup := by
  cases probe with
  | simulated probe => exact .bind probe.acquire_emits fun _ => .pure _
  | gpu tier => exact .bind (.attempt (Gpu.Acquire.tier_emits _)) fun _ => .pure _

theorem acquire_emits {kind : Event → Prop} (probe : Probe)
    (drawing : ∀ event : Event, event.IsDrawing → kind event) (opened : ∀ tier, kind (.opened tier)) :
    (probe.acquire : Act σ _).Emits kind := by
  refine .bind (probe.ask_emits.mono fun event setup => drawing event setup.drawing) fun asked => ?_
  rcases asked with ⟨_ | backend, again⟩
  · exact .pure _
  · exact .bind (.emit (opened _)) fun _ => .pure _

end Probe

namespace ResourceSet
open Act

private theorem releaseAll_emits (ids : List ResourceId) : (releaseAll ids).Emits Event.IsUpkeep :=
  .listForM Backend.release_emits ids

private theorem rollBack_emits (created : List ResourceId) : (rollBack created).Emits Event.IsUpkeep :=
  .ite (.bind .own fun _ => .bind (.notify ⟨.inl rfl, rfl⟩) fun _ => releaseAll_emits _) (releaseAll_emits _)

theorem step_emits {created : List ResourceId} {action : Act Backend Nat}
    (emits : action.Emits Event.IsUpkeep) : (step created action).Emits Event.IsUpkeep :=
  .onFailure emits (rollBack_emits _)

private theorem buffer_emits (label : String) (usage : BufferUsage) (contents : Bytes) :
    (buffer label usage contents).Emits Event.IsUpkeep :=
  .bind .own fun _ => .bind (.checked _) fun _ => Backend.createBuffer_emits _

theorem build_emits (dims : Dims) : (build dims).Emits Event.IsUpkeep :=
  .ite (.refuse _) <| .bind .own fun _ => .bind (step_emits (buffer_emits _ _ _)) fun _ =>
    .bind (step_emits (buffer_emits _ _ _)) fun _ => .bind (step_emits (buffer_emits _ _ _)) fun _ =>
      .bind (step_emits (buffer_emits _ _ _)) fun _ =>
        .bind (step_emits (Backend.createTexture_emits _)) fun _ =>
          .bind (step_emits (Backend.createSampler_emits _)) fun _ =>
            .bind (step_emits (Backend.createPipeline_emits _)) fun _ =>
              .bind (.notify ⟨.inl rfl, rfl⟩) fun _ => .pure _

end ResourceSet

namespace Renderer
open Act

theorem onBackend_emits {kind : Event → Prop} {action : Act Backend α} (emits : action.Emits kind) :
    (onBackend action).Emits kind :=
  .bind .own fun _ => .within emits

theorem build_emits {kind : Event → Prop} (rendering : ∀ event : Event, event.IsRendering → kind event)
    (closed : ∀ tier, kind (.closed tier)) (backend : Backend) (dims : Dims) :
    (build backend dims : Act σ Renderer).Emits kind := by
  have dropped := Backend.drop_emits (fun event drawing => rendering event drawing.isRendering) closed
  exact .bind (.apart (.onFailure ((ResourceSet.build_emits _).mono fun event upkeep =>
    rendering event upkeep.rendering) dropped)) fun _ =>
    .bind (.settle _) fun _ => .pure _

theorem submit_paints (pixels : Bytes) : (submit pixels).Paints [.upload, .draw] := by
  have onBackend {strokes : List Stroke} {action : Act Backend Unit} (paints : action.Paints strokes) :
      (onBackend action).Paints strokes := .after .own fun _ => .within paints
  refine .after .own fun r => ?_
  cases r.resources with
  | none => exact .of_setup (.refuse _)
  | some set =>
    simp only
    split
    · exact .bind (onBackend (Backend.upload_paints _ _ _)) fun _ =>
        onBackend (Backend.submit_paints _)
    · exact .of_setup (.refuse _)

theorem submit_emits (pixels : Bytes) : (submit pixels).Emits Event.IsDrawing :=
  (submit_paints pixels).emits

theorem resize_still (size : Dims) : (resize size).Emits Event.IsSetup :=
  onBackend_emits (Backend.resize_emits _)

theorem resize_emits (size : Dims) : (resize size).Emits Event.IsDrawing :=
  (resize_still size).mono Event.IsSetup.isDrawing

theorem teardown_still : teardown.Emits Event.IsUpkeep := by
  refine .bind .own fun r => ?_
  cases r.resources with
  | none => exact .pure _
  | some set =>
    exact .bind (.setOwn _) fun _ => onBackend_emits (ResourceSet.releaseAll_emits _)

theorem teardown_emits : teardown.Emits Event.IsRendering :=
  teardown_still.mono Event.IsUpkeep.isRendering

theorem rebuild_still (dims : Dims) : (rebuild dims).Emits Event.IsUpkeep :=
  .bind teardown_still fun _ => .bind (onBackend_emits (ResourceSet.build_emits _)) fun _ =>
    .update _

theorem rebuild_emits (dims : Dims) : (rebuild dims).Emits Event.IsRendering :=
  (rebuild_still dims).mono Event.IsUpkeep.isRendering

theorem close_emits {kind : Event → Prop} (rendering : ∀ event : Event, event.IsRendering → kind event)
    (closed : ∀ tier, kind (.closed tier)) : close.Emits kind :=
  .bind (teardown_emits.mono rendering) fun _ =>
    onBackend_emits (Backend.drop_emits (fun event drawing => rendering event drawing.isRendering) closed)

end Renderer

namespace Negotiator
open Act

private theorem isNegotiating_of_drawing (event : Event) (drawing : event.IsDrawing) :
    event.IsNegotiating :=
  .inl drawing.isRendering

private theorem tryProbe_emits (probe : Probe) (dims : Dims) :
    (tryProbe probe dims : Act σ _).Emits Event.IsNegotiating := by
  refine .bind (.notify (.inr rfl)) fun _ =>
    .bind (probe.acquire_emits isNegotiating_of_drawing fun _ => .inr rfl) fun acquired => ?_
  rcases acquired with ⟨_ | backend, rest⟩
  · exact .pure _
  · exact .bind (.attempt (Renderer.build_emits Event.IsRendering.isNegotiating
      (fun _ => .inr rfl) _ _)) fun _ => .pure _

private theorem tryProbes_emits (dims : Dims) (probes : List Probe) :
    (tryProbes dims probes : Act σ _).Emits Event.IsNegotiating := by
  induction probes with
  | nil => exact .pure _
  | cons probe rest ih =>
    refine .bind (tryProbe_emits _ _) fun tried => ?_
    rcases tried with ⟨_ | renderer, again⟩
    · exact .bind (.notify (.inr rfl)) fun _ => .bind ih fun _ => .pure _
    · exact .bind (.notify (.inr rfl)) fun _ => .pure _

private theorem retire_emits : retire.Emits Event.IsNegotiating := by
  refine .bind .own fun n => ?_
  cases n.active with
  | none => exact .pure _
  | some previous =>
    refine .bind (.setOwn _) fun _ => .bind (.notify (.inr rfl)) fun _ => .bind (.apart ?_) fun _ => .settle _
    exact Renderer.close_emits Event.IsRendering.isNegotiating fun _ => .inr rfl

theorem negotiate_emits (dims : Dims) : (negotiate dims).Emits Event.IsNegotiating := by
  refine .bind retire_emits fun _ => .bind .own fun _ => .bind (tryProbes_emits _ _) fun tried => ?_
  rcases tried with ⟨_ | renderer, probes⟩
  · exact .bind (.notify (.inr rfl)) fun _ => .bind (.setOwn _) fun _ => .refuse _
  · exact .setOwn _

end Negotiator
end FrameViewer
