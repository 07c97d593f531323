import FrameViewer.Proofs.DrawingReports

/-! What a report shows and sounds: the frames that were uploaded and the beeps that were due, in
order. A frame that is submitted is uploaded once, and drawn once unless the surface has timed out;
nothing else that a renderer does without building anew uploads or sounds. -/

namespace FrameViewer
open Act

/-- What somebody in front of the viewer gets to see or to hear. -/
inductive Mark where
  | frame (shown : Framebuffer)
  | cue

def Event.mark? : Event → Option Mark
  | .tier _ (.upload _ region bytes) | gpu (.writeTexture _ region bytes) =>
    some (.frame ⟨region.dims, bytes⟩)
  | cued => some .cue
  | _ => none

def Platform.marks (platform : Platform) : List Mark :=
  platform.events.toList.filterMap Event.mark?

def Event.IsUnmarked (event : Event) : Prop :=
  event.mark? = none

theorem Platform.Extends.marks {before after : Platform}
    (grown : before.Extends Event.IsUnmarked after) : after.marks = before.marks :=
  grown.filterMap fun _ unmarked => unmarked

theorem Platform.marks_record (platform : Platform) (event : Event) :
    (platform.record event).marks = platform.marks ++ event.mark?.toList := by
  unfold marks record
  rw [Array.toList_push, List.filterMap_append]
  cases same : event.mark? with
  | none => rw [List.filterMap_cons_none same, List.filterMap_nil, Option.toList_none]
  | some mark => rw [List.filterMap_cons_some same, List.filterMap_nil, Option.toList_some]

variable {σ τ α β : Type}

/-- Where the action ends with a value, those marks have come to what is read of the report. -/
def Act.Adds {μ : Type} (read : Event → Option μ) (marks : List μ) (action : Act σ α) : Prop :=
  ∀ scene, action.Leads scene
    (fun _ after => after.platform.events.toList.filterMap read =
      scene.platform.events.toList.filterMap read ++ marks)
    fun _ _ => True

namespace Act.Adds

variable {μ : Type} {read : Event → Option μ} {marks : List μ} {action : Act σ α} {next : α → Act σ β}

theorem emit {event : Event} {mark : μ} (same : read event = some mark) :
    (emit event : Act σ Unit).Adds read [mark] := by
  intro scene
  rw [leads_emit, Platform.record, Array.toList_push, List.filterMap_append,
    List.filterMap_cons_some same, List.filterMap_nil]

theorem refuse (cause : RenderError) : (refuse cause : Act σ α).Adds read marks :=
  fun _ => trivial

theorem after (first : action.Emits fun event => read event = none)
    (rest : ∀ value, (next value).Adds read marks) : (action >>= next).Adds read marks := by
  intro scene
  rw [leads_bind]
  refine Leads.mono (first scene) (fun value middle grown => ?_) fun _ _ _ => trivial
  simpa only [grown.filterMap fun _ unread => unread] using rest value middle

theorem before (first : action.Adds read marks)
    (rest : ∀ value, (next value).Emits fun event => read event = none) :
    (action >>= next).Adds read marks := by
  intro scene
  rw [leads_bind]
  refine (first scene).mono (fun value middle added => ?_) fun _ _ _ => trivial
  refine Leads.mono (rest value middle) (fun _ _ grown => ?_) fun _ _ _ => trivial
  rw [grown.filterMap fun _ unread => unread, added]

theorem within {part : τ} {put : τ → σ} {inner : Act τ α} (adds : inner.Adds read marks) :
    (within part put inner).Adds read marks := by
  intro scene
  rw [leads_within]
  exact adds ⟨part, scene.platform⟩

end Act.Adds

namespace Event

/-- Of what is drawn, only an upload shows anything. -/
theorem isUnmarked_of_stroke {event : Event} (rendering : event.IsRendering)
    (other : event.stroke? ≠ some .upload) : event.IsUnmarked := by
  cases event with
  | tier kind call =>
    cases call with
    | upload texture region bytes => exact absurd rfl other
    | _ => rfl
  | gpu call =>
    cases call with
    | writeTexture object region bytes => exact absurd rfl other
    | _ => rfl
  | cued => rcases rendering with part | part <;> nomatch part
  | _ => rfl

private theorem IsSetup.isUnmarked (event : Event) (setup : event.IsSetup) : event.IsUnmarked :=
  isUnmarked_of_stroke (.inl setup.drawing) (setup.still ▸ nofun)

private theorem IsUpkeep.isUnmarked (event : Event) (upkeep : event.IsUpkeep) : event.IsUnmarked :=
  isUnmarked_of_stroke upkeep.rendering (upkeep.still ▸ nofun)

end Event

theorem Act.Paints.unmarked {action : Act σ α} (paints : action.Paints [.draw]) :
    action.Emits Event.IsUnmarked := by
  have each {before after : Platform} (painted : before.Painted [.draw] after) :
      before.Extends Event.IsUnmarked after := by
    obtain ⟨added, same, drawing, few⟩ := painted
    refine ⟨added, same, fun event member => ?_⟩
    refine Event.isUnmarked_of_stroke (.inl (drawing event member)) fun upload => ?_
    have among := few.subset (List.mem_filterMap.mpr ⟨event, member, upload⟩)
    exact absurd (List.mem_singleton.mp among) nofun
  exact fun scene => (paints scene).mono (fun _ _ => each) fun _ _ => each

private theorem Gpu.Backend.upload_adds (texture : Nat) (region : Region) (bytes : Bytes) :
    (upload texture region bytes).Adds Event.mark? [.frame ⟨region.dims, bytes⟩] :=
  .after .own fun _ => .after ((find_emits _ _).mono Event.IsSetup.isUnmarked) fun _ =>
    .before (.emit rfl) fun _ => onDevice_emits ((Device.reach_emits _).mono Event.IsSetup.isUnmarked)

private theorem Simulated.Backend.upload_adds (texture : Nat) (region : Region) (bytes : Bytes) :
    (upload texture region bytes).Adds Event.mark? [.frame ⟨region.dims, bytes⟩] :=
  .before (.after .own fun _ => .emit rfl) fun _ => (reach_emits _).mono Event.IsSetup.isUnmarked

private theorem Backend.upload_adds (texture : Nat) (region : Region) (bytes : Bytes) :
    (upload texture region bytes).Adds Event.mark? [.frame ⟨region.dims, bytes⟩] := by
  refine .after .own fun backend => ?_
  cases backend with
  | null => exact .refuse _
  | simulated b => exact .within (Simulated.Backend.upload_adds _ _ _)
  | gpu b => exact .within (Gpu.Backend.upload_adds _ _ _)

namespace Platform

/-- What came to the report put those strokes on the screen and then drew once. If the surface had
timed out it did not draw. -/
def Draws (strokes : List Stroke) (before after : Platform) : Prop :=
  ∃ added, after.events.toList = before.events.toList ++ added ∧
    (added.filterMap Event.stroke? = strokes ++ [.draw] ∨
      added.filterMap Event.stroke? = strokes ∧ Event.gpu (.currentTexture .timeout) ∈ added)

/-- A frame was uploaded once and then drawn once. If the surface had timed out it was not drawn. -/
def Displays (before after : Platform) : Prop :=
  before.Draws [.upload] after

namespace Draws

variable {kind : Event → Prop} {early strokes : List Stroke} {first second third : Platform}

private theorem of_strokes (grown : first.Extends kind second)
    (put : second.strokes = first.strokes ++ (strokes ++ [.draw])) : first.Draws strokes second := by
  obtain ⟨added, same, _⟩ := grown
  rw [Platform.strokes, same, List.filterMap_append] at put
  exact ⟨added, same, .inl (List.append_cancel_left put)⟩

theorem after (grown : first.Extends kind second) (put : second.strokes = first.strokes ++ early)
    (draws : second.Draws strokes third) : first.Draws (early ++ strokes) third := by
  obtain ⟨added, same, _⟩ := grown
  obtain ⟨more, further, drawn⟩ := draws
  rw [Platform.strokes, same, List.filterMap_append] at put
  have sooner : added.filterMap Event.stroke? = early := List.append_cancel_left put
  refine ⟨added ++ more, by rw [further, same, List.append_assoc], ?_⟩
  rw [List.filterMap_append, sooner]
  rcases drawn with drawn | ⟨still, missed⟩
  · exact .inl (by rw [drawn, List.append_assoc])
  · exact .inr ⟨by rw [still], List.mem_append_right _ missed⟩

theorem record (draws : first.Draws strokes second) {event : Event} (still : event.stroke? = none) :
    first.Draws strokes (second.record event) := by
  obtain ⟨added, same, drawn⟩ := draws
  refine ⟨added ++ [event], by simp [Platform.record, same], ?_⟩
  rw [List.filterMap_append, List.filterMap_cons_none still, List.filterMap_nil, List.append_nil]
  exact drawn.imp_right fun missed => ⟨missed.1, List.mem_append_left _ missed.2⟩

end Draws
end Platform

/-- Where the action ends with a value, it has drawn once, unless the surface had timed out. -/
def Act.Draws (strokes : List Stroke) (action : Act σ α) : Prop :=
  ∀ scene, action.Leads scene (fun _ after => scene.platform.Draws strokes after.platform)
    fun _ _ => True

namespace Act.Draws

variable {early strokes : List Stroke} {action : Act σ α} {next : α → Act σ β}

private theorem of_puts (puts : action.Puts [.draw]) : action.Draws [] := by
  intro scene
  refine (puts scene).mono (fun _ _ put => ?_) fun _ _ _ => trivial
  exact .of_strokes put.1 put.2

theorem refuse (cause : RenderError) : (refuse cause : Act σ α).Draws strokes :=
  fun _ => trivial

theorem bind (first : action.Puts early) (rest : ∀ value, (next value).Draws strokes) :
    (action >>= next).Draws (early ++ strokes) := by
  intro scene
  rw [leads_bind]
  refine (first scene).mono (fun value middle put => ?_) fun _ _ _ => trivial
  exact (rest value middle).mono (fun _ _ drawn => drawn.after put.1 put.2) fun _ _ _ => trivial

theorem after (first : action.Emits Event.IsSetup) (rest : ∀ value, (next value).Draws strokes) :
    (action >>= next).Draws strokes :=
  bind (.of_setup first) rest

theorem within {part : τ} {put : τ → σ} {inner : Act τ α} (draws : inner.Draws strokes) :
    (within part put inner).Draws strokes := by
  intro scene
  rw [leads_within]
  exact draws ⟨part, scene.platform⟩

end Act.Draws

namespace Gpu

/-- Asking the surface for its next texture puts nothing on the screen, and reports the answer. -/
private theorem Device.currentTexture_tells (scene : Scene Device) :
    currentTexture.Leads scene
      (fun result after => ∃ added,
        after.platform.events.toList = scene.platform.events.toList ++ added ∧
        added.filterMap Event.stroke? = [] ∧ Event.gpu (.currentTexture result) ∈ added)
      fun _ _ => False := by
  simp only [currentTexture, say, leads_bind, leads_own, leads_platform, leads_updatePlatform,
    leads_emit, leads_pure]
  exact ⟨[_], by simp [Platform.record], rfl, List.mem_singleton_self _⟩

private theorem Backend.submit_draws (call : DrawCall) : (submit call).Draws [] := by
  have recorded (draw : DrawObjects) : (record draw).Draws [] := .of_puts (record_puts draw)
  refine .after (failOnPending_emits _) fun _ => .after .own fun _ => .after (find_emits _ _) fun _ =>
    .after (find_emits _ _) fun _ => .after (find_emits _ _) fun _ => .after (find_emits _ _) fun _ => ?_
  intro scene
  rw [onDevice, leads_bind, leads_bind, leads_own, leads_within]
  refine (Device.currentTexture_tells ⟨scene.own.device, scene.platform⟩).mono ?_ nofun
  intro result middle told
  obtain ⟨added, same, still, answered⟩ := told
  have later {action : Act Backend Unit} (own : Backend) (draws : action.Draws []) :
      action.Leads ⟨own, middle.platform⟩ (fun _ after => scene.platform.Draws [] after.platform)
        fun _ _ => True := by
    refine (draws ⟨own, middle.platform⟩).mono (fun _ _ drawn => ?_) fun _ _ _ => trivial
    have grown : scene.platform.Extends (fun _ => True) middle.platform :=
      ⟨added, same, fun _ _ => trivial⟩
    exact drawn.after grown (by rw [Platform.strokes, same, List.filterMap_append, still]; rfl)
  cases result with
  | ready => exact later _ (recorded _)
  | timeout =>
    have missed : scene.platform.Draws [] middle.platform := ⟨added, same, .inr ⟨still, answered⟩⟩
    exact missed.record rfl
  | outdated =>
    refine later _ (.after (onDevice_emits (Device.configure_emits _)) fun _ =>
      .after (onDevice_emits Device.currentTexture_emits) fun again => ?_)
    cases again with
    | ready => exact recorded _
    | timeout | outdated | lost | outOfMemory | other => exact .refuse _
  | lost | outOfMemory | other => exact later _ (.refuse _)

end Gpu

namespace Backend

theorem upload_puts (texture : Nat) (region : Region) (bytes : Bytes) :
    (upload texture region bytes).Puts [.upload] := by
  refine .after .own fun backend => ?_
  cases backend with
  | null => exact .refuse _
  | simulated b => exact .within (Simulated.Backend.upload_puts _ _ _)
  | gpu b => exact .within (Gpu.Backend.upload_puts _ _ _)

private theorem submit_draws (call : DrawCall) : (submit call).Draws [] := by
  refine .after .own fun backend => ?_
  cases backend with
  | null => exact .refuse _
  | simulated b => exact .within (.of_puts (Simulated.Backend.submit_puts call))
  | gpu b => exact .within (Gpu.Backend.submit_draws call)

end Backend

namespace ResourceSet

/-- What the tier is asked for to show one frame. -/
def submit (set : ResourceSet) (pixels : Bytes) : Act Backend Unit := do
  Backend.upload set.texture set.region pixels
  Backend.submit set.drawCall

/-- A frame that the tier takes is uploaded once and drawn once, unless the surface has timed out. -/
theorem submit_displays (set : ResourceSet) (pixels : Bytes) (scene : Scene Backend) :
    (set.submit pixels).Leads scene (fun _ after => scene.platform.Displays after.platform)
      fun _ _ => True :=
  Draws.bind (Backend.upload_puts _ _ _) (fun _ => Backend.submit_draws _) scene

end ResourceSet

namespace Renderer

/-- A frame that is taken is uploaded once, at the dimensions of the resources. -/
theorem submit_adds (pixels : Bytes) (scene : Scene Renderer) :
    (submit pixels).Leads scene
      (fun _ after => ∃ set, scene.own.resources = some set ∧
        after.platform.marks = scene.platform.marks ++ [.frame ⟨set.dims, pixels⟩])
      fun _ _ => True := by
  unfold submit
  simp only [leads_bind, leads_own]
  cases built : scene.own.resources with
  | none => trivial
  | some set =>
    simp only
    split
    · have uploaded : (do
          onBackend (Backend.upload set.texture set.region pixels)
          onBackend (Backend.submit set.drawCall)).Adds Event.mark? [.frame ⟨set.dims, pixels⟩] :=
        .before (.after .own fun _ => .within (Backend.upload_adds _ _ _)) fun _ =>
          onBackend_emits (Backend.submit_paints _).unmarked
      exact (uploaded scene).mono (fun _ _ added => ⟨set, rfl, added⟩) fun _ _ _ => trivial
    · trivial

theorem resize_unmarked (size : Dims) : (resize size).Emits Event.IsUnmarked :=
  (resize_still size).mono Event.IsSetup.isUnmarked

theorem teardown_unmarked : teardown.Emits Event.IsUnmarked :=
  teardown_still.mono Event.IsUpkeep.isUnmarked

end Renderer
end FrameViewer
