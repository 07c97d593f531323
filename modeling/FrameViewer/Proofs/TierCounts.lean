import FrameViewer.Proofs.ResourceLifecycle

/-! How many tiers are open. An acquisition that works opens one, which has no objects yet; a drop
closes it. Whatever else is done with a tier leaves it open. -/

namespace FrameViewer
open Act

variable {σ α β : Type}

def Backend.tiers : Backend → Nat
  | null => 0
  | _ => 1

def Renderer.tiers (r : Renderer) : Nat :=
  r.backend.tiers

def Event.openAfter (before : Nat) : Event → Nat
  | opened _ => before + 1
  | closed _ => before - 1
  | _ => before

theorem Event.IsRendering.unnegotiated (event : Event) (rendering : event.IsRendering) :
    event.part ≠ .negotiation := by
  rcases rendering with part | part
  · rw [show event.part = .drawing from part]
    nofun
  · rw [part]
    nofun

def Platform.openTiers (platform : Platform) : Nat :=
  platform.events.toList.foldl Event.openAfter 0

namespace Platform

private theorem openTiers_record (platform : Platform) (event : Event) :
    (platform.record event).openTiers = event.openAfter platform.openTiers := by
  simp [openTiers, record]

@[simp] theorem openTiers_notice (platform : Platform) (notice : Notice) :
    (platform.record (.notice notice)).openTiers = platform.openTiers :=
  platform.openTiers_record _

theorem Extends.openTiers {before after : Platform} (grown : before.Extends (·.part ≠ .negotiation) after) :
    after.openTiers = before.openTiers := by
  obtain ⟨added, same, each⟩ := grown
  have still (count : Nat) : added.foldl Event.openAfter count = count := by
    clear same
    induction added with
    | nil => rfl
    | cons event rest ih =>
      have unmoved : event.openAfter count = count := by
        have elsewhere := each event List.mem_cons_self
        cases event with
        | opened _ | closed _ => exact absurd rfl elsewhere
        | _ => rfl
      rw [List.foldl_cons, unmoved]
      exact ih fun later member => each later (List.mem_cons_of_mem _ member)
  rw [Platform.openTiers, same, List.foldl_append, still]
  rfl

end Platform

namespace Backend

instance : Hearing (fun scene : Scene Backend => scene.own.tiers) .still where
  record _ _ _ := rfl

/-- However the action ends, there is a tier afterwards exactly when there was one before. -/
def Remains (action : Act Backend α) : Prop :=
  action.Respects (·.own.tiers) .still

namespace Remains

variable {action : Act Backend α}

theorem leads (remains : Remains action) (scene : Scene Backend) :
    action.Leads scene (fun _ after => after.own.tiers = scene.own.tiers)
      fun _ after => after.own.tiers = scene.own.tiers :=
  remains scene

theorem run {simulated : Act Simulated.Backend α} {gpu : Act Gpu.Backend α}
    {otherwise : Act Backend α} (remains : Remains otherwise) :
    Remains (run simulated gpu otherwise) := by
  intro scene
  obtain ⟨backend, platform⟩ := scene
  unfold Backend.run
  rw [leads_bind, leads_own]
  cases backend with
  | null => exact remains ⟨.null, platform⟩
  | simulated b | gpu b =>
    rw [leads_within]
    exact .of_forall (fun _ _ => rfl) fun _ _ => rfl

end Remains

private theorem drop_closes (scene : Scene Backend) :
    drop.Leads scene
      (fun _ after => after.platform.openTiers = scene.platform.openTiers - scene.own.tiers)
      fun _ _ => False := by
  obtain ⟨backend, platform⟩ := scene
  unfold drop run
  simp only [leads_bind, leads_own]
  cases backend with
  | null => rfl
  | simulated b =>
    simp only [leads_within, Simulated.Backend.drop, Simulated.Backend.reportCall, leads_bind,
      leads_own, leads_emit, Platform.openTiers_record, Event.openAfter, tiers]
  | gpu b =>
    simp only [leads_within, leads_pure, leads_emit, Platform.openTiers_record, Event.openAfter, tiers]

end Backend

namespace ResourceSet

private theorem releaseAll_remains (ids : List ResourceId) : Backend.Remains (releaseAll ids) :=
  .listForM (fun _ => Backend.Remains.run (.pure _)) ids

private theorem rollBack_remains (created : List ResourceId) : Backend.Remains (rollBack created) :=
  .ite (.bind .own fun _ => .bind (.notify trivial) fun _ => releaseAll_remains _) (releaseAll_remains _)

private theorem step_remains (created : List ResourceId) {action : Act Backend Nat}
    (remains : Backend.Remains action) : Backend.Remains (step created action) :=
  .onFailure remains (rollBack_remains created)

private theorem buffer_remains (label : String) (usage : BufferUsage) (contents : Bytes) :
    Backend.Remains (buffer label usage contents) :=
  .bind .own fun _ => .bind (.checked _) fun _ => Backend.Remains.run (.refuse _)

private theorem build_remains (dims : Dims) : Backend.Remains (build dims) := by
  refine .ite (.refuse _) (.bind .own fun _ => ?_)
  refine .bind (step_remains _ (buffer_remains _ _ _)) fun _ => ?_
  refine .bind (step_remains _ (buffer_remains _ _ _)) fun _ => ?_
  refine .bind (step_remains _ (buffer_remains _ _ _)) fun _ => ?_
  refine .bind (step_remains _ (buffer_remains _ _ _)) fun _ => ?_
  refine .bind (step_remains _ (Backend.Remains.run (.refuse _))) fun _ => ?_
  refine .bind (step_remains _ (Backend.Remains.run (.refuse _))) fun _ => ?_
  refine .bind (step_remains _ (Backend.Remains.run (.refuse _))) fun _ => ?_
  exact .bind (.notify trivial) fun _ => .pure _

end ResourceSet

namespace Renderer

/-- A build that works takes the tier over; one that fails drops it. -/
theorem build_opens (backend : Backend) (dims : Dims) (scene : Scene σ) :
    (build backend dims).Leads scene
      (fun r after => r.tiers = backend.tiers ∧ r.owned.length = 7 ∧
        after.platform.openTiers = scene.platform.openTiers)
      fun _ after => after.platform.openTiers = scene.platform.openTiers - backend.tiers := by
  unfold build
  simp only [leads_bind, leads_apart, leads_onFailure, leads_settle]
  have built := ((ResourceSet.build_remains dims).leads ⟨backend, scene.platform⟩).and
    ((ResourceSet.build_emits dims).mono Event.IsUpkeep.isRendering ⟨backend, scene.platform⟩)
  refine built.mono ?_ ?_
  · intro set after ⟨same, grown⟩
    exact ⟨same, rfl, (grown.mono Event.IsRendering.unnegotiated).openTiers⟩
  · intro failure after ⟨same, grown⟩
    refine (Backend.drop_closes after).mono ?_ fun _ _ impossible => impossible.elim
    intro _ last closed
    rw [closed, same, (grown.mono Event.IsRendering.unnegotiated).openTiers]

private theorem teardown_remains (scene : Scene Renderer) :
    teardown.Leads scene (fun _ after => after.own.tiers = scene.own.tiers)
      fun _ after => after.own.tiers = scene.own.tiers := by
  unfold teardown
  simp only [leads_bind, leads_own]
  cases scene.own.resources with
  | none => rfl
  | some set =>
    simp only [onBackend, leads_bind, leads_setOwn, leads_own, leads_within]
    exact (ResourceSet.releaseAll_remains set.ids).leads ⟨scene.own.backend, scene.platform⟩

theorem close_closes {audit : Audit} {scene : Scene Renderer} (accounted : Accounted audit scene) :
    close.Leads scene
      (fun _ after => after.platform.openTiers = scene.platform.openTiers - scene.own.tiers)
      fun _ _ => False := by
  unfold close
  rw [leads_bind]
  have torn := ((teardown_remains scene).and (teardown_emits scene)).and (teardown_accounted accounted)
  refine torn.mono ?_ fun _ _ all => all.2
  intro _ torn ⟨⟨same, grown⟩, _⟩
  simp only [onBackend, leads_bind, leads_own, leads_within]
  refine (Backend.drop_closes _).mono ?_ fun _ _ impossible => impossible
  intro _ last closed
  rw [closed, (grown.mono Event.IsRendering.unnegotiated).openTiers, ← same]
  rfl

end Renderer

namespace Act

def Yields (Good : α → Prop) (action : Act σ α) : Prop :=
  ∀ scene, action.Leads scene (fun value _ => Good value) fun _ _ => True

namespace Yields

variable {Good : α → Prop}

theorem pure {value : α} (good : Good value) : Yields Good (pure value : Act σ α) :=
  fun _ => good

theorem refuse (cause : RenderError) : Yields Good (refuse cause : Act σ α) :=
  fun _ => trivial

theorem bind {action : Act σ β} {next : β → Act σ α} (rest : ∀ value, Yields Good (next value)) :
    Yields Good (action >>= next) := by
  intro scene
  rw [leads_bind]
  exact .of_forall (fun value after => rest value after) fun _ _ => trivial

theorem ite {condition : Prop} [Decidable condition] {first second : Act σ α}
    (positive : Yields Good first) (negative : Yields Good second) :
    Yields Good (if condition then first else second) := by
  split <;> assumption

end Yields
end Act

namespace Gpu

private theorem Acquire.withDevice_yields {Good : α → Prop} {action : Act Device α} (device : Device)
    (yields : Yields Good action) : Yields Good (withDevice device action : Act σ α) := by
  intro scene
  unfold withDevice
  simp only [leads_bind, leads_apart, leads_settle]
  exact (yields _).mono (fun _ _ good => good) fun _ _ _ => trivial

private theorem Backend.start_yields (tier : Tier) (config : SurfaceConfig) :
    Yields (fun b => b.live = 0) (start tier config) :=
  .bind fun _ => .bind fun _ => .pure rfl

/-- A tier starts without objects. -/
private theorem Acquire.tier_yields (tier : Tier) :
    Yields (fun b => b.live = 0) (Acquire.tier tier : Act σ Backend) := by
  have modern : Yields (fun b => b.live = 0) (Acquire.modern : Act σ Backend) := by
    refine .bind fun _ => .bind fun found => .ite (.bind fun _ => .bind fun device => ?_) (.refuse _)
    apply withDevice_yields
    exact .bind fun _ => .bind fun _ => .bind fun _ => .bind fun _ => Backend.start_yields _ _
  cases tier with
  | legacy =>
    refine .bind fun _ => .bind fun _ => .bind fun found =>
      .ite (.bind fun _ => .bind fun device => ?_) (.refuse _)
    apply withDevice_yields
    exact .bind fun _ => .bind fun _ => .bind fun _ => Backend.start_yields _ _
  | _ => exact modern

end Gpu

namespace Probe

private theorem ask_leads (probe : Probe) (scene : Scene σ) :
    probe.ask.Leads scene
      (fun found _ => ∀ backend, found.1 = .ok backend → backend.tiers = 1 ∧ backend.live = 0)
      fun failure _ => failure = .crashed := by
  cases probe with
  | simulated probe =>
    simp only [ask, Simulated.Probe.acquire, leads_bind, leads_emit]
    cases (probe.attempts[probe.uses]?).or probe.attempts.getLast? with
    | none =>
      rintro _ ⟨⟩
      exact ⟨rfl, rfl⟩
    | some attempt =>
      cases attempt with
      | fails cause => exact nofun
      | gives script =>
        rintro _ ⟨⟩
        exact ⟨rfl, rfl⟩
  | gpu tier =>
    simp only [ask, leads_bind, leads_attempt]
    refine (Gpu.Acquire.tier_yields tier scene).mono ?_ fun failure _ _ => ?_
    · rintro b _ bare _ ⟨⟩
      exact ⟨rfl, bare⟩
    · cases failure with
      | refused cause => exact nofun
      | crashed => trivial

/-- An acquisition that works opens a tier without objects; one that fails opens none. -/
theorem acquire_opens (probe : Probe) (scene : Scene σ) :
    probe.acquire.Leads scene
      (fun found after => match found.1 with
        | .ok backend => backend.tiers = 1 ∧ backend.live = 0 ∧
            after.platform.openTiers = scene.platform.openTiers + 1
        | .error _ => after.platform.openTiers = scene.platform.openTiers)
      fun failure after => failure = .crashed ∧
        after.platform.openTiers = scene.platform.openTiers := by
  unfold acquire
  rw [leads_bind]
  refine ((probe.ask_leads scene).and (probe.ask_emits.mono Event.IsSetup.isDrawing scene)).mono ?_ ?_
  · intro found middle ⟨fresh, grown⟩
    have same := ((grown.mono Event.IsDrawing.isRendering).mono Event.IsRendering.unnegotiated).openTiers
    rcases found with ⟨cause | backend, next⟩
    · exact same
    · obtain ⟨open_, bare⟩ := fresh backend rfl
      simp only [leads_bind, leads_emit, leads_pure]
      refine ⟨open_, bare, ?_⟩
      rw [Platform.openTiers_record, same]
      rfl
  · intro failure middle ⟨crashed, grown⟩
    exact ⟨crashed, ((grown.mono Event.IsDrawing.isRendering).mono Event.IsRendering.unnegotiated).openTiers⟩

end Probe
end FrameViewer
