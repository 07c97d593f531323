import FrameViewer.Proofs.TierNegotiation
import FrameViewer.Proofs.TierSoundness
import FrameViewer.Proofs.TierVerdicts

/-! The memory behind a renderer over its whole life. It is registered when it is created, destroyed
once and at the latest when the renderer ends, and no call reaches it afterwards. -/

namespace FrameViewer
open Act

namespace Gpu

/-- No call of the report reaches memory that was destroyed before it. Memory is destroyed when it
is registered, and was not destroyed before. -/
structure Lineage.Guarded (log : List Event) : Prop where
  unreached : ∀ early between call late memory, log = early ++ between ++ .gpu call :: late →
    memory ∈ (Lineage.read {} early).destroyed → memory ∉ (Lineage.read {} (early ++ between)).reach call
  once : ∀ early call late memory, log = early ++ .gpu call :: late → memory ∈ call.destroys →
    memory ∈ (Lineage.read {} early).registered ∧ memory ∉ (Lineage.read {} early).destroyed

/-- What was reported since `base` is guarded. -/
def Guarded (base platform : Platform) : Prop :=
  ∃ log, platform.events.toList = base.events.toList ++ log ∧ Lineage.Guarded log

/-- Besides, all that was registered was destroyed exactly once. -/
def Spent (base platform : Platform) : Prop :=
  ∃ log, platform.events.toList = base.events.toList ++ log ∧ Lineage.Guarded log ∧
    ∀ memory ∈ (Lineage.read {} log).registered, (Lineage.read {} log).destroyed.count memory = 1

variable {base platform : Platform} {lineage : Lineage}

theorem Traced.guarded (traced : Traced base lineage platform) :
    ∃ log, platform.events.toList = base.events.toList ++ log ∧ Lineage.Guarded log ∧
      Lineage.read {} log = lineage := by
  obtain ⟨log, same, inOrder, rfl⟩ := traced
  refine ⟨log, same, ⟨?_, ?_⟩, rfl⟩
  · rintro early between call late memory rfl gone
    exact inOrder.unreached gone
  · rintro early call late memory rfl destroys
    exact (Lineage.inOrder_append.mp inOrder).2.1.2 memory destroys

/-- When the tier holds no memory any more, all was destroyed. -/
private theorem Traced.spent (traced : Traced base lineage platform)
    (accounts : Lineage.Accounts lineage.registered lineage.destroyed []) : Spent base platform := by
  obtain ⟨log, same, guarded, rfl⟩ := traced.guarded
  refine ⟨log, same, guarded, fun memory registered => ?_⟩
  have count := accounts.balance.count_eq memory
  rw [List.append_nil] at count
  rw [← count]
  exact List.count_eq_one_of_mem accounts.distinct registered

namespace Backend

variable {api : Api} {b : Backend}

/-- An upload into a texture that the tier has does not fail. -/
theorem upload_unfailing {texture : Nat} (region : Region) (bytes : Bytes)
    (there : b.textures.get? texture ≠ none) (attentive : Attentive api ⟨b, platform⟩) :
    (upload texture region bytes).Leads ⟨b, platform⟩
      (fun _ after => Attentive api after ∧ ∃ device, after.own = { b with device })
      fun _ _ => False := by
  obtain ⟨waiting, at_, raised⟩ := attentive
  have leaves : Leaves b.On (fun _ => False) (upload texture region bytes) :=
    upload_leaves texture region bytes fun gone => there gone
  refine Leads.mono (leaves.leads (.of_device_eq at_)) ?_ ?_
  · exact fun _ after ⟨_, used, now⟩ => ⟨.after raised used now.device_eq, _, now⟩
  · exact fun _ _ impossible => impossible.1

/-- A draw with what the tier has is refused only for its device or its surface. -/
private theorem submit_refusals {call : DrawCall} (serves : b.Serves call)
    (attentive : Attentive api ⟨b, platform⟩) :
    (submit call).Leads ⟨b, platform⟩ (fun _ _ => True) fun failure after =>
      (∃ e ∈ after.platform.gpu.raised api, failure = .refused (.lost e.text)) ∨
        ∃ trouble : FrameResult, failure = .refused (.lost trouble.reason) := by
  obtain ⟨waiting, at_, raised⟩ := attentive
  apply (submit_leads (fun failure => ∃ trouble : FrameResult, failure = .refused (.lost trouble.reason))
    call (fun _ lacks => absurd serves lacks) (fun trouble => ⟨trouble, rfl⟩) (.of_device_eq at_)).mono
  · exact fun _ _ _ => trivial
  · intro failure after told
    cases waiting with
    | nil => exact .inr told.1
    | cons first rest =>
      obtain ⟨rfl, same, _⟩ := told
      rw [same]
      exact .inl ⟨first, raised List.mem_cons_self, rfl⟩

end Backend
end Gpu

namespace Renderer

variable {start : Platform} {api : Gpu.Api} {scene : Scene Renderer}

/-- The tier is steady, with the pipeline of the renderer's resources and no other. -/
def Steady (start : Platform) (api : Gpu.Api) (scene : Scene Renderer) : Prop :=
  Backend.Steady start api (scene.own.resources.map ResourceSet.pipeline).toList
    ⟨scene.own.backend, scene.platform⟩

/-- What leaves the pipelines alone may be done on the tier at any time. -/
theorem onBackend_steady {α : Type} {action : Act Backend α}
    (carries : ∀ pipelines, Carries (Backend.Steady start api pipelines)
      (fun _ => Backend.Steady start api pipelines) action) :
    Carries (Steady start api) (fun _ => Steady start api) (onBackend action) := by
  intro scene steady
  rw [onBackend, leads_bind, leads_own, leads_within]
  exact carries _ ⟨scene.own.backend, scene.platform⟩ steady

theorem submit_steady (pixels : Bytes) :
    Carries (Steady start api) (fun _ => Steady start api) (submit pixels) := by
  apply Carries.own
  intro r
  cases r.resources with
  | none => exact .refuse _
  | some set =>
    simp only
    split
    · apply Carries.bind
      · exact onBackend_steady fun _ => Backend.run_steady (Gpu.Backend.upload_steady _ _ _)
      · exact fun _ => onBackend_steady fun _ => Backend.run_steady (Gpu.Backend.submit_steady _)
    · exact .refuse _

theorem resize_steady (size : Dims) :
    Carries (Steady start api) (fun _ => Steady start api) (resize size) :=
  onBackend_steady fun _ => Backend.run_steady (Gpu.Backend.resize_steady _)

private theorem teardown_steady (steady : Steady start api scene) :
    teardown.Leads scene (fun _ after => Steady start api after ∧ after.own.resources = none)
      fun _ _ => False := by
  rw [teardown, leads_bind, leads_own]
  cases built : scene.own.resources with
  | none => exact ⟨steady, built⟩
  | some set =>
    have piped : Backend.Steady start api [set.pipeline] ⟨scene.own.backend, scene.platform⟩ := by
      simpa [Steady, built] using steady
    simp only [onBackend, leads_bind, leads_setOwn, leads_own, leads_within]
    apply (ResourceSet.release_steady set piped).mono
    · exact fun _ _ still => ⟨still, trivial⟩
    · exact fun _ _ impossible => impossible

private theorem rebuild_steady (dims : Dims) :
    Carries (Steady start api) (fun _ => Steady start api) (rebuild dims) := by
  intro scene steady
  unfold rebuild
  rw [leads_bind]
  apply (teardown_steady steady).mono
  · intro _ torn both
    obtain ⟨still, bare⟩ := both
    have unpiped : Backend.Steady start api [] ⟨torn.own.backend, torn.platform⟩ := by
      simpa [Steady, bare] using still
    simp only [onBackend, leads_bind, leads_own, leads_within, leads_update]
    apply (ResourceSet.build_steady dims _ unpiped).mono
    · exact fun _ _ built => built
    · intro _ _ refused
      obtain ⟨uncrashed, still⟩ := refused
      refine ⟨uncrashed, ?_⟩
      simpa [Steady, bare] using still
  · exact fun _ _ impossible => impossible.elim

private theorem close_steady (steady : Steady start api scene) :
    close.Leads scene (fun _ ended => Steady start api ended) fun _ _ => False := by
  apply (teardown_steady steady).bind
  intro _ torn ⟨still, _⟩
  simp only [onBackend, leads_bind, leads_own, leads_within]
  apply (Backend.drop_steady still).mono
  · exact fun _ _ dropped => dropped.2
  · exact fun _ _ impossible => impossible

private theorem Use.action_steady (use : Use) :
    Carries (Steady start api) (fun _ => Steady start api) use.action := by
  cases use with
  | submit pixels => exact submit_steady pixels
  | rebuild dims => exact rebuild_steady dims
  | resize size => exact resize_steady size
  | teardown =>
    intro scene steady
    exact (teardown_steady steady).mono (fun _ _ torn => torn.1) fun _ _ impossible => impossible.elim

private theorem useAll_steady (uses : List Use) (steady : Steady start api scene) :
    (useAll uses).Leads scene (fun _ after => Steady start api after) fun _ _ => False := by
  refine Leads.forM (fun use scene steady => ?_) uses steady
  rw [leads_bind, leads_attempt]
  apply (use.action_steady scene steady).mono
  · exact fun _ _ still => still
  · intro failure after refused
    obtain ⟨uncrashed, still⟩ := refused
    cases failure with
    | refused cause => exact still
    | crashed => exact absurd rfl uncrashed

/-- Why a frame may be refused while there are resources to draw it with: it does not fit, its
device has raised an error, or its surface has no texture to draw on. -/
def Excuses (set : ResourceSet) (pixels : Bytes) (api : Gpu.Api) (after : Platform) (failure : Failure) :
    Prop :=
  (pixels.size ≠ set.dims.area ∧ failure = .refused (.frameSize set.dims.area pixels.size)) ∨
    (∃ e ∈ after.gpu.raised api, failure = .refused (.lost e.text)) ∨
    ∃ trouble : Gpu.FrameResult, failure = .refused (.lost trouble.reason)

structure Sheltered (base : Platform) (api : Gpu.Api) (scene : Scene Renderer) : Prop where
  guarded : Gpu.Guarded base scene.platform
  resolved : ∀ set ∈ scene.own.resources, scene.own.live = 7 ∧
    ∃ b, scene.own.backend = .gpu b ∧ ∀ id ∈ set.ids, b.Has id
  uploads : ∀ set ∈ scene.own.resources, ∀ region bytes,
    (Backend.upload set.texture region bytes).Leads ⟨scene.own.backend, scene.platform⟩
      (fun _ _ => True) fun _ _ => False
  submits : ∀ set ∈ scene.own.resources, ∀ pixels,
    (submit pixels).Leads scene (fun _ _ => True) fun failure after =>
      Excuses set pixels api after.platform failure
  ends : close.Leads scene (fun _ ended => Gpu.Spent base ended.platform) fun _ _ => False

variable {set : ResourceSet} {b : Gpu.Backend} {platform base : Platform}

/-- What the renderer owns is there under its numbers. -/
private theorem has_of_holds {ids : List ResourceId} (holds : (Backend.gpu b).Holds ids) :
    ∀ id ∈ ids, b.Has id := by
  intro id member
  obtain ⟨buffers, textures, samplers, pipelines⟩ := holds
  cases id with
  | buffer number => exact buffers.mem_iff.mpr (List.mem_filterMap.mpr ⟨_, member, rfl⟩)
  | texture number => exact textures.mem_iff.mpr (List.mem_filterMap.mpr ⟨_, member, rfl⟩)
  | sampler number => exact samplers.mem_iff.mpr (List.mem_filterMap.mpr ⟨_, member, rfl⟩)
  | pipeline number => exact pipelines.mem_iff.mpr (List.mem_filterMap.mpr ⟨_, member, rfl⟩)

/-- When its books are empty the tier has no memory left to destroy. -/
theorem spent_of_booked {pipelines : List Nat} {last : Scene Backend}
    (steady : Backend.Steady base api pipelines last) (booked : Booked ⟨7, {}, base⟩ [] last) :
    Gpu.Spent base last.platform := by
  obtain ⟨_, platform⟩ := last
  obtain ⟨b, rfl, ⟨held, ⟨lineage, made, sound, stands⟩, _⟩, _⟩ := steady
  have empty : b.holdings = held := stands.holds
  obtain ⟨buffers, textures, _⟩ := (Orderly.of_booked booked).2
  have noBuffers : held.buffers.items = [] := empty ▸ List.map_eq_nil_iff.mp buffers.eq_nil
  have noTextures : held.textures.items = [] := empty ▸ List.map_eq_nil_iff.mp textures.eq_nil
  have bare : held.memory = [] := by
    rw [Gpu.Holdings.memory, noBuffers, noTextures]
    rfl
  exact stands.traced.spent (bare ▸ sound.accounts)

private theorem serves_of_has (has : ∀ id ∈ set.ids, b.Has id) : b.Serves set.drawCall := by
  refine ⟨?_, ?_, ?_, ?_⟩ <;> apply Slots.get?_ne_none
  · exact has (.pipeline set.pipeline) (by simp [ResourceSet.ids])
  · exact has (.buffer set.positions) (by simp [ResourceSet.ids])
  · exact has (.buffer set.colors) (by simp [ResourceSet.ids])
  · exact has (.buffer set.indices) (by simp [ResourceSet.ids])

private theorem texture_of_has (has : ∀ id ∈ set.ids, b.Has id) : b.textures.get? set.texture ≠ none :=
  Slots.get?_ne_none (has (.texture set.texture) (by simp [ResourceSet.ids]))

private theorem submit_excused (built : scene.own.resources = some set) (same : scene.own.backend = .gpu b)
    (has : ∀ id ∈ set.ids, b.Has id) (attentive : Gpu.Attentive api ⟨b, scene.platform⟩)
    (pixels : Bytes) :
    (submit pixels).Leads scene (fun _ _ => True) fun failure after =>
      Excuses set pixels api after.platform failure := by
  rw [submit, leads_bind, leads_own, built]
  by_cases fits : pixels.size = set.dims.area
  · simp only [fits, if_true, onBackend, Backend.upload, Backend.submit, Backend.run, leads_bind,
      leads_own, leads_within, same]
    apply (Gpu.Backend.upload_unfailing set.region pixels (texture_of_has has) attentive).mono
    · rintro _ ⟨_, platform⟩ ⟨attentive, device, rfl⟩
      have still : ∀ id ∈ set.ids, ({ b with device } : Gpu.Backend).Has id := by
        intro id member
        cases id <;> exact has _ member
      apply (Gpu.Backend.submit_refusals (serves_of_has still) attentive).mono
      · exact fun _ _ _ => trivial
      · exact fun _ _ refused => .inr refused
    · exact fun _ _ impossible => impossible.elim
  · simp only [if_neg fits, leads_refuse]
    exact .inl ⟨fits, rfl⟩

private theorem Sheltered.of_steady (steady : Steady base api scene)
    (accounted : Accounted ⟨7, {}, base⟩ scene) : Sheltered base api scene := by
  have holds := (Orderly.of_booked accounted).2
  obtain ⟨b, same, ⟨held, ⟨lineage, made, sound, stands⟩, _⟩, attentive⟩ := id steady
  have has (set : ResourceSet) (built : scene.own.resources = some set) : ∀ id ∈ set.ids, b.Has id := by
    have owned : (Backend.gpu b).Holds set.ids := by
      simpa [Renderer.owned, built, show scene.own.backend = .gpu b from same] using holds
    exact has_of_holds owned
  constructor
  case guarded =>
    obtain ⟨log, grown, guarded, _⟩ := stands.traced.guarded
    exact ⟨log, grown, guarded⟩
  case resolved =>
    intro set built
    have seven : scene.own.owned.length = 7 := by
      rw [owned, show scene.own.resources = some set from built]
      rfl
    exact ⟨holds.live_eq.trans seven, b, same, has set built⟩
  case uploads =>
    intro set built region bytes
    rw [show scene.own.backend = .gpu b from same, Backend.upload, Backend.run, leads_bind, leads_own,
      leads_within]
    apply (Gpu.Backend.upload_unfailing region bytes (texture_of_has (has set built)) attentive).mono
    · exact fun _ _ _ => trivial
    · exact fun _ _ impossible => impossible
  case submits => exact fun set built pixels => submit_excused built same (has set built) attentive pixels
  case ends =>
    apply ((close_steady steady).and (close_accounted accounted)).mono
    · exact fun _ _ both => spent_of_booked both.1 both.2
    · exact fun _ _ both => both.1

/-- A build that fails has destroyed all that it registered. -/
theorem build_steady {σ : Type} {backend : Backend} {scene : Scene σ} (dims : Dims)
    (steady : Backend.Steady base api [] ⟨backend, scene.platform⟩)
    (booked : Booked ⟨7, {}, base⟩ [] ⟨backend, scene.platform⟩) :
    (build backend dims).Leads scene
      (fun r after => Steady base api ⟨r, after.platform⟩ ∧ Accounted ⟨7, {}, base⟩ ⟨r, after.platform⟩)
      (fun failure after => failure ≠ .crashed ∧ Gpu.Spent base after.platform) := by
  simp only [build, leads_bind, leads_apart, leads_onFailure, leads_settle]
  apply ((ResourceSet.build_steady dims _ steady).and
    (ResourceSet.build_booked dims (by simp) booked)).mono
  · intro set after ⟨still, built⟩
    rw [List.append_nil] at built
    exact ⟨still, built⟩
  · intro failure after ⟨⟨uncrashed, still⟩, emptied⟩
    apply ((Backend.drop_steady still).and (Backend.drop_spares.leads after emptied)).mono
    · exact fun _ last ⟨⟨_, dropped⟩, bare⟩ => ⟨uncrashed, spent_of_booked dropped bare⟩
    · exact fun _ _ both => both.1.elim

/-- A tier that was just acquired has nothing to destroy. -/
theorem steady_of_started {tier : Tier} (started : Gpu.Acquire.Started (Gpu.Acquire.kind tier) b) :
    Backend.Steady platform (Gpu.Api.ofTier tier) [] ⟨.gpu b, platform⟩ := by
  have family : Gpu.Api.ofTier (Gpu.Acquire.kind tier) = Gpu.Api.ofTier tier := by
    cases tier <;> rfl
  refine ⟨b, rfl, ?_, [], family ▸ started.device_eq, List.nil_subset _⟩
  obtain ⟨config, rfl⟩ := started
  exact ⟨_, ⟨{}, 0, .initial 0, .refl platform, rfl, Nat.zero_le _⟩, rfl⟩

/-- Whatever the drivers raise and whatever is done with a renderer on a graphics device: its run
does not break down; no call reaches memory after it was destroyed; what the renderer owns is there
under its numbers, so that no upload and no draw fails for want of it; and when the renderer ends, or
could not be built, each buffer and texture that was registered has been destroyed once. -/
theorem objects_outlive_their_uses (tier : Tier) (dims : Dims) (uses : List Use) (platform : Platform) :
    (Gpu.Acquire.tier tier : Act Unit Gpu.Backend).Leads ⟨(), platform⟩
      (fun b acquired => (build (.gpu b) dims : Act Unit Renderer).Leads ⟨(), acquired.platform⟩
        (fun r built => (useAll uses).Leads ⟨r, built.platform⟩
          (fun _ last => Sheltered acquired.platform (Gpu.Api.ofTier tier) last) fun _ _ => False)
        (fun failure after => failure ≠ .crashed ∧ Gpu.Spent acquired.platform after.platform))
      fun _ _ => True := by
  apply (Gpu.Acquire.tier_leads tier _).mono
  · intro b acquired ⟨_, started, _⟩
    have booked : Booked ⟨7, {}, acquired.platform⟩ [] ⟨.gpu b, acquired.platform⟩ :=
      ⟨[], (List.append_nil _).symm, trivial, rfl, Backend.backs_of_live_eq_zero started.live_eq_zero⟩
    apply (build_steady dims (steady_of_started started) booked).mono
    · intro r built ⟨steady, accounted⟩
      apply ((useAll_steady uses steady).and (useAll_accounted uses (Nat.le_refl 7) accounted)).mono
      · exact fun _ last ⟨still, accounted⟩ => .of_steady still accounted
      · exact fun _ _ both => both.1
    · exact fun _ _ failed => failed
  · exact fun _ _ _ => trivial

end Renderer
end FrameViewer
