import FrameViewer.Proofs.TierSurfaces

/-! Surfaces in a negotiation. Every tier that is acquired configures its surface for the window as it
is, in the format to choose among those that its drivers offer; whatever comes of a tier, the report of
it is in order. -/

namespace FrameViewer
open Act

variable {σ : Type} {formats : Gpu.Api → List String}

namespace Gpu

def Tidy (formats : Api → List String) (acquiring : Prop) (platform : Platform) : Prop :=
  ∃ api config, Faces formats acquiring api config [] platform

private theorem Faces.tidy {acquiring : Prop} {api : Option Api} {config : Option SurfaceConfig}
    {pipelines : List Nat} {platform : Platform}
    (faces : Faces formats acquiring api config pipelines platform) : Tidy formats acquiring platform :=
  ⟨api, config, faces.subset (List.nil_subset _)⟩

theorem Tidy.blind {acquiring : Prop} : Blind (Tidy formats acquiring) where
  record blank := by
    rintro ⟨api, config, faces⟩
    exact ⟨api, config, Faces.blind.record blank faces⟩
  gpu same := by
    rintro ⟨api, config, faces⟩
    exact ⟨api, config, Faces.blind.gpu same faces⟩

namespace Acquire

private theorem requestAdapter_unseen (tier : Tier) (fallback withSurface : Bool) :
    Unseen (requestAdapter tier fallback withSurface : Act σ Bool) := by
  intro scene
  simp only [requestAdapter, say, leads_bind, leads_emit, leads_platform, leads_updatePlatform, leads_pure]
  have asked : overlooking.done scene.platform
      (scene.platform.record (.gpu (.requestAdapter fallback withSurface))) :=
    Hearing.record scene fun _ _ => ⟨rfl, trivial⟩
  exact overlooking.trans asked
    (setDriver_unseen (Api.ofTier tier) (fun driver => driver.requestAdapter.2) (fun _ => rfl) _)

private theorem legacyAdapter_unseen : Unseen (legacyAdapter : Act σ Bool) :=
  .bind (requestAdapter_unseen _ _ _) fun _ => .ite (.pure _) <|
    .bind (.notify (.of_uncalled fun _ => nofun)) fun _ => requestAdapter_unseen _ _ _

private theorem announceAdapter_unseen (tier : Tier) : Unseen (announceAdapter tier : Act σ Unit) :=
  .bind (.bind .platform fun _ => .pure _) fun _ => .notify (.of_uncalled fun _ => nofun)

private theorem requestDevice_unseen (tier : Tier) (label : String) :
    Unseen (requestDevice tier label : Act σ Device) := by
  refine .bind (.bind .platform fun _ => .pure _) fun given => ?_
  refine .bind (say_unseen fun _ _ => ⟨rfl, trivial⟩) fun _ => ?_
  cases given.deviceError with
  | some reason => exact .refuse _
  | none => exact .pure _

private theorem createSurface_unseen (tier : Tier) : Unseen (createSurface tier : Act σ Unit) := by
  refine .bind (say_unseen fun _ _ => ⟨rfl, trivial⟩) fun _ => ?_
  refine .bind (.bind .platform fun _ => .pure _) fun given => ?_
  cases given.surfaceError with
  | some reason => exact .refuse _
  | none => exact .pure _

variable {api : Option Api} {config : Option SurfaceConfig}

/-- The configuration is for the window as it is, in a format that the drivers offer. -/
theorem surfaceConfig_faces (tier : Tier) {scene : Scene σ}
    (faces : Faces formats True api config [] scene.platform) :
    (surfaceConfig tier).Leads scene
      (fun next after => chooseFormat (formats (Api.ofTier tier)) = some next.format ∧
        next.dims = scene.platform.window.filled ∧ Faces formats True api config [] after.platform)
      fun _ after => Faces formats True api config [] after.platform := by
  have asked : Faces formats True api config [] (scene.platform.record (.gpu .getCapabilities)) :=
    Faces.blind.record (fun _ _ => ⟨rfl, trivial⟩) faces
  have offered := congrFun (asked.scripts trivial) (Api.ofTier tier)
  simp only [surfaceConfig, script, say, leads_bind, leads_emit, leads_platform, leads_pure]
  rw [Machine.formats] at offered
  rw [offered]
  cases chooseFormat (formats (Api.ofTier tier)) with
  | none => exact asked
  | some format => exact ⟨rfl, rfl, asked⟩

/-- The tier starts on a surface that was configured for it. -/
theorem configured_hangs (tier kind : Tier) {next : SurfaceConfig} {scene : Scene Device}
    (faces : Faces formats True (some (Api.ofTier tier)) config [] scene.platform)
    (chosen : chooseFormat (formats (Api.ofTier tier)) = some next.format) {size : Dims}
    (dims : next.dims = size.filled) :
    (do Device.configure next; Backend.start kind next : Act Device Backend).Leads scene
      (fun b after => b.Hangs ⟨formats, True, Api.ofTier tier, next⟩ [] after.platform)
      fun _ after => Tidy formats True after.platform := by
  rw [leads_bind]
  refine Leads.mono (Device.configure_faces faces chosen dims (.inl rfl)) ?_ fun _ _ faces => faces.tidy
  intro _ after faces
  simp only [Backend.start, Device.listen, say, leads_bind, leads_emit, leads_update, leads_own, leads_pure]
  exact ⟨rfl, Faces.blind.record (fun _ _ => ⟨rfl, trivial⟩) faces, chosen, size, dims⟩

def Mounted (formats : Api → List String) (b : Backend) (platform : Platform) : Prop :=
  ∃ api config, b.Hangs ⟨formats, True, api, config⟩ [] platform

private theorem withDevice_leads {action : Act Device Backend} {device : Device} {scene : Scene σ}
    (leads : action.Leads ⟨device, scene.platform⟩ (fun b after => Mounted formats b after.platform)
      fun _ after => Tidy formats True after.platform) :
    (withDevice device action).Leads scene (fun b after => Mounted formats b after.platform)
      fun _ after => Tidy formats True after.platform := by
  simp only [withDevice, leads_bind, leads_apart, leads_settle]
  exact leads

/-- Opening drivers configures nothing. -/
theorem opened_faces (next : Api) {platform : Platform} (tidy : Tidy formats True platform) :
    ∃ config, Faces formats True (some next) config [] (platform.record (.gpu (.openInstance next))) := by
  obtain ⟨_, config, faces⟩ := tidy
  exact ⟨config, faces.enter trivial rfl faces.config nofun⟩

/-- The modern tier checks its shaders before it knows its surface. -/
private theorem modern_mounts {scene : Scene σ} (tidy : Tidy formats True scene.platform) :
    modern.Leads scene (fun b after => Mounted formats b after.platform)
      fun _ after => Tidy formats True after.platform := by
  obtain ⟨_, faces⟩ := opened_faces .primary tidy
  rw [modern, leads_bind, say, leads_emit]
  refine (requestAdapter_unseen _ _ _).leads_bind Faces.blind faces (fun found middle faces => ?_)
    fun _ _ faces => faces.tidy
  cases found with
  | false => exact faces.tidy
  | true =>
    refine (announceAdapter_unseen _).leads_bind Faces.blind faces (fun _ middle faces => ?_)
      fun _ _ faces => faces.tidy
    refine (requestDevice_unseen _ _).leads_bind Faces.blind faces (fun device middle faces => ?_)
      fun _ _ faces => faces.tidy
    apply withDevice_leads
    rw [leads_bind]
    refine Leads.mono ((Device.validateShaders_preserves _ _).leads faces) ?_ fun _ _ faces => faces.tidy
    intro _ middle faces
    refine (createSurface_unseen _).leads_bind Faces.blind faces (fun _ middle faces => ?_)
      fun _ _ faces => faces.tidy
    rw [leads_bind]
    refine Leads.mono (surfaceConfig_faces .modern faces) ?_ fun _ _ faces => faces.tidy
    intro next middle found
    obtain ⟨chosen, dims, faces⟩ := found
    refine Leads.mono (configured_hangs .modern .modern faces chosen dims) ?_ fun _ _ tidy => tidy
    exact fun _ _ hangs => ⟨_, _, hangs⟩

/-- The legacy tier has its surface before its adapter. -/
private theorem legacy_mounts {scene : Scene σ} (tidy : Tidy formats True scene.platform) :
    legacy.Leads scene (fun b after => Mounted formats b after.platform)
      fun _ after => Tidy formats True after.platform := by
  obtain ⟨_, faces⟩ := opened_faces .gl tidy
  rw [legacy, leads_bind, say, leads_emit]
  refine (createSurface_unseen _).leads_bind Faces.blind faces (fun _ middle faces => ?_)
    fun _ _ faces => faces.tidy
  refine legacyAdapter_unseen.leads_bind Faces.blind faces (fun found middle faces => ?_)
    fun _ _ faces => faces.tidy
  cases found with
  | false => exact faces.tidy
  | true =>
    refine (announceAdapter_unseen _).leads_bind Faces.blind faces (fun _ middle faces => ?_)
      fun _ _ faces => faces.tidy
    refine (requestDevice_unseen _ _).leads_bind Faces.blind faces (fun device middle faces => ?_)
      fun _ _ faces => faces.tidy
    apply withDevice_leads
    rw [leads_bind]
    refine Leads.mono (surfaceConfig_faces .legacy faces) ?_ fun _ _ faces => faces.tidy
    intro next middle found
    obtain ⟨chosen, dims, faces⟩ := found
    rw [leads_bind]
    refine Leads.mono ((Device.validateShaders_preserves _ _).leads faces) ?_ fun _ _ faces => faces.tidy
    intro _ middle faces
    refine Leads.mono (configured_hangs .legacy .legacy faces chosen dims) ?_ fun _ _ tidy => tidy
    exact fun _ _ hangs => ⟨_, _, hangs⟩

private theorem tier_mounts (tier : Tier) {scene : Scene σ} (tidy : Tidy formats True scene.platform) :
    (Acquire.tier tier).Leads scene (fun b after => Mounted formats b after.platform)
      fun _ after => Tidy formats True after.platform := by
  cases tier with
  | legacy => exact legacy_mounts tidy
  | modern | none => exact modern_mounts tidy

end Acquire
end Gpu

open Gpu (Tidy)

namespace Probe

/-- What the drivers give has a surface. -/
private theorem acquire_mounts (tier : Tier) {scene : Scene σ} (tidy : Tidy formats True scene.platform) :
    (Probe.gpu tier).acquire.Leads scene
      (fun found after => match found.1 with
        | .ok backend => ∃ api config, backend.Hangs ⟨formats, True, api, config⟩ after.platform
        | .error _ => Tidy formats True after.platform)
      fun _ after => Tidy formats True after.platform := by
  simp only [acquire, ask, leads_bind, leads_attempt]
  apply (Gpu.Acquire.tier_mounts tier tidy).mono
  · intro b after mounted
    obtain ⟨api, config, hangs⟩ := mounted
    simp only [leads_pure, Except.map, leads_bind, leads_emit]
    have opened : Gpu.Blank (.opened (Backend.gpu b).tier) := fun _ _ => ⟨rfl, trivial⟩
    exact ⟨api, config, b, rfl, { hangs with faces := Gpu.Faces.blind.record opened hangs.faces }⟩
  · intro failure after tidy
    cases failure with
    | refused cause => exact tidy
    | crashed => exact tidy

end Probe

theorem Renderer.build_hangs {backend : Backend} (dims : Dims) {m : Gpu.Mount} {scene : Scene σ}
    (hangs : backend.Hangs m scene.platform) :
    (build backend dims).Leads scene (fun r after => r.backend.Hangs m after.platform)
      fun _ after => Tidy m.formats m.acquiring after.platform := by
  simp only [build, leads_bind, leads_apart, leads_onFailure, leads_settle]
  refine Leads.mono ((ResourceSet.build_hangs dims).leads hangs) ?_ ?_
  · exact fun _ _ still => still
  · intro _ middle still
    have tidy {after : Scene Backend} (still : after.own.Hangs m after.platform) :
        Tidy m.formats m.acquiring after.platform := by
      obtain ⟨b, _, hangs⟩ := still
      exact hangs.faces.tidy
    refine Leads.mono (Backend.drop_hangs.leads still) ?_ ?_
    · exact fun _ _ still => tidy still
    · exact fun _ _ still => tidy still

namespace Negotiator

private theorem tryProbe_mounts (tier : Tier) (dims : Dims) {scene : Scene σ}
    (tidy : Tidy formats True scene.platform) :
    (tryProbe (.gpu tier) dims).Leads scene
      (fun found after => match found.1 with
        | .ok renderer => ∃ api config, renderer.backend.Hangs ⟨formats, True, api, config⟩ after.platform
        | .error _ => Tidy formats True after.platform)
      fun _ after => Tidy formats True after.platform := by
  have trying : Tidy formats True (scene.platform.record (.notice (.trying (Probe.gpu tier).tier))) :=
    Tidy.blind.record (.of_uncalled fun _ => nofun) tidy
  simp only [tryProbe, leads_bind, leads_notify]
  apply (@Probe.acquire_mounts _ _ tier ⟨scene.own, _⟩ trying).mono
  · rintro ⟨cause | backend, next⟩ middle found
    · exact found
    · obtain ⟨api, config, hangs⟩ := found
      simp only [leads_bind, leads_attempt, leads_pure]
      apply (Renderer.build_hangs dims hangs).mono
      · exact fun _ _ hangs => ⟨api, config, hangs⟩
      · intro failure after tidy
        cases failure with
        | refused cause => exact tidy
        | crashed => exact tidy
  · exact fun _ _ tidy => tidy

/-- The probes are tried one after another, each after a report that is in order. -/
private theorem tryProbes_mounts (dims : Dims) (tiers : List Tier) {scene : Scene σ}
    (tidy : Tidy formats True scene.platform) :
    (tryProbes dims (tiers.map .gpu)).Leads scene
      (fun found after => match found.1 with
        | .ok renderer => ∃ api config, renderer.backend.Hangs ⟨formats, True, api, config⟩ after.platform
        | .error _ => Tidy formats True after.platform)
      fun _ after => Tidy formats True after.platform := by
  induction tiers generalizing scene with
  | nil => exact tidy
  | cons tier rest ih =>
    rw [List.map_cons, tryProbes, leads_bind]
    refine Leads.mono (tryProbe_mounts tier dims tidy) ?_ fun _ _ tidy => tidy
    rintro ⟨cause | renderer, next⟩ middle found
    · simp only [leads_bind, leads_notify]
      have told : Gpu.Blank (.notice (.rejected (Probe.gpu tier).tier cause)) := fun _ _ => ⟨rfl, trivial⟩
      have rejected := Tidy.blind.record told found
      apply (@ih ⟨middle.own, _⟩ rejected).mono
      · rintro ⟨attempts | renderer, nexts⟩ last found
        · exact found
        · exact found
      · exact fun _ _ tidy => tidy
    · obtain ⟨api, config, b, on, hangs⟩ := found
      simp only [leads_bind, leads_notify, leads_pure]
      have told : Gpu.Blank (.notice (.renderingUsing (Probe.gpu tier).tier)) := .of_uncalled fun _ => nofun
      exact ⟨api, config, b, on, { hangs with faces := Gpu.Faces.blind.record told hangs.faces }⟩

/-- A renderer that is won has its surface. -/
theorem negotiate_mounts (dims : Dims) (tiers : List Tier) {platform : Platform}
    (tidy : Tidy formats True platform) :
    (negotiate dims).Leads ⟨{ probes := tiers.map .gpu }, platform⟩
      (fun _ after => ∃ renderer, after.own.active = some renderer ∧
        ∃ api config, renderer.backend.Hangs ⟨formats, True, api, config⟩ after.platform)
      fun _ after => Tidy formats True after.platform := by
  simp only [negotiate, retire, leads_bind, leads_own, leads_pure]
  refine Leads.mono (tryProbes_mounts dims tiers tidy) ?_ fun _ _ tidy => tidy
  rintro ⟨attempts | renderer, nexts⟩ last found
  · simp only [leads_bind, leads_notify, leads_setOwn, leads_refuse]
    exact Tidy.blind.record (.of_uncalled fun _ => nofun) found
  · exact ⟨renderer, rfl, found⟩

end Negotiator
end FrameViewer
