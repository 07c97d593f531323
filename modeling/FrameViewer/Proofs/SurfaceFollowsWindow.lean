import FrameViewer.Proofs.AcquiredSurfaces
import FrameViewer.Proofs.ListeningTiers
import FrameViewer.Proofs.NegotiationTurns

/-! The surface of an application follows its window. Sizes that the host tells before there is a show
are made up for as the show begins; from then on the surface has the size that was told last. -/

namespace FrameViewer
open Act

variable {formats : Gpu.Api → List String}

namespace Renderer.Hangs

variable {acquiring : Prop} {api : Gpu.Api} {size : Dims} {r : Renderer} {platform : Platform}

/-- A surface is configured for the size of some window. -/
private theorem of_backend {config : Gpu.SurfaceConfig}
    (hangs : r.backend.Hangs ⟨formats, acquiring, api, config⟩ platform) :
    ∃ size, r.Hangs formats False api size platform := by
  obtain ⟨b, on, hangs⟩ := hangs
  obtain ⟨size, dims⟩ := hangs.filled
  refine ⟨size, config, dims, b, on, hangs.config, ?_, hangs.chosen, hangs.filled⟩
  exact { hangs.faces with scripts := nofun }

theorem inOrder (hangs : r.Hangs formats acquiring api size platform) : platform.SurfaceInOrder formats := by
  obtain ⟨_, _, _, _, hangs⟩ := hangs
  exact hangs.faces.inOrder

end Renderer.Hangs

namespace Standing

def Surfaces (formats : Gpu.Api → List String) : Standing → Platform → Prop
  | vacant, platform => Gpu.Tidy formats True platform
  | won renderer, platform =>
    (∃ api size, renderer.Hangs formats False api size platform) ∧ renderer.backend.Listens
  | shown size renderer, platform => ∃ api, renderer.Hangs formats False api size platform
  | lost _, platform | broken, platform => platform.SurfaceInOrder formats

theorem Surfaces.aside {standing : Standing} {before after : Platform}
    (grown : before.Extends Event.IsAside after) (gpu : after.gpu = before.gpu)
    (surfaces : standing.Surfaces formats before) : standing.Surfaces formats after := by
  have blank := grown.mono Gpu.Blank.of_aside
  have still {api : Gpu.Api} {size : Dims} {r : Renderer}
      (hangs : r.Hangs formats False api size before) : r.Hangs formats False api size after :=
    (Renderer.hangs_sized.lasting size).deaf r grown hangs
  have ordered (inOrder : before.SurfaceInOrder formats) : after.SurfaceInOrder formats := by
    have faces : Gpu.Faces formats False before.canvas.api before.canvas.config [] before :=
      ⟨inOrder, rfl, rfl, nofun, nofun⟩
    exact (faces.extend blank nofun).inOrder
  cases standing with
  | vacant =>
    obtain ⟨api, config, faces⟩ := surfaces
    exact ⟨api, config, faces.extend blank fun _ => gpu⟩
  | won renderer =>
    obtain ⟨⟨api, size, hangs⟩, listens⟩ := surfaces
    exact ⟨⟨api, size, still hangs⟩, listens⟩
  | shown size renderer =>
    obtain ⟨api, hangs⟩ := surfaces
    exact ⟨api, still hangs⟩
  | lost _ | broken => exact ordered surfaces

theorem Surfaces.inOrder {standing : Standing} {platform : Platform}
    (surfaces : standing.Surfaces formats platform) : platform.SurfaceInOrder formats := by
  cases standing with
  | vacant =>
    obtain ⟨_, _, faces⟩ := surfaces
    exact faces.inOrder
  | won renderer =>
    obtain ⟨⟨_, _, hangs⟩, _⟩ := surfaces
    exact hangs.inOrder
  | shown size renderer =>
    obtain ⟨_, hangs⟩ := surfaces
    exact hangs.inOrder
  | lost _ | broken => exact surfaces

private theorem surfaces_negotiates (dims : Dims) (tiers : List Tier) {platform : Platform}
    (surfaces : vacant.Surfaces formats platform) :
    (Negotiator.negotiate dims).Leads ⟨{ probes := tiers.map .gpu }, platform⟩
      (fun _ after => ∃ renderer, after.own.active = some renderer ∧
        (won renderer).Surfaces formats after.platform)
      fun failure after => (ofFailure failure).Surfaces formats after.platform := by
  -- What else is live, and which tiers are open, is all the same here.
  have negotiated := @Negotiator.negotiate_leads _ _ ⟨{ probes := tiers.map .gpu }, platform⟩ dims
    (.idle ⟨rfl, rfl⟩)
  apply (Leads.and negotiated (Negotiator.negotiate_mounts dims tiers surfaces)).mono
  · intro _ after ⟨⟨gained, _⟩, renderer, active, api, config, hangs⟩
    obtain ⟨size, hangs⟩ := Renderer.Hangs.of_backend hangs
    exact ⟨renderer, active, ⟨api, size, hangs⟩, gained.listens active⟩
  · intro failure after ⟨_, _, _, faces⟩
    cases failure <;> exact faces.inOrder

private theorem surfaces_terms {bid : Bid} (tiers : List Tier) (probes : bid.probes = tiers.map .gpu) :
    bid.Terms (Surfaces formats) where
  aside _ _ _ grown gpu surfaces := surfaces.aside grown gpu
  negotiates _ surfaces := probes ▸ surfaces_negotiates bid.session.dims tiers surfaces
  begins size scene surfaces := by
    obtain ⟨⟨api, _, hangs⟩, listens⟩ := surfaces
    apply (Leads.and (Renderer.resize_hangs size hangs) (Renderer.resize_listens size listens)).mono
    · exact fun _ _ both => ⟨api, both.1⟩
    · exact fun _ _ both => both.2
  sized := .indexed fun _ => Renderer.hangs_sized
  breaks _ _ surfaces := surfaces.inOrder

end Standing

namespace App

/-- For any sizes told at any time and whatever the drivers do: every configuration of the surface has
no empty side and the format to choose among those that its drivers offer; every draw has the viewport
that fits the last configuration, and a pipeline of its format. From the event on by which the session
comes to be shown, the drivers and the format stay; and until a failure is on display, the surface is
configured for the size that the host told last since, or else for the one that the window had then. -/
theorem surface_follows_window (settings : Settings) (files : Files) (windowFault : Option String)
    (platform : Platform) (before : List AppEvent) (event : AppEvent) (after : List AppEvent) :
    (create settings (Probe.forDrivers settings.preference) files windowFault).Leads
      (⟨(), platform.fresh⟩ : Scene Unit)
      (fun app begun =>
        (handleAll before).Leads ⟨app, begun.platform⟩
          (fun _ early => early.platform.SurfaceInOrder platform.gpu.formats ∧
            ∀ startup, early.own.2.stage = .starting startup →
              (handle event).Leads early
                (fun _ turned => turned.platform.SurfaceInOrder platform.gpu.formats ∧
                  ∀ s, turned.own.2.stage = .showing s →
                    ∃ api format, Gpu.Acquire.chooseFormat (platform.gpu.formats api) = some format ∧
                      (handleAll after).Leads turned
                        (fun _ late => late.platform.SurfaceInOrder platform.gpu.formats ∧
                          ∃ t config, late.own.2.stage = .showing t ∧
                            late.platform.canvas.api = some api ∧
                            late.platform.canvas.config = some config ∧ config.format = format ∧
                            (t.screen = none →
                              config.dims = (after.foldl AppEvent.told turned.platform.window).filled))
                        fun _ last => last.platform.SurfaceInOrder platform.gpu.formats)
                fun _ last => last.platform.SurfaceInOrder platform.gpu.formats)
          fun _ last => last.platform.SurfaceInOrder platform.gpu.formats)
      fun _ _ => False := by
  have terms (bid : Bid) (probes : bid.probes = Probe.forDrivers settings.preference) :
      bid.Terms (Standing.Surfaces platform.gpu.formats) :=
    Standing.surfaces_terms _ probes
  have fresh : Standing.vacant.Surfaces platform.gpu.formats platform.fresh :=
    ⟨none, none, trivial, rfl, rfl, nofun, fun _ => rfl⟩
  apply (@create_stands _ _ settings _ files windowFault ⟨(), platform.fresh⟩ terms rfl fresh).mono
  · intro app begun ⟨bid, _, probes, _, stands⟩
    have terms := terms bid probes
    apply (bid.handleAll_runs terms before stands).mono
    · intro _ early ⟨plot, runs⟩
      refine ⟨runs.stands.broken terms, fun startup stage => ?_⟩
      apply (bid.handle_turns terms event runs.stands).mono
      · intro _ turned ⟨next, turns⟩
        refine ⟨turns.stands.broken terms, fun s showing => ?_⟩
        obtain ⟨renderer, rfl⟩ := turns.stands.showing_iff.mp ⟨s, showing⟩
        have unsettled : plot.juncture ≠ .settled := by
          intro settled
          cases plot with
          | closed | awaiting | posted _ => cases settled
          | settled outcome =>
            obtain rfl := Option.some.inj (turns.outcome outcome rfl)
            obtain ⟨t, showing⟩ := runs.stands.showing_iff.mpr ⟨renderer, rfl⟩
            exact Stage.noConfusion (stage.symm.trans showing)
        obtain ⟨last, presents⟩ := (turns.promoted unsettled renderer rfl).shows
        obtain ⟨_, stage, ⟨api, hangs⟩, fits⟩ := presents.good.bears
        have shows : Shows (Renderer.Hangs platform.gpu.formats False api) turned.platform.window turned :=
          ⟨last, presents.numbered, presents.good.agreed, _, stage, hangs, fits⟩
        obtain ⟨config, _, _, _, now⟩ := id hangs
        refine ⟨api, config.format, now.chosen, ?_⟩
        apply (handleAll_shows Renderer.hangs_sized after shows).mono
        · intro _ late ⟨last, presents⟩
          obtain ⟨t, stage, ⟨later, dims, _, _, then_⟩, fits⟩ := presents.good.bears
          refine ⟨then_.faces.inOrder, t, later, stage, then_.faces.api, then_.faces.config, ?_, ?_⟩
          · exact Option.some.inj (then_.chosen.symm.trans now.chosen)
          · exact fun absent => dims.trans (congrArg Dims.filled (fits absent))
        · intro _ final ⟨_, _, _, bears⟩
          exact bears.good.inOrder
      · exact fun _ _ breaks => breaks.1
    · exact fun _ _ breaks => breaks.1
  · exact fun _ _ impossible => impossible

end App
end FrameViewer
