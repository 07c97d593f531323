import FrameViewer.Proofs.ProbeTrials
import Mathlib.Algebra.GroupWithZero.Nat

/-! A negotiator over its whole life. However often it is asked for a renderer, and whichever of them
are taken from it in between, it holds one tier at most, and none while another is tried. -/

namespace FrameViewer
open Act

private theorem ResourceId.length_by_type (ids : List ResourceId) :
    (ids.filterMap buffer?).length + (ids.filterMap texture?).length +
      (ids.filterMap sampler?).length + (ids.filterMap pipeline?).length = ids.length := by
  induction ids with
  | nil => rfl
  | cons id rest ih =>
    cases id <;>
      simp only [List.filterMap_cons, buffer?, texture?, sampler?, pipeline?, List.length_cons] <;>
      omega

theorem Backend.Holds.live_eq {backend : Backend} {live : List ResourceId}
    (holds : backend.Holds live) : backend.live = live.length := by
  cases backend with
  | null => rw [show live = [] from holds]; rfl
  | simulated b =>
    have same := List.Perm.length_eq holds
    rw [List.length_map] at same
    simpa [Backend.live, Slots.size, Slots.ids] using same
  | gpu b =>
    obtain ⟨buffers, textures, samplers, pipelines⟩ := holds
    have size {α : Type} {slots : Slots α} {numbers : List Nat} (same : slots.ids.Perm numbers) :
        slots.size = numbers.length := by
      rw [← same.length_eq, Slots.ids, List.length_map]
      rfl
    rw [← ResourceId.length_by_type, ← size buffers, ← size textures, ← size samplers, ← size pipelines]
    rfl

/-- A renderer without a tier refuses every frame, and nothing is done for it. -/
private theorem Renderer.inert_refuses (pixels : Bytes) (platform : Platform) :
    (submit pixels).Leads ⟨inert, platform⟩ (fun _ _ => False) fun failure last =>
      failure = .refused (.lost "render handle was torn down") ∧ last = ⟨inert, platform⟩ :=
  ⟨rfl, rfl⟩

namespace Negotiator

/-- What the active renderer of a negotiator holds besides objects and tiers of others. -/
inductive Stands (others : List ResourceId) (tiers : Nat) (platform : Platform) :
    Option Renderer → Prop where
  | idle (vacant : Vacant others tiers platform.events.toList) : Stands others tiers platform none
  | active {r : Renderer} (holding : r.Holding others tiers platform) :
    Stands others tiers platform (some r)

variable {others : List ResourceId} {tiers : Nat} {scene : Scene Negotiator}

/-- What was active is gone before the first tier is tried. -/
private theorem retire_leads (stands : Stands others tiers scene.platform scene.own.active) :
    retire.Leads scene
      (fun _ after => after.own = { scene.own with active := none } ∧
        scene.platform.Sparing others tiers after.platform ∧
        Vacant others tiers after.platform.events.toList ∧
        after.platform.tried = scene.platform.tried)
      fun _ _ => False := by
  obtain ⟨⟨probes, active⟩, platform⟩ := scene
  unfold retire
  rw [leads_bind, leads_own]
  cases stands with
  | idle vacant => exact ⟨rfl, .of_unheld vacant (.refl _), vacant, rfl⟩
  | @active previous holding =>
    obtain ⟨told, still⟩ := holding.notice (.tearingDown previous.tier) rfl
    obtain ⟨⟨start, accounted, apart⟩, count⟩ := still
    have earlier : start.events.toList <+:
        (platform.record (.notice (.tearingDown previous.tier))).events.toList := by
      obtain ⟨log, same, _⟩ := accounted
      exact ⟨log, same.symm⟩
    simp only [leads_bind, leads_setOwn, leads_notify, Renderer.discard, leads_apart, leads_settle]
    have closes := ((Renderer.close_accounted accounted).and (Renderer.close_closes accounted)).and
      (Renderer.close_emits Event.IsRendering.untried (fun _ => rfl) _)
    refine closes.mono ?_ fun _ _ all => all.1.2
    intro _ closed ⟨⟨booked, fewer⟩, grown⟩
    refine ⟨trivial, told.trans (.of_booked booked apart earlier grown), ⟨?_, ?_⟩, ?_⟩
    · exact Platform.live_of_booked booked apart
    · rw [count, Nat.add_sub_cancel] at fewer
      exact fewer
    · exact grown.tried.trans (Platform.tried_record _ rfl)

private theorem inert_holding {platform : Platform} (vacant : Vacant others tiers platform.events.toList) :
    Renderer.inert.Holding others tiers platform :=
  ⟨⟨platform, ⟨[], (List.append_nil _).symm, trivial, rfl, rfl⟩, vacant.live⟩, vacant.count⟩

/-- The negotiation found a renderer, with seven objects, and has asked no probe after the one that
gave it. -/
inductive Won (dims : Dims) (before after : Scene Negotiator) : Prop where
  | intro {start last : Scene Negotiator} {renderer : Renderer} {asked : List Tier}
    {nexts : List Probe} (retired : retire before = .ok () start)
    (found : Found dims before.own.probes start renderer asked nexts last)
    (own : after.own = { probes := nexts, active := some renderer }) (live : renderer.live = 7)
    (tried : after.platform.tried = before.platform.tried ++ asked)

inductive Lost (dims : Dims) (before after : Scene Negotiator) (cause : RenderError) : Prop where
  | intro {start last : Scene Negotiator} {attempts : List (Tier × RenderError)}
    {nexts : List Probe} (retired : retire before = .ok () start)
    (declined : Declined dims before.own.probes start attempts nexts last)
    (none : ∀ renderer asked others other,
      ¬ Found dims before.own.probes start renderer asked others other)
    (told : cause = .exhausted attempts)
    (each : attempts.map (·.1) = before.own.probes.map Probe.tier)
    (own : after.own = { probes := nexts, active := some .inert })
    (tried : after.platform.tried = before.platform.tried ++ before.own.probes.map Probe.tier)

/-- What a negotiation comes to, and that it has only one tier at a time meanwhile. -/
theorem negotiate_leads (dims : Dims) (stands : Stands others tiers scene.platform scene.own.active) :
    (negotiate dims).Leads scene
      (fun _ after => Won dims scene after ∧ scene.platform.Sparing others tiers after.platform ∧
        Stands others tiers after.platform after.own.active)
      fun failure after => scene.platform.Sparing others tiers after.platform ∧
        match failure with
        | .crashed => ∃ start, retire scene = .ok () start ∧
            BreaksDown dims scene.own.probes start after
        | .refused cause => Lost dims scene after cause ∧
            Vacant others tiers after.platform.events.toList := by
  unfold negotiate
  rw [leads_bind]
  refine ((leads_ran _ _).and (retire_leads stands)).mono ?_ fun _ _ both => both.2.elim
  intro _ start ⟨retired, own, spares, vacant, untried⟩
  have same : start.own.probes = scene.own.probes := by rw [own]
  rw [leads_bind, leads_own, leads_bind, same]
  refine (tryProbes_leads dims _ start).mono ?_ ?_
  · rintro ⟨attempts | renderer, nexts⟩ last found
    · have declined : Declined dims scene.own.probes start attempts nexts last := found
      obtain ⟨further, bare, tried⟩ := declined.vacant vacant
      simp only [leads_bind, leads_notify, leads_setOwn, leads_refuse]
      refine ⟨spares.trans (further.trans (.notice bare rfl)), ?_, Platform.vacant_notice bare _⟩
      refine ⟨retired, declined, declined.not_found, rfl, declined.attempts_eq, rfl, ?_⟩
      rw [← untried, ← tried]
      exact Platform.tried_record _ rfl
    · obtain ⟨asked, found⟩ := found
      obtain ⟨further, holding, seven, tried⟩ := found.holding vacant
      refine ⟨⟨retired, found, rfl, ?_, ?_⟩, spares.trans further, .active holding⟩
      · exact holding.holds.live_eq.trans seven
      · rw [← untried, ← tried]
  · rintro failure after ⟨rfl, broken⟩
    exact ⟨spares.trans (broken.spares vacant), start, retired, broken⟩

inductive Call where
  | negotiate (dims : Dims)
  | take

end Negotiator

/-- A negotiator and the renderers that were taken from it, the newest first. -/
structure Desk where
  negotiator : Negotiator
  taken : List Renderer := []

namespace Desk

def onNegotiator {α : Type} (action : Act Negotiator α) : Act Desk α := do
  let desk ← Act.own
  Act.within desk.negotiator (fun negotiator => { desk with negotiator }) action

def keep (r : Renderer) : Act Desk Unit :=
  Act.update fun desk => { desk with taken := r :: desk.taken }

def owned (desk : Desk) : List ResourceId :=
  desk.taken.flatMap Renderer.owned

def tiers (desk : Desk) : Nat :=
  (desk.taken.map Renderer.tiers).sum

end Desk

namespace Negotiator

/-- A refusal of the negotiation does not keep the next calls from being made. -/
def Call.action : Call → Act Desk Unit
  | negotiate dims => do
    let _ ← Desk.onNegotiator (Act.attempt (Negotiator.negotiate dims))
  | take => do
    match ← Desk.onNegotiator Negotiator.take with
    | none => pure ()
    | some r => Desk.keep r

def callAll (calls : List Call) : Act Desk Unit :=
  calls.forM Call.action

/-- Between two calls, what was taken is held by whoever took it, and what is active besides. -/
structure Balanced (desk : Desk) (platform : Platform) : Prop where
  stands : Stands desk.owned desk.tiers platform desk.negotiator.active
  holds : ∀ r ∈ desk.taken, r.backend.Holds r.owned

variable {desk : Scene Desk}

private theorem Call.action_balanced (call : Call) (balanced : Balanced desk.own desk.platform) :
    call.action.Leads desk (fun _ after => Balanced after.own after.platform)
      fun failure _ => failure = .crashed := by
  obtain ⟨⟨⟨probes, active⟩, taken⟩, platform⟩ := desk
  cases call with
  | negotiate dims =>
    simp only [action, Desk.onNegotiator, leads_bind, leads_own, leads_within, leads_attempt]
    refine (negotiate_leads dims balanced.stands).mono ?_ ?_
    · exact fun _ after ⟨_, _, stands⟩ => ⟨stands, balanced.holds⟩
    · intro failure after ⟨_, outcome⟩
      cases failure with
      | crashed => trivial
      | refused cause =>
        obtain ⟨⟨_, _, _, _, _, own, _⟩, vacant⟩ := outcome
        refine ⟨?_, balanced.holds⟩
        rw [own]
        exact .active (inert_holding vacant)
  | take =>
    simp only [action, Desk.onNegotiator, Negotiator.take, leads_bind, leads_own, leads_within,
      leads_setOwn, leads_pure]
    cases active with
    | none => exact balanced
    | some r =>
      obtain ⟨stands, holds⟩ := balanced
      cases stands with
      | active holding =>
        refine ⟨.idle ⟨holding.live, ?_⟩, ?_⟩
        · exact holding.count.trans (Nat.add_comm _ _)
        · intro other member
          rcases List.mem_cons.mp member with rfl | old
          · exact holding.holds
          · exact holds other old

private theorem callAll_balanced (calls : List Call) (balanced : Balanced desk.own desk.platform) :
    (callAll calls).Leads desk (fun _ after => Balanced after.own after.platform)
      fun failure _ => failure = .crashed :=
  .forM (fun call _ balanced => call.action_balanced balanced) calls balanced

/-- After any calls, a further negotiation: at no instant of it are more than seven objects live
besides those of the renderers that were taken, and whenever a probe is asked, those objects alone are
live and no other tier is open. It ends with the renderer of the first probe that gives one, which has
seven objects, and asks none after that; or every probe has declined, the refusal has one attempt for
each in their order, nothing is left, and the inert renderer is active, for which nothing is ever
done. -/
theorem negotiation_holds_one_tier (probes : List Probe) (calls : List Call) (dims : Dims)
    (platform : Platform) :
    (callAll calls).Leads ⟨{ negotiator := { probes } }, platform.fresh⟩
      (fun _ before =>
        (∀ r ∈ before.own.taken, r.backend.Holds r.owned) ∧
          (negotiate dims).Leads ⟨before.own.negotiator, before.platform⟩
            (fun _ after =>
              before.platform.Sparing before.own.owned before.own.tiers after.platform ∧
                Won dims ⟨before.own.negotiator, before.platform⟩ after)
            (fun failure after =>
              before.platform.Sparing before.own.owned before.own.tiers after.platform ∧
                match failure with
                | .crashed => ∃ start, retire ⟨before.own.negotiator, before.platform⟩ = .ok () start ∧
                    BreaksDown dims before.own.negotiator.probes start after
                | .refused cause => Lost dims ⟨before.own.negotiator, before.platform⟩ after cause ∧
                    Vacant before.own.owned before.own.tiers after.platform.events.toList ∧
                    ∀ pixels later, (Renderer.submit pixels).Leads ⟨.inert, later⟩ (fun _ _ => False)
                      fun failure last => failure = .refused (.lost "render handle was torn down") ∧
                        last = ⟨.inert, later⟩))
      (fun failure _ => failure = .crashed) := by
  have balanced : Balanced { negotiator := { probes } } platform.fresh :=
    ⟨.idle ⟨rfl, rfl⟩, nofun⟩
  refine (callAll_balanced calls balanced).mono ?_ fun _ _ crashed => crashed
  intro _ before balanced
  refine ⟨balanced.holds, ?_⟩
  refine (negotiate_leads dims balanced.stands).mono ?_ ?_
  · exact fun _ after ⟨won, spares, _⟩ => ⟨spares, won⟩
  · rintro failure after ⟨spares, outcome⟩
    refine ⟨spares, ?_⟩
    cases failure with
    | crashed => exact outcome
    | refused cause => exact ⟨outcome.1, outcome.2, Renderer.inert_refuses⟩

/-- The first tier refuses both times, and the renderer that was taken keeps its objects. -/
example :
    let probes : List Probe :=
      [.simulated { tier := .modern, attempts := [.fails (.lost "no adapter")] },
        .simulated { tier := .legacy }]
    (match callAll [.negotiate ⟨64, 32⟩, .take, .negotiate ⟨64, 32⟩]
        ⟨{ negotiator := { probes } }, {}⟩ with
      | .ok _ after =>
        (after.own.taken.map Renderer.live, after.own.negotiator.active.map Renderer.live,
          after.platform.tried)
      | .error _ _ => ([], none, [])) =
      ([7], some 7, [.modern, .legacy, .modern, .legacy]) := by
  decide +kernel

end Negotiator
end FrameViewer
