import FrameViewer.Proofs.TierBuilds
import FrameViewer.Proofs.TierNegotiation
import FrameViewer.Proofs.TierVerdicts

/-! What becomes of the tiers of a negotiation, read off the scripts of their drivers. A tier that is
rejected lets the next one be tried; one that breaks down takes the negotiation with it. -/

namespace FrameViewer
open Act

variable {σ α : Type}

namespace Gpu

def buildHurdles (tier : Tier) (dims : Dims) : List Hurdle :=
  [.granted fun _ => !dims.isEmpty, .stretch .listened (ResourceSet.buildPoints tier)]

namespace Machine

/-- What becomes of acquiring a tier and of building the resources on it, as its drivers are now. -/
def trial (machine : Machine) (dims : Dims) (tier : Tier) : Verdict :=
  if (machine.driver (Api.ofTier tier)).offersAdapter tier then
    machine.verdict (Api.ofTier tier) (Acquire.hurdles tier ++ buildHurdles tier dims)
  else .rejects

theorem unheard_of_breaks {machine : Machine} {dims : Dims} {tier : Tier}
    (breaks : machine.trial dims tier = .breaks) :
    machine.Unheard (Api.ofTier tier) (Acquire.hurdles tier ++ buildHurdles tier dims) := by
  rw [trial] at breaks
  split at breaks
  · exact Script.unheard_of_breaks breaks
  · cases breaks

theorem trial_congr {before after : Machine} {tier : Tier}
    (same : after.driver (Api.ofTier tier) = before.driver (Api.ofTier tier)) (dims : Dims) :
    after.trial dims tier = before.trial dims tier := by
  rw [trial, trial, verdict, verdict, same]

/-- A tier that fails to be acquired fails its trial in the same way. -/
theorem trial_of_acquisition {machine : Machine} {tier : Tier} {verdict : Verdict}
    (acquired : machine.acquisition tier = verdict) (failed : verdict ≠ .passes) (dims : Dims) :
    machine.trial dims tier = verdict := by
  rw [acquisition] at acquired
  rw [trial]
  split
  next offers =>
    rw [if_pos offers] at acquired
    rw [verdict_append, acquired]
    cases verdict with
    | passes => exact absurd rfl failed
    | rejects | breaks => rfl
  next denied => rwa [if_neg denied] at acquired

theorem trial_of_passes {machine middle : Machine} {tier : Tier} (passes : machine.acquisition tier = .passes)
    (used : Used (Api.ofTier tier) ((Acquire.hurdles tier).flatMap Hurdle.used) machine middle)
    (dims : Dims) :
    machine.trial dims tier = middle.verdict (Api.ofTier tier) (buildHurdles tier dims) := by
  rw [acquisition] at passes
  split at passes
  next offers => rw [trial, if_pos offers, used.verdict_append _, passes, Verdict.passes_and]
  next => cases passes

/-- Errors of any kind at the points of a build only reject. -/
theorem verdict_buildHurdles (machine : Machine) (api : Api) (tier : Tier) (dims : Dims) :
    machine.verdict api (buildHurdles tier dims) =
      if dims.isEmpty = false ∧ machine.due api (ResourceSet.buildPoints tier) = [] then .passes
      else .rejects := by
  have hurdles : buildHurdles tier dims =
      [.granted fun _ => !dims.isEmpty] ++ [.stretch .listened (ResourceSet.buildPoints tier)] := rfl
  rw [hurdles, Used.verdict_append [.granted _] (Used.refl machine), verdict_granted,
    verdict_stretch]
  cases dims.isEmpty with
  | true => rfl
  | false =>
    change Regime.listened.verdict _ = _
    cases machine.due api (ResourceSet.buildPoints tier) with
    | nil => rfl
    | cons first rest =>
      exact Regime.verdict_of_taken (List.cons_ne_nil first rest) (List.all_eq_true.mpr fun _ _ => rfl)

end Machine
end Gpu

structure Renderer.Complete (dims : Dims) (r : Renderer) : Prop where
  dims : r.resources.map ResourceSet.dims = some dims
  holds : r.backend.Holds r.owned
  live : r.live = 7

namespace Renderer
open Gpu (Machine Api Regime)

/-- Whatever is raised during a build, the build is refused at most. -/
private theorem build_checked {tier : Tier} {b : Gpu.Backend}
    (listened : b.device = Regime.listened.device (Api.ofTier tier) []) (kind : b.tier = tier)
    (dims : Dims) (scene : Scene σ) :
    (build (.gpu b) dims).Leads scene
      (fun r _ =>
        scene.platform.gpu.verdict (Api.ofTier tier) (Gpu.buildHurdles tier dims) = .passes ∧
        r.tier = tier ∧ r.resources.map ResourceSet.dims = some dims)
      (fun failure after =>
        (scene.platform.gpu.verdict (Api.ofTier tier) (Gpu.buildHurdles tier dims)).Fails
          (Api.ofTier tier) scene.platform.gpu after.platform.gpu failure) := by
  have checks := ResourceSet.build_checks dims (Api.ofTier tier) ⟨.gpu b, scene.platform⟩
    ⟨b, rfl, listened, kind, nofun⟩
  rw [Machine.verdict_buildHurdles]
  simp only [build, leads_bind, leads_apart, leads_onFailure, leads_settle]
  apply checks.mono
  · rintro set ⟨_, last⟩ ⟨_, calm, ⟨shown, same, ⟨built, rfl, _, kind, _⟩⟩, _⟩
    rw [if_pos ⟨shown, calm⟩]
    exact ⟨rfl, kind, congrArg some same⟩
  · intro failure middle ⟨part, least, tells, _, used⟩
    have quiet : Gpu.Quiet (Backend.Equipped tier []) Backend.drop := Backend.drop_quiet
    apply (quiet middle).mono
    · intro _ after ⟨_, still⟩
      have others (other : Api) (apart : other ≠ Api.ofTier tier) :
          after.platform.gpu.driver other = scene.platform.gpu.driver other := by
        rw [still]
        exact used.others other apart
      cases raised : scene.platform.gpu.due (Api.ofTier tier) part with
      | nil =>
        rw [raised] at tells
        obtain ⟨empty, cause, rfl⟩ := tells
        rw [if_neg (by simp [empty])]
        exact ⟨rfl, others⟩
      | cons first rest =>
        rw [raised] at tells
        obtain ⟨cause, rfl, _⟩ := tells
        have some_ : scene.platform.gpu.due (Api.ofTier tier) (ResourceSet.buildPoints tier) ≠ [] := by
          intro calm
          have short := Machine.due_prefix least scene.platform.gpu (Api.ofTier tier)
          rw [raised, calm] at short
          exact absurd (List.prefix_nil.mp short) (List.cons_ne_nil first rest)
        rw [if_neg fun both => some_ both.2]
        exact ⟨rfl, others⟩
    · exact fun _ _ impossible => impossible.elim

/-- A build on a tier that was just acquired. -/
private theorem build_ends {tier : Tier} {b : Gpu.Backend} (started : Gpu.Acquire.Started tier b) (dims : Dims)
    (scene : Scene σ) :
    (build (.gpu b) dims).Leads scene
      (fun r _ =>
        scene.platform.gpu.verdict (Api.ofTier tier) (Gpu.buildHurdles tier dims) = .passes ∧
        r.tier = tier ∧ r.Complete dims)
      (fun failure after =>
        (scene.platform.gpu.verdict (Api.ofTier tier) (Gpu.buildHurdles tier dims)).Fails
          (Api.ofTier tier) scene.platform.gpu after.platform.gpu failure) := by
  have bare : Booked ⟨7, {}, scene.platform⟩ [] ⟨.gpu b, scene.platform⟩ :=
    ⟨[], (List.append_nil _).symm, trivial, rfl, Backend.backs_of_live_eq_zero started.live_eq_zero⟩
  apply ((build_checked started.device_eq started.tier_eq dims scene).and
    ((build_opens (.gpu b) dims scene).and
      (build_accounted (Nat.le_refl 7) bare))).mono
  · intro r after ⟨⟨passes, kind, same⟩, ⟨_, seven, _⟩, accounted⟩
    have holds := (Orderly.of_booked accounted).2
    exact ⟨passes, kind, same, holds, holds.live_eq.trans seven⟩
  · exact fun _ _ both => both.1

/-- The end of a renderer does not fail, and raises nothing. -/
private theorem discard_leads (r : Renderer) (scene : Scene σ) :
    r.discard.Leads scene
      (fun _ after => after.own = scene.own ∧ after.platform.gpu.driver = scene.platform.gpu.driver)
      fun _ _ => False := by
  have onBackend {action : Act Backend Unit} (quiet : Gpu.Quiet (Backend.Equipped .none []) action) :
      Gpu.Quiet (fun r device => Backend.Equipped .none [] r.backend device) (onBackend action) := by
    intro scene
    simp only [Renderer.onBackend, leads_bind, leads_own, leads_within]
    exact quiet ⟨scene.own.backend, scene.platform⟩
  have torn : Gpu.Quiet (fun r device => Backend.Equipped .none [] r.backend device) teardown := by
    intro scene
    simp only [teardown, leads_bind, leads_own]
    cases scene.own.resources with
    | none => exact ⟨fun _ same => same, rfl⟩
    | some set => exact onBackend (ResourceSet.releaseAll_quiet set.ids) ⟨{ scene.own with resources := none }, scene.platform⟩
  have closed := torn.bind fun _ => onBackend Backend.drop_quiet
  simp only [discard, leads_bind, leads_apart, leads_settle]
  apply (closed ⟨r, scene.platform⟩).mono
  · exact fun _ _ both => ⟨trivial, both.2⟩
  · exact fun _ _ impossible => impossible

end Renderer

namespace Probe
open Gpu (Machine Api)

private theorem acquire_ends {tier : Tier} (driven : tier ≠ .none) (scene : Scene σ) :
    (Probe.gpu tier).acquire.Leads scene
      (fun found after => found.2 = .gpu tier ∧ match found.1 with
        | .ok backend => scene.platform.gpu.acquisition tier = .passes ∧
            Machine.Used (Api.ofTier tier) ((Gpu.Acquire.hurdles tier).flatMap Gpu.Hurdle.used)
              scene.platform.gpu after.platform.gpu ∧
            ∃ b, backend = .gpu b ∧ Gpu.Acquire.Started tier b
        | .error cause => (scene.platform.gpu.acquisition tier).Fails (Api.ofTier tier)
            scene.platform.gpu after.platform.gpu (.refused cause))
      (fun failure _ => failure = .crashed ∧ scene.platform.gpu.acquisition tier = .breaks) := by
  have kind : Gpu.Acquire.kind tier = tier := by
    cases tier with
    | none => exact absurd rfl driven
    | modern | legacy => rfl
  simp only [acquire, ask, leads_bind, leads_attempt]
  apply (Gpu.Acquire.tier_leads tier scene).mono
  · intro b after outcome
    obtain ⟨passes, started, used⟩ := outcome
    exact ⟨rfl, passes, used, b, rfl, kind ▸ started⟩
  · intro failure after fails
    cases failure with
    | refused cause => exact ⟨rfl, fails⟩
    | crashed => exact ⟨trivial, fails⟩

end Probe

namespace Negotiator
open Gpu (Machine Api)

/-- A tier that is tried gives a complete renderer, is rejected, or breaks the run down, just as its
drivers say. Where it is rejected the other drivers are as before. -/
private theorem tryProbe_ends {tier : Tier} (driven : tier ≠ .none) (dims : Dims) (scene : Scene σ) :
    (tryProbe (.gpu tier) dims).Leads scene
      (fun found after => found.2 = .gpu tier ∧ match found.1 with
        | .ok r => scene.platform.gpu.trial dims tier = .passes ∧ r.tier = tier ∧ r.Complete dims
        | .error cause => (scene.platform.gpu.trial dims tier).Fails (Api.ofTier tier) scene.platform.gpu
            after.platform.gpu (.refused cause))
      (fun failure _ => failure = .crashed ∧ scene.platform.gpu.trial dims tier = .breaks) := by
  simp only [tryProbe, leads_bind, leads_notify]
  apply (Probe.acquire_ends driven _).mono
  · rintro ⟨cause | backend, next⟩ middle ⟨rfl, found⟩
    · exact ⟨rfl, Machine.trial_of_acquisition found.1 nofun dims, found.2⟩
    · obtain ⟨passes, used, b, rfl, started⟩ := found
      simp only [leads_bind, leads_attempt, leads_pure]
      have trial := Machine.trial_of_passes passes used dims
      apply (Renderer.build_ends started dims middle).mono
      · intro r after ⟨built, kind, complete⟩
        exact ⟨trivial, trial.trans built, kind, complete⟩
      · intro failure after fails
        cases failure with
        | refused cause => exact ⟨trivial, trial.trans fails.1, (fails.before used).2⟩
        | crashed => exact ⟨trivial, trial.trans fails⟩
  · rintro failure after ⟨rfl, breaks⟩
    exact ⟨rfl, Machine.trial_of_acquisition breaks nofun dims⟩

/-- The first tier that is not rejected decides. -/
def chosen (verdict : Tier → Gpu.Verdict) (tiers : List Tier) : Option Tier :=
  tiers.find? (verdict · ≠ .rejects)

variable {verdict : Tier → Gpu.Verdict} {tier : Tier} {tiers : List Tier}

private theorem chosen_of_rejects (rejects : verdict tier = .rejects) :
    chosen verdict (tier :: tiers) = chosen verdict tiers := by
  rw [chosen, List.find?_cons_of_neg (by simp [rejects])]
  rfl

private theorem chosen_of_ne (stays : verdict tier ≠ .rejects) : chosen verdict (tier :: tiers) = some tier :=
  List.find?_cons_of_pos (by simpa using stays)

/-- Tiers that share no drivers are tried until one is not rejected. -/
private theorem tryProbes_ends (dims : Dims) (driven : ∀ tier ∈ tiers, tier ≠ .none)
    (apart : (tiers.map Api.ofTier).Nodup) (scene : Scene σ)
    (trials : ∀ tier ∈ tiers, scene.platform.gpu.trial dims tier = verdict tier) :
    (tryProbes dims (tiers.map .gpu)).Leads scene
      (fun found _ => match found.1 with
        | .ok r => chosen verdict tiers = some r.tier ∧ verdict r.tier = .passes ∧ r.Complete dims
        | .error attempts => chosen verdict tiers = none ∧ attempts.map (·.1) = tiers)
      (fun failure _ => failure = .crashed ∧
        ∃ tier, chosen verdict tiers = some tier ∧ verdict tier = .breaks) := by
  induction tiers generalizing scene with
  | nil => exact ⟨rfl, rfl⟩
  | cons tier rest ih =>
    simp only [List.map_cons, tryProbes, leads_bind]
    have first := trials tier List.mem_cons_self
    apply (tryProbe_ends (driven tier List.mem_cons_self) dims scene).mono
    · rintro ⟨cause | r, next⟩ middle ⟨rfl, found⟩
      · obtain ⟨rejects, others⟩ := found
        rw [first] at rejects
        obtain ⟨unshared, distinct⟩ := List.nodup_cons.mp apart
        have later : ∀ other ∈ rest, middle.platform.gpu.trial dims other = verdict other := by
          intro other member
          have differs : Api.ofTier other ≠ Api.ofTier tier :=
            fun same => unshared (same ▸ List.mem_map_of_mem member)
          rw [Machine.trial_congr (others _ differs)]
          exact trials other (List.mem_cons_of_mem _ member)
        simp only [leads_bind, leads_notify, leads_pure, chosen_of_rejects rejects]
        apply (ih (fun other member => driven other (List.mem_cons_of_mem _ member)) distinct
          ⟨middle.own, middle.platform.record _⟩ later).mono
        · rintro ⟨attempts | r, nexts⟩ last ended
          · exact ⟨ended.1, congrArg (tier :: ·) ended.2⟩
          · exact ended
        · exact fun _ _ broken => broken
      · obtain ⟨passes, rfl, complete⟩ := found
        rw [first] at passes
        exact ⟨chosen_of_ne (by simp [passes]), passes, complete⟩
    · rintro failure after ⟨rfl, breaks⟩
      rw [first] at breaks
      exact ⟨rfl, tier, chosen_of_ne (by simp [breaks]), breaks⟩

private theorem retire_raises_nothing (scene : Scene Negotiator) :
    retire.Leads scene
      (fun _ after => after.own = { scene.own with active := none } ∧
        after.platform.gpu.driver = scene.platform.gpu.driver)
      fun _ _ => False := by
  obtain ⟨⟨probes, active⟩, platform⟩ := scene
  simp only [retire, leads_bind, leads_own]
  cases active with
  | none => exact ⟨rfl, rfl⟩
  | some previous => exact Renderer.discard_leads previous _

/-- Over the drivers, whatever errors they raise and wherever: negotiating ends as the first tier does
that is allowed and not rejected. With none left, each was rejected for a cause of its own. The
run breaks down exactly where a device that nobody listens to raises an error of a kind that no
scope takes. -/
theorem negotiation_ends_as_drivers_say (preference : Preference) (active : Option Renderer)
    (dims : Dims) (platform : Platform) :
    let tiers := [Tier.modern, .legacy].filter preference.allows
    let verdict := platform.gpu.trial dims
    (negotiate dims).Leads ⟨{ probes := Probe.forDrivers preference, active }, platform⟩
      (fun _ after => ∃ r, after.own.active = some r ∧ r.tier ∈ tiers ∧ r.Complete dims ∧
        chosen verdict tiers = some r.tier ∧ verdict r.tier = .passes)
      (fun failure after => match failure with
        | .refused cause => chosen verdict tiers = none ∧ after.own.active = some .inert ∧
            ∃ attempts, cause = .exhausted attempts ∧ attempts.map (·.1) = tiers
        | .crashed => ∃ tier, chosen verdict tiers = some tier ∧ verdict tier = .breaks ∧
            platform.gpu.Unheard (Api.ofTier tier)
              (Gpu.Acquire.hurdles tier ++ Gpu.buildHurdles tier dims)) := by
  intro tiers verdict
  have driven : ∀ tier ∈ tiers, tier ≠ .none := by
    cases preference <;> decide
  have apart : (tiers.map Api.ofTier).Nodup := by
    cases preference <;> decide
  simp only [negotiate, leads_bind, leads_own]
  apply (retire_raises_nothing _).mono
  · rintro _ ⟨_, retired⟩ ⟨rfl, still⟩
    have trials : ∀ tier ∈ tiers, retired.gpu.trial dims tier = verdict tier :=
      fun tier _ => Machine.trial_congr (congrFun still _) dims
    apply (tryProbes_ends dims driven apart _ trials).mono
    · rintro ⟨attempts | r, probes⟩ last ended
      · exact ⟨ended.1, rfl, attempts, rfl, ended.2⟩
      · exact ⟨r, rfl, List.mem_of_find?_eq_some ended.1, ended.2.2, ended.1, ended.2.1⟩
    · rintro failure last ⟨rfl, tier, first, breaks⟩
      exact ⟨tier, first, breaks, Machine.unheard_of_breaks breaks⟩
  · exact fun _ _ impossible => impossible.elim

/-- The surface of the modern tier cannot be configured. The legacy tier has nothing against it. -/
def unconfigurable : Platform :=
  { gpu := { primary := { script := { faults :=
    [⟨"configure", none, ⟨.validation, "surface configuration is not supported"⟩⟩] } } } }

/-- The legacy tier is not tried, because the run breaks down with the modern one. -/
theorem configure_error_escapes_negotiation :
    unconfigurable.gpu.trial ⟨64, 32⟩ .legacy = .passes ∧
      (negotiate ⟨64, 32⟩).Leads ⟨{ probes := Probe.forDrivers .auto }, unconfigurable⟩
        (fun _ _ => False) (fun failure _ => failure matches .crashed) := by
  decide +kernel

end Negotiator
end FrameViewer
