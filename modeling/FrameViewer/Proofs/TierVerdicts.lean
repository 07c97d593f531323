import FrameViewer.Gpu.Probe
import FrameViewer.Proofs.PendingErrors

/-! What becomes of acquiring a tier, read off the script of its drivers. The points that errors are
raised at come in turn, each in the regime that the device is in by then. -/

namespace FrameViewer.Gpu
open Act

inductive Verdict where
  | passes
  | rejects
  | breaks
  deriving DecidableEq, Repr

/-- An error of a kind that the regime does not take breaks the run down, any other only rejects. -/
def Regime.verdict (regime : Regime) (due : List DeviceError) : Verdict :=
  if due = [] then .passes else if due.all regime.takes then .rejects else .breaks

theorem Regime.verdict_of_taken {regime : Regime} {due : List DeviceError} (raised : due ≠ [])
    (took : due.all regime.takes = true) : regime.verdict due = .rejects := by
  rw [verdict, if_neg raised, if_pos took]

private theorem Regime.verdict_of_refused {regime : Regime} {due : List DeviceError}
    (refused : due.all regime.takes = false) : regime.verdict due = .breaks := by
  have raised : due ≠ [] := by
    rintro rfl
    cases refused
  rw [verdict, if_neg raised, if_neg (by simp [refused])]

def Verdict.and : Verdict → Verdict → Verdict
  | passes, second => second
  | first, _ => first

theorem Verdict.passes_and (verdict : Verdict) : passes.and verdict = verdict :=
  rfl

theorem Verdict.and_assoc (first second third : Verdict) :
    (first.and second).and third = first.and (second.and third) := by
  cases first <;> rfl

/-- What a tier has to get over: something that its script grants or not, or points that are used in
some regime. -/
inductive Hurdle where
  | granted (answer : Script → Bool)
  | stretch (regime : Regime) (points : List String)

namespace Hurdle

def used : Hurdle → List String
  | granted _ => []
  | stretch _ points => points

def verdict (script : Script) (uses : List String) : Hurdle → Verdict
  | granted answer => if answer script then .passes else .rejects
  | stretch regime points => regime.verdict (script.dueAll uses points)

end Hurdle

def Script.verdict (script : Script) (uses : List String) : List Hurdle → Verdict
  | [] => .passes
  | hurdle :: rest =>
    (hurdle.verdict script uses).and (script.verdict (hurdle.used.reverse ++ uses) rest)

theorem Script.verdict_append (script : Script) (uses : List String) (hurdles more : List Hurdle) :
    script.verdict uses (hurdles ++ more) = (script.verdict uses hurdles).and
      (script.verdict ((hurdles.flatMap Hurdle.used).reverse ++ uses) more) := by
  induction hurdles generalizing uses with
  | nil => rfl
  | cons hurdle rest ih =>
    rw [List.cons_append, verdict, ih, verdict, Verdict.and_assoc, List.flatMap_cons, List.reverse_append,
      List.append_assoc]

def Machine.verdict (machine : Machine) (api : Api) (hurdles : List Hurdle) : Verdict :=
  (machine.driver api).script.verdict (machine.driver api).pointUses hurdles

section Machine

variable {api : Api} {machine before middle : Machine}

theorem Machine.verdict_append (machine : Machine) (api : Api) (hurdles more : List Hurdle) :
    machine.verdict api (hurdles ++ more) = (machine.verdict api hurdles).and
      ((machine.driver api).script.verdict
        ((hurdles.flatMap Hurdle.used).reverse ++ (machine.driver api).pointUses) more) :=
  Script.verdict_append ..

theorem Machine.Used.verdict_append (hurdles : List Hurdle)
    (used : Machine.Used api (hurdles.flatMap Hurdle.used) before middle) (more : List Hurdle) :
    before.verdict api (hurdles ++ more) =
      (before.verdict api hurdles).and (middle.verdict api more) := by
  rw [Machine.verdict_append, Machine.verdict, Machine.verdict, used.script, used.uses]

/-- What uses no points changes no verdict. -/
private theorem Machine.Used.verdict_eq (used : Machine.Used api [] before middle) (hurdles : List Hurdle) :
    before.verdict api hurdles = middle.verdict api hurdles :=
  verdict_append [] used hurdles

private theorem Verdict.and_passes (verdict : Verdict) : verdict.and .passes = verdict := by
  cases verdict <;> rfl

theorem Machine.verdict_granted (machine : Machine) (api : Api) (answer : Script → Bool) :
    machine.verdict api [.granted answer] =
      if answer (machine.driver api).script then .passes else .rejects :=
  Verdict.and_passes _

theorem Machine.verdict_stretch (machine : Machine) (api : Api) (regime : Regime)
    (points : List String) :
    machine.verdict api [.stretch regime points] = regime.verdict (machine.due api points) :=
  Verdict.and_passes _

end Machine

/-- Among those points there is one where an error is raised of a kind that its regime does not take. -/
def Machine.Unheard (machine : Machine) (api : Api) (hurdles : List Hurdle) : Prop :=
  ∃ early regime points late, hurdles = early ++ .stretch regime points :: late ∧
    ∃ e ∈ (machine.driver api).script.dueAll
      ((early.flatMap Hurdle.used).reverse ++ (machine.driver api).pointUses) points,
      regime.takes e = false

/-- Nothing else breaks a run down. -/
theorem Script.unheard_of_breaks {script : Script} {uses : List String} {hurdles : List Hurdle}
    (breaks : script.verdict uses hurdles = .breaks) :
    ∃ early regime points late, hurdles = early ++ .stretch regime points :: late ∧
      ∃ e ∈ script.dueAll ((early.flatMap Hurdle.used).reverse ++ uses) points,
        regime.takes e = false := by
  induction hurdles generalizing uses with
  | nil => cases breaks
  | cons hurdle rest ih =>
    rw [verdict] at breaks
    cases own : hurdle.verdict script uses with
    | passes =>
      rw [own, Verdict.passes_and] at breaks
      obtain ⟨early, regime, points, late, rfl, raised⟩ := ih breaks
      refine ⟨hurdle :: early, regime, points, late, rfl, ?_⟩
      rwa [List.flatMap_cons, List.reverse_append, List.append_assoc]
    | rejects =>
      rw [own] at breaks
      cases breaks
    | breaks =>
      cases hurdle with
      | granted answer =>
        rw [Hurdle.verdict] at own
        split at own <;> cases own
      | stretch regime points =>
        rw [Hurdle.verdict, Regime.verdict] at own
        split at own
        · cases own
        · split at own
          · cases own
          next untaken =>
            obtain ⟨e, raised, refused⟩ := List.all_eq_false.mp (Bool.not_eq_true _ ▸ untaken)
            exact ⟨[], regime, points, rest, rfl, e, raised, Bool.not_eq_true _ ▸ refused⟩

section Rules

variable {σ τ α β : Type} {api : Api} {hurdles more : List Hurdle} {pre : τ → Prop}
  {post : β → τ → Prop}

/-- How an action may fail on that verdict. Where it only rejects, no other family of drivers was
used. -/
def Verdict.Fails (verdict : Verdict) (api : Api) (before after : Machine) : Failure → Prop
  | .refused _ => verdict = .rejects ∧ ∀ other, other ≠ api → after.driver other = before.driver other
  | .crashed => verdict = .breaks

/-- From a part as in `pre` the action gets over the hurdles, or fails as their verdict says. -/
def Meets (api : Api) (hurdles : List Hurdle) (pre : τ → Prop) (post : α → τ → Prop)
    (action : Act τ α) : Prop :=
  ∀ scene : Scene τ, pre scene.own → action.Leads scene
    (fun value after => scene.platform.gpu.verdict api hurdles = .passes ∧ post value after.own ∧
      Machine.Used api (hurdles.flatMap Hurdle.used) scene.platform.gpu after.platform.gpu)
    (fun failure after =>
      (scene.platform.gpu.verdict api hurdles).Fails api scene.platform.gpu after.platform.gpu failure)

theorem Verdict.Fails.and {verdict : Verdict} {before after : Machine} {failure : Failure}
    (fails : verdict.Fails api before after failure) (second : Verdict) :
    (verdict.and second).Fails api before after failure := by
  cases failure with
  | refused cause => exact ⟨by rw [fails.1]; rfl, fails.2⟩
  | crashed => exact (congrArg (·.and second) (show verdict = .breaks from fails)).trans rfl

theorem Verdict.Fails.before {verdict : Verdict} {points : List String} {before middle after : Machine}
    {failure : Failure} (fails : verdict.Fails api middle after failure)
    (used : Machine.Used api points before middle) : verdict.Fails api before after failure := by
  cases failure with
  | refused cause =>
    exact ⟨fails.1, fun other apart => (fails.2 other apart).trans (used.others other apart)⟩
  | crashed => exact fails

namespace Meets

theorem of_quiet {on : τ → Device → Prop} {device : Device} {action : Act τ α} (quiet : Quiet on action) :
    Meets api [] (on · device) (fun _ own => on own device) action := by
  intro scene at_
  apply (quiet scene).mono
  · exact fun _ after ⟨same, still⟩ => ⟨rfl, same device at_, .of_driver_eq still⟩
  · exact fun _ _ impossible => impossible.elim

theorem bind (hurdles : List Hurdle) {mid : α → τ → Prop} {action : Act τ α} {next : α → Act τ β}
    (early : Meets api hurdles pre mid action)
    (rest : ∀ value, Meets api more (mid value) post (next value)) :
    Meets api (hurdles ++ more) pre post (action >>= next) := by
  intro scene at_
  rw [leads_bind]
  apply (early scene at_).mono
  · intro value middle ⟨passes, now, used⟩
    rw [used.verdict_append _ more, passes, Verdict.passes_and, List.flatMap_append]
    apply (rest value middle now).mono
    · exact fun _ after ⟨passes, later, usedMore⟩ => ⟨passes, later, used.trans usedMore⟩
    · exact fun _ _ fails => fails.before used
  · intro failure after fails
    rw [Machine.verdict_append]
    exact fails.and _

end Meets
end Rules

namespace Device

variable {α : Type} {api : Api} {points : List String}

def Bare (api : Api) (device : Device) : Prop :=
  device = Regime.bare.device api []

/-- A validation error inside a scope of its own only rejects. -/
theorem inScope_meets {action : Act Device α} (into : String → RenderError)
    (hears : Hears .guarded Eq points action) :
    Meets api [.stretch .guarded points] (Bare api) (fun _ => Bare api) (inScope action into) := by
  rintro ⟨device, platform⟩ rfl
  rw [Machine.verdict_stretch, List.flatMap_singleton]
  simp only [inScope, pushScope, popScope, say, leads_bind, leads_emit, leads_update, leads_own]
  apply (hears api [] ⟨_, platform.record (.gpu (.pushScope .validation))⟩ rfl).mono
  · rintro value ⟨own, last⟩ ⟨took, now, used⟩
    obtain rfl : own = Regime.guarded.device api (platform.gpu.due api points) := now
    cases due : platform.gpu.due api points with
    | nil => exact ⟨rfl, rfl, used⟩
    | cons first rest => exact ⟨Regime.verdict_of_taken (List.cons_ne_nil first rest) (due ▸ took), used.others⟩
  · rintro failure after ⟨refused, rfl⟩
    exact Regime.verdict_of_refused refused

/-- Nobody hears of an error that is raised outside a scope. -/
theorem configure_meets (config : SurfaceConfig) :
    Meets api [.stretch .bare ["configure"]] (Bare api) (fun _ => Bare api) (configure config) := by
  intro scene at_
  rw [Machine.verdict_stretch, List.flatMap_singleton]
  apply (configure_hears config api [] scene at_).mono
  · intro _ after ⟨took, now, used⟩
    cases due : scene.platform.gpu.due api ["configure"] with
    | nil => exact ⟨rfl, now, used⟩
    | cons first rest =>
      rw [due] at took
      cases took
  · rintro failure after ⟨refused, rfl⟩
    exact Regime.verdict_of_refused refused

/-- The shaders of a tier are checked in three scopes, one after another. -/
def checks (tier : Tier) : List Hurdle :=
  [.stretch .guarded [(ShaderDialect.ofTier tier).label .vertex],
   .stretch .guarded [(ShaderDialect.ofTier tier).label .fragment],
   .stretch .guarded ["quad-uniforms-bgl", "quad-texture-bgl", "quad-pl", "quad-pipeline-check"]]

private theorem validateShaders_meets (tier : Tier) (format : String) :
    Meets api (checks tier) (Bare api) (fun _ => Bare api) (validateShaders tier format) := by
  apply Meets.bind [_] (inScope_meets _ (shaderModule_hears _ _))
  intro vertex
  apply Meets.bind [_] (inScope_meets _ (shaderModule_hears _ _))
  intro fragment
  have linked (choice : PipelineChoice) (modules : ShaderModules) :
      Hears .guarded Eq (["quad-uniforms-bgl", "quad-texture-bgl"] ++ ["quad-pl", choice.label])
        (groupLayouts >>= renderPipeline choice modules) :=
    groupLayouts_hears.bind fun groups => renderPipeline_hears choice modules groups
  apply Meets.bind [_] (inScope_meets _ (linked _ _))
  intro _
  exact .of_quiet (.emit trivial)

end Device

namespace Acquire

variable {σ τ α : Type} {api : Api} {pre : σ → Prop}

def deviceGranted (script : Script) : Bool := script.deviceError.isNone

def surfaceGranted (script : Script) : Bool := script.surfaceError.isNone

def formatGranted (script : Script) : Bool := !script.formats.isEmpty

private theorem requestDevice_meets (tier : Tier) (label : String) :
    Meets (Api.ofTier tier) [.granted deviceGranted] (fun _ => True)
      (fun device (_ : σ) => Device.Bare (Api.ofTier tier) device) (requestDevice tier label) := by
  intro scene _
  rw [Machine.verdict_granted, deviceGranted]
  simp only [requestDevice, script, say, leads_bind, leads_platform, leads_pure, leads_emit]
  cases (scene.platform.gpu.driver (Api.ofTier tier)).script.deviceError with
  | none => exact ⟨rfl, rfl, .refl _⟩
  | some reason => exact ⟨rfl, fun _ _ => rfl⟩

private theorem createSurface_leads (tier : Tier) (scene : Scene σ) :
    (createSurface tier).Leads scene
      (fun _ after => surfaceGranted (scene.platform.gpu.driver (Api.ofTier tier)).script = true ∧
        after.own = scene.own ∧ after.platform.gpu = scene.platform.gpu)
      (fun failure after => surfaceGranted (scene.platform.gpu.driver (Api.ofTier tier)).script = false ∧
        (∃ cause, failure = .refused cause) ∧ after.platform.gpu = scene.platform.gpu) := by
  rw [surfaceGranted]
  simp only [createSurface, script, say, leads_bind, leads_platform, leads_pure, leads_emit]
  rw [show (scene.platform.record (.gpu .createSurface)).gpu = scene.platform.gpu from rfl]
  cases (scene.platform.gpu.driver (Api.ofTier tier)).script.surfaceError with
  | none => exact ⟨rfl, rfl, rfl⟩
  | some reason => exact ⟨rfl, ⟨_, rfl⟩, rfl⟩

private theorem createSurface_meets (tier : Tier) :
    Meets (Api.ofTier tier) [.granted surfaceGranted] pre (fun _ => pre) (createSurface tier) := by
  intro scene at_
  rw [Machine.verdict_granted]
  apply (createSurface_leads tier scene).mono
  · intro _ after ⟨granted, own, same⟩
    rw [granted, own, same]
    exact ⟨rfl, at_, .refl _⟩
  · rintro _ after ⟨refused, ⟨cause, rfl⟩, same⟩
    rw [refused, same]
    exact ⟨rfl, fun _ _ => rfl⟩

private theorem chooseFormat_eq_none {formats : List String} : chooseFormat formats = none ↔ formats = [] := by
  unfold chooseFormat
  cases formats with
  | nil => simp
  | cons first rest => simp

private theorem surfaceConfig_meets (tier : Tier) :
    Meets (Api.ofTier tier) [.granted formatGranted] pre (fun _ => pre) (surfaceConfig tier) := by
  intro scene at_
  rw [Machine.verdict_granted, formatGranted]
  simp only [surfaceConfig, script, say, leads_bind, leads_platform, leads_pure, leads_emit]
  rw [show (scene.platform.record (.gpu .getCapabilities)).gpu = scene.platform.gpu from rfl]
  cases chosen : chooseFormat (scene.platform.gpu.driver (Api.ofTier tier)).script.formats with
  | none =>
    rw [chooseFormat_eq_none.mp chosen]
    exact ⟨rfl, fun _ _ => rfl⟩
  | some format =>
    have some_ : (scene.platform.gpu.driver (Api.ofTier tier)).script.formats ≠ [] := by
      intro empty
      rw [chooseFormat_eq_none.mpr empty] at chosen
      cases chosen
    exact ⟨by simp [some_], at_, .refl _⟩

private theorem withDevice_meets {hurdles : List Hurdle} {bare : Device → Prop} {post : α → Prop} {device : Device}
    {action : Act Device α} (meets : Meets api hurdles bare (fun value _ => post value) action)
    (at_ : bare device) :
    Meets api hurdles (fun _ => True) (fun value (_ : σ) => post value) (withDevice device action) := by
  intro scene _
  simp only [withDevice, leads_bind, leads_apart, leads_settle]
  exact meets ⟨device, scene.platform⟩ at_

/-- A tier as its acquisition leaves it: it is listened to, and has no objects. -/
def Started (tier : Tier) (b : Backend) : Prop :=
  ∃ config, b = { tier, device := Regime.listened.device (Api.ofTier tier) [], config }

namespace Started

variable {tier : Tier} {b : Backend}

theorem device_eq (started : Started tier b) :
    b.device = Regime.listened.device (Api.ofTier tier) [] := by
  obtain ⟨config, rfl⟩ := started
  rfl

theorem tier_eq (started : Started tier b) : b.tier = tier := by
  obtain ⟨config, rfl⟩ := started
  rfl

theorem live_eq_zero (started : Started tier b) : b.live = 0 := by
  obtain ⟨config, rfl⟩ := started
  rfl

end Started

private theorem start_meets (tier : Tier) (config : SurfaceConfig) :
    Meets api [] (Device.Bare (Api.ofTier tier)) (fun b _ => Started tier b) (Backend.start tier config) := by
  rintro ⟨_, platform⟩ rfl
  exact ⟨rfl, ⟨config, rfl⟩, .refl _⟩

/-- The modern tier knows neither its surface nor its format before its shaders are checked. -/
def modernHurdles : List Hurdle :=
  .granted deviceGranted :: (Device.checks .modern ++
    [.granted surfaceGranted, .granted formatGranted, .stretch .bare ["configure"]])

def legacyHurdles : List Hurdle :=
  .granted surfaceGranted :: .granted deviceGranted :: .granted formatGranted ::
    (Device.checks .legacy ++ [.stretch .bare ["configure"]])

def hurdles : Tier → List Hurdle
  | .legacy => legacyHurdles
  | _ => modernHurdles

end Acquire

private theorem Machine.used_setDriver (machine : Machine) {api : Api} {driver : Driver}
    (script : driver.script = (machine.driver api).script)
    (uses : driver.pointUses = (machine.driver api).pointUses) :
    Machine.Used api [] machine (machine.setDriver api driver) := by
  refine ⟨?_, ?_, fun other apart => driver_setDriver_of_ne machine driver apart⟩
  · rw [driver_setDriver, script]
  · rw [driver_setDriver, uses]
    rfl

/-- Whether a tier finds an adapter. The legacy tier asks a second time. -/
def Driver.offersAdapter (driver : Driver) : Tier → Bool
  | .legacy => driver.requestAdapter.1 || driver.requestAdapter.2.requestAdapter.1
  | _ => driver.requestAdapter.1

def Machine.acquisition (machine : Machine) (tier : Tier) : Verdict :=
  if (machine.driver (Api.ofTier tier)).offersAdapter tier then
    machine.verdict (Api.ofTier tier) (Acquire.hurdles tier)
  else .rejects

namespace Acquire

variable {σ : Type}

private theorem requestAdapter_leads (tier : Tier) (fallback withSurface : Bool) (scene : Scene σ) :
    (requestAdapter tier fallback withSurface).Leads scene
      (fun found after => found = (scene.platform.gpu.driver (Api.ofTier tier)).requestAdapter.1 ∧
        after.platform.gpu = scene.platform.gpu.setDriver (Api.ofTier tier)
          (scene.platform.gpu.driver (Api.ofTier tier)).requestAdapter.2)
      fun _ _ => False :=
  ⟨rfl, rfl⟩

private theorem announceAdapter_meets {api : Api} (tier : Tier) :
    Meets api [] (fun _ : σ => True) (fun _ _ => True) (announceAdapter tier) :=
  fun _ _ => ⟨rfl, trivial, .refl _⟩

/-- What an acquisition does once it has an adapter. -/
theorem onAdapter_meets (tier : Tier) (label : String) {action : Act Device Backend}
    {hurdles : List Hurdle}
    (meets : Meets (Api.ofTier tier) hurdles (Device.Bare (Api.ofTier tier)) (fun b _ => Started tier b)
      action) :
    Meets (Api.ofTier tier) (.granted deviceGranted :: hurdles) (fun _ : σ => True)
      (fun b _ => Started tier b)
      (do
        announceAdapter tier
        let device ← requestDevice tier label
        withDevice device action) := by
  apply Meets.bind [] (announceAdapter_meets tier)
  intro _
  apply Meets.bind [_] (requestDevice_meets tier label)
  intro device scene at_
  exact withDevice_meets meets at_ scene trivial

/-- Having asked for an adapter does not change what comes after. -/
theorem onFound_leads (tier : Tier) {hurdles : List Hurdle} {action : Act σ Backend}
    (meets : Meets (Api.ofTier tier) hurdles (fun _ => True) (fun b _ => Started tier b) action)
    {before : Machine} {middle : Scene σ}
    (used : Machine.Used (Api.ofTier tier) [] before middle.platform.gpu) :
    action.Leads middle
      (fun b after => before.verdict (Api.ofTier tier) hurdles = .passes ∧ Started tier b ∧
        Machine.Used (Api.ofTier tier) (hurdles.flatMap Hurdle.used) before after.platform.gpu)
      (fun failure after =>
        (before.verdict (Api.ofTier tier) hurdles).Fails (Api.ofTier tier) before after.platform.gpu failure) := by
  rw [used.verdict_eq]
  apply (meets middle trivial).mono
  · exact fun b after ⟨passes, started, usedMore⟩ => ⟨passes, started, used.trans usedMore⟩
  · exact fun failure after fails => fails.before used

private theorem modern_leads (scene : Scene σ) :
    modern.Leads scene
      (fun b after => scene.platform.gpu.acquisition .modern = .passes ∧ Started .modern b ∧
        Machine.Used .primary (modernHurdles.flatMap Hurdle.used) scene.platform.gpu after.platform.gpu)
      (fun failure after => (scene.platform.gpu.acquisition .modern).Fails .primary scene.platform.gpu
        after.platform.gpu failure) := by
  have meets : Meets .primary modernHurdles (fun _ : σ => True) (fun b _ => Started .modern b) _ :=
    onAdapter_meets .modern "chipview-modern" <|
      Meets.bind _ (Device.validateShaders_meets .modern assumedFormat) fun _ =>
        Meets.bind [_] (createSurface_meets .modern) fun _ =>
          Meets.bind [_] (surfaceConfig_meets .modern) fun config =>
            Meets.bind [_] (Device.configure_meets config) fun _ =>
              start_meets .modern config
  have acquisition : scene.platform.gpu.acquisition .modern =
      if (scene.platform.gpu.driver .primary).requestAdapter.1 then
        scene.platform.gpu.verdict .primary modernHurdles
      else .rejects := rfl
  simp only [modern, say, leads_bind, leads_emit]
  apply (requestAdapter_leads .modern false false _).mono
  · rintro found middle ⟨answer, same⟩
    have used : Machine.Used .primary [] scene.platform.gpu middle.platform.gpu :=
      same ▸ scene.platform.gpu.used_setDriver rfl rfl
    rw [acquisition, ← show found = (scene.platform.gpu.driver .primary).requestAdapter.1 from answer]
    cases found with
    | false => exact ⟨rfl, used.others⟩
    | true => exact onFound_leads .modern meets used
  · exact fun _ _ impossible => impossible.elim

private theorem legacyAdapter_leads (scene : Scene σ) :
    legacyAdapter.Leads scene
      (fun found after => found = (scene.platform.gpu.driver .gl).offersAdapter .legacy ∧
        Machine.Used .gl [] scene.platform.gpu after.platform.gpu)
      fun _ _ => False := by
  have once (machine : Machine) :
      Machine.Used .gl [] machine (machine.setDriver .gl (machine.driver .gl).requestAdapter.2) :=
    machine.used_setDriver rfl rfl
  simp only [legacyAdapter, leads_bind]
  apply (requestAdapter_leads .legacy false true scene).mono
  · rintro found middle ⟨answer, same⟩
    rw [Driver.offersAdapter, ← show found = (scene.platform.gpu.driver .gl).requestAdapter.1 from answer]
    cases found with
    | true => exact ⟨rfl, same ▸ once _⟩
    | false =>
      simp only [Bool.false_eq_true, if_false, leads_bind, leads_notify]
      apply (requestAdapter_leads .legacy true true _).mono
      · rintro again last ⟨rfl, next⟩
        have now : (middle.platform.gpu.driver .gl) =
            (scene.platform.gpu.driver .gl).requestAdapter.2 := by
          rw [same]
          exact Machine.driver_setDriver ..
        refine ⟨?_, ?_⟩
        · exact congrArg (fun driver : Driver => driver.requestAdapter.1) now
        · have first : Machine.Used .gl [] scene.platform.gpu middle.platform.gpu := same ▸ once _
          exact first.trans (next ▸ once _)
      · exact fun _ _ impossible => impossible
  · exact fun _ _ impossible => impossible.elim

private theorem legacy_leads (scene : Scene σ) :
    legacy.Leads scene
      (fun b after => scene.platform.gpu.acquisition .legacy = .passes ∧ Started .legacy b ∧
        Machine.Used .gl (legacyHurdles.flatMap Hurdle.used) scene.platform.gpu after.platform.gpu)
      (fun failure after => (scene.platform.gpu.acquisition .legacy).Fails .gl scene.platform.gpu
        after.platform.gpu failure) := by
  have meets : Meets .gl (.granted deviceGranted :: .granted formatGranted :: (Device.checks .legacy ++
      [.stretch .bare ["configure"]])) (fun _ : σ => True) (fun b _ => Started .legacy b) _ :=
    onAdapter_meets .legacy "chipview-legacy" <|
      Meets.bind [_] (surfaceConfig_meets .legacy) fun config =>
        Meets.bind _ (Device.validateShaders_meets .legacy config.format) fun _ =>
          Meets.bind [_] (Device.configure_meets config) fun _ =>
            start_meets .legacy config
  have acquisition : scene.platform.gpu.acquisition .legacy =
      if (scene.platform.gpu.driver .gl).offersAdapter .legacy then
        scene.platform.gpu.verdict .gl legacyHurdles
      else .rejects := rfl
  have verdict := Machine.Used.verdict_append [.granted surfaceGranted]
    (Machine.Used.refl scene.platform.gpu : Machine.Used .gl [] _ _) (.granted deviceGranted :: .granted formatGranted ::
      (Device.checks .legacy ++ [.stretch .bare ["configure"]]))
  rw [Machine.verdict_granted] at verdict
  rw [acquisition, legacyHurdles, ← List.singleton_append, verdict]
  simp only [legacy, say, leads_bind, leads_emit]
  apply (createSurface_leads .legacy _).mono
  · rintro _ ⟨own, platform⟩ ⟨answer, rfl, same⟩
    have granted : surfaceGranted (scene.platform.gpu.driver .gl).script = true := answer
    rw [if_pos granted, Verdict.passes_and]
    apply (legacyAdapter_leads _).mono
    · intro found last both
      obtain ⟨answer, used⟩ := both
      rw [same] at answer used
      rw [← show found = (scene.platform.gpu.driver .gl).offersAdapter .legacy from answer]
      cases found with
      | false => exact ⟨rfl, used.others⟩
      | true => exact onFound_leads .legacy meets used
    · exact fun _ _ impossible => impossible.elim
  · rintro _ last ⟨answer, ⟨cause, rfl⟩, same⟩
    have refused : surfaceGranted (scene.platform.gpu.driver .gl).script = false := answer
    rw [refused, same]
    refine ⟨?_, fun _ _ => rfl⟩
    split <;> rfl

def kind : Tier → Tier
  | .legacy => .legacy
  | _ => .modern

/-- An acquisition ends as the script of its drivers says. When it works it has used its points and
none of them raised an error. -/
theorem tier_leads (tier : Tier) (scene : Scene σ) :
    (Acquire.tier tier).Leads scene
      (fun b after => scene.platform.gpu.acquisition tier = .passes ∧ Started (kind tier) b ∧
        Machine.Used (Api.ofTier tier) ((hurdles tier).flatMap Hurdle.used) scene.platform.gpu
          after.platform.gpu)
      (fun failure after => (scene.platform.gpu.acquisition tier).Fails (Api.ofTier tier)
        scene.platform.gpu after.platform.gpu failure) := by
  cases tier with
  | legacy => exact legacy_leads scene
  | modern | none => exact modern_leads scene

end Acquire
end FrameViewer.Gpu
