import FrameViewer.Gpu.Pipeline
import FrameViewer.Proofs.ActionBounds

/-! The errors that a driver raises at its scripted points, and where they go. A device is in one of
three regimes: inside a validation scope, bare, or listened to. Each takes some kinds of errors and
keeps the first one; at an error of a kind that it does not take the run breaks down. -/

namespace FrameViewer.Gpu

section Raised

/-- What one more use of a point raises. The uses so far are given newest first. -/
def Script.due (script : Script) (uses : List String) (point : String) : List DeviceError :=
  ({ script, pointUses := uses : Driver }.reach point).1

def Script.dueAll (script : Script) (uses : List String) : List String → List DeviceError
  | [] => []
  | point :: rest => script.due uses point ++ script.dueAll (point :: uses) rest

def Script.raised (script : Script) : List String → List DeviceError
  | [] => []
  | point :: earlier => script.raised earlier ++ script.due earlier point

theorem Script.dueAll_append (script : Script) (uses points more : List String) :
    script.dueAll uses (points ++ more) =
      script.dueAll uses points ++ script.dueAll (points.reverse ++ uses) more := by
  induction points generalizing uses with
  | nil => rfl
  | cons point rest ih =>
    rw [List.cons_append, dueAll, dueAll, ih, List.append_assoc, List.reverse_cons, List.append_assoc,
      List.singleton_append]

private theorem Script.raised_append (script : Script) (uses points : List String) :
    script.raised (points.reverse ++ uses) = script.raised uses ++ script.dueAll uses points := by
  induction points generalizing uses with
  | nil => exact (List.append_nil _).symm
  | cons point rest ih =>
    rw [List.reverse_cons, List.append_assoc, List.singleton_append, ih, raised, dueAll,
      List.append_assoc]

namespace Machine

@[simp] theorem driver_setDriver (machine : Machine) (api : Api) (driver : Driver) :
    (machine.setDriver api driver).driver api = driver := by
  cases api <;> rfl

theorem driver_setDriver_of_ne (machine : Machine) {api other : Api} (driver : Driver)
    (apart : other ≠ api) : (machine.setDriver api driver).driver other = machine.driver other := by
  cases api <;> cases other <;> first | rfl | exact absurd rfl apart

/-- What a family of drivers would raise if these points were used now. -/
def due (machine : Machine) (api : Api) (points : List String) : List DeviceError :=
  (machine.driver api).script.dueAll (machine.driver api).pointUses points

def raised (machine : Machine) (api : Api) : List DeviceError :=
  (machine.driver api).script.raised (machine.driver api).pointUses

/-- Between the two, a family of drivers was used at these points, and no other family was. -/
structure Used (api : Api) (points : List String) (before after : Machine) : Prop where
  script : (after.driver api).script = (before.driver api).script
  uses : (after.driver api).pointUses = points.reverse ++ (before.driver api).pointUses
  others : ∀ other, other ≠ api → after.driver other = before.driver other

namespace Used

variable {api : Api} {points more : List String} {before middle after : Machine}

theorem of_driver_eq (same : after.driver = before.driver) : Used api [] before after :=
  ⟨by rw [same], by rw [same]; rfl, fun other _ => by rw [same]⟩

theorem refl (machine : Machine) : Used api [] machine machine :=
  of_driver_eq rfl

theorem trans (first : Used api points before middle) (second : Used api more middle after) :
    Used api (points ++ more) before after := by
  refine ⟨second.script.trans first.script, ?_, fun other apart => ?_⟩
  · rw [second.uses, first.uses, List.reverse_append, List.append_assoc]
  · rw [second.others other apart, first.others other apart]

theorem due_append (used : Used api points before middle) (more : List String) :
    before.due api (points ++ more) = before.due api points ++ middle.due api more := by
  rw [due, due, due, used.script, used.uses, Script.dueAll_append]

theorem raised (used : Used api points before after) :
    after.raised api = before.raised api ++ before.due api points := by
  rw [Machine.raised, Machine.raised, due, used.script, used.uses, Script.raised_append]

end Used
end Machine
end Raised

/-- What becomes of an error that a device raises. -/
inductive Regime where
  /-- A validation scope is open, and nobody listens. -/
  | guarded
  /-- No scope is open, and nobody listens. -/
  | bare
  | listened
  deriving DecidableEq

namespace Regime

def takes : Regime → DeviceError → Bool
  | guarded, e => e.kind == .validation
  | bare, _ => false
  | listened, _ => true

def device (api : Api) (taken : List DeviceError) : Regime → Device
  | guarded => { api, scopes := [{ filter := .validation, caught := taken.head? }] }
  | bare => { api }
  | listened => { api, listener := .installed (taken.head?.map DeviceError.text) }

@[simp] theorem device_api (regime : Regime) (api : Api) (taken : List DeviceError) :
    (regime.device api taken).api = api := by
  cases regime <;> rfl

end Regime

section Hearing
open Act

variable {σ τ α β : Type}

theorem head?_concat (taken : List DeviceError) (e : DeviceError) :
    (taken ++ [e]).head? = taken.head?.or (some e) := by
  cases taken <;> rfl

/-- The action uses those points and nothing else of the drivers, and does not fail but for an error
that the regime does not take. `on` tells which device a part is on. -/
def Hears (regime : Regime) (on : τ → Device → Prop) (points : List String) (action : Act τ α) : Prop :=
  ∀ (api : Api) (taken : List DeviceError) (scene : Scene τ),
    on scene.own (regime.device api taken) →
      action.Leads scene
        (fun _ after => (scene.platform.gpu.due api points).all regime.takes = true ∧
          on after.own (regime.device api (taken ++ scene.platform.gpu.due api points)) ∧
          Machine.Used api points scene.platform.gpu after.platform.gpu)
        (fun failure _ => (scene.platform.gpu.due api points).all regime.takes = false ∧
          failure = .crashed)

/-- Nothing comes of what is done for any device or driver, and it does not fail. -/
@[reducible] def quieting (on : τ → Device → Prop) : Bounds (Scene τ) where
  done before after := (∀ device, on before.own device → on after.own device) ∧
    after.platform.gpu.driver = before.platform.gpu.driver
  failed _ _ _ := False
  allows _ := True
  refl _ := ⟨fun _ same => same, rfl⟩
  trans early late := ⟨fun device at_ => late.1 device (early.1 device at_), late.2.trans early.2⟩
  broken _ impossible := impossible

instance (on : τ → Device → Prop) : Hearing (fun scene : Scene τ => scene) (quieting on) where
  record _ _ _ := ⟨fun _ same => same, rfl⟩

def Quiet (on : τ → Device → Prop) (action : Act τ α) : Prop :=
  action.Respects (fun scene => scene) (quieting on)

variable {regime : Regime} {on : τ → Device → Prop} {points more : List String} {action : Act τ α}

theorem Quiet.newObject : Quiet on newObject := by
  intro scene
  refine ⟨fun _ same => same, funext fun api => ?_⟩
  cases api <;> rfl

namespace Hears

theorem of_quiet (quiet : Quiet on action) : Hears regime on [] action := by
  intro api taken scene at_
  apply (quiet scene).mono
  · intro _ after ⟨same, still⟩
    refine ⟨rfl, same _ ?_, .of_driver_eq still⟩
    rwa [show scene.platform.gpu.due api [] = [] from rfl, List.append_nil]
  · exact fun _ _ impossible => impossible.elim

theorem bind {next : α → Act τ β} (early : Hears regime on points action)
    (rest : ∀ value, Hears regime on more (next value)) :
    Hears regime on (points ++ more) (action >>= next) := by
  intro api taken scene at_
  rw [leads_bind]
  apply (early api taken scene at_).mono
  · intro value middle ⟨took, now, used⟩
    apply (rest value api _ middle now).mono
    · intro _ after ⟨tookMore, later, usedMore⟩
      rw [used.due_append, List.all_append, took, tookMore]
      exact ⟨rfl, List.append_assoc .. ▸ later, used.trans usedMore⟩
    · intro _ after ⟨refused, crashed⟩
      rw [used.due_append, List.all_append, took, refused]
      exact ⟨rfl, crashed⟩
  · intro _ after ⟨refused, crashed⟩
    rw [Machine.due, Script.dueAll_append, List.all_append, Bool.and_eq_false_iff]
    exact ⟨.inl refused, crashed⟩

end Hears

namespace Device

/-- The first error is kept, and at one of a kind that the regime does not take the run breaks down. -/
private theorem deliverAll_leads (regime : Regime) (api : Api) (due taken : List DeviceError)
    (platform : Platform) :
    (deliverAll due).Leads ⟨regime.device api taken, platform⟩
      (fun _ after => due.all regime.takes = true ∧
        after.own = regime.device api (taken ++ due) ∧ after.platform.gpu = platform.gpu)
      (fun failure _ => due.all regime.takes = false ∧ failure = .crashed) := by
  induction due generalizing taken platform with
  | nil => exact ⟨rfl, by rw [List.append_nil], rfl⟩
  | cons e rest ih =>
    have step := ih (taken ++ [e])
    rw [List.append_assoc, List.singleton_append] at step
    cases regime with
    | bare => exact ⟨rfl, rfl⟩
    | guarded =>
      by_cases valid : e.kind = .validation
      · simp only [Regime.device, head?_concat] at step
        simp only [deliverAll_cons, deliver, Regime.device, leads_bind, leads_own, catchIn, valid, if_true,
          leads_setOwn, List.all_cons, Regime.takes, beq_self_eq_true, Bool.true_and]
        exact step platform
      · simp only [deliverAll_cons, deliver, Regime.device, leads_bind, leads_own, catchIn, Ne.symm valid,
          if_false, Option.map_none, leads_crash, List.all_cons, Regime.takes]
        exact ⟨by simp [valid], trivial⟩
    | listened =>
      simp only [Regime.device, head?_concat, Option.map_or, Option.map_some] at step
      simp only [deliverAll_cons, deliver, Regime.device, leads_bind, leads_own, catchIn, leads_notify,
        leads_setOwn, List.all_cons, Regime.takes, Bool.true_and]
      exact step _

theorem reach_hears (point : String) : Hears regime Eq [point] (reach point) := by
  intro api taken ⟨device, platform⟩ at_
  obtain rfl : device = regime.device api taken := at_
  have due : platform.gpu.due api [point] = ((platform.gpu.driver api).reach point).1 :=
    List.append_nil _
  simp only [reach, leads_bind, leads_own, leads_platform, leads_updatePlatform, Regime.device_api, due]
  apply (deliverAll_leads regime api _ taken _).mono
  · rintro _ ⟨_, last⟩ ⟨took, rfl, same⟩
    refine ⟨took, rfl, ?_, ?_, fun other apart => ?_⟩
    · rw [same, Machine.driver_setDriver]
      rfl
    · rw [same, Machine.driver_setDriver]
      rfl
    · rw [same, Machine.driver_setDriver_of_ne _ _ apart]
  · exact fun _ _ refused => refused

theorem make_hears (label : String) (call : Nat → Call) :
    Hears regime Eq [label] (make label call) :=
  .bind (.of_quiet .newObject) fun _ => .bind (.of_quiet (.emit trivial)) fun _ =>
    .bind (reach_hears label) fun _ => .of_quiet (.pure _)

theorem configure_hears (config : SurfaceConfig) : Hears regime Eq ["configure"] (configure config) :=
  .bind (.of_quiet (.emit trivial)) fun _ => reach_hears _

theorem shaderModule_hears (dialect : ShaderDialect) (stage : ShaderStage) :
    Hears regime Eq [dialect.label stage] (shaderModule dialect stage) :=
  make_hears _ _

theorem groupLayouts_hears :
    Hears regime Eq ["quad-uniforms-bgl", "quad-texture-bgl"] groupLayouts :=
  .bind (make_hears _ _) fun _ => .bind (make_hears _ _) fun _ => .of_quiet (.pure _)

theorem renderPipeline_hears (choice : PipelineChoice) (modules : ShaderModules)
    (groups : GroupLayouts) :
    Hears regime Eq ["quad-pl", choice.label] (renderPipeline choice modules groups) :=
  .bind (make_hears _ _) fun _ => make_hears _ _

/-- Asking the surface for its next texture raises no error. -/
theorem currentTexture_hears : Hears regime Eq [] currentTexture := by
  intro api taken ⟨device, platform⟩ at_
  obtain rfl : device = regime.device api taken := at_
  simp only [currentTexture, say, leads_bind, leads_own, leads_platform, leads_updatePlatform,
    leads_emit, leads_pure, Regime.device_api]
  refine ⟨rfl, congrArg (regime.device api) (List.append_nil taken).symm, ?_, ?_, fun other apart => ?_⟩
  · rw [Platform.record, Machine.driver_setDriver]
    rfl
  · rw [Platform.record, Machine.driver_setDriver]
    rfl
  · rw [Platform.record, Machine.driver_setDriver_of_ne _ _ apart]

end Device
end Hearing
end FrameViewer.Gpu
