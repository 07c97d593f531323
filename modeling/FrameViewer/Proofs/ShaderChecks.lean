import FrameViewer.Proofs.CheckedPoints

/-! The check of a tier's shaders, on a device with whatever scopes open and whoever listening. Each of
its stages is a scope of its own, which catches all validation errors of the stage and is closed
before the outcome is looked at. So nothing gets out, and nothing outside has a part in the outcome. -/

namespace FrameViewer

namespace Gpu

/-- What a call is to the scopes of a device and to the points that errors are raised at. -/
inductive Signal where
  | push (filter : ErrorKind)
  | pop
  | point (label : String)
  | other
  deriving DecidableEq

def Call.signal : Call → Signal
  | pushScope filter => .push filter
  | popScope => .pop
  | shaderModule _ label _ _ | bindGroupLayout _ label _ | pipelineLayout _ label _ => .point label
  | renderPipeline _ shape => .point shape.label
  | _ => .other

def Check.signals (check : Check) : List Signal :=
  .push .validation :: check.points.map .point ++ [.pop]

/-- As many scopes are closed as are opened. -/
theorem Check.signals_balanced (checks : List Check) :
    (checks.flatMap signals).count (.push .validation) = (checks.flatMap signals).count .pop := by
  induction checks with
  | nil => rfl
  | cons check rest ih =>
    have inside {signal : Signal} (apart : ∀ label, signal ≠ .point label) :
        (check.points.map Signal.point).count signal = 0 := by
      refine List.count_eq_zero.mpr fun member => ?_
      obtain ⟨label, _, same⟩ := List.mem_map.mp member
      exact apart label same.symm
    rw [List.flatMap_cons, List.count_append, List.count_append, ih]
    simp [signals, inside]

end Gpu

namespace Platform

def signals (platform : Platform) : List Gpu.Signal :=
  platform.events.toList.filterMap fun
    | .gpu call => some call.signal
    | _ => none

private theorem signals_record_gpu (platform : Platform) (call : Gpu.Call) :
    (platform.record (.gpu call)).signals = platform.signals ++ [call.signal] := by
  simp [signals, record]

private theorem signals_record_notice (platform : Platform) (notice : Notice) :
    (platform.record (.notice notice)).signals = platform.signals := by
  simp [signals, record]

end Platform

namespace Gpu

/-- No other errors than validation errors are in the script of those drivers. -/
def Machine.OnlyValidation (machine : Machine) (api : Api) : Prop :=
  ∀ fault ∈ (machine.driver api).script.faults, fault.error.kind = .validation

private theorem Script.kind_of_due {script : Script}
    (valid : ∀ fault ∈ script.faults, fault.error.kind = .validation) (uses points : List String) :
    ∀ e ∈ script.dueAll uses points, e.kind = .validation := by
  induction points generalizing uses with
  | nil => exact nofun
  | cons point rest ih =>
    intro e member
    rcases List.mem_append.mp member with now | later
    · obtain ⟨fault, scripted, rfl⟩ := List.mem_map.mp now
      exact valid fault (List.mem_filter.mp scripted).1
    · exact ih _ e later

private theorem Machine.Used.onlyValidation {api : Api} {points : List String} {before after : Machine}
    (used : Used api points before after) (valid : before.OnlyValidation api) :
    after.OnlyValidation api := by
  rw [OnlyValidation, used.script]
  exact valid

def Device.catching (outer : Device) (caught : List DeviceError) : Device :=
  { outer with scopes := { filter := .validation, caught := caught.head? } :: outer.scopes }

section Contained
open Act

variable {α β : Type} {api : Api} {points more : List String} {action : Act Device α}

/-- In a validation scope the action uses those points, one call for each. The scope catches what is
raised, and whatever else is about the device has no part in it. -/
def Contained (api : Api) (points : List String) (action : Act Device α) : Prop :=
  ∀ (platform : Platform) (caught : List DeviceError), platform.gpu.OnlyValidation api →
    ∃ value last, Machine.Used api points platform.gpu last.gpu ∧
      last.signals = platform.signals ++ points.map .point ∧
      ∀ outer : Device, outer.api = api → action ⟨outer.catching caught, platform⟩ =
        .ok value ⟨outer.catching (caught ++ platform.gpu.due api points), last⟩

namespace Contained

theorem pure (value : α) : Contained api [] (pure value : Act Device α) := by
  intro platform caught _
  refine ⟨value, platform, .refl _, (List.append_nil _).symm, fun outer _ => ?_⟩
  rw [show platform.gpu.due api [] = [] from rfl, List.append_nil]
  rfl

theorem bind {next : α → Act Device β} (early : Contained api points action)
    (rest : ∀ value, Contained api more (next value)) :
    Contained api (points ++ more) (action >>= next) := by
  intro platform caught valid
  obtain ⟨value, middle, used, signals, ran⟩ := early platform caught valid
  obtain ⟨result, last, usedMore, signalsMore, ranMore⟩ := rest value middle _ (used.onlyValidation valid)
  refine ⟨result, last, used.trans usedMore, ?_, fun outer same => ?_⟩
  · rw [signalsMore, signals, List.map_append, List.append_assoc]
  · rw [bind_of_ok (ran outer same), ranMore outer same, used.due_append, List.append_assoc]

end Contained

namespace Device

/-- A scope around them takes every validation error. -/
private theorem deliverAll_catching (outer : Device) (platform : Platform) {due : List DeviceError}
    (valid : ∀ e ∈ due, e.kind = .validation) (caught : List DeviceError) :
    deliverAll due ⟨outer.catching caught, platform⟩ = .ok () ⟨outer.catching (caught ++ due), platform⟩ := by
  induction due generalizing caught with
  | nil =>
    rw [List.append_nil]
    rfl
  | cons e rest ih =>
    have delivered : deliver e ⟨outer.catching caught, platform⟩ =
        .ok () ⟨outer.catching (caught ++ [e]), platform⟩ := by
      apply Leads.eq_ok
      simp only [deliver, catching, leads_bind, leads_own, catchIn, valid e List.mem_cons_self, if_true,
        leads_setOwn, head?_concat]
      exact ⟨trivial, trivial⟩
    rw [deliverAll_cons, bind_of_ok delivered, ih (fun e member => valid e (List.mem_cons_of_mem _ member)),
      List.append_assoc, List.singleton_append]

private theorem make_contained {label : String} {call : Nat → Call}
    (told : ∀ object, (call object).signal = .point label) : Contained api [label] (make label call) := by
  intro platform caught valid
  let object := platform.gpu.objects + 1
  let called : Platform :=
    { platform with gpu := { platform.gpu with objects := object } }.record (.gpu (call object))
  let last : Platform :=
    { called with gpu := called.gpu.setDriver api ((platform.gpu.driver api).reach label).2 }
  have ran (outer : Device) (same : outer.api = api) : make label call ⟨outer.catching caught, platform⟩ =
      .ok object ⟨outer.catching (caught ++ platform.gpu.due api [label]), last⟩ := by
    subst same
    have due : platform.gpu.due outer.api [label] = ((platform.gpu.driver outer.api).reach label).1 :=
      List.append_nil _
    have kinds := Script.kind_of_due valid (platform.gpu.driver outer.api).pointUses [label]
    rw [due]
    change (deliverAll ((platform.gpu.driver outer.api).reach label).1 >>= fun _ => Pure.pure object)
      ⟨outer.catching caught, last⟩ = _
    rw [bind_of_ok (deliverAll_catching outer last (due ▸ kinds) caught)]
    rfl
  have hears : Hears .guarded Eq [label] (make label call) := make_hears label call
  have heard := (leads_of_ok (ran { api } rfl)).mp (hears api caught ⟨_, platform⟩ rfl)
  refine ⟨object, last, heard.2.2, ?_, ran⟩
  rw [List.map_singleton, ← told object]
  exact Platform.signals_record_gpu _ _

private theorem shaderModule_contained (dialect : ShaderDialect) (stage : ShaderStage) :
    Contained api [dialect.label stage] (shaderModule dialect stage) :=
  make_contained fun _ => rfl

private theorem groupLayouts_contained :
    Contained api ["quad-uniforms-bgl", "quad-texture-bgl"] groupLayouts :=
  .bind (make_contained fun _ => rfl) fun _ => .bind (make_contained fun _ => rfl) fun _ => .pure _

private theorem renderPipeline_contained (choice : PipelineChoice) (modules : ShaderModules)
    (groups : GroupLayouts) :
    Contained api ["quad-pl", choice.label] (renderPipeline choice modules groups) :=
  .bind (make_contained fun _ => rfl) fun _ => make_contained fun _ => rfl

end Device
end Contained

section Stages
open Act

variable {α β : Type} {api : Api} {checks more : List Check} {action : Act Device α}

/-- All of the checks find nothing: all their points were used, and nothing was raised there. -/
structure Passed (api : Api) (checks : List Check) (before after : Platform) : Prop where
  calm : before.gpu.due api (pointsOf checks) = []
  used : Machine.Used api (pointsOf checks) before.gpu after.gpu
  signals : after.signals = before.signals ++ checks.flatMap Check.signals

/-- A check found an error and told it; those after it were not begun. -/
def Broke (api : Api) (checks : List Check) (before after : Platform) (cause : RenderError) : Prop :=
  ∃ passed broken first, before.gpu.FirstBroken api checks passed broken first ∧
    cause = broken.into first.text ∧
    Machine.Used api (pointsOf (passed ++ [broken])) before.gpu after.gpu ∧
    after.signals = before.signals ++ (passed ++ [broken]).flatMap Check.signals

/-- The action comes to the same on every device of those drivers, and leaves it as it was: a value when
all of the checks pass, else the refusal of the first that does not. -/
def Stages (api : Api) (checks : List Check) (action : Act Device α) : Prop :=
  ∀ platform : Platform, platform.gpu.OnlyValidation api → ∃ last,
    (Passed api checks platform last ∧ ∃ value, ∀ outer : Device, outer.api = api →
      action ⟨outer, platform⟩ = .ok value ⟨outer, last⟩) ∨
    ∃ cause, Broke api checks platform last cause ∧ ∀ outer : Device, outer.api = api →
      action ⟨outer, platform⟩ = .error (.refused cause) ⟨outer, last⟩

namespace Stages

theorem notify (notice : Notice) : Stages api [] (notify notice) := by
  intro platform _
  refine ⟨platform.record (.notice notice), .inl ⟨⟨rfl, .refl _, ?_⟩, (), fun _ _ => rfl⟩⟩
  rw [platform.signals_record_notice, List.flatMap_nil, List.append_nil]

theorem bind (checks : List Check) {next : α → Act Device β} (early : Stages api checks action)
    (rest : ∀ value, Stages api more (next value)) : Stages api (checks ++ more) (action >>= next) := by
  intro platform valid
  obtain ⟨middle, ⟨passed, value, ran⟩ | ⟨cause, broke, ran⟩⟩ := early platform valid
  · have signalled (some : List Check) {last : Platform}
        (signals : last.signals = middle.signals ++ some.flatMap Check.signals) :
        last.signals = platform.signals ++ (checks ++ some).flatMap Check.signals := by
      rw [signals, passed.signals, List.flatMap_append, List.append_assoc]
    obtain ⟨last, ⟨also, result, ranMore⟩ | ⟨cause, broke, ranMore⟩⟩ :=
      rest value middle (passed.used.onlyValidation valid)
    · refine ⟨last, .inl ⟨⟨?_, ?_, signalled more also.signals⟩, result, fun outer same => ?_⟩⟩
      · rw [pointsOf_append, passed.used.due_append, passed.calm, also.calm, List.append_nil]
      · rw [pointsOf_append]
        exact passed.used.trans also.used
      · rw [bind_of_ok (ran outer same), ranMore outer same]
    · obtain ⟨before, broken, first, breaks, told, used, signals⟩ := broke
      refine ⟨last, .inr ⟨cause, ⟨checks ++ before, broken, first, ?_, told, ?_, ?_⟩, fun outer same => ?_⟩⟩
      · exact breaks.after passed.used passed.calm
      · rw [List.append_assoc, pointsOf_append]
        exact passed.used.trans used
      · rw [List.append_assoc]
        exact signalled _ signals
      · rw [bind_of_ok (ran outer same), ranMore outer same]
  · obtain ⟨before, broken, first, breaks, told, used, signals⟩ := broke
    refine ⟨middle, .inr ⟨cause, ⟨before, broken, first, breaks.before_more more, told, used, signals⟩, ?_⟩⟩
    exact fun outer same => bind_of_error (ran outer same)

end Stages

namespace Device

/-- A scope of its own makes a check of an action. -/
theorem inScope_stages {points : List String} (contained : Contained api points action)
    (into : String → RenderError) : Stages api [⟨points, into⟩] (inScope action into) := by
  intro platform valid
  obtain ⟨value, last, used, signals, ran⟩ :=
    contained (platform.record (.gpu (.pushScope .validation))) [] valid
  have wholly : Machine.Used api (pointsOf [⟨points, into⟩]) platform.gpu last.gpu := by
    rwa [pointsOf_singleton]
  have signalled : (last.record (.gpu .popScope)).signals =
      platform.signals ++ [⟨points, into⟩].flatMap Check.signals := by
    rw [Platform.signals_record_gpu, signals, Platform.signals_record_gpu, List.flatMap_singleton]
    simp [Check.signals, Call.signal]
  have closed (outer : Device) (of : outer.api = api) : inScope action into ⟨outer, platform⟩ =
      ((platform.gpu.due api points).head?.elim (pure value) fun e => refuse (into e.text) : Act Device α)
        ⟨outer, last.record (.gpu .popScope)⟩ := by
    have pushed : pushScope .validation ⟨outer, platform⟩ =
        .ok () ⟨outer.catching [], platform.record (.gpu (.pushScope .validation))⟩ := rfl
    have popped : popScope ⟨outer.catching (platform.gpu.due api points), last⟩ =
        .ok (platform.gpu.due api points).head? ⟨outer, last.record (.gpu .popScope)⟩ := rfl
    rw [inScope, bind_of_ok pushed, bind_of_ok (ran outer of), List.nil_append]
    refine (bind_of_ok popped).trans ?_
    cases (platform.gpu.due api points).head? <;> rfl
  refine ⟨last.record (.gpu .popScope), ?_⟩
  cases due : platform.gpu.due api points with
  | nil =>
    refine .inl ⟨⟨?_, wholly, signalled⟩, value, fun outer of => ?_⟩
    · rwa [pointsOf_singleton]
    · rw [closed outer of, due]
      rfl
  | cons first rest =>
    refine .inr ⟨into first.text, ⟨[], ⟨points, into⟩, first, ?_, rfl, wholly, signalled⟩, fun outer of => ?_⟩
    · refine .of_head? (List.prefix_refl _) rfl ?_
      rw [List.nil_append, pointsOf_singleton, due]
      rfl
    · rw [closed outer of, due]
      rfl

/-- What is checked of the shaders of a tier: each stage by itself, then all that they link to. -/
def stages (tier : Tier) : List Check :=
  [⟨[(ShaderDialect.ofTier tier).label .vertex], .compile .vertex⟩,
   ⟨[(ShaderDialect.ofTier tier).label .fragment], .compile .fragment⟩,
   ⟨["quad-uniforms-bgl", "quad-texture-bgl", "quad-pl", "quad-pipeline-check"], .link⟩]

private theorem validateShaders_stages (tier : Tier) (format : String) :
    Stages api (stages tier) (validateShaders tier format) := by
  apply Stages.bind [_] (inScope_stages (shaderModule_contained _ _) _)
  intro vertex
  apply Stages.bind [_] (inScope_stages (shaderModule_contained _ _) _)
  intro fragment
  have linked (choice : PipelineChoice) (modules : ShaderModules) :
      Contained api (["quad-uniforms-bgl", "quad-texture-bgl"] ++ ["quad-pl", choice.label])
        (groupLayouts >>= renderPipeline choice modules) :=
    groupLayouts_contained.bind fun groups => renderPipeline_contained choice modules groups
  exact .bind [_] (inScope_stages (linked
    { label := "quad-pipeline-check", layouts := Quad.layouts, counterClockwise := false,
      cullBackFaces := false, format } ⟨vertex, fragment⟩) .link) fun _ => .notify _

/-- With validation errors only, the check of the shaders comes to one outcome on all devices of the
drivers, whatever scopes are open and whoever listens, and leaves the device as it was: so it does where
an error that got out of its own scopes would break the run down. It works exactly if nothing is raised
at the points that it uses. Otherwise it tells the first error of the first stage that has one, and no
call is made for a later stage. Scopes are closed as often as opened. -/
theorem validateShaders_names_first_broken_stage {platform : Platform} {api : Api}
    (valid : platform.gpu.OnlyValidation api) (tier : Tier) (format : String) :
    ∃ outcome last used added,
      (∀ outer : Device, outer.api = api →
        attempt (validateShaders tier format) ⟨outer, platform⟩ = .ok outcome ⟨outer, last⟩) ∧
      Machine.Used api used platform.gpu last.gpu ∧
      (outcome = .ok () ↔ platform.gpu.due api used = []) ∧
      last.signals = platform.signals ++ added ∧ added.count (.push .validation) = added.count .pop ∧
      match outcome with
      | .ok _ => Passed api (stages tier) platform last
      | .error cause => Broke api (stages tier) platform last cause := by
  obtain ⟨last, ⟨passed, value, ran⟩ | ⟨cause, broke, ran⟩⟩ :=
    validateShaders_stages tier format platform valid
  · refine ⟨.ok (), last, _, _, fun outer same => ?_, passed.used, ?_, passed.signals,
      Check.signals_balanced _, passed⟩
    · simp only [attempt, ran outer same]
    · exact iff_of_true rfl passed.calm
  · obtain ⟨before, broken, first, breaks, told, used, signals⟩ := broke
    refine ⟨.error cause, last, _, _, fun outer same => ?_, used, ?_, signals, Check.signals_balanced _,
      before, broken, first, breaks, told, used, signals⟩
    · simp only [attempt, ran outer same]
    · exact iff_of_false nofun breaks.due_ne_nil

/-- Drivers that raise two errors where the fragment stage is compiled, and one where it is linked. -/
def strictPlatform : Platform :=
  { gpu := { primary := { script := { faults :=
      [⟨ShaderDialect.wgsl.label .fragment, none, ⟨.validation, "unknown identifier"⟩⟩,
       ⟨ShaderDialect.wgsl.label .fragment, some 1, ⟨.validation, "type mismatch"⟩⟩,
       ⟨"quad-pl", none, ⟨.validation, "layout mismatch"⟩⟩] } } } }

theorem validateShaders_names_stage_of_strict_drivers :
    strictPlatform.gpu.OnlyValidation .primary ∧ ∃ outcome last used added,
      (∀ outer : Device, outer.api = .primary →
        attempt (validateShaders .modern "Bgra8Unorm") ⟨outer, strictPlatform⟩ =
          .ok outcome ⟨outer, last⟩) ∧
      Machine.Used .primary used strictPlatform.gpu last.gpu ∧
      (outcome = .ok () ↔ strictPlatform.gpu.due .primary used = []) ∧
      last.signals = strictPlatform.signals ++ added ∧
      added.count (.push .validation) = added.count .pop ∧
      match outcome with
      | .ok _ => Passed .primary (stages .modern) strictPlatform last
      | .error cause => Broke .primary (stages .modern) strictPlatform last cause := by
  have valid : strictPlatform.gpu.OnlyValidation .primary := by
    simp [strictPlatform, Machine.OnlyValidation, Machine.driver]
  exact ⟨valid, validateShaders_names_first_broken_stage valid .modern "Bgra8Unorm"⟩

end Device
end Stages
end Gpu
end FrameViewer
