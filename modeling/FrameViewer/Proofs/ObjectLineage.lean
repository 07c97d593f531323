import FrameViewer.Gpu.Pipeline
import FrameViewer.Proofs.EventReports

/-! What the objects of a graphics device are made over. Buffers and textures are memory, which a
call of its own destroys; views and bind groups reach it through what they are made of. A lineage is
read off the report alone, and says of every call whether the memory that it reaches is still there. -/

namespace FrameViewer.Gpu

inductive Memory where
  | buffer (object : Nat)
  | texture (object : Nat)
  deriving DecidableEq

def Bound.object : Bound → Nat
  | buffer object | sampler object | view object => object

namespace Call

def names : Call → List Nat
  | unmap object _ | writeTexture object _ _ | beginPass _ object => [object]
  | createView _ texture => [texture]
  | bindGroup _ _ _ entries => entries.map fun (_, bound) => bound.object
  | setBindGroup _ object | setVertexBuffer _ object | setIndexBuffer object => [object]
  | _ => []

def destroys : Call → Option Memory
  | destroyBuffer object => some (.buffer object)
  | destroyTexture object => some (.texture object)
  | _ => none

end Call

structure Lineage where
  /-- The memory that an object was made over. -/
  roots : Nat → List Memory := fun _ => []
  /-- The memory of all that was set since the last pass began. -/
  bound : List Memory := []
  /-- What a tier handed out a number for, the newest first. -/
  registered : List Memory := []
  /-- What was destroyed, the newest first. -/
  destroyed : List Memory := []

namespace Lineage

def memoryOf (lineage : Lineage) (objects : List Nat) : List Memory :=
  objects.flatMap lineage.roots

def trace (lineage : Lineage) (object : Nat) (memory : List Memory) : Lineage :=
  { lineage with roots := fun other => if other = object then memory else lineage.roots other }

/-- The memory that a call reaches. A draw, and what is submitted after it, reaches all that was
set in its pass. -/
def reach (lineage : Lineage) : Call → List Memory
  | .drawIndexed _ | .submit => lineage.bound
  | call => lineage.memoryOf call.names

def called (lineage : Lineage) : Call → Lineage
  | .createBuffer object .. => lineage.trace object [.buffer object]
  | .createTexture object .. => lineage.trace object [.texture object]
  | .createView object texture => lineage.trace object (lineage.roots texture)
  | .bindGroup object label layout entries =>
    lineage.trace object (lineage.memoryOf (Call.bindGroup object label layout entries).names)
  | .beginPass .. => { lineage with bound := [] }
  | .setBindGroup _ object | .setVertexBuffer _ object | .setIndexBuffer object =>
    { lineage with bound := lineage.bound ++ lineage.roots object }
  | .destroyBuffer object => { lineage with destroyed := .buffer object :: lineage.destroyed }
  | .destroyTexture object => { lineage with destroyed := .texture object :: lineage.destroyed }
  | _ => lineage

def enter (lineage : Lineage) : Event → Lineage
  | .gpu call => lineage.called call
  | .handedOut _ (.buffer _) object =>
    { lineage with registered := .buffer object :: lineage.registered }
  | .handedOut _ (.texture _) object =>
    { lineage with registered := .texture object :: lineage.registered }
  | _ => lineage

def read (lineage : Lineage) (log : List Event) : Lineage :=
  log.foldl enter lineage

/-- No call reaches what was destroyed, and only what is registered is destroyed, once. -/
def Allows (lineage : Lineage) : Event → Prop
  | .gpu call => (∀ memory ∈ lineage.reach call, memory ∉ lineage.destroyed) ∧
      ∀ memory ∈ call.destroys, memory ∈ lineage.registered ∧ memory ∉ lineage.destroyed
  | _ => True

def InOrder (lineage : Lineage) : List Event → Prop
  | [] => True
  | event :: rest => lineage.Allows event ∧ (lineage.enter event).InOrder rest

variable {lineage : Lineage} {log more : List Event}

theorem read_append : lineage.read (log ++ more) = (lineage.read log).read more :=
  List.foldl_append

theorem inOrder_append :
    lineage.InOrder (log ++ more) ↔ lineage.InOrder log ∧ (lineage.read log).InOrder more := by
  induction log generalizing lineage with
  | nil => simp [InOrder, read]
  | cons event rest ih => simp only [List.cons_append, InOrder, ih, and_assoc, read, List.foldl_cons]

/-- What was once destroyed is not reached by any later call. -/
theorem InOrder.unreached {early between late : List Event} {call : Call} {memory : Memory}
    (inOrder : lineage.InOrder (early ++ between ++ .gpu call :: late))
    (destroyed : memory ∈ (lineage.read early).destroyed) :
    memory ∉ (lineage.read (early ++ between)).reach call := by
  intro reached
  refine (inOrder_append.mp inOrder).2.1.1 memory reached ?_
  rw [read_append]
  clear inOrder reached
  induction between generalizing early with
  | nil => exact destroyed
  | cons event rest ih =>
    have still : memory ∈ (lineage.read (early ++ [event])).destroyed := by
      rw [read_append]
      cases event with
      | gpu call =>
        cases call <;> first | exact destroyed | exact List.mem_cons_of_mem _ destroyed
      | handedOut tier id object => cases id <;> exact destroyed
      | _ => exact destroyed
    have later := ih still
    rwa [read_append] at later

end Lineage

/-- Tells of no memory. -/
def Mute (event : Event) : Prop :=
  ∀ lineage : Lineage, lineage.enter event = lineage ∧ lineage.Allows event

theorem notice_mute (notice : Notice) : Mute (.notice notice) :=
  fun _ => ⟨rfl, trivial⟩

section Tracing
open Act

/-- What was reported since `start` is in order, and comes to that lineage. -/
def Traced (start : Platform) (lineage : Lineage) (platform : Platform) : Prop :=
  ∃ log, platform.events.toList = start.events.toList ++ log ∧ Lineage.InOrder {} log ∧
    Lineage.read {} log = lineage

namespace Traced

variable {start platform after : Platform} {lineage : Lineage}

theorem refl (platform : Platform) : Traced platform {} platform :=
  ⟨[], (List.append_nil _).symm, trivial, rfl⟩

theorem of_events_eq (traced : Traced start lineage platform) (same : after.events = platform.events) :
    Traced start lineage after := by
  obtain ⟨log, grown, inOrder, read⟩ := traced
  exact ⟨log, same ▸ grown, inOrder, read⟩

private theorem grow {added : List Event} (traced : Traced start lineage platform)
    (grown : after.events.toList = platform.events.toList ++ added) (inOrder : lineage.InOrder added) :
    Traced start (lineage.read added) after := by
  obtain ⟨log, same, sofar, rfl⟩ := traced
  refine ⟨log ++ added, ?_, ?_, Lineage.read_append⟩
  · rw [grown, same, List.append_assoc]
  · exact Lineage.inOrder_append.mpr ⟨sofar, inOrder⟩

theorem record {event : Event} (traced : Traced start lineage platform) (allowed : lineage.Allows event) :
    Traced start (lineage.enter event) (platform.record event) := by
  have grown : (platform.record event).events.toList = platform.events.toList ++ [event] := by
    simp [Platform.record]
  exact traced.grow grown ⟨allowed, trivial⟩

theorem recordAll {log : List Event} (traced : Traced start lineage platform)
    (inOrder : lineage.InOrder log) :
    Traced start (lineage.read log) (log.foldl Platform.record platform) := by
  induction log generalizing lineage platform with
  | nil => exact traced
  | cons event rest ih => exact ih (traced.record inOrder.1) inOrder.2

theorem mute (traced : Traced start lineage platform) (extends' : platform.Extends Mute after) :
    Traced start lineage after := by
  obtain ⟨added, grown, mute⟩ := extends'
  have still : lineage.read added = lineage ∧ lineage.InOrder added := by
    clear grown
    induction added with
    | nil => exact ⟨rfl, trivial⟩
    | cons event rest ih =>
      obtain ⟨same, allowed⟩ := mute event List.mem_cons_self lineage
      obtain ⟨read, inOrder⟩ := ih fun other member => mute other (List.mem_cons_of_mem _ member)
      refine ⟨?_, allowed, same.symm ▸ inOrder⟩
      rw [Lineage.read, List.foldl_cons, same]
      exact read
  have later := traced.grow grown still.2
  rwa [still.1] at later

end Traced

variable {σ τ κ α β : Type}

/-- Nothing is told of any memory between the two, and what is `kept` of the part is the same. -/
structure Unstirred (kept : τ → κ) (before after : Scene τ) : Prop where
  report : before.platform.Extends Mute after.platform
  objects : before.platform.gpu.objects ≤ after.platform.gpu.objects
  same : kept after.own = kept before.own

theorem Unstirred.refl (kept : τ → κ) (scene : Scene τ) : Unstirred kept scene scene :=
  ⟨.refl _, Nat.le_refl _, rfl⟩

theorem Unstirred.trans {kept : τ → κ} {first second third : Scene τ}
    (early : Unstirred kept first second) (late : Unstirred kept second third) :
    Unstirred kept first third :=
  ⟨early.report.trans late.report, Nat.le_trans early.objects late.objects, late.same.trans early.same⟩

@[reducible] def calming (kept : τ → κ) : Bounds (Scene τ) where
  done := Unstirred kept
  failed _ := Unstirred kept
  allows := Mute
  refl := .refl kept
  trans early late := early.trans late
  broken early late := early.trans late

instance (kept : τ → κ) : (calming kept).Steady where
  of_done _ := id
  of_failed _ := id

instance (kept : τ → κ) : Hearing (fun scene : Scene τ => scene) (calming kept) where
  record scene _ mute := ⟨.record scene.platform mute, Nat.le_refl _, rfl⟩

/-- However it ends, the action tells of no memory and leaves what is `kept` of its part. -/
def Calm (kept : τ → κ) (action : Act τ α) : Prop :=
  action.Respects (fun scene => scene) (calming kept)

theorem Calm.setOwn {kept : τ → κ} {part : τ} (same : ∀ before, kept part = kept before) :
    Calm kept (setOwn part) :=
  fun scene => ⟨.refl _, Nat.le_refl _, same scene.own⟩

private theorem newObject_calm {kept : τ → κ} : Calm kept newObject :=
  fun _ => ⟨.of_events_eq rfl, Nat.le_succ _, rfl⟩

theorem say_calm {kept : τ → κ} {call : Call} (mute : Mute (.gpu call)) : Calm kept (say call) :=
  .emit mute

namespace Device

def nothing (_ : Device) : Unit := ()

private theorem deliver_calm (e : DeviceError) : Calm nothing (deliver e) := by
  refine .bind .own fun device => ?_
  cases catchIn e device.scopes with
  | some scopes => exact Calm.setOwn fun _ => rfl
  | none =>
    cases device.listener with
    | absent => exact .crash
    | installed pending => exact .bind (.emit (notice_mute _)) fun _ => Calm.setOwn fun _ => rfl

private theorem deliverAll_calm (due : List DeviceError) : Calm nothing (deliverAll due) :=
  .listForM deliver_calm due

private theorem setDriver_objects (machine : Machine) (api : Api) (driver : Driver) :
    (machine.setDriver api driver).objects = machine.objects := by
  cases api <;> rfl

theorem reach_calm (point : String) : Calm nothing (reach point) := by
  refine .bind .own fun device => ?_
  refine .bind .platform fun platform => .bind ?_ ?_
  · exact .updatePlatform fun scene =>
      ⟨.of_events_eq rfl, Nat.le_of_eq (setDriver_objects scene.platform.gpu _ _).symm, rfl⟩
  · exact fun _ => deliverAll_calm _

theorem takePending_calm : Calm nothing takePending := by
  refine .bind .own fun device => ?_
  cases device.listener with
  | absent => exact .pure _
  | installed pending => exact .bind (Calm.setOwn fun _ => rfl) fun _ => .pure _

theorem currentTexture_calm : Calm nothing currentTexture := by
  refine .bind .own fun device => ?_
  refine .bind .platform fun platform => .bind ?_ ?_
  · exact .updatePlatform fun scene =>
      ⟨.of_events_eq rfl, Nat.le_of_eq (setDriver_objects scene.platform.gpu _ _).symm, rfl⟩
  · exact fun _ => .bind (say_calm fun _ => ⟨rfl, nofun, nofun⟩) fun _ => .pure _

theorem configure_calm (config : SurfaceConfig) : Calm nothing (configure config) :=
  .bind (say_calm fun _ => ⟨rfl, nofun, nofun⟩) fun _ => reach_calm _

private theorem make_calm {label : String} {call : Nat → Call} (mute : ∀ object, Mute (.gpu (call object))) :
    Calm nothing (make label call) :=
  .bind newObject_calm fun object => .bind (say_calm (mute object)) fun _ =>
    .bind (reach_calm label) fun _ => .pure _

theorem shaderModule_calm (dialect : ShaderDialect) (stage : ShaderStage) :
    Calm nothing (shaderModule dialect stage) :=
  make_calm fun _ _ => ⟨rfl, nofun, nofun⟩

theorem groupLayouts_calm : Calm nothing groupLayouts :=
  .bind (make_calm fun _ _ => ⟨rfl, nofun, nofun⟩) fun _ =>
    .bind (make_calm fun _ _ => ⟨rfl, nofun, nofun⟩) fun _ => .pure _

theorem renderPipeline_calm (choice : PipelineChoice) (modules : ShaderModules)
    (groups : GroupLayouts) : Calm nothing (renderPipeline choice modules groups) :=
  .bind (make_calm fun _ _ => ⟨rfl, nofun, nofun⟩) fun _ => make_calm fun _ _ => ⟨rfl, nofun, nofun⟩

/-- The object that is made has the next number. -/
theorem make_traced {start : Platform} {lineage : Lineage} {label : String} {call : Nat → Call}
    (scene : Scene Device) (traced : Traced start lineage scene.platform)
    (allowed : ∀ object, scene.platform.gpu.objects < object → lineage.Allows (.gpu (call object))) :
    (make label call).Leads scene
      (fun object after => scene.platform.gpu.objects < object ∧ object ≤ after.platform.gpu.objects ∧
        Traced start (lineage.called (call object)) after.platform)
      (fun _ after => ∃ object, scene.platform.gpu.objects < object ∧
        object ≤ after.platform.gpu.objects ∧
        Traced start (lineage.called (call object)) after.platform) := by
  simp only [make, newObject, say, leads_bind, leads_platform, leads_updatePlatform, leads_emit,
    leads_pure]
  have numbered := Nat.lt_succ_self scene.platform.gpu.objects
  have counted : Traced start lineage { scene.platform with
      gpu := { scene.platform.gpu with objects := scene.platform.gpu.objects + 1 } } :=
    traced.of_events_eq rfl
  have called := counted.record (allowed _ numbered)
  apply (reach_calm label _).mono
  · exact fun _ _ calm => ⟨numbered, calm.objects, called.mute calm.report⟩
  · exact fun _ _ calm => ⟨_, numbered, calm.objects, called.mute calm.report⟩

end Device
end Tracing
end FrameViewer.Gpu
