import FrameViewer.Proofs.AllOrNothing
import FrameViewer.Proofs.TierBuilds
import FrameViewer.Proofs.TierLineage

/-! The memory behind the objects of a build. Each buffer and texture that a build registers with a tier
is destroyed when the build is undone, the newest first, and the storages of the tier then list the
same objects as before. -/

namespace FrameViewer
open Act

namespace Event

def registers? : Event → Option Gpu.Memory
  | handedOut _ (.buffer _) object => some (.buffer object)
  | handedOut _ (.texture _) object => some (.texture object)
  | _ => none

def destroys? : Event → Option Gpu.Memory
  | gpu call => call.destroys
  | _ => none

/-- Tells of devices and their tiers, but not that memory was registered or destroyed. -/
def IsIdle (event : Event) : Prop :=
  event.registers? = none ∧ event.destroys? = none

end Event

namespace Platform

def registered (platform : Platform) : List Gpu.Memory :=
  platform.events.toList.filterMap Event.registers?

def destroyed (platform : Platform) : List Gpu.Memory :=
  platform.events.toList.filterMap Event.destroys?

private theorem registered_record (platform : Platform) (event : Event) :
    (platform.record event).registered = platform.registered ++ event.registers?.toList := by
  cases entry : event.registers? <;> simp [registered, record, entry]

private theorem destroyed_record (platform : Platform) (event : Event) :
    (platform.record event).destroyed = platform.destroyed ++ event.destroys?.toList := by
  cases entry : event.destroys? <;> simp [destroyed, record, entry]

private theorem Extends.memory_eq {before after : Platform} (grown : before.Extends Event.IsIdle after) :
    after.registered = before.registered ∧ after.destroyed = before.destroyed :=
  ⟨grown.filterMap fun _ idle => idle.1, grown.filterMap fun _ idle => idle.2⟩

end Platform

namespace Gpu

section Making

variable {σ α : Type}

private theorem say_idle {call : Call} (spares : call.destroys = none) :
    (say call : Act σ Unit).Emits Event.IsIdle :=
  .emit ⟨rfl, spares⟩

private theorem newObject_idle : (newObject : Act σ Nat).Emits Event.IsIdle :=
  .bind .platform fun _ => .bind (.updatePlatform fun _ => .of_events_eq rfl) fun _ => .pure _

namespace Device

private theorem deliverAll_idle (due : List DeviceError) : (deliverAll due).Emits Event.IsIdle := by
  refine .listForM (fun e => .bind .own fun device => ?_) due
  cases catchIn e device.scopes with
  | some scopes => exact .setOwn _
  | none =>
    cases device.listener with
    | absent => exact .crash
    | installed pending => exact .bind (.notify ⟨rfl, rfl⟩) fun _ => .setOwn _

private theorem make_idle {label : String} {call : Nat → Call} (spares : ∀ object, (call object).destroys = none) :
    (make label call).Emits Event.IsIdle :=
  .bind newObject_idle fun _ => .bind (say_idle (spares _)) fun _ =>
    .bind (.bind .own fun _ => .bind .platform fun _ => .bind (.updatePlatform fun _ => .of_events_eq rfl) fun _ =>
      deliverAll_idle _) fun _ => .pure _

end Device

namespace Backend

private theorem failOnPending_idle (into : String → RenderError) : (failOnPending into).Emits Event.IsIdle := by
  have taken : Device.takePending.Emits Event.IsIdle := by
    refine .bind .own fun device => ?_
    cases device.listener with
    | absent => exact .pure _
    | installed pending => exact .bind (.setOwn _) fun _ => .pure _
  refine .bind (onDevice_emits taken) fun pending => ?_
  cases pending with
  | none => exact .pure _
  | some reason => exact .refuse _

private theorem find_idle (found : Option α) (cause : RenderError) : (find found cause).Emits Event.IsIdle := by
  cases found with
  | none => exact .refuse _
  | some object => exact .pure _

private theorem makeBuffer_idle (desc : BufferDesc) : (makeBuffer desc).Emits Event.IsIdle :=
  .bind (onDevice_emits (Device.make_idle fun _ => rfl)) fun _ => .bind (failOnPending_idle _) fun _ =>
    .ite .crash (.bind (say_idle rfl) fun _ => .pure _)

private theorem makeTexture_idle (desc : TextureDesc) : (makeTexture desc).Emits Event.IsIdle :=
  .bind (onDevice_emits (Device.make_idle fun _ => rfl)) fun _ => .bind newObject_idle fun _ =>
    .bind (say_idle rfl) fun _ => .bind (failOnPending_idle _) fun _ => .pure _

private theorem makeSampler_idle (desc : SamplerDesc) : (makeSampler desc).Emits Event.IsIdle :=
  .bind (onDevice_emits (Device.make_idle fun _ => rfl)) fun _ => .bind (failOnPending_idle _) fun _ =>
    .pure _

private theorem compile_idle (stage : ShaderStage) : (compile stage).Emits Event.IsIdle :=
  .bind .own fun _ => .bind (onDevice_emits (Device.make_idle fun _ => rfl)) fun _ =>
    .bind (failOnPending_idle _) fun _ => .pure _

private theorem makePipeline_idle (desc : PipelineDesc) : (makePipeline desc).Emits Event.IsIdle :=
  .bind (compile_idle _) fun _ => .bind (compile_idle _) fun _ => .bind .own fun _ =>
    .bind (find_idle _ _) fun _ => .bind (find_idle _ _) fun _ => .bind (find_idle _ _) fun _ =>
      .bind (onDevice_emits (.bind (Device.make_idle fun _ => rfl) fun _ =>
        .bind (Device.make_idle fun _ => rfl) fun _ => .pure _)) fun _ =>
        .bind (onDevice_emits (Device.make_idle fun _ => rfl)) fun _ =>
          .bind (onDevice_emits (Device.make_idle fun _ => rfl)) fun _ =>
            .bind (failOnPending_idle _) fun _ =>
              .bind (onDevice_emits (.bind (Device.make_idle fun _ => rfl) fun _ =>
                Device.make_idle fun _ => rfl)) fun _ =>
                .bind (failOnPending_idle _) fun _ => .bind (.notify ⟨rfl, rfl⟩) fun _ => .pure _

end Backend
end Making

end Gpu

namespace Slots

variable {α : Type} {slots : Slots α}

def listed (slots : Slots α) : Slots α :=
  { slots with next := 0 }

theorem Backs.numbered {number : ResourceId → Option Nat} {books : Books}
    (backs : slots.Backs number books) : slots.Numbered := by
  refine ⟨?_, fun listed member => ?_⟩
  · rw [backs.ids]
    exact List.nodup_reverse.mpr backs.distinct
  · rw [backs.ids, List.mem_reverse] at member
    obtain ⟨id, live, typed⟩ := List.mem_filterMap.mp member
    exact backs.below id (backs.known id live) listed typed

/-- The newest item is found, and without it the items are as before. -/
theorem Numbered.undo_insert (numbered : slots.Numbered) (item : α) :
    (slots.insert item).2.get? slots.next = some item ∧
      ((slots.insert item).2.listed.remove slots.next).2 = slots.listed := by
  have fresh : ∀ entry ∈ slots.items, entry.1 ≠ slots.next := fun entry member =>
    Nat.ne_of_lt (numbered.below _ (List.mem_map.mpr ⟨entry, member, rfl⟩))
  have kept : slots.items.filter (·.1 != slots.next) = slots.items :=
    List.filter_eq_self.mpr fun entry member => by simpa using fresh entry member
  refine ⟨?_, ?_⟩
  · rw [numbered.get?_insert, if_pos rfl]
  · simp [Slots.insert, listed, Slots.remove, List.filter_append, kept]

end Slots

namespace Gpu

namespace Holdings

def memory? (held : Holdings) : ResourceId → Option Memory
  | .buffer number => (held.buffers.get? number).map .buffer
  | .texture number => (held.textures.get? number).map fun objects => .texture objects.texture
  | _ => none

def freed (held : Holdings) : List ResourceId → List Memory
  | [] => []
  | id :: rest => (held.memory? id).toList ++ (Backend.without held id).freed rest

def withoutAll (held : Holdings) (ids : List ResourceId) : Holdings :=
  ids.foldl Backend.without held

end Holdings

namespace Backend

def contents (b : Backend) : Holdings :=
  { buffers := b.buffers.listed
    textures := b.textures.listed
    samplers := b.samplers.listed
    pipelines := b.pipelines.listed }

structure Untouched (before after : Scene Backend) : Prop where
  contents : after.own.contents = before.own.contents
  registered : after.platform.registered = before.platform.registered
  destroyed : after.platform.destroyed = before.platform.destroyed

structure Gained (before : Scene Backend) (id : ResourceId) (after : Scene Backend) : Prop where
  device : after.own.device = before.own.device
  undone : without after.own.contents id = before.own.contents
  registered : after.platform.registered =
    before.platform.registered ++ (after.own.contents.memory? id).toList
  destroyed : after.platform.destroyed = before.platform.destroyed

structure Freed (before : Scene Backend) (ids : List ResourceId) (after : Scene Backend) : Prop where
  contents : after.own.contents = before.own.contents.withoutAll ids
  registered : after.platform.registered = before.platform.registered
  destroyed : after.platform.destroyed = before.platform.destroyed ++ before.own.contents.freed ids

theorem live_eq_of_contents {b before : Backend} (same : b.contents = before.contents) :
    b.live = before.live :=
  congrArg (fun held : Holdings =>
    held.buffers.size + held.textures.size + held.samplers.size + held.pipelines.size) same

/-- What was found is destroyed, and nothing else. -/
private theorem forM_say_destroys {objects : Type} (found : Option objects) (call : objects → Call)
    (scene : Scene Backend) :
    (found.forM fun object => say (call object)).Leads scene
      (fun _ after => after.own = scene.own ∧ after.platform.registered = scene.platform.registered ∧
        after.platform.destroyed =
          scene.platform.destroyed ++ (found.bind fun object => (call object).destroys).toList)
      fun _ _ => False := by
  cases found with
  | none => exact ⟨rfl, rfl, (List.append_nil _).symm⟩
  | some object =>
    exact ⟨rfl, (Platform.registered_record ..).trans (List.append_nil _), Platform.destroyed_record ..⟩

private theorem release_frees (id : ResourceId) (scene : Scene Backend) :
    (release id).Leads scene (fun _ after => Freed scene [id] after) fun _ _ => False := by
  obtain ⟨b, platform⟩ := scene
  have told (tier : Tier) (stale : Bool) :
      platform.Extends Event.IsIdle (platform.record (.takenBack tier id stale)) :=
    .record _ ⟨rfl, rfl⟩
  cases id with
  | buffer number | texture number =>
    simp only [release, takeBack, leads_bind, leads_own, leads_setOwn, leads_emit]
    apply (forM_say_destroys _ _ _).mono
    · rintro _ ⟨own, last⟩ ⟨rfl, registered, destroyed⟩
      refine ⟨rfl, registered.trans (told _ _).memory_eq.1, ?_⟩
      rw [destroyed, (told _ _).memory_eq.2]
      simp only [Holdings.freed, Holdings.memory?, contents, Slots.remove, Slots.listed, Slots.get?,
        Call.destroys, Option.map_eq_bind, List.append_nil]
      rfl
    · exact fun _ _ impossible => impossible
  | sampler number | pipeline number =>
    simp only [release, takeBack, leads_bind, leads_own, leads_setOwn, leads_emit]
    exact ⟨rfl, (told _ _).memory_eq.1, (told _ _).memory_eq.2.trans (List.append_nil _).symm⟩

/-- Where nothing waits on the device of a tier, the action registers the object that it hands out a number
for, and none when it fails. Without that object the contents are as before. -/
def Registers (typed : Nat → ResourceId) (action : Act Backend Nat) : Prop :=
  ∀ (api : Api) (scene : Scene Backend) (books : Books),
    scene.own.device = Regime.listened.device api [] →
      (FrameViewer.Backend.gpu scene.own).Backs books →
        action.Leads scene (fun number after => Gained scene (typed number) after)
          fun _ after => Untouched scene after

private theorem kept_registers {objects : Type} {make : Act Backend objects} {typed : Nat → ResourceId}
    (undergoes : ∀ frame : Backend, ∃ checks,
      Undergoes frame.On checks [] (fun _ => True) (fun _ => frame.On) frame.On make)
    (idle : make.Emits Event.IsIdle)
    (keep : objects → Backend → Backend) (next : Backend → Nat) (object : objects → Nat)
    (numbered : ∀ n, (typed n).number = n)
    (entry : ∀ made b books tier, (FrameViewer.Backend.gpu b).Backs books →
      (keep made b).device = b.device ∧ without (keep made b).contents (typed (next b)) = b.contents ∧
        (keep made b).contents.memory? (typed (next b)) =
          (Event.handedOut tier (typed (next b)) (object made)).registers?) :
    Registers typed (do
      let made ← make
      let b ← Act.own
      Act.setOwn (keep made b)
      handOut (typed (next b)) (object made)) := by
  rintro api ⟨b, platform⟩ books listens backs
  obtain ⟨checks, undergoes⟩ := undergoes b
  have same {later : Backend} (on : b.On later (Regime.listened.device api [])) : later = b := by
    rw [show later = _ from on, ← listens]
  rw [leads_bind]
  apply (Leads.and (undergoes api ⟨b, platform⟩ (.of_device_eq listens)) (idle _)).mono
  · rintro made ⟨later, last⟩ ⟨⟨_, _, on, _⟩, grown⟩
    obtain rfl : later = b := same on
    obtain ⟨registered, destroyed⟩ := grown.memory_eq
    obtain ⟨device, undone, memory⟩ := entry made later books (keep made later).tier backs
    simp only [handOut, leads_bind, leads_own, leads_setOwn, leads_emit, leads_pure, numbered]
    refine ⟨device, undone, ?_, ?_⟩
    · rw [Platform.registered_record, memory, registered]
    · rw [Platform.destroyed_record, destroyed]
      exact List.append_nil _
  · rintro failure ⟨later, last⟩ ⟨⟨_, _, on, _⟩, grown⟩
    obtain rfl : later = b := same on
    obtain ⟨registered, destroyed⟩ := grown.memory_eq
    exact ⟨rfl, registered, destroyed⟩

private theorem createBuffer_registers (desc : BufferDesc) : Registers .buffer (createBuffer desc) := by
  refine kept_registers (fun frame => ⟨_, makeBuffer_undergoes desc fun _ => trivial⟩) (makeBuffer_idle desc)
    (fun object b => { b with buffers := (b.buffers.insert object).2 }) (·.buffers.next) id
    (fun _ => rfl) ?_
  intro object b books tier backs
  obtain ⟨found, gone⟩ := backs.1.numbered.undo_insert object
  refine ⟨rfl, ?_, ?_⟩
  · exact congrArg (fun buffers => { b.contents with buffers }) gone
  · exact congrArg (Option.map Memory.buffer) found

private theorem createTexture_registers (desc : TextureDesc) : Registers .texture (createTexture desc) := by
  refine kept_registers (fun frame => ⟨_, makeTexture_undergoes desc⟩) (makeTexture_idle desc)
    (fun objects b => { b with textures := (b.textures.insert objects).2 }) (·.textures.next)
    TextureObjects.texture (fun _ => rfl) ?_
  intro objects b books tier backs
  obtain ⟨found, gone⟩ := backs.2.1.numbered.undo_insert objects
  refine ⟨rfl, ?_, ?_⟩
  · exact congrArg (fun textures => { b.contents with textures }) gone
  · exact congrArg (Option.map fun objects => Memory.texture objects.texture) found

private theorem createSampler_registers (desc : SamplerDesc) : Registers .sampler (createSampler desc) := by
  refine kept_registers (fun frame => ⟨_, makeSampler_undergoes desc⟩) (makeSampler_idle desc)
    (fun object b => { b with samplers := (b.samplers.insert object).2 }) (·.samplers.next) id
    (fun _ => rfl) ?_
  intro object b books tier backs
  exact ⟨rfl, congrArg (fun samplers => { b.contents with samplers })
    (backs.2.2.1.numbered.undo_insert object).2, rfl⟩

private theorem createPipeline_registers (desc : PipelineDesc) : Registers .pipeline (createPipeline desc) := by
  refine kept_registers (fun frame => ⟨_, makePipeline_undergoes desc fun _ _ => trivial⟩)
    (makePipeline_idle desc)
    (fun objects b => { b with pipelines := (b.pipelines.insert objects).2 }) (·.pipelines.next)
    PipelineObjects.pipeline (fun _ => rfl) ?_
  intro objects b books tier backs
  exact ⟨rfl, congrArg (fun pipelines => { b.contents with pipelines })
    (backs.2.2.2.numbered.undo_insert objects).2, rfl⟩

end Backend
end Gpu

namespace Creation

open Gpu (Api Regime)
open Gpu.Backend (Freed Gained Registers Untouched)

variable {b : Gpu.Backend} {api : Api} {platform : Platform} {books : Books}

theorem make_registers (creation : Creation) (listens : b.device = Regime.listened.device api [])
    (backs : (Backend.gpu b).Backs books) (platform : Platform) :
    creation.make.Leads ⟨.gpu b, platform⟩
      (fun number after => ∃ last, after.own = .gpu last ∧
        Gained ⟨b, platform⟩ (creation.typed number) ⟨last, after.platform⟩)
      (fun _ after => ∃ last, after.own = .gpu last ∧ Untouched ⟨b, platform⟩ ⟨last, after.platform⟩) := by
  have ran {typed : Nat → ResourceId} (simulated : Act Simulated.Backend Nat)
      {create : Act Gpu.Backend Nat} (registers : Registers typed create) :
      (Backend.run simulated create (refuse Backend.absent)).Leads ⟨.gpu b, platform⟩
        (fun number after => ∃ last, after.own = .gpu last ∧
          Gained ⟨b, platform⟩ (typed number) ⟨last, after.platform⟩)
        (fun _ after => ∃ last, after.own = .gpu last ∧
          Untouched ⟨b, platform⟩ ⟨last, after.platform⟩) := by
    rw [Backend.run, leads_bind, leads_own, leads_within]
    apply (registers api ⟨b, platform⟩ books listens backs).mono
    · exact fun number after gained => ⟨after.own, rfl, gained⟩
    · exact fun _ after untouched => ⟨after.own, rfl, untouched⟩
  cases creation with
  | buffer desc => exact ran _ (Gpu.Backend.createBuffer_registers desc)
  | texture desc => exact ran _ (Gpu.Backend.createTexture_registers desc)
  | sampler desc => exact ran _ (Gpu.Backend.createSampler_registers desc)
  | pipeline desc => exact ran _ (Gpu.Backend.createPipeline_registers desc)

/-- Taken off again, the newest first, what was created leaves the contents as they were, and what is
destroyed by that is what was registered. -/
theorem Makes.registers {audit : Audit} {others : List ResourceId} {made : List (Creation × Nat)}
    {after : Scene Backend} (listens : b.device = Regime.listened.device api [])
    (booked : Booked audit others ⟨.gpu b, platform⟩) (makes : Makes ⟨.gpu b, platform⟩ made after)
    (room : others.length + made.length ≤ audit.most) :
    ∃ last : Gpu.Backend, after.own = .gpu last ∧ last.device = b.device ∧
      last.contents.withoutAll (objects made).reverse = b.contents ∧
      after.platform.registered =
        platform.registered ++ (last.contents.freed (objects made).reverse).reverse ∧
      after.platform.destroyed = platform.destroyed := by
  induction makes with
  | nil => exact ⟨b, rfl, rfl, rfl, (List.append_nil _).symm, rfl⟩
  | @snoc made middle after creation number sofar ran ih =>
    rw [List.length_append, List.length_singleton] at room
    obtain ⟨own, between⟩ := middle
    obtain ⟨mid, rfl, device, undone, registered, destroyed⟩ := ih (by omega)
    obtain ⟨_, _, _, _, backs⟩ := sofar.booked booked (by omega)
    have more := creation.make_registers (device.trans listens) backs between
    rw [leads_of_ok ran] at more
    obtain ⟨last, same, gained⟩ := more
    have newest : (objects (made ++ [(creation, number)])).reverse =
        creation.typed number :: (objects made).reverse := by
      simp [objects]
    refine ⟨last, same, gained.device.trans device, ?_, ?_, gained.destroyed.trans destroyed⟩
    · rw [newest, Gpu.Holdings.withoutAll, List.foldl_cons, gained.undone]
      exact undone
    · rw [newest, Gpu.Holdings.freed, gained.undone, gained.registered, registered, List.reverse_append,
        List.append_assoc]
      cases last.contents.memory? (creation.typed number) <;> rfl

end Creation

namespace ResourceSet

open Gpu.Backend (Freed)

variable {b : Gpu.Backend} {platform : Platform}

private theorem releaseAll_frees (ids : List ResourceId) :
    (releaseAll ids).Leads ⟨.gpu b, platform⟩
      (fun _ after => ∃ last, after.own = .gpu last ∧ Freed ⟨b, platform⟩ ids ⟨last, after.platform⟩)
      fun _ _ => False := by
  induction ids generalizing b platform with
  | nil => exact ⟨b, rfl, rfl, rfl, (List.append_nil _).symm⟩
  | cons id rest ih =>
    rw [releaseAll_cons, leads_bind, Backend.release, Backend.run, leads_bind, leads_own, leads_within]
    apply (Gpu.Backend.release_frees id ⟨b, platform⟩).mono
    · rintro _ ⟨middle, between⟩ first
      apply ih.mono
      · rintro _ after ⟨last, same, more⟩
        refine ⟨last, same, ?_, more.registered.trans first.registered, ?_⟩
        · rw [more.contents, first.contents]
          rfl
        · rw [more.destroyed, first.destroyed, first.contents, List.append_assoc, Gpu.Holdings.freed,
            Gpu.Holdings.freed, List.append_nil]
          rfl
      · exact fun _ _ impossible => impossible
    · exact fun _ _ impossible => impossible

theorem rollBack_frees (created : List ResourceId) :
    (rollBack created).Leads ⟨.gpu b, platform⟩
      (fun _ after => ∃ last, after.own = .gpu last ∧
        Freed ⟨b, platform⟩ created ⟨last, after.platform⟩)
      fun _ _ => False := by
  rw [rollBack]
  split
  · rw [leads_bind, leads_own, leads_bind, leads_notify]
    have told (notice : Notice) :
        platform.Extends Event.IsIdle (platform.record (.notice notice)) :=
      .record _ ⟨rfl, rfl⟩
    apply (releaseAll_frees created).mono
    · rintro _ after ⟨last, same, freed⟩
      refine ⟨last, same, freed.contents, freed.registered.trans (told _).memory_eq.1, ?_⟩
      rw [freed.destroyed, (told _).memory_eq.2]
    · exact fun _ _ impossible => impossible
  · exact releaseAll_frees created

end ResourceSet
end FrameViewer
