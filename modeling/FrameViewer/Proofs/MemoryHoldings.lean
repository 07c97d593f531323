import FrameViewer.Gpu.Backend
import FrameViewer.Proofs.NumberedStorage
import FrameViewer.Proofs.ObjectLineage

/-! The objects that a tier holds, against the lineage of its device. What the tier holds is
registered and not destroyed, and what its pipelines are bound to is there. -/

namespace FrameViewer

namespace Gpu

def PipelineObjects.groups (objects : PipelineObjects) : List Nat :=
  [objects.uniformGroup, objects.textureGroup]

/-- The objects of a tier behind the numbers that it handed out. -/
structure Holdings where
  buffers : Slots Nat
  textures : Slots TextureObjects
  samplers : Slots Nat
  pipelines : Slots PipelineObjects

def Backend.holdings (b : Backend) : Holdings :=
  { buffers := b.buffers, textures := b.textures, samplers := b.samplers, pipelines := b.pipelines }

namespace Holdings

def memory (holdings : Holdings) : List Memory :=
  holdings.buffers.items.map (fun entry => .buffer entry.2) ++
    holdings.textures.items.map fun entry => .texture entry.2.texture

theorem buffer_mem {holdings : Holdings} {number object : Nat}
    (found : holdings.buffers.get? number = some object) : .buffer object ∈ holdings.memory :=
  List.mem_append_left _ (List.mem_map.mpr ⟨_, Slots.mem_items_of_get? found, rfl⟩)

theorem texture_mem {holdings : Holdings} {number : Nat} {objects : TextureObjects}
    (found : holdings.textures.get? number = some objects) :
    .texture objects.texture ∈ holdings.memory :=
  List.mem_append_right _ (List.mem_map.mpr ⟨_, Slots.mem_items_of_get? found, rfl⟩)

end Holdings

def Memory.object : Memory → Nat
  | buffer object | texture object => object

namespace Lineage

/-- All that was registered, once each, was either destroyed or is held. -/
structure Accounts (registered destroyed held : List Memory) : Prop where
  distinct : registered.Nodup
  balance : registered.Perm (destroyed ++ held)

namespace Accounts

variable {registered destroyed held more : List Memory} {memory : Memory}

theorem undestroyed (accounts : Accounts registered destroyed held) (member : memory ∈ held) :
    memory ∈ registered ∧ memory ∉ destroyed := by
  have distinct := accounts.balance.nodup_iff.mp accounts.distinct
  refine ⟨accounts.balance.mem_iff.mpr (List.mem_append_right _ member), fun gone => ?_⟩
  exact (List.nodup_append.mp distinct).2.2 memory gone memory member rfl

theorem not_destroyed (accounts : Accounts registered destroyed held) (fresh : memory ∉ registered) :
    memory ∉ destroyed :=
  fun gone => fresh (accounts.balance.mem_iff.mpr (List.mem_append_left _ gone))

theorem register (accounts : Accounts registered destroyed held) (fresh : memory ∉ registered)
    (added : (memory :: held).Perm more) : Accounts (memory :: registered) destroyed more := by
  refine ⟨List.nodup_cons.mpr ⟨fresh, accounts.distinct⟩, ?_⟩
  exact (accounts.balance.cons memory).trans (List.perm_middle.symm.trans (added.append_left _))

theorem destroy (accounts : Accounts registered destroyed more) (taken : more.Perm (memory :: held)) :
    Accounts registered (memory :: destroyed) held :=
  ⟨accounts.distinct, accounts.balance.trans ((taken.append_left _).trans List.perm_middle)⟩

end Accounts

/-- What a tier holds is as the lineage has it, when so many objects were made. -/
structure Sound (lineage : Lineage) (holdings : Holdings) (made : Nat) : Prop where
  accounts : Accounts lineage.registered lineage.destroyed holdings.memory
  unmade : ∀ object, made < object → lineage.roots object = []
  surface : lineage.roots 0 = []
  known : ∀ memory ∈ lineage.registered, memory.object ≤ made
  slots : holdings.buffers.Numbered ∧ holdings.textures.Numbered
  buffers : ∀ entry ∈ holdings.buffers.items, lineage.roots entry.2 = [.buffer entry.2]
  textures : ∀ entry ∈ holdings.textures.items,
    lineage.roots entry.2.texture = [.texture entry.2.texture] ∧
      lineage.roots entry.2.view = [.texture entry.2.texture]
  samplers : ∀ entry ∈ holdings.samplers.items, entry.2 ≤ made ∧ lineage.roots entry.2 = []
  pipelines : ∀ entry ∈ holdings.pipelines.items, ∀ group ∈ entry.2.groups,
    group ≤ made ∧ ∀ memory ∈ lineage.roots group, memory ∉ lineage.destroyed

variable {lineage : Lineage} {holdings : Holdings} {made object number : Nat} {memory : List Memory}
  {tier : Tier}

theorem trace_roots_of_ne {other : Nat} (apart : other ≠ object) :
    (lineage.trace object memory).roots other = lineage.roots other :=
  if_neg apart

namespace Sound

theorem initial (made : Nat) :
    Lineage.Sound {} { buffers := {}, textures := {}, samplers := {}, pipelines := {} } made where
  accounts := ⟨.nil, .refl _⟩
  unmade _ _ := rfl
  surface := rfl
  known := nofun
  slots := ⟨⟨.nil, nofun⟩, ⟨.nil, nofun⟩⟩
  buffers := nofun
  textures := nofun
  samplers := nofun
  pipelines := nofun

theorem made_of_roots (sound : lineage.Sound holdings made) {root : Memory}
    (roots : lineage.roots object = [root]) : object ≤ made := by
  apply Nat.le_of_not_lt
  intro late
  rw [sound.unmade object late] at roots
  cases roots

/-- What a buffer of the tier stands for is there. -/
theorem buffer_intact (sound : lineage.Sound holdings made)
    (found : holdings.buffers.get? number = some object) :
    ∀ memory ∈ lineage.roots object, memory ∉ lineage.destroyed := by
  rw [sound.buffers _ (Slots.mem_items_of_get? found)]
  intro memory root
  rw [List.mem_singleton.mp root]
  exact (sound.accounts.undestroyed (Holdings.buffer_mem found)).2

theorem texture_intact {objects : TextureObjects} (sound : lineage.Sound holdings made)
    (found : holdings.textures.get? number = some objects) :
    (∀ memory ∈ lineage.roots objects.texture, memory ∉ lineage.destroyed) ∧
      ∀ memory ∈ lineage.roots objects.view, memory ∉ lineage.destroyed := by
  obtain ⟨texture, view⟩ := sound.textures _ (Slots.mem_items_of_get? found)
  have held := (sound.accounts.undestroyed (Holdings.texture_mem found)).2
  rw [texture, view]
  refine ⟨fun memory root => ?_, fun memory root => ?_⟩ <;> rwa [List.mem_singleton.mp root]

theorem unknown (sound : lineage.Sound holdings made) {root : Memory} (late : made < root.object) :
    root ∉ lineage.registered :=
  fun member => absurd (sound.known root member) (Nat.not_le.mpr late)

theorem later (sound : lineage.Sound holdings made) (least : made ≤ object) :
    lineage.Sound holdings object := by
  refine { sound with unmade := ?_, known := ?_, samplers := ?_, pipelines := ?_ }
  · exact fun other late => sound.unmade other (Nat.lt_of_le_of_lt least late)
  · exact fun root member => Nat.le_trans (sound.known root member) least
  · exact fun entry member => ⟨Nat.le_trans (sound.samplers entry member).1 least, (sound.samplers entry member).2⟩
  · intro entry member group grouped
    obtain ⟨early, intact⟩ := sound.pipelines entry member group grouped
    exact ⟨Nat.le_trans early least, intact⟩

/-- What was just made is held by nobody yet. -/
theorem trace (sound : lineage.Sound holdings made) (fresh : made < object) (memory : List Memory) :
    (lineage.trace object memory).Sound holdings object := by
  have early {other : Nat} (least : other ≤ made) :
      other ≤ object ∧ (lineage.trace object memory).roots other = lineage.roots other :=
    ⟨by omega, trace_roots_of_ne (by omega)⟩
  have kept {other : Nat} {root : Memory} (roots : lineage.roots other = [root]) :
      (lineage.trace object memory).roots other = [root] :=
    (early (sound.made_of_roots roots)).2.trans roots
  refine { sound with unmade := ?_, surface := ?_, known := ?_, buffers := ?_, textures := ?_,
                      samplers := ?_, pipelines := ?_ }
  · intro other late
    rw [trace_roots_of_ne (by omega)]
    exact sound.unmade other (by omega)
  · exact (early (Nat.zero_le _)).2.trans sound.surface
  · exact fun root member => (early (sound.known root member)).1
  · exact fun entry member => kept (sound.buffers entry member)
  · exact fun entry member => ⟨kept (sound.textures entry member).1, kept (sound.textures entry member).2⟩
  · intro entry member
    obtain ⟨least, roots⟩ := sound.samplers entry member
    exact ⟨(early least).1, (early least).2.trans roots⟩
  · intro entry member group grouped
    obtain ⟨least, intact⟩ := sound.pipelines entry member group grouped
    rw [(early least).2]
    exact ⟨(early least).1, intact⟩

theorem bind (sound : lineage.Sound holdings made) (bound : List Memory) :
    Sound { lineage with bound } holdings made :=
  { sound with }

theorem registerBuffer (sound : lineage.Sound holdings made)
    (roots : lineage.roots object = [.buffer object]) (fresh : .buffer object ∉ lineage.registered) :
    (lineage.enter (.handedOut tier (.buffer number) object)).Sound
      { holdings with buffers := (holdings.buffers.insert object).2 } made := by
  refine { sound with accounts := ?_, known := ?_, slots := ?_, buffers := ?_ }
  · apply sound.accounts.register fresh
    simp only [Holdings.memory, Slots.insert, List.map_append, List.append_assoc]
    exact List.perm_middle.symm
  · rintro root (_ | ⟨_, earlier⟩)
    · exact sound.made_of_roots roots
    · exact sound.known root earlier
  · exact ⟨sound.slots.1.insert object, sound.slots.2⟩
  · intro entry member
    obtain member | rfl := Slots.mem_items_of_insert member
    · exact sound.buffers entry member
    · exact roots

theorem registerTexture {objects : TextureObjects} (sound : lineage.Sound holdings made)
    (roots : lineage.roots objects.texture = [.texture objects.texture])
    (view : lineage.roots objects.view = [.texture objects.texture])
    (fresh : .texture objects.texture ∉ lineage.registered) :
    (lineage.enter (.handedOut tier (.texture number) objects.texture)).Sound
      { holdings with textures := (holdings.textures.insert objects).2 } made := by
  refine { sound with accounts := ?_, known := ?_, slots := ?_, textures := ?_ }
  · apply sound.accounts.register fresh
    simp only [Holdings.memory, Slots.insert, List.map_append, ← List.append_assoc]
    exact (List.perm_append_singleton _ _).symm
  · rintro root (_ | ⟨_, earlier⟩)
    · exact sound.made_of_roots roots
    · exact sound.known root earlier
  · exact ⟨sound.slots.1, sound.slots.2.insert objects⟩
  · intro entry member
    obtain member | rfl := Slots.mem_items_of_insert member
    · exact sound.textures entry member
    · exact ⟨roots, view⟩

theorem addSampler (sound : lineage.Sound holdings made) (least : object ≤ made)
    (roots : lineage.roots object = []) :
    lineage.Sound { holdings with samplers := (holdings.samplers.insert object).2 } made := by
  refine { sound with samplers := fun entry member => ?_ }
  obtain member | rfl := Slots.mem_items_of_insert member
  · exact sound.samplers entry member
  · exact ⟨least, roots⟩

theorem addPipeline {objects : PipelineObjects} (sound : lineage.Sound holdings made)
    (intact : ∀ group ∈ objects.groups,
      group ≤ made ∧ ∀ memory ∈ lineage.roots group, memory ∉ lineage.destroyed) :
    lineage.Sound { holdings with pipelines := (holdings.pipelines.insert objects).2 } made := by
  refine { sound with pipelines := fun entry member => ?_ }
  obtain member | rfl := Slots.mem_items_of_insert member
  · exact sound.pipelines entry member
  · exact intact

theorem removeSampler (sound : lineage.Sound holdings made) (number : Nat) :
    lineage.Sound { holdings with samplers := (holdings.samplers.remove number).2 } made :=
  { sound with samplers := fun entry member => sound.samplers entry (Slots.mem_items_of_remove member) }

theorem removePipeline (sound : lineage.Sound holdings made) (number : Nat) :
    lineage.Sound { holdings with pipelines := (holdings.pipelines.remove number).2 } made :=
  { sound with pipelines := fun entry member => sound.pipelines entry (Slots.mem_items_of_remove member) }

/-- Once there is no pipeline over it any more, a buffer may be destroyed. -/
theorem destroyBuffer (sound : lineage.Sound holdings made) (unpiped : holdings.pipelines.items = [])
    (found : holdings.buffers.get? number = some object) :
    (lineage.called (.destroyBuffer object)).Sound
      { holdings with buffers := (holdings.buffers.remove number).2 } made := by
  refine { sound with accounts := ?_, slots := ?_, buffers := ?_, pipelines := ?_ }
  · apply sound.accounts.destroy
    exact ((sound.slots.1.perm_remove found).map _).append_right _
  · exact ⟨sound.slots.1.remove number, sound.slots.2⟩
  · exact fun entry member => sound.buffers entry (Slots.mem_items_of_remove member)
  · simp [unpiped]

theorem destroyTexture {objects : TextureObjects} (sound : lineage.Sound holdings made)
    (unpiped : holdings.pipelines.items = []) (found : holdings.textures.get? number = some objects) :
    (lineage.called (.destroyTexture objects.texture)).Sound
      { holdings with textures := (holdings.textures.remove number).2 } made := by
  refine { sound with accounts := ?_, slots := ?_, textures := ?_, pipelines := ?_ }
  · apply sound.accounts.destroy
    exact (((sound.slots.2.perm_remove found).map _).append_left _).trans List.perm_middle
  · exact ⟨sound.slots.1, sound.slots.2.remove number⟩
  · exact fun entry member => sound.textures entry (Slots.mem_items_of_remove member)
  · simp [unpiped]

end Sound
end Lineage
end Gpu
end FrameViewer
