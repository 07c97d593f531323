import FrameViewer.Proofs.ResourceLifecycle

/-! A build as a row of creations, each asked of the tier as the one before it left it. Every creation
that works makes one entry in the ledger of the tier; a build that fails ends at the first that does
not, and undoes those before it. -/

namespace FrameViewer
open Act

inductive LedgerEntry where
  | handedOut (id : ResourceId)
  | takenBack (id : ResourceId)

def Event.entry? : Event → Option LedgerEntry
  | handedOut _ id _ => some (.handedOut id)
  | takenBack _ id _ => some (.takenBack id)
  | _ => none

private theorem Event.entry?_eq_none {event : Event} (drawing : event.IsDrawing) : event.entry? = none := by
  have outside := drawing.unheld
  cases event <;> first | rfl | exact absurd rfl outside

namespace Platform

def ledger (platform : Platform) : List LedgerEntry :=
  platform.events.toList.filterMap Event.entry?

theorem ledger_record (platform : Platform) (event : Event) :
    (platform.record event).ledger = platform.ledger ++ event.entry?.toList := by
  cases entry : event.entry? <;> simp [ledger, record, entry]

private theorem Extends.ledger_eq {before after : Platform} (grown : before.Extends Event.IsDrawing after) :
    after.ledger = before.ledger :=
  grown.filterMap fun _ drawing => Event.entry?_eq_none drawing

end Platform

section Enters

variable {τ α : Type} {typed : Nat → ResourceId}

/-- The action enters the number that it hands out and nothing else, nothing at all when it fails. -/
def Enters (typed : Nat → ResourceId) (action : Act τ Nat) : Prop :=
  ∀ scene, action.Leads scene
    (fun number after =>
      after.platform.ledger = scene.platform.ledger ++ [.handedOut (typed number)])
    (fun _ after => after.platform.ledger = scene.platform.ledger)

theorem Enters.bind {action : Act τ α} {next : α → Act τ Nat} (emits : action.Emits Event.IsDrawing)
    (rest : ∀ value, Enters typed (next value)) : Enters typed (action >>= next) := by
  intro scene
  rw [leads_bind]
  apply Leads.mono (emits scene)
  · intro value after grown
    rw [← grown.ledger_eq]
    exact rest value after
  · exact fun _ _ grown => grown.ledger_eq

namespace Gpu.Backend

private theorem kept_enters {objects : Type} {make : Act Backend objects} (emits : make.Emits Event.IsSetup)
    (keep : objects → Backend → Backend) (next : Backend → Nat) (object : objects → Nat)
    (numbered : ∀ n, (typed n).number = n) :
    Enters typed (do
      let made ← make
      let b ← Act.own
      Act.setOwn (keep made b)
      handOut (typed (next b)) (object made)) := by
  refine .bind (emits.mono Event.IsSetup.isDrawing) fun made scene => ?_
  simp only [handOut, leads_bind, leads_own, leads_setOwn, leads_emit, leads_pure, numbered]
  exact Platform.ledger_record _ _

private theorem createBuffer_enters (desc : BufferDesc) : Enters .buffer (createBuffer desc) :=
  kept_enters (makeBuffer_emits desc) (fun object b => { b with buffers := (b.buffers.insert object).2 })
    (·.buffers.next) id fun _ => rfl

private theorem createTexture_enters (desc : TextureDesc) : Enters .texture (createTexture desc) :=
  kept_enters (makeTexture_emits desc)
    (fun objects b => { b with textures := (b.textures.insert objects).2 }) (·.textures.next)
    TextureObjects.texture fun _ => rfl

private theorem createSampler_enters (desc : SamplerDesc) : Enters .sampler (createSampler desc) :=
  kept_enters (makeSampler_emits desc) (fun object b => { b with samplers := (b.samplers.insert object).2 })
    (·.samplers.next) id fun _ => rfl

private theorem createPipeline_enters (desc : PipelineDesc) : Enters .pipeline (createPipeline desc) :=
  kept_enters (makePipeline_emits desc)
    (fun objects b => { b with pipelines := (b.pipelines.insert objects).2 }) (·.pipelines.next)
    PipelineObjects.pipeline fun _ => rfl

end Gpu.Backend

namespace Simulated.Backend

private theorem create_enters (call : TierCall) (label : String) : Enters typed (create call label typed) := by
  refine .bind (reportCall_emits fun _ => rfl) fun _ =>
    .bind ((reach_emits label).mono Event.IsSetup.isDrawing) fun _ scene => ?_
  simp only [leads_bind, leads_own, leads_setOwn, leads_emit, leads_pure]
  exact Platform.ledger_record _ _

/-- A creation leaves the script as it is. -/
theorem create_leads (call : TierCall) (label : String) (scene : Scene Backend) :
    (create call label typed).Leads scene (fun _ after => after.own.script = scene.own.script)
      fun _ _ => True := by
  simp only [create, reportCall, reach, leads_bind, leads_own, leads_update, leads_emit]
  cases scene.own.faultAt label with
  | some cause => trivial
  | none => rfl

end Simulated.Backend

namespace Backend

private theorem run_enters {simulated : Act Simulated.Backend Nat} {gpu : Act Gpu.Backend Nat}
    (first : Enters typed simulated) (second : Enters typed gpu) :
    Enters typed (run simulated gpu (refuse absent)) := by
  rintro ⟨backend, platform⟩
  rw [run, leads_bind, leads_own]
  cases backend with
  | null => rfl
  | simulated b =>
    rw [leads_within]
    exact first ⟨b, platform⟩
  | gpu b =>
    rw [leads_within]
    exact second ⟨b, platform⟩

private theorem run_alignment {simulated : Act Simulated.Backend Nat} (gpu : Act Gpu.Backend Nat)
    (keeps : ∀ scene, simulated.Leads scene (fun _ after => after.own.script = scene.own.script)
      fun _ _ => True) (scene : Scene Backend) :
    (run simulated gpu (refuse absent)).Leads scene
      (fun _ after => after.own.alignment = scene.own.alignment) fun _ _ => True := by
  obtain ⟨backend, platform⟩ := scene
  rw [run, leads_bind, leads_own]
  cases backend with
  | null => trivial
  | simulated b =>
    rw [leads_within]
    exact (keeps ⟨b, platform⟩).mono (fun _ _ same => congrArg Simulated.Script.alignment same)
      fun _ _ _ => trivial
  | gpu b =>
    rw [leads_within]
    exact .of_forall (fun _ _ => rfl) fun _ _ => trivial

end Backend
end Enters

namespace Gpu.Backend

/-- Destroying what was found makes no entry. -/
private theorem forM_say_ledger {objects : Type} (found : Option objects) (call : objects → Call)
    (scene : Scene Backend) :
    (found.forM fun object => say (call object)).Leads scene
      (fun _ after => after.platform.ledger = scene.platform.ledger) fun _ _ => False := by
  cases found with
  | none => exact rfl
  | some object => exact (Platform.ledger_record ..).trans (List.append_nil _)

theorem release_enters (id : ResourceId) (scene : Scene Backend) :
    (release id).Leads scene
      (fun _ after => after.platform.ledger = scene.platform.ledger ++ [.takenBack id])
      fun _ _ => False := by
  cases id with
  | buffer number | texture number =>
    simp only [release, takeBack, leads_bind, leads_own, leads_setOwn, leads_emit]
    apply (forM_say_ledger _ _ _).mono
    · exact fun _ _ same => same.trans (Platform.ledger_record ..)
    · exact fun _ _ impossible => impossible
  | sampler number | pipeline number =>
    simp only [release, takeBack, leads_bind, leads_own, leads_setOwn, leads_emit]
    exact Platform.ledger_record ..

end Gpu.Backend

namespace Backend

/-- A tier that is there enters what it is given back. -/
theorem release_enters (id : ResourceId) (scene : Scene Backend) (present : scene.own ≠ .null) :
    (release id).Leads scene
      (fun _ after => after.platform.ledger = scene.platform.ledger ++ [.takenBack id])
      fun _ _ => False := by
  obtain ⟨backend, platform⟩ := scene
  rw [release, run, leads_bind, leads_own]
  cases backend with
  | null => exact absurd rfl present
  | simulated b =>
    simp only [leads_within, Simulated.Backend.release, Simulated.Backend.reportCall, leads_bind,
      leads_own, leads_setOwn, leads_emit, Platform.ledger_record]
    exact congrArg (· ++ _) (List.append_nil _)
  | gpu b =>
    rw [leads_within]
    exact Gpu.Backend.release_enters id ⟨b, platform⟩

end Backend

inductive Creation where
  | buffer (desc : BufferDesc)
  | texture (desc : TextureDesc)
  | sampler (desc : SamplerDesc)
  | pipeline (desc : PipelineDesc)

namespace Creation

def typed : Creation → Nat → ResourceId
  | buffer _ => .buffer
  | texture _ => .texture
  | sampler _ => .sampler
  | pipeline _ => .pipeline

def make : Creation → Act Backend Nat
  | buffer desc => Backend.createBuffer desc
  | texture desc => Backend.createTexture desc
  | sampler desc => Backend.createSampler desc
  | pipeline desc => Backend.createPipeline desc

def objects (made : List (Creation × Nat)) : List ResourceId :=
  made.map fun (creation, number) => creation.typed number

theorem make_adds (creation : Creation) : Adds id creation.typed creation.make := by
  cases creation with
  | buffer desc => exact Backend.createBuffer_adds desc
  | texture desc => exact Backend.createTexture_adds desc
  | sampler desc => exact Backend.createSampler_adds desc
  | pipeline desc => exact Backend.createPipeline_adds desc

theorem make_enters (creation : Creation) : Enters creation.typed creation.make := by
  cases creation with
  | buffer desc =>
    exact Backend.run_enters (.bind .own fun _ => Simulated.Backend.create_enters _ _)
      (Gpu.Backend.createBuffer_enters desc)
  | texture desc =>
    exact Backend.run_enters (Simulated.Backend.create_enters _ _) (Gpu.Backend.createTexture_enters desc)
  | sampler desc =>
    exact Backend.run_enters (Simulated.Backend.create_enters _ _) (Gpu.Backend.createSampler_enters desc)
  | pipeline desc =>
    exact Backend.run_enters (Simulated.Backend.create_enters _ _) (Gpu.Backend.createPipeline_enters desc)

/-- A creation leaves the alignment of the tier as it is. -/
private theorem make_alignment (creation : Creation) (scene : Scene Backend) :
    creation.make.Leads scene (fun _ after => after.own.alignment = scene.own.alignment)
      fun _ _ => True := by
  cases creation with
  | buffer desc =>
    refine Backend.run_alignment _ (fun scene => ?_) scene
    rw [Simulated.Backend.createBuffer, leads_bind, leads_own]
    exact Simulated.Backend.create_leads _ _ scene
  | texture desc | sampler desc | pipeline desc =>
    exact Backend.run_alignment _ (Simulated.Backend.create_leads _ _) scene

/-- From `start` on all of these were created, one after another, and nothing else was done. -/
inductive Makes (start : Scene Backend) : List (Creation × Nat) → Scene Backend → Prop
  | nil : Makes start [] start
  | snoc {made : List (Creation × Nat)} {middle after : Scene Backend} {creation : Creation} {number : Nat}
      (sofar : Makes start made middle) (ran : creation.make middle = .ok number after) :
      Makes start (made ++ [(creation, number)]) after

namespace Makes

variable {start after : Scene Backend} {made : List (Creation × Nat)} {audit : Audit}
  {others : List ResourceId}

theorem booked (makes : Makes start made after) (start_booked : Booked audit others start)
    (room : others.length + made.length ≤ audit.most) :
    Booked audit ((objects made).reverse ++ others) after := by
  induction makes with
  | nil => exact start_booked
  | @snoc made middle after creation number sofar ran ih =>
    rw [List.length_append, List.length_singleton] at room
    have held := ih (by omega)
    have added := creation.make_adds audit _ middle held (by simp [objects]; omega)
    rw [leads_of_ok ran] at added
    simpa [objects] using added

theorem ledger (makes : Makes start made after) :
    after.platform.ledger = start.platform.ledger ++ (objects made).map .handedOut := by
  induction makes with
  | nil => exact (List.append_nil _).symm
  | @snoc made middle after creation number sofar ran ih =>
    have entered := creation.make_enters middle
    rw [leads_of_ok ran] at entered
    rw [entered, ih]
    simp [objects]

theorem alignment (makes : Makes start made after) : after.own.alignment = start.own.alignment := by
  induction makes with
  | nil => rfl
  | @snoc made middle after creation number sofar ran ih =>
    have same := creation.make_alignment middle
    rw [leads_of_ok ran] at same
    rw [same, ih]

end Makes
end Creation
end FrameViewer
