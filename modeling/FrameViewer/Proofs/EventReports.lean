import FrameViewer.Proofs.ActionBounds

/-! A report only grows. Every event tells of one part of the viewer, and an action on a part
adds events of that part alone. -/

namespace FrameViewer

inductive Part where
  /-- Which tier is tried, taken up and dropped. -/
  | negotiation
  | drawing
  /-- Which objects a tier holds. -/
  | holding
  | engine
  | sound
  | pacing
  | application
  deriving DecidableEq, Repr

def Notice.part : Notice → Part
  | tearingDown _ | trying _ | renderingUsing _ | rejected .. | exhausted _ => .negotiation
  | rollingBack .. | built .. | adapterFound .. | forcingFallback | shadersValid _ | deviceError _
  | pipelineReady .. | surfaceTimeout => .drawing
  | loadingRom .. => .engine
  | audioRunning _ | audioMissing | beepCut => .sound
  | dimsChanged _ | frameSuperseded _ | noRedraw _ => .pacing
  | failed _ | starting | started | windowFailed _ | renderingWith _ | romReceived | closing
  | stopping | framePresented _ | frameEnded _ | keypad .. | romIgnored _ | romLoaded _
  | unreadable .. | closeRequested | romEmpty => .application

def Event.part : Event → Part
  | notice n => n.part
  | opened _ | closed _ => .negotiation
  | acquire .. | tier .. | gpu _ => .drawing
  | handedOut .. | takenBack .. => .holding
  | engine .. => .engine
  | cued | beep | soundPlayed _ => .sound
  | frameRequested _ => .pacing
  | redrawn | raised _ | screenCleared | screenText _ | windowTitle _ | windowCreated .. | exit | nudge
  | taskText .. | taskEnd _ => .application

/-- The later report is the earlier one with events of that kind on top. -/
def Platform.Extends (kind : Event → Prop) (before after : Platform) : Prop :=
  ∃ added, after.events.toList = before.events.toList ++ added ∧ ∀ event ∈ added, kind event

namespace Platform.Extends

variable {kind : Event → Prop}

theorem refl (platform : Platform) : platform.Extends kind platform :=
  ⟨[], (List.append_nil _).symm, by simp⟩

theorem of_events_eq {before after : Platform} (same : after.events = before.events) :
    before.Extends kind after :=
  ⟨[], by rw [same, List.append_nil], by simp⟩

theorem trans {first second third : Platform} (early : first.Extends kind second)
    (late : second.Extends kind third) : first.Extends kind third := by
  obtain ⟨added, same, each⟩ := early
  obtain ⟨more, further, every⟩ := late
  refine ⟨added ++ more, by rw [further, same, List.append_assoc], ?_⟩
  intro event member
  exact (List.mem_append.mp member).elim (each event) (every event)

theorem record (platform : Platform) {event : Event} (allowed : kind event) :
    platform.Extends kind (platform.record event) :=
  ⟨[event], by simp [Platform.record], by simpa using allowed⟩

theorem mono {wider : Event → Prop} {before after : Platform}
    (extends' : before.Extends kind after) (implies : ∀ event, kind event → wider event) :
    before.Extends wider after := by
  obtain ⟨added, same, each⟩ := extends'
  exact ⟨added, same, fun event member => implies event (each event member)⟩

theorem filterMap {α : Type} {read : Event → Option α} {before after : Platform}
    (extends' : before.Extends kind after) (blind : ∀ event, kind event → read event = none) :
    after.events.toList.filterMap read = before.events.toList.filterMap read := by
  obtain ⟨added, same, each⟩ := extends'
  rw [same, List.filterMap_append, List.append_right_eq_self, List.filterMap_eq_nil_iff]
  exact fun event member => blind event (each event member)

end Platform.Extends

namespace Act

variable {σ τ α β : Type} {kind : Event → Prop}

/-- However it ends, the action leaves the report `base` with events of that kind on top. -/
def Grows (kind : Event → Prop) (base : Platform) (action : Act σ α) (scene : Scene σ) : Prop :=
  action.Leads scene (fun _ after => base.Extends kind after.platform)
    fun _ after => base.Extends kind after.platform

@[reducible] def growing (kind : Event → Prop) : Bounds Platform where
  done before after := before.Extends kind after
  failed _ before after := before.Extends kind after
  allows := kind
  refl platform := .refl platform
  trans early late := early.trans late
  broken early late := early.trans late

instance : (growing kind).Steady where
  of_done _ := id
  of_failed _ := id

instance : Hearing (Scene.platform : Scene σ → Platform) (growing kind) where
  record scene _ allowed := .record scene.platform allowed

/-- Wherever it begins, the action only adds events of that kind to the report. -/
def Emits (kind : Event → Prop) (action : Act σ α) : Prop :=
  action.Respects Scene.platform (growing kind)

namespace Grows

variable {base : Platform} {scene : Scene σ} {action : Act σ α} {next : α → Act σ β}

theorem mono {wider : Event → Prop} (grows : action.Grows kind base scene)
    (implies : ∀ event, kind event → wider event) : action.Grows wider base scene :=
  Leads.mono grows (fun _ _ grown => grown.mono implies) fun _ _ grown => grown.mono implies

theorem since (early : base.Extends kind scene.platform)
    (grows : action.Grows kind scene.platform scene) : action.Grows kind base scene :=
  Leads.mono grows (fun _ _ later => early.trans later) fun _ _ later => early.trans later

theorem bind_leads {done : α → Scene σ → Prop} (first : action.Grows kind base scene)
    (leads : action.Leads scene done fun _ _ => True)
    (rest : ∀ value after, done value after → (next value).Grows kind after.platform after) :
    (action >>= next).Grows kind base scene := by
  unfold Grows
  rw [leads_bind]
  refine (Leads.and first leads).mono ?_ fun _ _ both => both.1
  intro value after ⟨grown, reached⟩
  exact since grown (rest value after reached)

theorem bind (first : action.Grows kind base scene) (rest : ∀ value, (next value).Emits kind) :
    (action >>= next).Grows kind base scene :=
  bind_leads first (.of_forall (fun _ _ => trivial) fun _ _ => trivial)
    fun value after _ => rest value after

end Grows

namespace Emits

theorem mono {wider : Event → Prop} {action : Act σ α} (emits : action.Emits kind)
    (implies : ∀ event, kind event → wider event) : action.Emits wider :=
  fun scene => (emits scene).mono (fun _ _ grown => grown.mono implies) fun _ _ grown =>
    grown.mono implies

theorem and {other : Event → Prop} {action : Act σ α} (first : action.Emits kind)
    (second : action.Emits other) : action.Emits fun event => kind event ∧ other event := by
  have both {before after : Platform} (grown : before.Extends kind after)
      (again : before.Extends other after) :
      before.Extends (fun event => kind event ∧ other event) after := by
    obtain ⟨added, same, each⟩ := grown
    obtain ⟨others, further, every⟩ := again
    obtain rfl := List.append_cancel_left (same.symm.trans further)
    exact ⟨added, same, fun event inside => ⟨each event inside, every event inside⟩⟩
  intro scene
  exact (Leads.and (first scene) (second scene)).mono (fun _ _ grown => both grown.1 grown.2)
    fun _ _ grown => both grown.1 grown.2

end Emits
end Act
end FrameViewer
