import FrameViewer.Proofs.ShowTurns

/-! Whether the window owes a redraw. It was asked for one by whatever ends a callback or starts a
show over, and nothing but the delivery of a redraw settles that. So while a show runs and no
failure is on display, something is always there that leads to its next frame. -/

namespace FrameViewer
open Act

variable {σ α : Type}

/-- Whether the window owes a redraw after the event, if it owed one before or not. -/
def Event.owed (before : Bool) : Event → Bool
  | frameRequested .window => true
  | redrawn => false
  | _ => before

def Event.IsUndelivered (event : Event) : Prop :=
  event ≠ redrawn

theorem Event.IsRoutine.isUndelivered (event : Event) (routine : event.IsRoutine) :
    event.IsUndelivered := by
  rintro rfl
  exact routine rfl

private theorem Event.IsUndelivered.owed {event : Event} (undelivered : event.IsUndelivered) :
    event.owed true = true := by
  cases event with
  | frameRequested host => cases host <;> rfl
  | redrawn => exact absurd rfl undelivered
  | _ => rfl

/-- The window was asked for a redraw that it has not delivered yet. -/
def Platform.redrawDue (platform : Platform) : Bool :=
  platform.events.toList.foldl Event.owed false

namespace Platform

private theorem redrawDue_record (platform : Platform) (event : Event) :
    (platform.record event).redrawDue = event.owed platform.redrawDue := by
  simp [redrawDue, record]

@[simp] theorem redrawDue_request (platform : Platform) :
    (platform.record (.frameRequested .window)).redrawDue = true :=
  platform.redrawDue_record _

@[simp] theorem redrawDue_notice (platform : Platform) (notice : Notice) :
    (platform.record (.notice notice)).redrawDue = platform.redrawDue :=
  platform.redrawDue_record _

theorem Extends.redrawDue {before after : Platform}
    (grown : before.Extends Event.IsUndelivered after) (due : before.redrawDue = true) :
    after.redrawDue = true := by
  obtain ⟨added, same, each⟩ := grown
  have still : added.foldl Event.owed true = true := by
    clear same
    induction added with
    | nil => rfl
    | cons event rest ih =>
      rw [List.foldl_cons, (each event List.mem_cons_self).owed]
      exact ih fun later member => each later (List.mem_cons_of_mem _ member)
  unfold Platform.redrawDue at due ⊢
  rw [same, List.foldl_append, due, still]

end Platform

/-- A callback of the window goes on as one, or the window owes a redraw. -/
def Progress.Arranged (platform : Platform) : Progress → Prop
  | running callback | paused callback => callback.host = .window
  | finished _ => platform.redrawDue = true

namespace Callback

def Arranges (action : Act (FrameLoop Player) Progress) : Prop :=
  ∀ scene, action.Leads scene (fun progress after => progress.Arranged after.platform) fun _ _ => True

namespace Arranges

variable {action first second : Act (FrameLoop Player) Progress}

theorem bind {early : Act (FrameLoop Player) α} {next : α → Act (FrameLoop Player) Progress}
    (rest : ∀ value, Arranges (next value)) : Arranges (early >>= next) := by
  intro scene
  rw [leads_bind]
  exact .of_forall (fun value after => rest value after) fun _ _ => trivial

theorem ite {condition : Prop} [Decidable condition] (positive : Arranges first)
    (negative : Arranges second) : Arranges (if condition then first else second) := by
  split <;> assumption

end Arranges

variable {callback : Callback}

private theorem present_arranges (window : callback.host = .window) : Arranges callback.present := by
  refine .bind fun report scene => ?_
  rw [leads_bind, leads_emit, leads_pure, window]
  exact scene.platform.redrawDue_request

private theorem proceed_arranges (window : callback.host = .window) (outcome : StepOutcome) :
    Arranges (callback.proceed outcome) := by
  have counted {next : Callback → Act (FrameLoop Player) Progress}
      (rest : ∀ further : Callback, further.host = .window → Arranges (next further)) :
      Arranges (callback.counted >>= next) := by
    intro scene
    unfold counted
    rw [leads_bind]
    split
    · exact rest { callback with ticks := callback.ticks + 1 } window scene
    · trivial
  cases outcome with
  | superseded =>
    refine .bind fun _ scene => ?_
    rw [leads_bind, leads_emit, leads_pure, window]
    exact scene.platform.redrawDue_request
  | halted => exact present_arranges window
  | redraw => exact counted fun _ => present_arranges
  | quiet =>
    refine counted fun further window => .ite (.bind fun _ => present_arranges window) (.ite ?_ ?_)
    · exact fun _ => window
    · exact fun _ => window

private theorem runFor_arranges (fuel : Nat) (window : callback.host = .window) :
    Arranges (runFor fuel callback) := by
  induction fuel generalizing callback with
  | zero => exact fun _ => trivial
  | succ fuel ih =>
    intro scene
    have stepped : Arranges callback.step := .bind (proceed_arranges window)
    rw [runFor, leads_bind]
    refine (stepped scene).mono ?_ fun _ _ failed => failed
    intro progress after arranged
    cases progress with
    | running further => exact ih arranged after
    | paused _ | finished _ => exact arranged

private theorem run_arranges (window : callback.host = .window) : Arranges callback.run :=
  runFor_arranges _ window

end Callback

namespace Show

/-- What leads to the next frame of a show: a callback that has the frame, a redraw that the window
owes, a task that is to begin a callback, or a failure that ends the show. -/
inductive Prompted (tasks : List Task) (s : Show) (platform : Platform) : Prop where
  | taken (inFlight : s.loop.state.inFlight = true)
  | asked (due : platform.redrawDue = true)
  | spawned (frame : .frame ∈ tasks)
  | failed (waits : s.fatal.slot ≠ none)

/-- A show that runs, with no failure on display, does not wait for nothing. -/
def Awake (tasks : List Task) (s : Show) (platform : Platform) : Prop :=
  s.screen = none → s.loop.state.running = true → s.Prompted tasks platform

variable {tasks others : List Task} {s : Show} {before after : Platform}

theorem Awake.withTasks (awake : s.Awake tasks before) (kept : .frame ∈ tasks → .frame ∈ others) :
    s.Awake others before := by
  intro absent running
  cases awake absent running with
  | taken inFlight => exact .taken inFlight
  | asked due => exact .asked due
  | spawned frame => exact .spawned (kept frame)
  | failed waits => exact .failed waits

theorem Awake.grown (awake : s.Awake tasks before)
    (grown : before.Extends Event.IsUndelivered after) : s.Awake tasks after := by
  intro absent running
  cases awake absent running with
  | taken inFlight => exact .taken inFlight
  | asked due => exact .asked (grown.redrawDue due)
  | spawned frame => exact .spawned frame
  | failed waits => exact .failed waits

theorem Awake.withLoop {loop : FrameLoop Player} (awake : s.Awake tasks before)
    (running : loop.state.running = true → s.loop.state.running = true)
    (inFlight : loop.state.inFlight = s.loop.state.inFlight) : Awake tasks { s with loop } before := by
  intro absent still
  cases awake absent (running still) with
  | taken held => exact .taken (inFlight.trans held)
  | asked due => exact .asked due
  | spawned frame => exact .spawned frame
  | failed waits => exact .failed waits

theorem Awake.undisturbed {loop : FrameLoop Player} (awake : s.Awake tasks before)
    (undisturbed : s.loop.Undisturbed loop) : Awake tasks { s with loop } before := by
  apply awake.withLoop ?_ undisturbed.frame.inFlight
  intro running
  by_contra stopped
  rw [undisturbed.stopped (Bool.not_eq_true _ ▸ stopped)] at running
  cases running

theorem emit_awake {event : Event} (undelivered : event.IsUndelivered) :
    Maintains (Awake tasks) (emit event : Act Show Unit) :=
  fun scene awake => awake.grown (.record scene.platform undelivered)

theorem minor_awake {action : Act (FrameLoop Player) α} (minor : FrameLoop.Minor action) :
    Maintains (Awake tasks) (onLoop action) := by
  refine .of_leads fun scene awake => ?_
  have undelivered := minor.emits.mono Event.IsRoutine.isUndelivered
  simp only [onLoop, leads_bind, leads_own, leads_within]
  refine ((undelivered _).and (minor.leaves _)).mono ?_ fun _ _ _ => trivial
  exact fun _ _ both => (awake.grown both.1).undisturbed both.2

theorem audio_awake {action : Act Show Unit} (emits : action.Emits fun event => event.part = .sound)
    (same : ∀ scene, action.Leads scene (fun _ after => after.own = scene.own)
      fun failure _ => failure = .crashed) : Maintains (Awake tasks) action := by
  refine .of_leads fun scene awake => ?_
  have undelivered := emits.mono fun event part =>
    Event.IsRoutine.isUndelivered event (Event.IsPlayed.isRoutine event (.inr part))
  refine ((undelivered scene).and (same scene)).mono ?_ fun _ _ _ => trivial
  intro _ after ⟨grown, unmoved⟩
  rw [unmoved]
  exact awake.grown grown

theorem handleKey_awake (code : String) (down again : Bool) :
    Maintains (Awake tasks) (handleKey code down again) := by
  unfold handleKey
  refine .ite (.bind .own fun s => .bind ?_ fun place => ?_) (.pure _)
  · exact minor_awake (FrameLoop.handleKey_minor s.keys code down)
  · cases place with
    | none => exact .pure _
    | some place => exact emit_awake nofun

private theorem raise_awake (cause : RenderError) (scene : Scene Show) :
    (raise cause).Leads scene (fun _ after => after.own.Awake tasks after.platform)
      fun _ _ => True := by
  refine (raise_leads cause scene).mono ?_ fun _ _ _ => trivial
  intro _ after ⟨own, _⟩
  rw [own]
  exact fun _ _ => .failed (Option.some_ne_none _)

/-- A program that was loaded is shown from its first frame on; one that could not be leaves a
failure. -/
theorem loadRom_awake (rom : Rom) : Maintains (Awake tasks) (loadRom rom) := by
  refine .of_leads fun scene awake => ?_
  unfold loadRom
  simp only [leads_bind, leads_own]
  split
  · exact awake.grown (.record _ nofun)
  · simp only [onLoop, leads_bind, leads_own, leads_attempt, leads_within]
    refine .of_forall ?_ ?_
    · intro _ after
      simp only [leads_bind, leads_notify, updateTitle, requestRedraw, leads_own, leads_emit]
      exact fun _ _ => .asked (Platform.redrawDue_request _)
    · intro failure after
      cases failure with
      | crashed => trivial
      | refused cause => exact raise_awake cause _

theorem loadFile_awake (files : Files) (path : String) :
    Maintains (Awake tasks) (loadFile files path) := by
  unfold loadFile
  cases files.read path with
  | ok bytes => exact loadRom_awake _
  | error reason => exact emit_awake nofun

theorem handleFatal_awake : Maintains (Awake tasks) handleFatal := by
  refine .of_leads fun scene awake => ?_
  obtain ⟨s, platform⟩ := scene
  unfold handleFatal onFatal Mailbox.take
  simp only [leads_bind, leads_own, leads_within, leads_setOwn, leads_pure]
  cases waits : s.fatal.slot with
  | none =>
    rw [leads_pure, withoutFailure waits]
    exact awake
  | some cause =>
    rw [leads_bind]
    refine .of_forall (fun _ ended => ?_) fun _ _ => trivial
    refine (presentError_leads cause ended).mono ?_ fun _ _ _ => trivial
    intro _ after ⟨own, _⟩ absent
    rw [own] at absent
    cases absent

/-- A show begins with a redraw that the window owes. -/
theorem start_asks {session : Session Player} (renderer : Renderer) (config : LoopConfig)
    (scene : Scene σ) :
    (start session renderer config : Act σ Show).Leads scene
      (fun _ after => after.platform.redrawDue = true) fun _ _ => True := by
  unfold start
  simp only [leads_bind, leads_platform, leads_apart]
  refine .of_forall (fun _ resized => .of_forall (fun _ heard => ?_) ?_) ?_
  · simp only [updateTitle, requestRedraw, leads_bind, leads_own, leads_emit, leads_settle, leads_pure]
    exact Platform.redrawDue_request _
  · intro failure after
    trivial
  · intro failure after
    trivial

/-- A turn that ends has asked for the next frame or leaves a failure; one that goes on changes
nothing of what leads to it. -/
theorem follow_awake {callback : Callback} {scene : Scene Show} (window : callback.host = .window)
    (awake : scene.own.Awake tasks scene.platform) :
    (follow callback).Leads scene
      (fun polled after => after.own.Awake tasks after.platform ∧
        ∀ further, .resume further ∈ polled.left → further.host = .window)
      fun _ _ => True := by
  have undelivered := callback.run_emits (ε := Player) |>.mono Event.IsRoutine.isUndelivered
  have outcomes := (callback.run_turns ⟨scene.own.loop, scene.platform⟩).and
    ((undelivered _).and (Callback.run_arranges window _))
  simp only [follow, onLoop, leads_bind, leads_own, leads_attempt, leads_within]
  refine outcomes.mono ?_ ?_
  · intro progress after ends
    obtain ⟨turn, grown, arranged⟩ := ends
    have goes (further : Callback) (host : further.host = .window)
        (on : further ∈ Callback.rest? (.ok progress)) :
        Awake tasks { scene.own with loop := after.own } after.platform ∧
          ∀ other, Task.resume other ∈ [Task.resume further] → other.host = .window := by
      refine ⟨?_, ?_⟩
      · have unmoved := turn.unmoved on
        apply (awake.grown grown).withLoop
        · exact fun running => unmoved ▸ running
        · exact congrArg LoopState.inFlight unmoved
      · intro other member
        obtain rfl := Task.resume.inj (List.mem_singleton.mp member)
        exact host
    cases progress with
    | running further => exact goes further arranged rfl
    | paused further => exact goes further arranged rfl
    | finished report =>
      have due : after.platform.redrawDue = true := arranged
      cases report with
      | presented _ | skipped | superseded =>
        simp only [leads_bind, leads_notify, leads_pure]
        refine ⟨fun _ _ => .asked ((Platform.redrawDue_notice _ _).trans due), ?_⟩
        exact fun _ member => absurd member List.not_mem_nil
  · intro failure after _
    cases failure with
    | crashed => trivial
    | refused cause =>
      apply (raise_awake cause _).mono
      · exact fun _ _ awake => ⟨awake, fun _ member => absurd member List.not_mem_nil⟩
      · exact fun _ _ _ => trivial

/-- A task that is to begin a callback is skipped only when there is no next frame to begin, or
another callback has it. -/
theorem beginFrame_awake (scene : Scene Show) :
    beginFrame.Leads scene
      (fun polled after => after.own.Awake tasks after.platform ∧
        ∀ further, .resume further ∈ polled.left → further.host = .window)
      fun _ _ => True := by
  simp only [beginFrame, onLoop, leads_bind, leads_platform, leads_own, leads_within]
  refine (FrameLoop.begin_leads .window _ _ _).mono ?_ fun _ _ _ => trivial
  intro begun after outcome
  split at outcome
  next free =>
    obtain ⟨rfl, rfl⟩ := outcome
    exact follow_awake rfl fun _ _ => .taken rfl
  next held =>
    obtain ⟨rfl, rfl⟩ := outcome
    simp only [leads_bind, leads_notify, leads_pure]
    refine ⟨fun _ running => .taken ?_, fun _ member => absurd member List.not_mem_nil⟩
    have running : scene.own.loop.state.running = true := running
    cases flying : scene.own.loop.state.inFlight with
    | true => rfl
    | false => simp [running, flying] at held

end Show
end FrameViewer
