import FrameViewer.Proofs.EngineCalls
import FrameViewer.Proofs.LoopReports
import FrameViewer.Proofs.SoundedCues

/-! Keys go up and down while the engine is stepped, callbacks have their turns and programs are
loaded. Each of these does to the session, and to what its engine has been told, nothing but
shifts, whether or not it succeeds. -/

namespace FrameViewer
open Act Relation

variable {σ τ ε κ α β : Type} [Engine ε] [BEq κ]

/-- Nothing happens to a session, and to the calls that its engine has had, but shifts. -/
@[reducible] def Session.shifting (ε : Type) [Engine ε] : Bounds (Session ε × List EngineCall) where
  done := ReflTransGen Session.Shift
  failed _ := ReflTransGen Session.Shift
  allows event := event.part ≠ .engine
  refl _ := .refl
  trans early late := early.trans late
  broken early late := early.trans late

instance : (Session.shifting ε).Steady where
  of_done _ := id
  of_failed _ := id

/-- However the action ends, it does nothing but shifts to that session and the calls that its
engine has had. -/
def Act.Shifts (session : σ → Session ε) (action : Act σ α) : Prop :=
  action.Respects (fun scene => (session scene.own, scene.platform.engineCalls)) (Session.shifting ε)

instance (session : σ → Session ε) :
    Hearing (fun scene : Scene σ => (session scene.own, scene.platform.engineCalls))
      (Session.shifting ε) where
  record scene event deaf := by
    have grown : scene.platform.Extends (· = event) (scene.platform.record event) := .record _ rfl
    rw [grown.engineCalls_eq fun _ same => same ▸ deaf]

namespace Act.Shifts

variable {session : σ → Session ε}

/-- An action that keeps away from the session and reports of other parts shifts nothing. -/
theorem of_deaf {kind : Event → Prop} {action : Act σ α} (emits : action.Emits kind)
    (deaf : ∀ event, kind event → event.part ≠ .engine)
    (same : ∀ scene, action.Leads scene (fun _ after => session after.own = session scene.own)
      fun _ after => session after.own = session scene.own) : action.Shifts session := by
  intro scene
  have still {after : Scene σ} (grown : scene.platform.Extends kind after.platform)
      (unmoved : session after.own = session scene.own) :
      ReflTransGen Session.Shift (session scene.own, scene.platform.engineCalls)
        (session after.own, after.platform.engineCalls) := by
    rw [grown.engineCalls_eq deaf, unmoved]
  exact ((emits scene).and (same scene)).mono (fun _ _ both => still both.1 both.2)
    fun _ _ both => still both.1 both.2

/-- What every shift keeps, the action keeps. -/
theorem leads {action : Act σ α} (shifts : action.Shifts session) {scene : Scene σ}
    {Good : Session ε × List EngineCall → Prop}
    (kept : ∀ before after, Session.Shift before after → Good before → Good after)
    (good : Good (session scene.own, scene.platform.engineCalls)) :
    action.Leads scene (fun _ after => Good (session after.own, after.platform.engineCalls))
      fun _ after => Good (session after.own, after.platform.engineCalls) := by
  have closed {after : Session ε × List EngineCall}
      (shifted : ReflTransGen Session.Shift (session scene.own, scene.platform.engineCalls) after) :
      Good after := by
    induction shifted with
    | refl => exact good
    | tail _ shift ih => exact kept _ _ shift ih
  exact (shifts scene).mono (fun _ _ => closed) fun _ _ => closed

end Act.Shifts

/-- Every key is bound to one of the sixteen. -/
def KeyMap.IsNarrow (map : KeyMap κ) : Prop :=
  ∀ key binding, map.get? key = some binding → binding.code < 16

/-- The hex keypad has sixteen keys, whatever keys of the host stand for them. -/
private theorem KeyMap.ofKeypad_isNarrow (keys : List κ) : (ofKeypad keys).IsNarrow := by
  have bound : ∀ entry ∈ (ofKeypad keys).bindings, entry.2.code < 16 := by
    refine List.foldlRecOn
      (motive := fun map : KeyMap κ => ∀ entry ∈ map.bindings, entry.2.code < 16) _ _
      (fun entry inside => nomatch inside) fun map narrow placed member => ?_
    have code : placed.1.2 ∈ hexKeypad :=
      (List.of_mem_zip (List.fst_mem_of_mem_zipIdx member)).2
    intro entry inside
    rcases List.mem_cons.mp inside with rfl | former
    · exact (show ∀ code ∈ hexKeypad, code < 16 by decide) _ code
    · exact narrow entry (List.mem_of_mem_filter former)
  intro key binding found
  rw [get?, List.lookup_eq_findSome?] at found
  obtain ⟨entry, member, matched⟩ := List.exists_of_findSome?_eq_some found
  split at matched
  · cases matched
    exact bound entry member
  · cases matched

namespace Session

private theorem create_eq (factory : Nat → ε) (scene : Scene σ) : ∃ opened,
    create factory scene = .ok { engine := factory 0, factory, made := 1 } opened ∧
      opened.platform.engineCalls = [] :=
  ⟨_, rfl, Platform.engineCalls_record _ _⟩

private theorem loadRom_shifts (rom : Rom) : (loadRom rom : Act (Session ε) Unit).Shifts id := by
  intro scene
  unfold loadRom make reportCall
  simp only [leads_bind, leads_notify, leads_own, leads_emit, leads_pure, leads_setOwn,
    Platform.engineCalls_record]
  exact .single (.loaded rom)

/-- What a key does that goes down, or up. If the session did not know, it does from now on, and
the engine is told by one call, which is reported. -/
inductive Turned (down : Bool) (code : Nat) (before : Scene (Session ε)) :
    Scene (Session ε) → Prop
  | told (news : before.own.keys.contains code = !down) :
      Turned down code before
        ⟨{ before.own with
            engine := Engine.obey before.own.engine (.ofKey down code)
            keys := before.own.keys.turn down code },
          before.platform.record
            (.engine (Engine.serial before.own.engine) (.ofKey down code))⟩
  | known (known : before.own.keys.contains code = down) : Turned down code before before

theorem Turned.shift {down : Bool} {code : Nat} {before after : Scene (Session ε)}
    (turned : Turned down code before after) (bound : code < 16) :
    ReflTransGen Shift (before.own, before.platform.engineCalls)
      (after.own, after.platform.engineCalls) := by
  cases turned with
  | told news =>
    have added : Event.addCall before.platform.engineCalls
        (.engine (Engine.serial before.own.engine) (.ofKey down code)) =
        before.platform.engineCalls ++ [.ofKey down code] := by
      cases down <;> rfl
    rw [Platform.engineCalls_record, added]
    exact .single (.turned bound news)
  | known => exact .refl

/-- The key is held now, or not, and no other key has changed. -/
theorem Turned.contains {down : Bool} {code other : Nat} {before after : Scene (Session ε)}
    (turned : Turned down code before after) (bound : code < 16) (fits : other < 16) :
    after.own.keys.contains other =
      if code = other then down else before.own.keys.contains other := by
  cases turned with
  | told news => exact KeySet.contains_turn bound fits
  | known known =>
    have same := KeySet.turn_of_contains bound known
    rw [← KeySet.contains_turn bound fits, same]

structure Answered (binding : Option KeyBinding) (down : Bool) (before : Scene (Session ε))
    (place : Option Nat) (after : Scene (Session ε)) : Prop where
  place : place = binding.map (·.place)
  unbound : binding = none → after = before
  turned : ∀ found, binding = some found → Turned down found.code before after
  keys : ∀ found, binding = some found → ∀ other < 16, after.own.keys.contains other =
    if found.code = other then down else before.own.keys.contains other

private theorem Answered.of_unbound {down : Bool} {before : Scene (Session ε)} :
    Answered none down before none before :=
  ⟨rfl, fun _ => rfl, nofun, nofun⟩

private theorem Answered.of_bound {found : KeyBinding} {down : Bool} {before after : Scene (Session ε)}
    (bound : found.code < 16) (turned : Turned down found.code before after) :
    Answered (some found) down before (some found.place) after := by
  refine ⟨rfl, nofun, fun other same => ?_, fun other same key => ?_⟩
  · cases same
    exact turned
  · cases same
    exact turned.contains bound

variable {map : KeyMap κ} (narrow : map.IsNarrow) (key : κ) (scene : Scene (Session ε))
include narrow

private theorem keyDown_answers :
    (keyDown map key).Leads scene (Answered (map.get? key) true scene) fun _ _ => False := by
  unfold keyDown setKey reportCall
  cases found : map.get? key with
  | none => exact .of_unbound
  | some binding =>
    have bound := narrow key binding found
    simp only [leads_bind, leads_own, leads_setOwn, KeySet.press]
    by_cases held : scene.own.keys.contains binding.code = true
    · have same : scene.own.keys.insert binding.code = scene.own.keys :=
        KeySet.turn_of_contains bound held
      simp only [held, Bool.not_true, Bool.false_eq_true, if_false, leads_pure, same]
      exact .of_bound bound (.known held)
    · rw [Bool.not_eq_true] at held
      simp only [held, Bool.not_false, if_true, leads_bind, leads_own, leads_emit, leads_setOwn,
        leads_pure]
      exact .of_bound bound (.told held)

private theorem keyUp_answers :
    (keyUp map key).Leads scene (Answered (map.get? key) false scene) fun _ _ => False := by
  unfold keyUp unsetKey reportCall
  cases found : map.get? key with
  | none => exact .of_unbound
  | some binding =>
    have bound := narrow key binding found
    simp only [leads_bind, leads_own, leads_setOwn, KeySet.release]
    by_cases held : scene.own.keys.contains binding.code = true
    · simp only [held, if_true, leads_bind, leads_own, leads_emit, leads_setOwn, leads_pure]
      exact .of_bound bound (.told held)
    · rw [Bool.not_eq_true] at held
      have same : scene.own.keys.erase binding.code = scene.own.keys :=
        KeySet.turn_of_contains bound held
      simp only [held, Bool.false_eq_true, if_false, leads_pure, same]
      exact .of_bound bound (.known held)

omit scene

private theorem shifts_of_answered {down : Bool} {action : Act (Session ε) (Option Nat)}
    (answers : ∀ scene, action.Leads scene (Answered (map.get? key) down scene) fun _ _ => False) :
    action.Shifts id := by
  intro scene
  refine (answers scene).mono (fun place after answered => ?_) fun _ _ impossible => impossible.elim
  cases found : map.get? key with
  | none => rw [answered.unbound found]
  | some binding => exact (answered.turned binding found).shift (narrow key binding found)

end Session

namespace FrameLoop

abbrev Shifts (action : Act (FrameLoop ε) α) : Prop :=
  Act.Shifts (·.session) action

private theorem onSession_shifts {action : Act (Session ε) α} (shifts : action.Shifts id) :
    Shifts (onSession action) := by
  intro scene
  unfold onSession
  simp only [leads_bind, leads_own, leads_within]
  exact shifts ⟨scene.own.session, scene.platform⟩

private theorem onRenderer_shifts {action : Act Renderer α} (emits : action.Emits Event.IsRendering) :
    Shifts (onRenderer action : Act (FrameLoop ε) α) := by
  refine .of_deaf (onRenderer_emits emits) (fun event rendering => ?_) fun scene => ?_
  · rcases rendering with part | part
    · exact part ▸ nofun
    · exact part ▸ nofun
  · unfold onRenderer
    simp only [leads_bind, leads_own, leads_within]
    exact .of_forall (fun _ _ => trivial) fun _ _ => trivial

private theorem next_shifts : Shifts (next : Act (FrameLoop ε) Bool) := by
  intro scene
  unfold next Session.reportCall
  simp only [leads_bind, leads_own, leads_emit, leads_setOwn, leads_pure, Platform.engineCalls_record]
  have step : (EngineCall.next (Engine.next scene.own.session.engine).1).IsStep := trivial
  exact .single (.stepped step)

private theorem tick_shifts : Shifts (tick : Act (FrameLoop ε) Tick) := by
  intro scene
  unfold tick Session.reportCall
  simp only [leads_bind, leads_own, leads_checked]
  cases ticked : Engine.tick scene.own.session.engine with
  | none => exact .refl
  | some answer =>
    simp only [leads_emit, leads_setOwn, leads_pure, Platform.engineCalls_record]
    have obeyed : Engine.obey scene.own.session.engine (.tick answer.1) = answer.2 := by
      rw [Engine.obey, ticked]
      rfl
    have step : (EngineCall.tick answer.1).IsStep := trivial
    rw [← obeyed]
    exact .single (.stepped step)

private theorem loadRom_shifts (rom : Rom) : Shifts (loadRom rom : Act (FrameLoop ε) Unit) := by
  have restarted : Shifts (Act.update fun l : FrameLoop ε =>
      { l with state := { generation := l.session.generation } }) := .change fun _ => .refl
  refine .bind (onSession_shifts (Session.loadRom_shifts rom)) fun _ => .bind .own fun l => ?_
  refine .ite ?_ restarted
  refine .bind (.emit (by simp [Event.part, Notice.part])) fun _ => ?_
  exact .bind (onRenderer_shifts (Renderer.rebuild_emits _)) fun _ => restarted

private theorem beep_shifts : Shifts (Audio.beep : Act (FrameLoop ε) Unit) :=
  .of_deaf Audio.beep_emits (fun _ part => part ▸ nofun) fun scene =>
    (Audio.beep_sounds scene).mono (fun _ _ sounded => congrArg _ sounded.1) fun _ _ failed =>
      congrArg (·.own.session) failed.2.1

private theorem step_shifts (generation : Nat) :
    Shifts (step generation : Act (FrameLoop ε) StepOutcome) := by
  refine .bind .own fun l => .ite (.pure _) (.bind next_shifts fun more => .ite ?_ (.pure _))
  exact .bind tick_shifts fun report => .ite (.bind beep_shifts fun _ => .pure _) (.pure _)

private theorem present_shifts (generation ticks : Nat) :
    Shifts (present generation ticks : Act (FrameLoop ε) FrameReport) := by
  refine .bind .own fun l => .ite (.pure _) ?_
  refine .bind (.change fun _ => .refl) fun _ => .bind .own fun l => ?_
  refine .bind (.attempt (.bind (.check _) fun pixels => onRenderer_shifts ?_)) fun shown => ?_
  · exact (Renderer.submit_emits pixels).mono Event.IsDrawing.isRendering
  exact .bind (.change fun _ => .refl) fun _ => .bind (.check shown) fun _ =>
    .bind (.change fun _ => .refl) fun _ => .pure _

end FrameLoop

namespace Callback
open FrameLoop (Shifts)

private theorem present_shifts (callback : Callback) :
    Shifts (callback.present : Act (FrameLoop ε) Progress) :=
  .bind (FrameLoop.present_shifts _ _) fun _ => .bind (.emit nofun) fun _ => .pure _

private theorem proceed_shifts (callback : Callback) (outcome : StepOutcome) :
    Shifts (callback.proceed outcome : Act (FrameLoop ε) Progress) := by
  have counted : Shifts (callback.counted : Act (FrameLoop ε) Callback) := .ite (.pure _) .crash
  cases outcome with
  | superseded => exact .bind (.emit nofun) fun _ => .bind (.emit nofun) fun _ => .pure _
  | halted => exact present_shifts callback
  | redraw => exact .bind counted present_shifts
  | quiet =>
    refine .bind counted fun further => .ite ?_ (.ite (.pure _) (.pure _))
    exact .bind (.emit nofun) fun _ => present_shifts further

private theorem runFor_shifts (fuel : Nat) (callback : Callback) :
    Shifts (runFor fuel callback : Act (FrameLoop ε) Progress) := by
  induction fuel generalizing callback with
  | zero => exact .crash
  | succ fuel ih =>
    refine .bind (.bind (FrameLoop.step_shifts _) callback.proceed_shifts) fun progress => ?_
    cases progress with
    | running further => exact ih further
    | paused _ | finished _ => exact .pure _

end Callback

inductive Occurrence (κ : Type) where
  | press (key : κ)
  | release (key : κ)
  /-- The engine makes one instruction. -/
  | next
  /-- The engine does the bookkeeping after one. -/
  | tick
  /-- A callback goes on to its next pause or to its end. -/
  | turn (callback : Callback)
  | load (rom : Rom)
  /-- Loads a program behind the loop's back. -/
  | swap (rom : Rom)
  | resize (size : Dims)
  | teardown

namespace FrameLoop

/-- Goes on after a refusal, as the application does. -/
def attend (map : KeyMap κ) : Occurrence κ → Act (FrameLoop ε) Unit
  | .press key => do
    let _ ← onSession (Session.keyDown map key)
  | .release key => do
    let _ ← onSession (Session.keyUp map key)
  | .next => do
    let _ ← next
  | .tick => do
    let _ ← tick
  | .turn callback => do
    let _ ← Act.attempt callback.run
  | .load rom => do
    let _ ← Act.attempt (loadRom rom)
  | .swap rom => onSession (Session.loadRom rom)
  | .resize size => onRenderer (Renderer.resize size)
  | .teardown => onRenderer Renderer.teardown

def attendAll (map : KeyMap κ) (occurrences : List (Occurrence κ)) : Act (FrameLoop ε) Unit :=
  occurrences.forM (attend map)

variable {map : KeyMap κ} (narrow : map.IsNarrow)
include narrow

private theorem attend_shifts (occurrence : Occurrence κ) :
    Shifts (attend map occurrence : Act (FrameLoop ε) Unit) := by
  cases occurrence with
  | press key => exact .bind (onSession_shifts (Session.shifts_of_answered narrow key (Session.keyDown_answers narrow key))) fun _ => .pure _
  | release key => exact .bind (onSession_shifts (Session.shifts_of_answered narrow key (Session.keyUp_answers narrow key))) fun _ => .pure _
  | next => exact .bind next_shifts fun _ => .pure _
  | tick => exact .bind tick_shifts fun _ => .pure _
  | turn callback => exact .bind (.attempt (Callback.runFor_shifts _ callback)) fun _ => .pure _
  | load rom => exact .bind (.attempt (loadRom_shifts rom)) fun _ => .pure _
  | swap rom => exact onSession_shifts (Session.loadRom_shifts rom)
  | resize size =>
    exact onRenderer_shifts ((Renderer.resize_emits size).mono Event.IsDrawing.isRendering)
  | teardown => exact onRenderer_shifts Renderer.teardown_emits

private theorem attendAll_shifts (occurrences : List (Occurrence κ)) :
    Shifts (attendAll map occurrences : Act (FrameLoop ε) Unit) :=
  .listForM (attend_shifts narrow) occurrences

/-- A key that goes down or up is answered with its place, and an unbound one does nothing. One that
is bound is from then on held or not, and the engine is told if it was not so before. From a new
session on, whatever occurs and however the last of it ends, the calls of the newest engine say of
each key by turns that it is down and that it is up, that it is down first, and the session takes
for held the keys that were last said to be down. A player's own keys are then those. -/
theorem keys_stay_in_step :
    (∀ (key : κ) (scene : Scene (Session ε)),
      (Session.keyDown map key).Leads scene (Session.Answered (map.get? key) true scene)
        (fun _ _ => False) ∧
      (Session.keyUp map key).Leads scene (Session.Answered (map.get? key) false scene)
        fun _ _ => False) ∧
    (∀ (factory : Nat → ε) (renderer : Renderer) (occurrences : List (Occurrence κ))
        (scene : Scene σ), ∃ session opened,
      Session.create factory scene = .ok session opened ∧
      (attendAll map occurrences).Leads ⟨.ofSession session renderer, opened.platform⟩
        (fun _ after => after.own.session.InStep after.platform.engineCalls)
        fun _ after => after.own.session.InStep after.platform.engineCalls) ∧
    ∀ (renderer : Renderer) (occurrences : List (Occurrence κ)) (scene : Scene σ),
        ∃ session opened,
      Session.create (fun _ => Player.blank) scene = .ok session opened ∧
      (attendAll map occurrences).Leads ⟨.ofSession session renderer, opened.platform⟩
        (fun _ after => after.own.session.engine.keys = after.own.session.keys)
        fun _ after => after.own.session.engine.keys = after.own.session.keys := by
  refine ⟨fun key scene => ⟨?_, ?_⟩, ?_, ?_⟩
  · exact Session.keyDown_answers narrow key scene
  · exact Session.keyUp_answers narrow key scene
  · intro factory renderer occurrences scene
    obtain ⟨opened, created, fresh⟩ := Session.create_eq factory scene
    refine ⟨_, opened, created, (attendAll_shifts narrow occurrences).leads
      (fun _ _ shift inStep => Session.InStep.of_shift shift inStep) ?_⟩
    rw [fresh]
    exact .of_created factory
  · intro renderer occurrences scene
    obtain ⟨opened, created, _⟩ := Session.create_eq (fun _ => Player.blank) scene
    exact ⟨_, opened, created,
      (attendAll_shifts narrow occurrences).leads (fun _ _ => Player.keys_of_shift) rfl⟩

omit narrow in
/-- A key is held, a program is loaded, and the key repeats: the player's own keys are the session's. -/
theorem repeated_key_in_step :
    (KeyMap.ofKeypad ["1", "2", "3", "4"]).IsNarrow ∧ ∃ session opened,
      Session.create (fun _ => Player.blank) (⟨(), {}⟩ : Scene Unit) = .ok session opened ∧
      (attendAll (KeyMap.ofKeypad ["1", "2", "3", "4"])
          [.press "2", .load Player.demo, .press "2", .next, .tick]).Leads
        ⟨.ofSession session .inert, opened.platform⟩
        (fun _ after => after.own.session.engine.keys = after.own.session.keys)
        fun _ after => after.own.session.engine.keys = after.own.session.keys := by
  have narrow := KeyMap.ofKeypad_isNarrow ["1", "2", "3", "4"]
  obtain ⟨_, _, players⟩ := keys_stay_in_step (σ := Unit) (ε := Player) narrow
  exact ⟨narrow, players .inert [.press "2", .load Player.demo, .press "2", .next, .tick] ⟨(), {}⟩⟩

end FrameLoop
end FrameViewer
