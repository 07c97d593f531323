import FrameViewer.Proofs.EngineCalls
import FrameViewer.Proofs.ExactStints
import FrameViewer.Proofs.StaleRequests

/-! A loop that was stopped. No callback begins on it any more. The one that has the frame may still
show it, and after that nothing is put on the screen; once no callback is left, no engine is stepped
either. Only a load that works sets the loop going again. -/

namespace FrameViewer
open Act

/-- Asks no engine for a step. -/
def Event.IsStepless (event : Event) : Prop :=
  ∀ serial call, event = engine serial call → ¬call.IsStep

/-- Asks no engine for a step, and puts nothing on the screen. -/
structure Event.IsDormant (event : Event) : Prop where
  stepless : event.IsStepless
  still : event.stroke? = none

theorem Event.IsUndrawn.still (event : Event) (undrawn : event.IsUndrawn) :
    event.stroke? = none := by
  cases event with
  | tier _ _ | gpu _ => exact absurd (.inl rfl) undrawn
  | _ => rfl

private theorem Event.IsUpkeep.isDormant (event : Event) (upkeep : event.IsUpkeep) : event.IsDormant := by
  refine ⟨?_, upkeep.still⟩
  rintro serial call rfl
  exact (upkeep.rendering.elim nofun nofun : False).elim

/-- What is reported of the timing of a loop. -/
theorem Event.IsDormant.of_pacing (event : Event) (pacing : event.part = .pacing) :
    event.IsDormant := by
  refine ⟨?_, ?_⟩
  · rintro serial call rfl
    exact nomatch pacing
  · cases event with
    | tier _ _ | gpu _ => exact nomatch pacing
    | _ => rfl

/-- What an engine is told of the keys and of programs. -/
theorem Event.IsDormant.of_deedless (event : Event)
    (told : event.part = .engine ∧ event.IsDeedless) : event.IsDormant := by
  obtain ⟨part, deedless⟩ := told
  refine ⟨?_, ?_⟩
  · rintro serial call rfl step
    cases call with
    | next _ | tick _ => exact nomatch deedless
    | create _ | load _ | setKey _ | unsetKey _ => exact step
  · cases event with
    | tier _ _ | gpu _ => exact nomatch part
    | _ => rfl

namespace Platform

theorem Extends.strokes {before after : Platform} (grown : before.Extends Event.IsDormant after) :
    after.strokes = before.strokes :=
  grown.filterMap fun _ idle => idle.still

def PaintedOnce (before after : Platform) : Prop :=
  ∃ more, after.strokes = before.strokes ++ more ∧ more.Sublist [.upload, .draw]

namespace PaintedOnce

variable {before middle after : Platform}

private theorem of_still (still : after.strokes = before.strokes) : before.PaintedOnce after :=
  ⟨[], by rw [still, List.append_nil], List.nil_sublist _⟩

private theorem of_painted (still : middle.strokes = before.strokes)
    (painted : middle.Painted [.upload, .draw] after) : before.PaintedOnce after := by
  obtain ⟨added, same, -, few⟩ := painted
  refine ⟨added.filterMap Event.stroke?, ?_, few⟩
  rw [strokes, same, List.filterMap_append, ← still]
  rfl

private theorem still_after (painted : before.PaintedOnce middle) (still : after.strokes = middle.strokes) :
    before.PaintedOnce after := by
  unfold PaintedOnce
  rwa [still]

end PaintedOnce
end Platform

theorem ResourceSet.submit_paints (set : ResourceSet) (pixels : Bytes) :
    (set.submit pixels).Paints [.upload, .draw] :=
  .bind (Backend.upload_paints _ _ _) fun _ => Backend.submit_paints _

def Entry.strokes (entry : Entry) : List Stroke :=
  entry.log.filterMap Event.stroke?

variable {ε κ : Type} [Engine ε]

private theorem Session.loadRom_deedless (rom : Rom) :
    (loadRom rom : Act (Session ε) Unit).Emits Event.IsDeedless :=
  .bind (.notify rfl) fun _ => .bind .own fun _ =>
    .bind (.bind (.emit rfl) fun _ => .pure _) fun _ => .bind (.emit rfl) fun _ => .setOwn _

namespace FrameLoop

private theorem loadRom_dormant (rom : Rom) : (loadRom rom : Act (FrameLoop ε) Unit).Emits Event.IsDormant := by
  have told := (Session.loadRom_emits (ε := ε) rom).and (Session.loadRom_deedless rom)
  have restarted (_ : Unit) : (Act.update fun l : FrameLoop ε =>
      { l with state := { generation := l.session.generation } }).Emits Event.IsDormant := .update _
  refine .bind (onSession_emits (told.mono Event.IsDormant.of_deedless)) fun _ =>
    .bind .own fun l => .ite ?_ (restarted ())
  have rebuilt := (Renderer.rebuild_still l.session.dims).mono Event.IsUpkeep.isDormant
  exact .bind (.notify (.of_pacing _ rfl)) fun _ => .bind (onRenderer_emits rebuilt) restarted

/-- A turn of the callback that has the frame. As long as the frame is not given back, it is not
shown. -/
structure ShowsOnce (before after : Scene (FrameLoop ε)) : Prop where
  painted : before.platform.PaintedOnce after.platform
  frames : after.own.state.frames ≤ before.own.state.frames + 1
  unshown : after.own.state.inFlight = true →
    after.own.state.frames = before.own.state.frames ∧
      after.platform.strokes = before.platform.strokes

theorem Advanced.strokes {before after : Scene (FrameLoop ε)} (advanced : Advanced before after) :
    after.platform.strokes = before.platform.strokes :=
  advanced.undrawn.filterMap Event.IsUndrawn.still

/-- However a turn ends, it puts at most one picture on the screen. -/
theorem Ending.painted {host : Host} {before after : Scene (FrameLoop ε)}
    {result : Except Failure Progress} (ending : Ending host before result after) :
    before.platform.PaintedOnce after.platform := by
  cases ending with
  | early advanced _ => exact .of_still advanced.strokes
  | brokenDown undrawn => exact .of_still (undrawn.filterMap Event.IsUndrawn.still)
  | withheld advanced _ => exact .of_still advanced.strokes
  | @refused due set _ last advanced _ ran =>
    exact .of_painted advanced.strokes ((leads_of_error ran).mp (set.submit_paints _ _))
  | @crashed due _ set last advanced _ ran platform =>
    rw [platform]
    exact .of_painted advanced.strokes ((leads_of_error ran).mp (set.submit_paints _ _))
  | @presented due set last _ advanced _ ran =>
    have asked : last.platform.Extends Event.IsDormant (last.platform.record (.frameRequested host)) :=
      .record _ (.of_pacing _ rfl)
    have painted := (leads_of_ok ran).mp (set.submit_paints due.own.screen.pixels _)
    exact (Platform.PaintedOnce.of_painted advanced.strokes painted).still_after asked.strokes

private theorem Ending.showsOnce {host : Host} {before after : Scene (FrameLoop ε)}
    {result : Except Failure Progress} (ending : Ending host before result after)
    (whole : result ≠ .error .crashed) : ShowsOnce before after := by
  have painted := ending.painted
  cases ending with
  | early advanced _ =>
    have frames := congrArg LoopState.frames advanced.state
    exact ⟨painted, Nat.le_succ_of_le (Nat.le_of_eq frames), fun _ => ⟨frames, advanced.strokes⟩⟩
  | brokenDown _ | crashed _ _ _ _ => exact absurd rfl whole
  | withheld advanced _ | refused advanced _ _ =>
    have frames := congrArg LoopState.frames advanced.state
    exact ⟨painted, Nat.le_succ_of_le (Nat.le_of_eq frames), nofun⟩
  | presented advanced _ _ =>
    have frames := congrArg LoopState.frames advanced.state
    exact ⟨painted, Nat.le_of_eq (congrArg Nat.succ frames), nofun⟩

end FrameLoop

namespace Interruption

variable [BEq κ]

private theorem action_dormant (interruption : Interruption κ) :
    (interruption.action : Act (FrameLoop ε) Unit).Emits Event.IsDormant := by
  cases interruption with
  | stop => exact .update fun l => { l with state := { l.state with running := false } }
  | keyDown map key =>
    have told := (Session.keyDown_emits (ε := ε) map key).and (Session.keyDown_deedless map key)
    have pressed := FrameLoop.onSession_emits (told.mono Event.IsDormant.of_deedless)
    exact .bind pressed fun _ => .pure _
  | keyUp map key =>
    have told := (Session.keyUp_emits (ε := ε) map key).and (Session.keyUp_deedless map key)
    have released := FrameLoop.onSession_emits (told.mono Event.IsDormant.of_deedless)
    exact .bind released fun _ => .pure _
  | resize size =>
    have resized := (Renderer.resize_still size).mono Event.IsSetup.isUpkeep
    exact FrameLoop.onRenderer_emits (resized.mono Event.IsUpkeep.isDormant)
  | teardown => exact FrameLoop.onRenderer_emits (Renderer.teardown_still.mono Event.IsUpkeep.isDormant)

/-- A loop that is stopped already keeps its state. -/
private theorem action_of_stopped (interruption : Interruption κ) (scene : Scene (FrameLoop ε))
    (stopped : scene.own.state.running = false) :
    interruption.action.Leads scene (fun _ after => after.own.state = scene.own.state)
      (fun _ after => after.own.state = scene.own.state) := by
  cases interruption with
  | stop =>
    change { scene.own.state with running := false } = scene.own.state
    rw [← stopped]
  | keyDown map key | keyUp map key =>
    unfold action FrameLoop.onSession
    simp only [leads_bind, leads_own, leads_within, leads_pure]
    exact .of_forall (fun _ _ => trivial) fun _ _ => trivial
  | resize size | teardown =>
    unfold action FrameLoop.onRenderer
    simp only [leads_bind, leads_own, leads_within]
    exact .of_forall (fun _ _ => trivial) fun _ _ => trivial

end Interruption

namespace Interplay

def Unloaded (since now : Interplay ε) : Prop :=
  true ∉ now.loads.drop since.loads.length

omit [Engine ε] in
theorem Unloaded.before {since middle last : Interplay ε} (unloaded : since.Unloaded last)
    (remembered : middle.loads <+: last.loads) : since.Unloaded middle := by
  obtain ⟨more, same⟩ := remembered
  intro worked
  refine unloaded ?_
  rw [← same, List.drop_append]
  exact List.mem_append_left _ worked

omit [Engine ε] in
theorem Unloaded.since {since middle last : Interplay ε} (unloaded : since.Unloaded last)
    (longer : since.loads.length ≤ middle.loads.length) : middle.Unloaded last :=
  fun worked => unloaded ((List.drop_sublist_drop_left _ longer).subset worked)

/-- What a move does to a loop that is stopped: nothing much, or it is a turn of the callback that
has the frame, or a load that worked. -/
inductive Winds (before : Scene (Interplay ε)) (caller : Option Nat) :
    Scene (Interplay ε) → Prop
  | idle {after : Scene (Interplay ε)} (begun : after.own.begun = before.own.begun)
      (state : after.own.loop.state = before.own.loop.state)
      (idle : before.platform.Extends Event.IsDormant after.platform) : Winds before caller after
  | turned {after : Scene (Interplay ε)} {member : Suspended}
      (inside : member ∈ before.own.suspended)
      (current : member.callback.generation = before.own.loop.state.generation)
      (called : caller = some member.number) (begun : after.own.begun = before.own.begun)
      (kept : before.own.loop.Kept after.own.loop)
      (shows' : FrameLoop.ShowsOnce ⟨before.own.loop, before.platform⟩
        ⟨after.own.loop, after.platform⟩) : Winds before caller after
  | loaded {after : Scene (Interplay ε)} (worked : after.own.loads = before.own.loads ++ [true]) :
      Winds before caller after

/-- What a move may have done to a loop that is stopped when it breaks down. -/
inductive Breaks (before : Scene (Interplay ε)) (after : Platform) : Prop
  | idle (idle : before.platform.Extends Event.IsDormant after)
  | turned {member : Suspended} (inside : member ∈ before.own.suspended)
      (current : member.callback.generation = before.own.loop.state.generation)
      (painted : before.platform.PaintedOnce after)

variable [BEq κ]

private theorem perform_winds (move : Move κ) {before : Scene (Interplay ε)}
    (stopped : before.own.loop.state.running = false) (dated : before.own.Dated) :
    (perform move).Leads before (fun _ after => Winds before (before.own.caller? move) after)
      fun _ after => Breaks before after.platform := by
  cases move with
  | start host config now =>
    have denied : (before.own.loop.state.running && !before.own.loop.state.inFlight) = false := by
      rw [stopped, Bool.false_and]
    rw [leads_of_ok (perform_start_of_denied before denied host config now)]
    exact .idle rfl rfl (.refl _)
  | resume position =>
    cases found : before.own.suspended[position]? with
    | none =>
      simp only [perform, advance, leads_bind, leads_own, found, leads_pure]
      exact .idle rfl rfl (.refl _)
    | some member =>
      have inside := List.mem_of_getElem? found
      by_cases current : member.callback.generation = before.own.loop.state.generation
      · have called : before.own.caller? (.resume position : Move κ) = some member.number := by
          rw [caller?, found, Option.map_some]
        simp only [perform, advance, leads_bind, leads_own, found, leads_attempt, leads_onLoop,
          leads_update, leads_pure]
        refine ((member.callback.run_turns _).and (Callback.runFor_ends _ member.callback _)).mono ?_ ?_
        · intro progress after both
          obtain ⟨turn, ending⟩ := both
          exact .turned inside current called rfl turn.kept (ending.showsOnce (by simp))
        · intro failure after both
          obtain ⟨outcome, ending⟩ := both
          rcases outcome with rfl | ⟨cause, rfl, turn⟩
          · exact .turned inside current ending.painted
          · exact .turned inside current called rfl turn.kept (ending.showsOnce (by simp))
      · rw [leads_of_ok (resume_of_stale found (dated.counted member inside) current)]
        have noticed := Event.IsDormant.of_pacing (.notice (.frameSuperseded member.callback.generation)) rfl
        exact .idle rfl rfl (.trans (.record _ noticed) (.record _ (.of_pacing _ rfl)))
  | load rom =>
    simp only [perform, leads_bind, leads_attempt, leads_onLoop, leads_update, leads_pure]
    refine ((FrameLoop.loadRom_leads rom _).and (FrameLoop.loadRom_dormant rom _)).mono ?_ ?_
    · exact fun _ _ _ => .loaded rfl
    · intro failure after both
      obtain ⟨⟨_, state, _⟩, idle⟩ := both
      cases failure with
      | crashed => exact .idle idle
      | refused cause => exact .idle rfl state idle
  | interrupt interruption =>
    simp only [perform, leads_bind, leads_attempt, leads_onLoop, leads_pure]
    refine ((interruption.action_of_stopped _ stopped).and (interruption.action_dormant _)).mono ?_ ?_
    · exact fun _ _ both => .idle rfl both.1 both.2
    · intro failure after both
      obtain ⟨state, idle⟩ := both
      cases failure with
      | crashed => exact .idle idle
      | refused cause => exact .idle rfl state idle

/-- However a move ends, no load is forgotten. -/
private theorem perform_remembers (move : Move κ) (scene : Scene (Interplay ε)) :
    (perform move).Leads scene (fun _ after => scene.own.loads <+: after.own.loads)
      fun _ after => scene.own.loads <+: after.own.loads := by
  have advanced (position : Nat) (scene : Scene (Interplay ε)) :
      (advance position).Leads scene (fun _ after => scene.own.loads <+: after.own.loads)
        fun _ after => scene.own.loads <+: after.own.loads := by
    unfold advance
    rw [leads_bind, leads_own]
    cases scene.own.suspended[position]? with
    | none => exact List.prefix_rfl
    | some member =>
      simp only [leads_bind, leads_attempt, leads_onLoop, leads_update, leads_pure]
      refine .of_forall (fun _ _ => List.prefix_rfl) fun failure _ => ?_
      cases failure <;> exact List.prefix_rfl
  cases move with
  | start host config now =>
    simp only [perform, leads_bind, leads_onLoop]
    refine .of_forall (fun begun _ => ?_) fun _ _ => List.prefix_rfl
    cases begun with
    | none => exact List.prefix_rfl
    | some callback =>
      simp only [leads_bind, leads_update]
      exact advanced 0 _
  | resume position => exact advanced position scene
  | load rom =>
    simp only [perform, leads_bind, leads_attempt, leads_onLoop, leads_update, leads_pure]
    refine .of_forall (fun _ _ => List.prefix_append _ _) fun failure _ => ?_
    cases failure with
    | crashed => exact List.prefix_rfl
    | refused cause => exact List.prefix_append _ _
  | interrupt interruption =>
    simp only [perform, leads_bind, leads_attempt, leads_onLoop, leads_pure]
    refine .of_forall (fun _ _ => List.prefix_rfl) fun failure _ => ?_
    cases failure <;> exact List.prefix_rfl

/-- How a loop that was stopped stands after the moves that `past` tells of, none of which loaded a
program. -/
structure Winding (stopped : Scene (Interplay ε)) (past : List Entry) (now : Scene (Interplay ε)) :
    Prop where
  later : stopped.own.Later now.own
  begun : now.own.begun = stopped.own.begun
  running : now.own.loop.state.running = false
  generation : now.own.loop.state.generation = stopped.own.loop.state.generation
  strokes : now.platform.strokes = stopped.platform.strokes ++ past.flatMap Entry.strokes
  few : (past.flatMap Entry.strokes).Sublist [.upload, .draw]
  frames : now.own.loop.state.frames ≤ stopped.own.loop.state.frames + 1
  /-- Whoever has the frame has shown nothing yet. -/
  unshown : now.own.loop.state.inFlight = true →
    now.own.loop.state.frames = stopped.own.loop.state.frames ∧ past.flatMap Entry.strokes = []
  painter : ∀ entry ∈ past, entry.strokes ≠ [] → ∃ member ∈ stopped.own.suspended,
    entry.caller = some member.number ∧
      member.callback.generation = stopped.own.loop.state.generation
  idle : stopped.own.suspended = [] → stopped.platform.Extends Event.IsDormant now.platform

structure Broken (stopped : Scene (Interplay ε)) (after : Platform) : Prop where
  painted : stopped.platform.PaintedOnce after
  idle : stopped.own.suspended = [] → stopped.platform.Extends Event.IsDormant after

namespace Winding

variable {stopped now after : Scene (Interplay ε)} {past : List Entry}

omit [Engine ε] [BEq κ] in
/-- Whoever is suspended was so when the loop was stopped. -/
theorem former (winding : Winding stopped past now) (exclusive : now.own.Exclusive)
    {member : Suspended} (inside : member ∈ now.own.suspended) :
    ∃ former ∈ stopped.own.suspended, former.record = member.record := by
  have bounded := exclusive.paused_bounded inside
  rw [winding.begun] at bounded
  exact (winding.later.members member inside).resolve_left (Nat.not_le_of_lt bounded)

omit [Engine ε] [BEq κ] in
/-- Whoever is of the loop's generation has the frame. -/
theorem unspent (winding : Winding stopped past now) (exclusive : now.own.Exclusive)
    {member : Suspended} (inside : member ∈ now.own.suspended)
    (current : member.callback.generation = now.own.loop.state.generation) :
    now.own.loop.state.frames = stopped.own.loop.state.frames ∧
      past.flatMap Entry.strokes = [] := by
  refine winding.unshown (exclusive.owned.taken.mpr ?_)
  rw [← current]
  exact List.mem_map_of_mem inside

omit [Engine ε] in
theorem start (running : stopped.own.loop.state.running = false) : Winding stopped [] stopped where
  later := .refl _
  begun := rfl
  running
  generation := rfl
  strokes := (List.append_nil _).symm
  few := List.nil_sublist _
  frames := Nat.le_succ _
  unshown _ := ⟨rfl, rfl⟩
  painter := nofun
  idle _ := .refl _

omit [BEq κ] in
theorem entered (winding : Winding stopped past now) (exclusive : now.own.Exclusive)
    (later : now.own.Later after.own) {entry : Entry} (winds : Winds now entry.caller after)
    (log : after.platform.events.toList = now.platform.events.toList ++ entry.log)
    (unloaded : after.own.loads ≠ now.own.loads ++ [true]) :
    Winding stopped (past ++ [entry]) after := by
  have strokes : after.platform.strokes = now.platform.strokes ++ entry.strokes := by
    rw [Platform.strokes, log, List.filterMap_append]
    rfl
  have told : (past ++ [entry]).flatMap Entry.strokes =
      past.flatMap Entry.strokes ++ entry.strokes := by
    rw [List.flatMap_append, List.flatMap_singleton]
  have painted : after.platform.strokes =
      stopped.platform.strokes ++ (past ++ [entry]).flatMap Entry.strokes := by
    rw [strokes, winding.strokes, told, List.append_assoc]
  cases winds with
  | idle begun state idle =>
    have none : entry.strokes = [] := List.append_right_eq_self.mp (strokes.symm.trans idle.strokes)
    rw [none, List.append_nil] at told
    refine ⟨winding.later.trans later, begun.trans winding.begun, ?_, ?_, painted, ?_, ?_, ?_, ?_, ?_⟩
    · rw [state, winding.running]
    · rw [state, winding.generation]
    · rw [told]
      exact winding.few
    · rw [state]
      exact winding.frames
    · rw [state, told]
      exact winding.unshown
    · intro other among showed
      rcases List.mem_append.mp among with earlier | latest
      · exact winding.painter other earlier showed
      · rw [List.mem_singleton.mp latest] at showed
        exact absurd none showed
    · exact fun alone => (winding.idle alone).trans idle
  | turned inside current called begun kept shows' =>
    obtain ⟨frames, unshown⟩ := winding.unspent exclusive inside current
    obtain ⟨former, paused, same⟩ := winding.former exclusive inside
    rw [unshown, List.nil_append] at told
    obtain ⟨more, added, few⟩ := shows'.painted
    obtain rfl : entry.strokes = more := List.append_cancel_left (strokes.symm.trans added)
    refine ⟨winding.later.trans later, begun.trans winding.begun, kept.running.trans winding.running,
      kept.generation.trans winding.generation, painted, ?_, ?_, ?_, ?_, ?_⟩
    · rw [told]
      exact few
    · rw [← frames]
      exact shows'.frames
    · intro taken
      obtain ⟨still, same⟩ := shows'.unshown taken
      rw [told]
      exact ⟨still.trans frames, List.append_right_eq_self.mp (strokes.symm.trans same)⟩
    · intro other among showed
      rcases List.mem_append.mp among with earlier | latest
      · exact winding.painter other earlier showed
      · rw [List.mem_singleton.mp latest]
        refine ⟨former, paused, ?_, ?_⟩
        · rw [called]
          exact congrArg (some ·.number) same.symm
        · exact (congrArg TurnRecord.generation same).trans (current.trans winding.generation)
    · intro alone
      rw [alone] at paused
      cases paused
  | loaded worked => exact absurd worked unloaded

omit [Engine ε] [BEq κ] in
theorem broken (winding : Winding stopped past now) (exclusive : now.own.Exclusive)
    {after : Platform} (breaks : Breaks now after) : Broken stopped after := by
  cases breaks with
  | idle idle =>
    refine ⟨⟨past.flatMap Entry.strokes, ?_, winding.few⟩, fun alone => (winding.idle alone).trans idle⟩
    rw [idle.strokes, winding.strokes]
  | turned inside current painted =>
    obtain ⟨-, unshown⟩ := winding.unspent exclusive inside current
    obtain ⟨former, paused, -⟩ := winding.former exclusive inside
    obtain ⟨more, added, few⟩ := painted
    refine ⟨⟨more, ?_, few⟩, fun alone => ?_⟩
    · rw [added, winding.strokes, unshown, List.append_nil]
    · rw [alone] at paused
      cases paused

end Winding

/-- How a run stands that began in `stopped`, if no load has worked since. -/
structure Wound (stopped : Scene (Interplay ε)) (past : List Entry) (now : Scene (Interplay ε)) :
    Prop where
  exclusive : now.own.Exclusive
  dated : now.own.Dated
  remembered : stopped.own.loads.length ≤ now.own.loads.length
  winding : stopped.own.Unloaded now.own → Winding stopped past now

def BreaksDown (stopped : Scene (Interplay ε)) (failure : Failure) (after : Scene (Interplay ε)) :
    Prop :=
  failure = .crashed ∧ (stopped.own.Unloaded after.own → Broken stopped after.platform)

theorem Wound.enter {stopped now : Scene (Interplay ε)} {past : List Entry}
    (wound : Wound stopped past now) (move : Move κ) :
    (enter move).Leads now (fun entry after => Wound stopped (past ++ [entry]) after)
      (BreaksDown stopped) := by
  have moved := (perform_leads move now).and (perform_remembers move now)
  have kept {entry : Entry} {after : Scene (Interplay ε)} (change : now.own.Change after.own)
      (remembered : now.own.loads <+: after.own.loads)
      (winding : stopped.own.Unloaded after.own → Winding stopped (past ++ [entry]) after) :
      Wound stopped (past ++ [entry]) after :=
    ⟨change.exclusive wound.exclusive, change.dated wound.exclusive wound.dated,
      Nat.le_trans wound.remembered remembered.length_le, winding⟩
  by_cases unloaded : stopped.own.Unloaded now.own
  · have winding := wound.winding unloaded
    have winds := perform_winds move winding.running wound.dated
    refine (enter_leads (moved.and winds)).mono ?_ ?_
    · intro entry after ⟨called, ⟨⟨change, remembered⟩, winds⟩, log⟩
      rw [← called] at winds
      refine kept change remembered fun still => ?_
      refine winding.entered wound.exclusive (change.later wound.exclusive) winds log ?_
      intro worked
      refine still ?_
      rw [worked, List.drop_append_of_le_length wound.remembered]
      exact List.mem_append_right _ List.mem_cons_self
    · intro failure after ⟨⟨crashed, _⟩, breaks⟩
      exact ⟨crashed, fun _ => winding.broken wound.exclusive breaks⟩
  · refine (enter_leads moved).mono ?_ ?_
    · intro entry after ⟨_, ⟨change, remembered⟩, _⟩
      exact kept change remembered fun still => absurd (still.before remembered) unloaded
    · intro failure after ⟨crashed, remembered⟩
      exact ⟨crashed, fun still => absurd (still.before remembered) unloaded⟩

private theorem chronicle_winds {stopped : Scene (Interplay ε)} (exclusive : stopped.own.Exclusive)
    (dated : stopped.own.Dated) (running : stopped.own.loop.state.running = false)
    (moves : List (Move κ)) :
    (chronicle moves).Leads stopped (fun entries after => Wound stopped entries after)
      (BreaksDown stopped) := by
  have start : Wound stopped [] stopped :=
    ⟨exclusive, dated, Nat.le_refl _, fun _ => .start running⟩
  have kept (move : Move κ) (past : List Entry) (scene : Scene (Interplay ε)) (_ : True)
      (wound : Wound stopped past scene) := wound.enter move
  exact chronicle_leads kept moves (fun _ _ => trivial) [] stopped start

/-- What is left of a loop that was stopped, after the moves that `entries` tells of. -/
structure Subsided (κ : Type) [BEq κ] (stopped : Scene (Interplay ε)) (entries : List Entry)
    (after : Scene (Interplay ε)) : Prop where
  /-- A callback that begins is skipped, and nothing at all is changed by it. -/
  skipped : ∀ host config now, perform (.start host config now : Move κ) after =
    .ok (.turned (.ok (.finished .skipped))) after
  few : (entries.flatMap Entry.strokes).Sublist [.upload, .draw]
  /-- What was put on the screen, the callback put there that had the frame when the loop was
  stopped. -/
  painter : ∀ entry ∈ entries, entry.strokes ≠ [] → ∃ member ∈ stopped.own.suspended,
    entry.caller = some member.number ∧
      member.callback.generation = stopped.own.loop.state.generation
  frames : after.own.loop.state.frames ≤ stopped.own.loop.state.frames + 1
  /-- Once no callback is left, no engine is stepped, whatever else happens. -/
  silent : after.own.suspended = [] → ∀ further : List (Move κ), (chronicle further).Leads after
    (fun _ last => stopped.own.Unloaded last.own →
      after.platform.Extends Event.IsStepless last.platform)
    (fun failure last => failure = .crashed ∧ (stopped.own.Unloaded last.own →
      after.platform.Extends Event.IsStepless last.platform))

private theorem Wound.subsided {stopped after : Scene (Interplay ε)} {entries : List Entry}
    (wound : Wound stopped entries after) (unloaded : stopped.own.Unloaded after.own) :
    Subsided κ stopped entries after := by
  have winding := wound.winding unloaded
  refine ⟨?_, winding.few, winding.painter, winding.frames, ?_⟩
  · refine perform_start_of_denied after ?_
    rw [winding.running, Bool.false_and]
  · intro alone further
    refine (chronicle_winds wound.exclusive wound.dated winding.running further).mono ?_ ?_
    · intro _ last later still
      have idle := (later.winding (still.since wound.remembered)).idle alone
      exact idle.mono fun _ idle => idle.stepless
    · intro failure last ⟨crashed, broken⟩
      refine ⟨crashed, fun still => ?_⟩
      exact ((broken (still.since wound.remembered)).idle alone).mono fun _ idle => idle.stepless

/-- However callbacks have begun and been resumed before a loop is stopped, and whatever happens
after that short of a load that works: a callback that begins is skipped without a trace, at most one
picture is uploaded and drawn, by the callback that had the frame, and at most one frame is counted.
Once no callback is left, no engine is asked for a step. -/
theorem stopped_loop_shows_at_most_one_frame (session : Session ε) (renderer : Renderer)
    (platform : Platform) (past : List (Move κ)) :
    (performAll (past ++ [.interrupt .stop])).Leads ⟨.ofSession session renderer, platform⟩
      (fun _ stopped => ∀ moves : List (Move κ), (chronicle moves).Leads stopped
        (fun entries after => stopped.own.Unloaded after.own → Subsided κ stopped entries after)
        (fun failure after => failure = .crashed ∧ (stopped.own.Unloaded after.own →
          stopped.platform.PaintedOnce after.platform)))
      (fun failure _ => failure = .crashed) := by
  have kept (before after : Interplay ε) (good : before.Exclusive ∧ before.Dated)
      (change : before.Change after) : after.Exclusive ∧ after.Dated :=
    ⟨change.exclusive good.1, change.dated good.1 good.2⟩
  have run := performAll_leads kept past ⟨Interplay.ofSession session renderer, platform⟩
    ⟨.ofSession session renderer, .ofSession session renderer⟩
  rw [performAll_append, leads_bind]
  refine run.mono (fun _ before ⟨exclusive, dated⟩ => ?_) fun _ _ crashed => crashed
  intro moves
  have change : before.own.Change { before.own with
      loop := { before.own.loop with state := { before.own.loop.state with running := false } } } :=
    .interrupted ⟨⟨rfl, rfl, rfl⟩, id⟩
  refine (chronicle_winds (change.exclusive exclusive) (change.dated exclusive dated) rfl moves).mono
    (fun _ _ wound => wound.subsided) ?_
  exact fun _ _ down => ⟨down.1, fun unloaded => (down.2 unloaded).painted⟩

end Interplay
end FrameViewer
