import FrameViewer.Engine.Scripted
import FrameViewer.Proofs.FrameExclusivity
import FrameViewer.Proofs.TurnReports

/-! Which callbacks notice that a program was loaded. A load that works leaves every older callback
without an engine to step. A load that fails has replaced the engine all the same, but the loop
keeps its generation, and the callbacks that were paused step the new engine. -/

namespace FrameViewer
open Act

variable {ε κ : Type}

namespace Interplay

structure Dated (p : Interplay ε) : Prop where
  current : p.loop.state.generation = p.loop.session.generation ↔ p.loads.getLast? ≠ some false
  bare : p.loads.getLast? = some false → p.loop.renderer.resources = none
  since : ∀ member ∈ p.suspended, member.since ≤ p.loads.length
  fresh : ∀ member ∈ p.suspended, member.callback.generation = p.loop.state.generation ↔
    true ∉ p.loads.drop member.since
  counted : ∀ member ∈ p.suspended, member.callback.ticks < Callback.tickLimit

namespace Dated

variable {p : Interplay ε} {loop : FrameLoop ε}

theorem ofSession (session : Session ε) (renderer : Renderer) :
    (Interplay.ofSession session renderer).Dated :=
  ⟨⟨fun _ => nofun, fun _ => rfl⟩, nofun, nofun, nofun, nofun⟩

theorem withLoop (dated : p.Dated)
    (generation : loop.state.generation = p.loop.state.generation)
    (newest : loop.session.generation = p.loop.session.generation)
    (bare : p.loop.renderer.resources = none → loop.renderer.resources = none) :
    { p with loop }.Dated := by
  refine ⟨?_, fun failed => bare (dated.bare failed), dated.since, ?_, dated.counted⟩
  · rw [generation, newest]
    exact dated.current
  · rw [generation]
    exact dated.fresh

theorem joined (dated : p.Dated) {callback : Callback}
    (generation : callback.generation = p.loop.state.generation) (zero : callback.ticks = 0) :
    (p.joined callback).Dated := by
  refine ⟨dated.current, dated.bare, ?_, ?_, ?_⟩
  · intro entrant member
    rcases List.mem_cons.mp member with rfl | member
    · exact Nat.le_refl _
    · exact dated.since entrant member
  · intro entrant member
    rcases List.mem_cons.mp member with rfl | member
    · simp [Interplay.joined, generation]
    · exact dated.fresh entrant member
  · intro entrant member
    rcases List.mem_cons.mp member with rfl | member
    · simp [zero, Callback.tickLimit, UInt32.size]
    · exact dated.counted entrant member

theorem advanced [Engine ε] {position : Nat} {member : Suspended}
    {outcome : Except RenderError Progress} (dated : p.Dated)
    (found : p.suspended[position]? = some member)
    (turn : member.callback.Turn p.loop outcome loop) :
    ({ p with loop }.advanced position member outcome).Dated := by
  have moved : { p with loop }.Dated :=
    dated.withLoop turn.kept.generation turn.kept.newest turn.bare
  refine ⟨moved.current, moved.bare, ?_, ?_, ?_⟩
  · intro entrant inside
    obtain ⟨former, present, ⟨_, since, _⟩, _⟩ := mem_advanced found turn inside
    rw [← since]
    exact moved.since former present
  · intro entrant inside
    obtain ⟨former, present, ⟨_, since, same⟩, _⟩ := mem_advanced found turn inside
    rw [← since, ← same]
    exact moved.fresh former present
  · intro entrant inside
    obtain ⟨former, present, _, rfl | counted⟩ := mem_advanced found turn inside
    · exact moved.counted former present
    · exact counted

/-- A load that worked is a date that every suspended callback lies before. -/
theorem loaded (dated : p.Dated) (owned : p.loop.Owned p.held)
    (newer : p.loop.session.generation < loop.state.generation)
    (newest : loop.session.generation = loop.state.generation) :
    { p with loop, loads := p.loads ++ [true] }.Dated := by
  refine ⟨?_, ?_, ?_, ?_, dated.counted⟩
  · simp [newest]
  · simp
  · intro entrant member
    have := dated.since entrant member
    simp only [List.length_append]
    omega
  · intro entrant member
    have older : entrant.callback.generation ≤ p.loop.state.generation :=
      owned.bounded _ (List.mem_map.mpr ⟨entrant, member, rfl⟩)
    have behind := owned.behind
    have late := dated.since entrant member
    constructor
    · intro same
      simp only at same
      omega
    · intro absent
      exact absurd (by simp [List.drop_append_of_le_length late]) absent

theorem unloaded (dated : p.Dated) (behind : p.loop.state.generation ≤ p.loop.session.generation)
    (state : loop.state = p.loop.state)
    (newest : p.loop.session.generation < loop.session.generation)
    (bare : loop.renderer.resources = none) :
    { p with loop, loads := p.loads ++ [false] }.Dated := by
  refine ⟨?_, fun _ => bare, ?_, ?_, dated.counted⟩
  · simp only [List.getLast?_concat, ne_eq, not_true_eq_false, iff_false, state]
    omega
  · intro entrant member
    have := dated.since entrant member
    simp only [List.length_append]
    omega
  · intro entrant member
    rw [state, List.drop_append_of_le_length (dated.since entrant member), List.mem_append]
    simpa using dated.fresh entrant member

end Dated

variable [Engine ε]

theorem Change.dated {before after : Interplay ε} (change : before.Change after)
    (exclusive : before.Exclusive) (dated : before.Dated) : after.Dated := by
  have behind := exclusive.owned.behind
  cases change with
  | unchanged => exact dated
  | @started callback now outcome loop free fresh turn =>
    have taken : { before with loop := before.loop.taken now }.Dated := dated.withLoop rfl rfl id
    have first {member : Suspended} {rest : List Suspended} :
        (member :: rest)[0]? = some member := rfl
    exact (taken.joined fresh.1 fresh.2).advanced first turn
  | resumed found turn => exact dated.advanced found turn
  | loaded session state =>
    refine dated.loaded exclusive.owned ?_ ?_
    · rw [state, session]
      exact Nat.lt_succ_self _
    · rw [state]
  | unloaded session state bare =>
    refine dated.unloaded behind state ?_ bare
    rw [session]
    exact Nat.lt_succ_self _
  | interrupted attended => exact dated.withLoop attended.generation attended.newest attended.bare

/-- A callback that is resumed when a load has worked since it began ends without a trace in the
loop. -/
theorem resume_of_stale [BEq κ] {scene : Scene (Interplay ε)} {position : Nat} {member : Suspended}
    (found : scene.own.suspended[position]? = some member)
    (counted : member.callback.ticks < Callback.tickLimit)
    (stale : member.callback.generation ≠ scene.own.loop.state.generation) :
    perform (.resume position : Move κ) scene = .ok (.turned (.ok (.finished .superseded)))
      ⟨scene.own.advanced position member (.ok (.finished .superseded)),
        (scene.platform.record (.notice (.frameSuperseded member.callback.generation))).record
          (.frameRequested member.callback.host)⟩ := by
  have ran := member.callback.run_of_stale ⟨scene.own.loop, scene.platform⟩ counted stale
  apply Leads.eq_ok
  simp only [perform, advance, leads_bind, leads_own, found, leads_attempt, leads_onLoop,
    leads_of_ok ran, leads_update, leads_pure]
  trivial

private theorem resume_grows [BEq κ] {kind : Event → Prop} {base : Platform} {scene : Scene (Interplay ε)}
    {position : Nat} {member : Suspended} (found : scene.own.suspended[position]? = some member)
    (grows : member.callback.run.Grows kind base ⟨scene.own.loop, scene.platform⟩) :
    (perform (.resume position : Move κ)).Grows kind base scene := by
  unfold Grows perform advance
  simp only [leads_bind, leads_own, found, leads_attempt, leads_onLoop, leads_update, leads_pure]
  refine Leads.mono grows (fun _ _ grown => grown) fun failure _ grown => ?_
  cases failure <;> exact grown

/-- The loop and its session are of one generation unless the last load failed. A callback that is
resumed notices the loads since it began exactly when one of them worked: then it ends and leaves
the loop alone. Otherwise it goes on by asking whatever engine the session has by then. After a load
that failed nothing that it does is drawn. -/
theorem callback_stale_iff_load_worked [BEq κ] (session : Session ε) (renderer : Renderer)
    (platform : Platform) (moves : List (Move κ)) :
    (performAll moves).Leads ⟨.ofSession session renderer, platform⟩
      (fun _ after =>
        (after.own.loop.state.generation = after.own.loop.session.generation ↔
          after.own.loads.getLast? ≠ some false) ∧
        ∀ position member, after.own.suspended[position]? = some member →
          (true ∈ after.own.loads.drop member.since →
            perform (.resume position : Move κ) after =
              .ok (.turned (.ok (.finished .superseded)))
                ⟨after.own.advanced position member (.ok (.finished .superseded)),
                  (after.platform.record
                    (.notice (.frameSuperseded member.callback.generation))).record
                      (.frameRequested member.callback.host)⟩) ∧
          (true ∉ after.own.loads.drop member.since →
            (perform (.resume position : Move κ)).Grows Event.IsRoutine
              (after.own.loop.asked after.platform) after) ∧
          (after.own.loads.getLast? = some false →
            (perform (.resume position : Move κ)).Grows Event.IsUndrawn after.platform after))
      (fun failure _ => failure = .crashed) := by
  have kept (before after : Interplay ε) (good : before.Exclusive ∧ before.Dated)
      (change : before.Change after) : after.Exclusive ∧ after.Dated :=
    ⟨change.exclusive good.1, change.dated good.1 good.2⟩
  have run := performAll_leads kept moves ⟨Interplay.ofSession session renderer, platform⟩
    ⟨.ofSession session renderer, .ofSession session renderer⟩
  refine run.mono (fun _ after ⟨_, dated⟩ => ⟨dated.current, ?_⟩) fun _ _ crashed => crashed
  intro position member found
  have present := List.mem_of_getElem? found
  have counted := dated.counted member present
  refine ⟨fun worked => ?_, fun unnoticed => ?_, fun failed => ?_⟩
  · exact resume_of_stale found counted fun same => (dated.fresh member present).mp same worked
  · have current := (dated.fresh member present).mpr unnoticed
    exact resume_grows found (member.callback.run_asks _ counted current)
  · exact resume_grows found (Callback.runFor_of_bare _ member.callback _ (dated.bare failed))

/-- Two engines of different dimensions, and a renderer for the first one whose tier refuses the
second vertex buffer. -/
def narrowing : Act Unit (Interplay ScriptedEngine) := do
  let still (dims : Dims) : EngineScript :=
    { dims, size := dims.area, steps := List.replicate 9 (.tick {}) }
  let session ← Session.create (ScriptedEngine.factory [still ⟨2, 1⟩, still ⟨1, 1⟩])
  let fault : Simulated.Fault :=
    { point := "quad-positions", nth := some 2, cause := .resource "buffer" "out of memory" }
  let renderer ← Renderer.build (.simulated { script := { faults := [fault] } }) session.dims
  return .ofSession session renderer

def playing (beginning : Act Unit (Interplay ε)) (moves : List (Move Unit)) :
    Act Unit (Interplay ε) := do
  let (result, p) ← Act.apart (← beginning) (performAll moves)
  Act.settle result
  return p

/-- A callback pauses, a load fails, and the callback steps the engine of that load. -/
theorem paused_callback_steps_engine_of_failed_load :
    (playing narrowing [.start .display {} (millis 0), .load ⟨"pic", #[]⟩, .resume 0]).Leads ⟨(), {}⟩
      (fun p _ => p.loop.state.generation = 0 ∧ p.loop.session.generation = 1 ∧
        p.loop.session.engine.number = 2 ∧ p.loop.session.engine.ticks = 1)
      (fun _ _ => False) := by
  decide +kernel

end Interplay
end FrameViewer
