import FrameViewer.Proofs.LoopInterleaving

/-! A run of an interplay, move by move. An entry tells whose turn a move was, what it came to and
what it left in the report; the entries of a run are its chronicle. -/

namespace FrameViewer
open Act

structure Entry where
  /-- The number of the callback whose turn it was. A callback that is skipped has none. -/
  caller : Option Nat
  answer : Answer
  log : List Event

variable {ε κ : Type} [Engine ε] [BEq κ]

/-- Tells of an engine, or of tiers and their objects. -/
def Event.IsAttended (event : Event) : Prop :=
  event.part = .engine ∨ event.IsRendering

theorem Event.IsAttended.isRoutine (event : Event) (attended : event.IsAttended) :
    event.IsRoutine := by
  rcases attended with part | rendering
  · simp [Event.IsRoutine, part]
  · exact rendering.isRoutine

theorem Interruption.action_emits (interruption : Interruption κ) :
    (interruption.action : Act (FrameLoop ε) Unit).Emits Event.IsAttended := by
  have engine (event : Event) (part : event.part = .engine) : event.IsAttended := .inl part
  have rendering (event : Event) (rendering : event.IsRendering) : event.IsAttended := .inr rendering
  cases interruption with
  | stop => exact .update fun l => { l with state := { l.state with running := false } }
  | keyDown map key =>
    have pressed := (Session.keyDown_emits (ε := ε) map key).mono engine
    exact .bind (FrameLoop.onSession_emits pressed) fun _ => .pure _
  | keyUp map key =>
    have released := (Session.keyUp_emits (ε := ε) map key).mono engine
    exact .bind (FrameLoop.onSession_emits released) fun _ => .pure _
  | resize size =>
    have resized := (Renderer.resize_emits size).mono Event.IsDrawing.isRendering
    exact FrameLoop.onRenderer_emits (resized.mono rendering)
  | teardown => exact FrameLoop.onRenderer_emits (Renderer.teardown_emits.mono rendering)

namespace Interplay

/-- The number of the callback that has its turn in a move. -/
def caller? (p : Interplay ε) : Move κ → Option Nat
  | .start .. => if p.loop.state.running && !p.loop.state.inFlight then some p.begun else none
  | .resume position => p.suspended[position]?.map (·.number)
  | .load _ | .interrupt _ => none

def enter (move : Move κ) : Act (Interplay ε) Entry := do
  let before ← Act.own
  let reported := (← Act.platform).events.size
  let answer ← perform move
  let log := (← Act.platform).events.toList.drop reported
  return { caller := before.caller? move, answer, log }

def chronicle (moves : List (Move κ)) : Act (Interplay ε) (List Entry) :=
  moves.mapM enter

omit [Engine ε] in
private theorem onLoop_emits {α : Type} {kind : Event → Prop} {action : Act (FrameLoop ε) α}
    (emits : action.Emits kind) : (onLoop action).Emits kind :=
  .bind .own fun _ => .within emits

private theorem advance_emits (position : Nat) :
    (advance position : Act (Interplay ε) Answer).Emits Event.IsRoutine := by
  unfold advance
  refine .bind .own fun p => ?_
  cases p.suspended[position]? with
  | none => exact .pure _
  | some member =>
    have turned := onLoop_emits (member.callback.run_emits (ε := ε))
    exact .bind (.attempt turned) fun _ => .bind (.update _) fun _ => .pure _

private theorem perform_emits (move : Move κ) :
    (perform move : Act (Interplay ε) Answer).Emits Event.IsRoutine := by
  cases move with
  | start host config now =>
    have began : (Callback.begin host config now : Act (FrameLoop ε) _).Emits Event.IsRoutine := by
      refine .bind (.bind .own fun _ => .ite (.bind (.update _) fun _ => .pure _) (.pure _)) ?_
      intro begun
      cases begun <;> exact .pure _
    refine .bind (onLoop_emits began) fun begun => ?_
    cases begun with
    | none => exact .pure _
    | some callback => exact .bind (.update _) fun _ => advance_emits 0
  | resume position => exact advance_emits position
  | load rom =>
    exact .bind (.attempt (onLoop_emits (FrameLoop.loadRom_emits rom))) fun _ =>
      .bind (.update _) fun _ => .pure _
  | interrupt interruption =>
    have attended := (interruption.action_emits (ε := ε)).mono Event.IsAttended.isRoutine
    exact .bind (.attempt (onLoop_emits attended)) fun _ => .pure _

/-- An entry holds exactly what the move added to the report. -/
theorem enter_leads {move : Move κ} {scene : Scene (Interplay ε)}
    {done : Answer → Scene (Interplay ε) → Prop} {failed : Failure → Scene (Interplay ε) → Prop}
    (leads : (perform move).Leads scene done failed) :
    (enter move).Leads scene
      (fun entry after => entry.caller = scene.own.caller? move ∧ done entry.answer after ∧
        after.platform.events.toList = scene.platform.events.toList ++ entry.log) failed := by
  unfold enter
  simp only [leads_bind, leads_own, leads_platform, leads_pure]
  refine (leads.and (perform_emits move scene)).mono ?_ fun _ _ both => both.1
  intro answer after ⟨reached, added, grown, _⟩
  refine ⟨trivial, reached, ?_⟩
  rw [grown, ← Array.length_toList, List.drop_left]

/-- What each allowed move keeps, given the entries so far, holds of the whole chronicle. -/
theorem chronicle_leads {allowed : Move κ → Prop} {Good : List Entry → Scene (Interplay ε) → Prop}
    {failed : Failure → Scene (Interplay ε) → Prop}
    (kept : ∀ move past scene, allowed move → Good past scene →
      (enter move).Leads scene (fun entry after => Good (past ++ [entry]) after) failed)
    (moves : List (Move κ)) (each : ∀ move ∈ moves, allowed move) (past : List Entry)
    (scene : Scene (Interplay ε)) (good : Good past scene) :
    (chronicle moves).Leads scene (fun entries after => Good (past ++ entries) after) failed :=
  leads_mapM Good moves (fun move among past scene => kept move past scene (each move among)) past good

end Interplay
end FrameViewer
