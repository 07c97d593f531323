import FrameViewer.Proofs.LastingRenderers
import FrameViewer.Proofs.LoopInterleaving
import FrameViewer.Proofs.ResourceLifecycle

/-! Everything that may be done to a loop and its renderer, the moves of its callbacks among it. What
is said of a renderer and kept by each use of it is kept through all of that. A renderer without
resources stays so until a load or a rebuild works. -/

namespace FrameViewer
open Act

/-- A move, a use of the renderer that the loop has no part in, or a program loaded behind the
loop's back. -/
inductive Handling (κ : Type) where
  | move (move : Move κ)
  | use (use : Renderer.Use)
  | swap (rom : Rom)

def Answer.restores : Answer → Bool
  | loaded (.ok _) => true
  | _ => false

def Renderer.Use.restores : Use → Bool
  | rebuild _ => true
  | _ => false

variable {ε κ α : Type} [Engine ε] [BEq κ]

namespace Interplay

/-- Tells whether there was a load or a rebuild that worked. -/
def handle : Handling κ → Act (Interplay ε) Bool
  | .move move => return (← perform move).restores
  | .use use => do
    let outcome ← Act.attempt (onLoop (FrameLoop.onRenderer use.action))
    return use.restores && outcome.toOption.isSome
  | .swap rom => do
    onLoop (FrameLoop.onSession (Session.loadRom rom))
    return false

def handleAll (handlings : List (Handling κ)) : Act (Interplay ε) Bool := do
  let restored ← handlings.mapM handle
  return restored.any id

end Interplay

/-- What a tier with books on it holds is accounted for, whatever is done with its renderer. -/
theorem Renderer.accounted_lasting {audit : Audit} (room : 7 ≤ audit.most) :
    Renderer.Lasting fun r platform => Accounted audit ⟨r, platform⟩ where
  deaf _ _ _ grown accounted := accounted.unheld (grown.mono fun _ aside held => aside (.inl (.inr held)))
    fun _ backs => backs
  submit pixels := .of_leads fun _ accounted => submit_accounted pixels accounted
  rebuild dims := .of_leads fun _ accounted => rebuild_accounted dims room accounted
  teardown := .of_leads fun _ accounted =>
    (teardown_accounted accounted).mono (fun _ _ torn => torn.1) fun _ _ impossible => impossible.elim

section Lasting

variable {Good : Renderer → Platform → Prop} (lasting : Renderer.Lasting Good)
  (resized : ∀ size, Preserves Good (Renderer.resize size))
include lasting resized

private theorem Interruption.action_bears (interruption : Interruption κ) :
    (interruption.action : Act (FrameLoop ε) Unit).Bears Good (·.renderer) := by
  cases interruption with
  | stop =>
    have stopped : (Act.update fun l : FrameLoop ε =>
        { l with state := { l.state with running := false } }).Bears Good (·.renderer) :=
      .change fun _ good => good
    exact stopped
  | keyDown map key =>
    exact .bind (FrameLoop.onSession_bears lasting (Session.keyDown_emits map key)) fun _ => .pure _
  | keyUp map key =>
    exact .bind (FrameLoop.onSession_bears lasting (Session.keyUp_emits map key)) fun _ => .pure _
  | resize size => exact FrameLoop.onRenderer_bears (resized size)
  | teardown => exact FrameLoop.onRenderer_bears lasting.teardown

omit [Engine ε] [BEq κ] in
private theorem Renderer.Use.action_preserves (use : Renderer.Use) : Preserves Good use.action := by
  cases use with
  | submit pixels => exact lasting.submit pixels
  | rebuild dims => exact lasting.rebuild dims
  | resize size => exact resized size
  | teardown => exact lasting.teardown

namespace Interplay

omit [Engine ε] lasting resized in
theorem onLoop_bears {action : Act (FrameLoop ε) α} (bears : action.Bears Good (·.renderer)) :
    (onLoop action).Bears Good (·.loop.renderer) := by
  refine .of_leads fun scene good => ?_
  rw [leads_onLoop]
  exact Preserves.leads bears good

omit resized in
private theorem advance_bears (position : Nat) :
    (advance position : Act (Interplay ε) Answer).Bears Good (·.loop.renderer) := by
  refine .bind .own fun p => ?_
  cases p.suspended[position]? with
  | none => exact .pure _
  | some member =>
    have turned := onLoop_bears (ε := ε) (Callback.runFor_bears lasting
      (Callback.tickLimit - member.callback.ticks) member.callback)
    exact .bind (.attempt turned) fun _ => .bind (.change fun _ good => good) fun _ => .pure _

private theorem perform_bears (move : Move κ) :
    (perform move : Act (Interplay ε) Answer).Bears Good (·.loop.renderer) := by
  cases move with
  | start host config now =>
    have began : (Callback.begin host config now : Act (FrameLoop ε) _).Bears Good (·.renderer) := by
      refine .bind (.bind .own fun _ => .ite ?_ (.pure _)) fun begun => ?_
      · exact .bind (.change fun _ good => good) fun _ => .pure _
      · cases begun <;> exact .pure _
    refine .bind (onLoop_bears began) fun begun => ?_
    cases begun with
    | none => exact .pure _
    | some callback => exact .bind (.change fun _ good => good) fun _ => advance_bears lasting 0
  | resume position => exact advance_bears lasting position
  | load rom =>
    exact .bind (.attempt (onLoop_bears (FrameLoop.loadRom_bears lasting rom))) fun _ =>
      .bind (.change fun _ good => good) fun _ => .pure _
  | interrupt interruption =>
    exact .bind (.attempt (onLoop_bears (interruption.action_bears lasting resized))) fun _ => .pure _

private theorem handle_bears (handling : Handling κ) :
    (handle handling : Act (Interplay ε) Bool).Bears Good (·.loop.renderer) := by
  cases handling with
  | move move => exact .bind (perform_bears lasting resized move) fun _ => .pure _
  | use use =>
    have used := FrameLoop.onRenderer_bears (ε := ε) (use.action_preserves lasting resized)
    exact .bind (.attempt (onLoop_bears used)) fun _ => .pure _
  | swap rom =>
    have swapped := FrameLoop.onSession_bears lasting (Session.loadRom_emits (ε := ε) rom)
    exact .bind (onLoop_bears swapped) fun _ => .pure _

theorem handleAll_bears (handlings : List (Handling κ)) :
    (handleAll handlings : Act (Interplay ε) Bool).Bears Good (·.loop.renderer) := by
  exact .bind (.listMapM (handle_bears lasting resized) handlings) fun _ => .pure _

end Interplay
end Lasting

private theorem Renderer.Use.action_stays_bare (use : Renderer.Use) (scene : Scene Renderer)
    (bare : scene.own.resources = none) :
    use.action.Leads scene (fun _ after => use.restores = false → after.own.resources = none)
      fun _ after => after.own.resources = none := by
  cases use with
  | submit pixels =>
    exact (Renderer.submit_leads pixels scene).mono (fun _ _ same _ => same.1.trans bare)
      fun _ _ same => same.1.trans bare
  | rebuild dims =>
    exact (Renderer.rebuild_leads dims scene).mono (fun _ _ _ => nofun) fun _ _ bare => bare
  | resize size =>
    exact (Renderer.resize_leads size scene).mono (fun _ _ same _ => same.trans bare)
      fun _ _ same => same.trans bare
  | teardown =>
    exact (Renderer.teardown_leads scene).mono (fun _ _ bare _ => bare) fun _ _ bare => bare

namespace Interplay

/-- Nothing is refused by what is done to a loop: a refusal is an answer. -/
private theorem handle_crashes (handling : Handling κ) (scene : Scene (Interplay ε)) :
    (handle handling).Leads scene (fun _ _ => True) fun failure _ => failure = .crashed := by
  cases handling with
  | move move =>
    simp only [handle, leads_bind, leads_pure]
    exact (perform_leads move scene).mono (fun _ _ _ => trivial) fun _ _ crashed => crashed
  | use use =>
    simp only [handle, leads_bind, leads_attempt, leads_pure]
    refine .of_forall (fun _ _ => trivial) fun failure _ => ?_
    cases failure <;> trivial
  | swap rom =>
    simp only [handle, FrameLoop.onSession, leads_bind, leads_onLoop, leads_own, leads_within, leads_pure]
    exact (Session.loadRom_leads rom _).mono (fun _ _ _ => trivial) fun _ _ impossible => impossible.elim

/-- Without resources a turn makes none. -/
theorem advance_stays_bare (position : Nat) (scene : Scene (Interplay ε))
    (bare : scene.own.loop.renderer.resources = none) :
    (advance position).Leads scene (fun _ after => after.own.loop.renderer.resources = none)
      fun _ _ => True := by
  refine (advance_leads position scene).mono (fun _ after turned => ?_) fun _ _ _ => trivial
  cases found : scene.own.suspended[position]? with
  | none =>
    simp only [found] at turned
    rw [turned]
    exact bare
  | some member =>
    simp only [found] at turned
    obtain ⟨outcome, loop, turn, same⟩ := turned
    rw [same]
    exact turn.bare bare

private theorem perform_stays_bare (move : Move κ) (scene : Scene (Interplay ε))
    (bare : scene.own.loop.renderer.resources = none) :
    (perform move).Leads scene
      (fun answer after => answer.restores = false → after.own.loop.renderer.resources = none)
      fun _ _ => True := by
  cases move with
  | start host config now =>
    simp only [perform, leads_bind, leads_onLoop]
    refine (FrameLoop.begin_leads host config now _).mono ?_ fun _ _ impossible => impossible.elim
    intro begun inner taken
    split at taken
    · obtain ⟨rfl, rfl⟩ := taken
      simp only [leads_bind, leads_update]
      refine (advance_stays_bare 0 _ ?_).mono (fun _ _ bare _ => bare) fun _ _ _ => trivial
      exact bare
    · obtain ⟨rfl, rfl⟩ := taken
      exact fun _ => bare
  | resume position =>
    exact (advance_stays_bare position _ bare).mono (fun _ _ bare _ => bare) fun _ _ _ => trivial
  | load rom =>
    simp only [perform, leads_bind, leads_attempt, leads_onLoop, leads_update, leads_pure]
    refine (FrameLoop.loadRom_leads rom _).mono (fun _ _ _ unrestored => ?_) fun failure _ failed => ?_
    · cases unrestored
    · cases failure with
      | crashed => trivial
      | refused cause => exact fun _ => failed.2.2
  | interrupt interruption =>
    simp only [perform, leads_bind, leads_attempt, leads_onLoop, leads_pure]
    refine (interruption.action_leads _).mono (fun _ _ attended _ => attended.bare bare) ?_
    intro failure _ attended
    cases failure with
    | crashed => trivial
    | refused cause => exact fun _ => attended.bare bare

/-- A renderer without resources has none until a load or a rebuild works. -/
private theorem handle_stays_bare (handling : Handling κ) (scene : Scene (Interplay ε))
    (bare : scene.own.loop.renderer.resources = none) :
    (handle handling).Leads scene
      (fun restored after => restored = false → after.own.loop.renderer.resources = none)
      fun _ _ => True := by
  cases handling with
  | move move =>
    simp only [handle, leads_bind, leads_pure]
    exact perform_stays_bare move scene bare
  | use use =>
    simp only [handle, FrameLoop.onRenderer, leads_bind, leads_attempt, leads_onLoop, leads_own,
      leads_within, leads_pure]
    refine (use.action_stays_bare _ bare).mono (fun _ _ bare => ?_) fun failure _ bare => ?_
    · rw [Except.toOption, Option.isSome_some, Bool.and_true]
      exact bare
    · cases failure with
      | crashed => trivial
      | refused cause => exact fun _ => bare
  | swap rom =>
    simp only [handle, FrameLoop.onSession, leads_bind, leads_onLoop, leads_own, leads_within, leads_pure]
    exact .of_forall (fun _ _ _ => bare) fun _ _ => trivial

theorem handleAll_stays_bare (handlings : List (Handling κ)) (scene : Scene (Interplay ε))
    (bare : scene.own.loop.renderer.resources = none) :
    (handleAll handlings).Leads scene
      (fun restored after => restored = false → after.own.loop.renderer.resources = none)
      fun _ _ => True := by
  rw [handleAll, leads_bind]
  refine leads_mapM (fun restored (after : Scene (Interplay ε)) => restored.any id = false →
    after.own.loop.renderer.resources = none) handlings (fun handling _ past scene still => ?_) []
    fun _ => bare
  by_cases none : past.any id = false
  · refine (handle_stays_bare handling scene (still none)).mono ?_ fun _ _ _ => trivial
    intro restored after bare all
    rw [List.any_append, none, Bool.false_or, List.any_cons, List.any_nil, Bool.or_false] at all
    exact bare all
  · refine .of_forall (fun restored after all => ?_) fun _ _ => trivial
    rw [List.any_append, Bool.or_eq_false_iff] at all
    exact absurd all.1 none

theorem handleAll_crashes (handlings : List (Handling κ)) (scene : Scene (Interplay ε)) :
    (handleAll handlings).Leads scene (fun _ _ => True) fun failure _ => failure = .crashed := by
  rw [handleAll, leads_bind]
  refine Leads.mapM (fun handling scene _ => ?_) handlings trivial
  exact handle_crashes handling scene

end Interplay
end FrameViewer
