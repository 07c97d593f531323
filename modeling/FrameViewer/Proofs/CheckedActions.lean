import FrameViewer.Proofs.CheckedPoints

/-! Actions that make a row of checks on a device that is listened to. What is raised waits for the next
check, which tells the first error that waits; so the first check that finds one is the last that is
made. -/

namespace FrameViewer.Gpu
open Act

variable {τ α β : Type}

/-- A listener takes every error. -/
theorem Hears.unfailing {on : τ → Device → Prop} {points : List String} {action : Act τ α}
    (hears : Hears .listened on points action) {api : Api} {waiting : List DeviceError} {scene : Scene τ}
    (at_ : on scene.own (Regime.listened.device api waiting)) :
    action.Leads scene
      (fun _ after =>
        on after.own (Regime.listened.device api (waiting ++ scene.platform.gpu.due api points)) ∧
        Machine.Used api points scene.platform.gpu after.platform.gpu)
      fun _ _ => False := by
  apply (hears api waiting scene at_).mono
  · exact fun _ _ taken => taken.2
  · intro _ _ ⟨untaken, _⟩
    have taken : (scene.platform.gpu.due api points).all Regime.listened.takes = true :=
      List.all_eq_true.mpr fun _ _ => rfl
    rw [taken] at untaken
    cases untaken

namespace Machine

/-- How a row of checks ends with a failure when these errors wait at its begin: for another reason while
nothing waits, or with the first check that finds an error. -/
inductive Ends (machine : Machine) (api : Api) (waiting : List DeviceError) (checks : List Check)
    (others : Failure → Prop) : Failure → List String → Prop
  | otherwise {failure : Failure} {used : List String} (among : used <+: pointsOf checks)
      (empty : waiting = []) (calm : machine.due api used = []) (other : others failure) :
      Ends machine api waiting checks others failure used
  | told {passed : List Check} {broken : Check} {first : DeviceError}
      (among : passed ++ [broken] <+: checks) (idle : passed ≠ [] → waiting = [])
      (calm : machine.due api (pointsOf passed) = [])
      (raised : (waiting ++ machine.due api (pointsOf (passed ++ [broken]))).head? = some first) :
      Ends machine api waiting checks others (.refused (broken.into first.text))
        (pointsOf (passed ++ [broken]))

namespace Ends

variable {api : Api} {before middle : Machine} {waiting : List DeviceError}
  {checks done more : List Check} {points used rest : List String} {into : String → RenderError}
  {others : Failure → Prop} {failure : Failure}

theorem used_prefix (ends : Ends before api waiting checks others failure used) :
    used <+: pointsOf checks := by
  cases ends with
  | otherwise among => exact among
  | told among =>
    obtain ⟨late, rfl⟩ := among
    rw [pointsOf_append _ late]
    exact List.prefix_append _ _

theorem before_more (ends : Ends before api waiting checks others failure used) (more : List Check) :
    Ends before api waiting (checks ++ more) others failure used := by
  cases ends with
  | otherwise among empty calm other =>
    refine .otherwise ?_ empty calm other
    rw [pointsOf_append]
    exact among.trans (List.prefix_append _ _)
  | told among idle calm raised => exact .told (among.trans (List.prefix_append _ _)) idle calm raised

/-- Checks that found nothing before leave it at that. -/
theorem after (usedDone : Used api (pointsOf done) before middle)
    (calmDone : before.due api (pointsOf done) = [])
    (ends : Ends middle api [] more others failure used) :
    Ends before api [] (done ++ more) others failure (pointsOf done ++ used) := by
  cases ends with
  | otherwise among empty calm other =>
    refine .otherwise ?_ rfl ?_ other
    · rw [pointsOf_append]
      exact (List.prefix_append_right_inj _).mpr among
    · rw [usedDone.due_append, calmDone, calm, List.append_nil]
  | told among idle calm raised =>
    rw [← pointsOf_append, ← List.append_assoc]
    refine .told ?_ (fun _ => rfl) ?_ ?_
    · rw [List.append_assoc]
      exact (List.prefix_append_right_inj done).mpr among
    · rw [pointsOf_append, usedDone.due_append, calmDone, calm, List.append_nil]
    · rw [List.append_assoc, pointsOf_append, usedDone.due_append, calmDone]
      exact raised

/-- What was raised at points of the first check before it is made waits for it. -/
theorem heard (usedPoints : Used api points before middle)
    (ends : Ends middle api (waiting ++ before.due api points) (⟨rest, into⟩ :: checks) others failure used) :
    Ends before api waiting (⟨points ++ rest, into⟩ :: checks) others failure (points ++ used) := by
  cases ends with
  | otherwise among empty calm other =>
    obtain ⟨nothing, quiet⟩ := List.append_eq_nil_iff.mp empty
    refine .otherwise ?_ nothing ?_ other
    · rw [pointsOf, List.flatMap_cons, List.append_assoc]
      exact (List.prefix_append_right_inj points).mpr among
    · rw [usedPoints.due_append, quiet, calm, List.append_nil]
  | @told passed broken first among idle calm raised =>
    have split (more : List Check) : points ++ pointsOf (⟨rest, into⟩ :: more) =
        pointsOf (⟨points ++ rest, into⟩ :: more) := by
      rw [pointsOf, pointsOf, List.flatMap_cons, List.flatMap_cons, List.append_assoc]
    rw [List.append_assoc, ← usedPoints.due_append] at raised
    cases passed with
    | nil =>
      obtain ⟨rfl, _⟩ := List.cons_prefix_cons.mp among
      rw [List.nil_append, split] at raised ⊢
      exact .told (List.prefix_append [_] checks) (absurd rfl) rfl raised
    | cons check passed =>
      obtain ⟨rfl, inside⟩ := List.cons_prefix_cons.mp among
      obtain ⟨nothing, quiet⟩ := List.append_eq_nil_iff.mp (idle (List.cons_ne_nil _ _))
      have still : before.due api (pointsOf (⟨points ++ rest, into⟩ :: passed)) = [] := by
        rw [← split, usedPoints.due_append, quiet, calm, List.append_nil]
      rw [List.cons_append, split] at raised ⊢
      exact .told (List.cons_prefix_cons.mpr ⟨rfl, inside⟩) (fun _ => nothing) still raised

/-- When nothing waits and nothing else is the matter, a check finds the first error. -/
theorem firstBroken (ends : Ends before api [] checks others failure used) (unlike : ¬others failure) :
    ∃ passed broken first, before.FirstBroken api checks passed broken first ∧
      failure = .refused (broken.into first.text) ∧ used = pointsOf (passed ++ [broken]) := by
  cases ends with
  | otherwise among empty calm other => exact absurd other unlike
  | told among idle calm raised => exact ⟨_, _, _, .of_head? among calm raised, rfl, rfl⟩

end Ends
end Machine

/-- With these errors waiting the action makes a row of checks. It works only if nothing waits and all of
them find nothing, and then nothing waits any more, nor when it fails. The part is as in `on` before, as
in `kept` when it works, and as in `lost` when it fails. -/
def Undergoes (on : τ → Device → Prop) (checks : List Check) (waiting : List DeviceError)
    (others : Failure → Prop) (kept : α → τ → Device → Prop) (lost : τ → Device → Prop)
    (action : Act τ α) : Prop :=
  ∀ (api : Api) (scene : Scene τ), on scene.own (Regime.listened.device api waiting) →
    action.Leads scene
      (fun value after => waiting = [] ∧ scene.platform.gpu.due api (pointsOf checks) = [] ∧
        kept value after.own (Regime.listened.device api []) ∧
        Machine.Used api (pointsOf checks) scene.platform.gpu after.platform.gpu)
      (fun failure after => ∃ used, scene.platform.gpu.Ends api waiting checks others failure used ∧
        lost after.own (Regime.listened.device api []) ∧
        Machine.Used api used scene.platform.gpu after.platform.gpu)

namespace Undergoes

variable {on lost : τ → Device → Prop} {checks more : List Check} {waiting : List DeviceError}
  {others : Failure → Prop} {mid : α → τ → Device → Prop} {kept : β → τ → Device → Prop}
  {action : Act τ α}

theorem of_quiet (quiet : Quiet on action) : Undergoes on [] [] others (fun _ => on) lost action := by
  intro api scene at_
  apply (quiet scene).mono
  · exact fun _ after ⟨same, still⟩ => ⟨rfl, rfl, same _ at_, .of_driver_eq still⟩
  · exact fun _ _ impossible => impossible.elim

theorem refuse {cause : RenderError} (allowed : others (.refused cause)) :
    Undergoes on checks [] others kept on (refuse cause : Act τ β) :=
  fun _ scene at_ => ⟨[], .otherwise List.nil_prefix rfl rfl allowed, at_, .refl scene.platform.gpu⟩

theorem crash (allowed : others .crashed) :
    Undergoes on checks [] others kept on (crash : Act τ β) :=
  fun _ scene at_ => ⟨[], .otherwise List.nil_prefix rfl rfl allowed, at_, .refl scene.platform.gpu⟩

/-- What is done after a check begins with nothing waiting. -/
theorem bind (checks : List Check) {next : α → Act τ β}
    (early : Undergoes on checks waiting others mid lost action)
    (rest : ∀ value, Undergoes (mid value) more [] others kept lost (next value)) :
    Undergoes on (checks ++ more) waiting others kept lost (action >>= next) := by
  intro api scene at_
  rw [leads_bind]
  apply (early api scene at_).mono
  · rintro value middle ⟨rfl, calm, now, used⟩
    apply (rest value api middle now).mono
    · intro _ after ⟨_, still, later, usedMore⟩
      rw [pointsOf_append]
      refine ⟨rfl, ?_, later, used.trans usedMore⟩
      rw [used.due_append, calm, still, List.append_nil]
    · intro failure after ⟨part, ends, later, usedMore⟩
      exact ⟨_, ends.after used calm, later, used.trans usedMore⟩
  · intro failure after ⟨part, ends, told⟩
    exact ⟨part, ends.before_more more, told⟩

/-- What is raised before a check is found by it. -/
theorem hear (points : List String) {rest : List String} {into : String → RenderError}
    {next : α → Act τ β} (early : Hears .listened on points action)
    (later : ∀ value waiting,
      Undergoes on (⟨rest, into⟩ :: more) waiting others kept lost (next value)) :
    Undergoes on (⟨points ++ rest, into⟩ :: more) waiting others kept lost (action >>= next) := by
  have split : pointsOf (⟨points ++ rest, into⟩ :: more) = points ++ pointsOf (⟨rest, into⟩ :: more) := by
    rw [pointsOf, pointsOf, List.flatMap_cons, List.flatMap_cons, List.append_assoc]
  intro api scene at_
  rw [leads_bind]
  apply (early.unfailing at_).mono
  · intro value middle ⟨now, used⟩
    apply (later value _ api middle now).mono
    · intro _ last ⟨calm, still, later, usedMore⟩
      obtain ⟨empty, unraised⟩ := List.append_eq_nil_iff.mp calm
      rw [split]
      refine ⟨empty, ?_, later, used.trans usedMore⟩
      rw [used.due_append, unraised, still, List.append_nil]
    · intro failure last ⟨part, ends, later, usedMore⟩
      exact ⟨_, ends.heard used, later, used.trans usedMore⟩
  · exact fun _ _ impossible => impossible.elim

/-- What is undone quietly after a failure leaves the failure as it is. -/
theorem onFailure {undo : Act τ Unit} (undergoes : Undergoes on checks waiting others mid lost action)
    (quiet : Quiet lost undo) : Undergoes on checks waiting others mid lost (onFailure action undo) := by
  intro api scene at_
  rw [leads_onFailure]
  apply (undergoes api scene at_).mono
  · exact fun _ _ done => done
  · intro failure middle ⟨used, ends, now, usedMore⟩
    apply (quiet middle).mono
    · intro _ last ⟨same, still⟩
      exact ⟨used, ends, same _ now, List.append_nil used ▸ usedMore.trans (.of_driver_eq still)⟩
    · exact fun _ _ impossible => impossible.elim

/-- What the part is when it is looked at, it still is for what is done next. -/
theorem own {next : τ → Act τ β}
    (rest : ∀ part device, on part device → Undergoes on checks waiting others kept lost (next part)) :
    Undergoes on checks waiting others kept lost (Act.own >>= next) := by
  intro api scene at_
  rw [leads_bind, leads_own]
  exact rest scene.own _ at_ api scene at_

end Undergoes
end FrameViewer.Gpu
