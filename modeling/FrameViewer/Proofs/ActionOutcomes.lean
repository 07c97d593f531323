import FrameViewer.Platform

/-! Where an action can lead. Each rule says it of an action built from smaller ones in terms of
those, so that a proof follows an action as it runs. -/

namespace FrameViewer.Act

variable {σ τ α β : Type}

/-- Begun in `scene`, the action ends with a value as `done` says or with a failure as `failed`
says. -/
def Leads (action : Act σ α) (scene : Scene σ) (done : α → Scene σ → Prop)
    (failed : Failure → Scene σ → Prop) : Prop :=
  match action scene with
  | .ok value after => done value after
  | .error failure after => failed failure after

variable {scene : Scene σ} {failed : Failure → Scene σ → Prop}

instance {action : Act σ α} {done : α → Scene σ → Prop} [∀ value after, Decidable (done value after)]
    [∀ failure after, Decidable (failed failure after)] :
    Decidable (action.Leads scene done failed) :=
  match ran : action scene with
  | .ok value after => decidable_of_iff (done value after) (by simp only [Leads, ran])
  | .error failure after => decidable_of_iff (failed failure after) (by simp only [Leads, ran])

theorem Leads.mono {action : Act σ α} {done weaker : α → Scene σ → Prop}
    {other : Failure → Scene σ → Prop} (leads : action.Leads scene done failed)
    (value : ∀ value after, done value after → weaker value after)
    (failure : ∀ failure after, failed failure after → other failure after) :
    action.Leads scene weaker other := by
  unfold Leads at leads ⊢
  cases ran : action scene with
  | ok result after => exact value result after (by simpa only [ran] using leads)
  | error cause after => exact failure cause after (by simpa only [ran] using leads)

theorem Leads.of_forall {action : Act σ α} {done : α → Scene σ → Prop}
    (value : ∀ value after, done value after) (failure : ∀ failure after, failed failure after) :
    action.Leads scene done failed := by
  unfold Leads
  cases action scene with
  | ok result after => exact value result after
  | error cause after => exact failure cause after

theorem Leads.and {action : Act σ α} {done second : α → Scene σ → Prop}
    {other : Failure → Scene σ → Prop} (left : action.Leads scene done failed)
    (right : action.Leads scene second other) :
    action.Leads scene (fun value after => done value after ∧ second value after)
      (fun failure after => failed failure after ∧ other failure after) := by
  unfold Leads at left right ⊢
  cases ran : action scene <;> simp only [ran] at left right <;> exact ⟨left, right⟩

/-- An action that can lead to one end only ends there. -/
theorem Leads.eq_ok {action : Act σ α} {value : α} {last : Scene σ}
    (leads : action.Leads scene (fun found after => found = value ∧ after = last)
      fun _ _ => False) : action scene = .ok value last := by
  unfold Leads at leads
  cases ran : action scene with
  | ok found after =>
    rw [ran] at leads
    obtain ⟨rfl, rfl⟩ := leads
    rfl
  | error failure after =>
    rw [ran] at leads
    exact leads.elim

theorem bind_of_ok {action : Act σ α} {next : α → Act σ β} {value : α} {after : Scene σ}
    (ran : action scene = .ok value after) : (action >>= next) scene = next value after := by
  simp only [bind, EStateM.bind, ran]

theorem bind_of_error {action : Act σ α} {next : α → Act σ β} {failure : Failure} {after : Scene σ}
    (ran : action scene = .error failure after) : (action >>= next) scene = .error failure after := by
  simp only [bind, EStateM.bind, ran]

theorem leads_ran (action : Act σ α) (scene : Scene σ) :
    action.Leads scene (fun value after => action scene = .ok value after)
      fun failure after => action scene = .error failure after := by
  unfold Leads
  cases action scene with
  | ok value after => rfl
  | error failure after => rfl

theorem leads_of_error {action : Act σ α} {done : α → Scene σ → Prop} {failure : Failure}
    {after : Scene σ} (ran : action scene = .error failure after) :
    action.Leads scene done failed ↔ failed failure after := by
  simp only [Leads, ran]

theorem leads_of_ok {action : Act σ α} {done : α → Scene σ → Prop} {value : α} {after : Scene σ}
    (ran : action scene = .ok value after) :
    action.Leads scene done failed ↔ done value after := by
  simp only [Leads, ran]

/-- What holds of the end for each `i` by itself holds for all of them: it is one end. -/
theorem leads_forall {ι : Sort _} {action : Act σ α} {done : ι → α → Scene σ → Prop}
    {failed : ι → Failure → Scene σ → Prop} (each : ∀ i, action.Leads scene (done i) (failed i)) :
    action.Leads scene (fun value after => ∀ i, done i value after)
      fun failure after => ∀ i, failed i failure after := by
  apply (leads_ran action scene).mono
  · exact fun _ _ ran i => (leads_of_ok ran).mp (each i)
  · exact fun _ _ ran i => (leads_of_error ran).mp (each i)

section Rules

variable {done : α → Scene σ → Prop}

@[simp] theorem leads_pure (value : α) :
    (pure value : Act σ α).Leads scene done failed = done value scene :=
  rfl

@[simp] theorem leads_bind (action : Act σ β) (next : β → Act σ α) :
    (action >>= next).Leads scene done failed =
      action.Leads scene (fun value after => (next value).Leads after done failed) failed := by
  unfold Leads
  simp only [bind, EStateM.bind]
  cases action scene <;> rfl

theorem Leads.bind {action : Act σ β} {next : β → Act σ α} {mid : β → Scene σ → Prop}
    (early : action.Leads scene mid failed)
    (rest : ∀ value after, mid value after → (next value).Leads after done failed) :
    (action >>= next).Leads scene done failed := by
  rw [leads_bind]
  exact early.mono rest fun _ _ failed => failed

@[simp] theorem leads_own {done : σ → Scene σ → Prop} :
    own.Leads scene done failed = done scene.own scene :=
  rfl

@[simp] theorem leads_platform {done : Platform → Scene σ → Prop} :
    platform.Leads scene done failed = done scene.platform scene :=
  rfl

@[simp] theorem leads_setOwn {done : Unit → Scene σ → Prop} (part : σ) :
    (setOwn part).Leads scene done failed = done () ⟨part, scene.platform⟩ :=
  rfl

@[simp] theorem leads_update {done : Unit → Scene σ → Prop} (f : σ → σ) :
    (update f).Leads scene done failed = done () ⟨f scene.own, scene.platform⟩ :=
  rfl

@[simp] theorem leads_updatePlatform {done : Unit → Scene σ → Prop} (f : Platform → Platform) :
    (updatePlatform f).Leads scene done failed = done () ⟨scene.own, f scene.platform⟩ :=
  rfl

@[simp] theorem leads_emit {done : Unit → Scene σ → Prop} (event : Event) :
    (emit event).Leads scene done failed = done () ⟨scene.own, scene.platform.record event⟩ :=
  rfl

@[simp] theorem leads_notify {done : Unit → Scene σ → Prop} (notice : Notice) :
    (notify notice).Leads scene done failed =
      done () ⟨scene.own, scene.platform.record (.notice notice)⟩ :=
  rfl

@[simp] theorem leads_refuse (cause : RenderError) :
    (refuse cause : Act σ α).Leads scene done failed = failed (.refused cause) scene :=
  rfl

@[simp] theorem leads_crash :
    (crash : Act σ α).Leads scene done failed = failed .crashed scene :=
  rfl

theorem leads_ite (condition : Prop) [Decidable condition] (first second : Act σ α) :
    (if condition then first else second).Leads scene done failed =
      if condition then first.Leads scene done failed else second.Leads scene done failed := by
  split <;> rfl

theorem leads_check (result : Except RenderError α) :
    (check result : Act σ α).Leads scene done failed ↔
      match result with
      | .ok value => done value scene
      | .error cause => failed (.refused cause) scene := by
  cases result <;> rfl

theorem leads_checked (value : Option α) :
    (checked value : Act σ α).Leads scene done failed ↔
      match value with
      | some value => done value scene
      | none => failed .crashed scene := by
  cases value <;> rfl

@[simp] theorem leads_attempt {action : Act σ α} {done : Except RenderError α → Scene σ → Prop} :
    (attempt action).Leads scene done failed =
      action.Leads scene (fun value after => done (.ok value) after) fun failure after =>
        match failure with
        | .refused cause => done (.error cause) after
        | .crashed => failed .crashed after := by
  unfold Leads attempt
  cases action scene with
  | ok value after => rfl
  | error failure after => cases failure <;> rfl

@[simp] theorem leads_onFailure (action : Act σ α) (undo : Act σ Unit) :
    (onFailure action undo).Leads scene done failed =
      action.Leads scene done fun failure after =>
        undo.Leads after (fun _ last => failed failure last) failed := by
  unfold Leads onFailure
  cases action scene with
  | ok value after => rfl
  | error failure after => simp only; cases undo after <;> rfl

@[simp] theorem leads_within (part : τ) (put : τ → σ) (action : Act τ α) :
    (within part put action).Leads scene done failed =
      action.Leads ⟨part, scene.platform⟩
        (fun value inner => done value ⟨put inner.own, inner.platform⟩)
        (fun failure inner => failed failure ⟨put inner.own, inner.platform⟩) := by
  unfold Leads within
  cases action ⟨part, scene.platform⟩ <;> rfl

@[simp] theorem leads_apart {done : Except Failure α × τ → Scene σ → Prop} (part : τ)
    (action : Act τ α) :
    (apart part action).Leads scene done failed =
      action.Leads ⟨part, scene.platform⟩
        (fun value inner => done (.ok value, inner.own) ⟨scene.own, inner.platform⟩)
        (fun failure inner => done (.error failure, inner.own) ⟨scene.own, inner.platform⟩) := by
  unfold Leads apart
  cases action ⟨part, scene.platform⟩ <;> rfl

theorem leads_settle (result : Except Failure α) :
    (settle result : Act σ α).Leads scene done failed ↔
      match result with
      | .ok value => done value scene
      | .error failure => failed failure scene := by
  cases result <;> rfl

end Rules

section Runs

variable {ι : Type}

/-- What every action of a run keeps, told which are still to come, holds in the end. -/
theorem leads_forM {action : ι → Act σ Unit} (Good : List ι → Scene σ → Prop)
    (kept : ∀ item rest scene, Good (item :: rest) scene →
      (action item).Leads scene (fun _ after => Good rest after) failed)
    (items : List ι) (good : Good items scene) :
    (items.forM action).Leads scene (fun _ after => Good [] after) failed := by
  induction items generalizing scene with
  | nil => exact good
  | cons item rest ih => exact (kept item rest scene good).bind fun _ _ still => ih still

theorem Leads.forM {action : ι → Act σ Unit} {Good : Scene σ → Prop}
    (kept : ∀ item scene, Good scene → (action item).Leads scene (fun _ after => Good after) failed)
    (items : List ι) (good : Good scene) :
    (items.forM action).Leads scene (fun _ after => Good after) failed :=
  leads_forM (fun _ => Good) (fun item _ => kept item) items good

/-- What every action of a run keeps, told what came of the earlier ones, holds in the end. -/
theorem leads_mapM {action : ι → Act σ α} (Good : List α → Scene σ → Prop) (items : List ι)
    (kept : ∀ item ∈ items, ∀ past scene, Good past scene →
      (action item).Leads scene (fun value after => Good (past ++ [value]) after) failed)
    (past : List α) (good : Good past scene) :
    (items.mapM action).Leads scene (fun values after => Good (past ++ values) after) failed := by
  induction items generalizing past scene with
  | nil => simpa [leads_pure] using good
  | cons item rest ih =>
    rw [List.forall_mem_cons] at kept
    rw [List.mapM_cons]
    refine (kept.1 past scene good).bind fun value after still => ?_
    refine (ih kept.2 (past ++ [value]) still).bind fun values last still => ?_
    rw [List.append_assoc] at still
    exact still

theorem Leads.mapM {action : ι → Act σ α} {Good : Scene σ → Prop}
    (kept : ∀ item scene, Good scene → (action item).Leads scene (fun _ after => Good after) failed)
    (items : List ι) (good : Good scene) :
    (items.mapM action).Leads scene (fun _ after => Good after) failed :=
  leads_mapM (fun _ => Good) items (fun item _ _ => kept item) [] good

end Runs

end FrameViewer.Act
