import FrameViewer.Proofs.ActionOutcomes

/-! What an action may do to the part of a scene that somebody looks at. Bounds say it of actions that
end with a value and of those that fail; an action keeps to them if the actions do that it is built
from. -/

namespace FrameViewer

/-- An order on what is seen of a scene: an action that ends with a value goes up in it, and one that
fails goes where that failure may lead. -/
structure Bounds (S : Type) where
  done : S → S → Prop
  failed : Failure → S → S → Prop
  /-- What may be reported. -/
  allows : Event → Prop
  refl : ∀ seen, done seen seen
  trans : ∀ {first second third}, done first second → done second third → done first third
  broken : ∀ {failure first second third},
    done first second → failed failure second third → failed failure first third

namespace Bounds

variable {S : Type}

/-- Failures lead where values do. -/
class Steady (bounds : Bounds S) : Prop where
  of_done : ∀ failure {first second}, bounds.done first second → bounds.failed failure first second
  of_failed : ∀ failure {first second}, bounds.failed failure first second → bounds.done first second

/-- What is seen stays as it is. -/
@[reducible] def still : Bounds S where
  done before after := after = before
  failed _ before after := after = before
  allows _ := True
  refl _ := rfl
  trans early late := late.trans early
  broken early late := late.trans early

instance : (still : Bounds S).Steady := ⟨fun _ => id, fun _ => id⟩

/-- What is good stays good, and a failure may leave what is `lost`. -/
@[reducible] def keeping (good : S → Prop) (lost : Failure → S → Prop)
    (allows : Event → Prop) : Bounds S where
  done before after := good before → good after
  failed failure before after := good before → lost failure after
  allows := allows
  refl _ := id
  trans early late := late ∘ early
  broken early late := late ∘ early

/-- All of these bounds at once. -/
@[reducible] def each {ι : Type} (bounds : ι → Bounds S) : Bounds S where
  done before after := ∀ i, (bounds i).done before after
  failed failure before after := ∀ i, (bounds i).failed failure before after
  allows event := ∀ i, (bounds i).allows event
  refl seen i := (bounds i).refl seen
  trans early late i := (bounds i).trans (early i) (late i)
  broken early late i := (bounds i).broken (early i) (late i)

instance (good : S → Prop) (allows : Event → Prop) : (keeping good (fun _ => good) allows).Steady where
  of_done _ := id
  of_failed _ := id

instance {ι : Type} (bounds : ι → Bounds S) [∀ i, (bounds i).Steady] : (each bounds).Steady where
  of_done failure _ _ done i := Steady.of_done failure (done i)
  of_failed failure _ _ failed i := Steady.of_failed failure (failed i)

end Bounds

namespace Act

variable {σ τ α β ι S : Type}

/-- Wherever it begins, the action keeps what is seen of its scene within those bounds. -/
def Respects (view : Scene σ → S) (bounds : Bounds S) (action : Act σ α) : Prop :=
  ∀ scene, action.Leads scene (fun _ after => bounds.done (view scene) (view after))
    fun failure after => bounds.failed failure (view scene) (view after)

/-- Whoever looks does not mind a report of what is allowed. -/
class Hearing (view : Scene σ → S) (bounds : Bounds S) : Prop where
  record : ∀ (scene : Scene σ) {event : Event}, bounds.allows event →
    bounds.done (view scene) (view ⟨scene.own, scene.platform.record event⟩)

namespace Respects

variable {view : Scene σ → S} {bounds : Bounds S} {action : Act σ α}

theorem pure (value : α) : (pure value : Act σ α).Respects view bounds :=
  fun scene => bounds.refl (view scene)

theorem own : (own : Act σ σ).Respects view bounds :=
  fun scene => bounds.refl (view scene)

theorem platform : (platform : Act σ Platform).Respects view bounds :=
  fun scene => bounds.refl (view scene)

theorem updatePlatform {f : Platform → Platform}
    (kept : ∀ scene, bounds.done (view scene) (view ⟨scene.own, f scene.platform⟩)) :
    (updatePlatform f : Act σ Unit).Respects view bounds :=
  kept

theorem change {f : σ → σ}
    (kept : ∀ scene, bounds.done (view scene) (view ⟨f scene.own, scene.platform⟩)) :
    (update f).Respects view bounds :=
  kept

theorem emit [Hearing view bounds] {event : Event} (allowed : bounds.allows event) :
    (emit event : Act σ Unit).Respects view bounds :=
  fun scene => Hearing.record scene allowed

theorem notify [Hearing view bounds] {notice : Notice} (allowed : bounds.allows (.notice notice)) :
    (notify notice : Act σ Unit).Respects view bounds :=
  emit allowed

theorem bind {next : α → Act σ β} (first : action.Respects view bounds)
    (rest : ∀ value, (next value).Respects view bounds) : (action >>= next).Respects view bounds := by
  intro scene
  rw [leads_bind]
  refine (first scene).mono (fun value middle early => ?_) fun _ _ failed => failed
  exact (rest value middle).mono (fun _ _ late => bounds.trans early late) fun _ _ late =>
    bounds.broken early late

theorem ite {condition : Prop} [Decidable condition] {first second : Act σ α}
    (positive : first.Respects view bounds) (negative : second.Respects view bounds) :
    (if condition then first else second).Respects view bounds := by
  split <;> assumption

theorem forM {found : Option α} {next : α → Act σ Unit}
    (each : ∀ value, (next value).Respects view bounds) : (found.forM next).Respects view bounds := by
  cases found with
  | none => exact pure ()
  | some value => exact each value

theorem listForM {next : ι → Act σ Unit} (each : ∀ item, (next item).Respects view bounds)
    (items : List ι) : (items.forM next).Respects view bounds := by
  induction items with
  | nil => exact pure ()
  | cons item rest ih => exact bind (each item) fun _ => ih

theorem listMapM {next : ι → Act σ α} (each : ∀ item, (next item).Respects view bounds)
    (items : List ι) : (items.mapM next).Respects view bounds := by
  induction items with
  | nil => exact pure []
  | cons item rest ih =>
    rw [List.mapM_cons]
    exact bind (each item) fun _ => bind ih fun _ => pure _

section Steady

variable [bounds.Steady]

theorem refuse (cause : RenderError) : (refuse cause : Act σ α).Respects view bounds :=
  fun scene => Bounds.Steady.of_done _ (bounds.refl (view scene))

theorem crash : (crash : Act σ α).Respects view bounds :=
  fun scene => Bounds.Steady.of_done _ (bounds.refl (view scene))

theorem check (result : Except RenderError α) : (check result : Act σ α).Respects view bounds := by
  cases result with
  | ok value => exact pure value
  | error cause => exact refuse cause

theorem checked (value : Option α) : (checked value : Act σ α).Respects view bounds := by
  cases value with
  | some value => exact pure value
  | none => exact crash

theorem settle (result : Except Failure α) : (settle result : Act σ α).Respects view bounds := by
  cases result with
  | ok value => exact pure value
  | error failure => exact fun scene => Bounds.Steady.of_done _ (bounds.refl (view scene))

theorem attempt (respects : action.Respects view bounds) :
    (attempt action).Respects view bounds := by
  intro scene
  rw [leads_attempt]
  refine (respects scene).mono (fun _ _ done => done) fun failure _ failed => ?_
  cases failure with
  | refused cause => exact Bounds.Steady.of_failed _ failed
  | crashed => exact failed

theorem onFailure {undo : Act σ Unit} (respects : action.Respects view bounds)
    (undone : undo.Respects view bounds) : (onFailure action undo).Respects view bounds := by
  intro scene
  rw [leads_onFailure]
  refine (respects scene).mono (fun _ _ done => done) fun failure middle failed => ?_
  have early := Bounds.Steady.of_failed _ failed
  refine (undone middle).mono (fun _ _ late => ?_) fun _ _ late => bounds.broken early late
  exact Bounds.Steady.of_done _ (bounds.trans early late)

end Steady

/-! Where only the platform is looked at, the part of the scene may be anything. -/
section Platform

variable {bounds : Bounds Platform}

theorem setOwn (part : σ) : (setOwn part).Respects Scene.platform bounds :=
  fun scene => bounds.refl scene.platform

theorem update (f : σ → σ) : (update f).Respects Scene.platform bounds :=
  fun scene => bounds.refl scene.platform

theorem within {part : τ} {put : τ → σ} {action : Act τ α}
    (respects : action.Respects Scene.platform bounds) :
    (within part put action).Respects Scene.platform bounds := by
  intro scene
  rw [leads_within]
  exact respects ⟨part, scene.platform⟩

theorem apart [bounds.Steady] {part : τ} {action : Act τ α}
    (respects : action.Respects Scene.platform bounds) :
    (apart part action : Act σ _).Respects Scene.platform bounds := by
  intro scene
  rw [leads_apart]
  exact (respects ⟨part, scene.platform⟩).mono (fun _ _ done => done) fun _ _ failed =>
    Bounds.Steady.of_failed _ failed

end Platform

/-! What is good, action by action. -/
section Keeping

variable {good : S → Prop} {lost : Failure → S → Prop} {allows : Event → Prop} {scene : Scene σ}

theorem leads (respects : action.Respects view (.keeping good lost allows)) (now : good (view scene)) :
    action.Leads scene (fun _ after => good (view after)) fun failure after => lost failure (view after) :=
  (respects scene).mono (fun _ _ kept => kept now) fun _ _ kept => kept now

theorem of_leads (leads : ∀ scene, good (view scene) → action.Leads scene
      (fun _ after => good (view after)) fun failure after => lost failure (view after)) :
    action.Respects view (.keeping good lost allows) := by
  intro scene
  exact leads_forall fun now => leads scene now

end Keeping

end Respects

theorem respects_each {view : Scene σ → S} {bounds : ι → Bounds S} {action : Act σ α} :
    action.Respects view (.each bounds) ↔ ∀ i, action.Respects view (bounds i) := by
  constructor
  · exact fun all i scene => (all scene).mono (fun _ _ done => done i) fun _ _ failed => failed i
  · exact fun each scene => leads_forall fun i => each i scene

/-- Begun where that holds of the part and the platform, the action ends, if with a value, where it
holds again. -/
def Maintains (Good : σ → Platform → Prop) (action : Act σ α) : Prop :=
  action.Respects (fun scene => scene)
    (.keeping (fun scene => Good scene.own scene.platform) (fun _ _ => True) fun _ => False)

namespace Maintains

variable {Good : σ → Platform → Prop} {action : Act σ α}

theorem of_leads (kept : ∀ scene, Good scene.own scene.platform →
      action.Leads scene (fun _ after => Good after.own after.platform) fun _ _ => True) :
    Maintains Good action :=
  Respects.of_leads kept

theorem leads {scene : Scene σ} (maintains : Maintains Good action)
    (good : Good scene.own scene.platform) :
    action.Leads scene (fun _ after => Good after.own after.platform) fun _ _ => True :=
  Respects.leads maintains good

end Maintains

end Act
end FrameViewer
