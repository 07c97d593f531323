import FrameViewer.Proofs.TierHoldings

/-! The seven objects of a renderer over its whole life. Whatever fails, in whatever order frames
are shown and resources rebuilt, resized and torn down, the tier holds what the renderer owns and
nothing else, and in the end every object has been given back once. -/

namespace FrameViewer
open Act

namespace ResourceSet

variable {audit : Audit} {others : List ResourceId} {scene : Scene Backend}

private theorem releaseAll_leads (ids : List ResourceId) (booked : Booked audit (ids ++ others) scene) :
    (releaseAll ids).Leads scene (fun _ after => Booked audit others after) (fun _ _ => False) := by
  induction ids generalizing scene with
  | nil => exact booked
  | cons rid rest ih =>
    rw [releaseAll_cons, leads_bind]
    refine (Backend.release_removes rid audit _ scene booked List.mem_cons_self).mono ?_ fun _ _ no => no
    intro _ after released
    apply ih
    simpa using released

theorem rollBack_leads (created : List ResourceId) (booked : Booked audit (created ++ others) scene) :
    (rollBack created).Leads scene (fun _ after => Booked audit others after) (fun _ _ => False) := by
  unfold rollBack
  split
  · rw [leads_bind, leads_own, leads_bind, leads_notify]
    exact releaseAll_leads created (booked.unheld (.record _ nofun) fun _ backs => backs)
  · exact releaseAll_leads created booked

/-- A step of a build adds one object to those created before it, or leaves none of them. -/
theorem step_leads {typed : Nat → ResourceId} {action : Act Backend Nat} (adds : Adds id typed action)
    (created : List ResourceId) (room : created.length + others.length < audit.most)
    (booked : Booked audit (created ++ others) scene) :
    (step created action).Leads scene
      (fun number after => Booked audit (typed number :: created ++ others) after)
      (fun _ after => Booked audit others after) := by
  unfold step
  rw [leads_onFailure]
  refine (adds audit (created ++ others) scene booked (by simpa using room)).mono
    (fun _ _ more => more) fun _ after still => ?_
  exact (rollBack_leads created still).mono (fun _ _ gone => gone) fun _ _ impossible => impossible.elim

private theorem step_bind {α : Type} {typed : Nat → ResourceId} {action : Act Backend Nat}
    (adds : Adds id typed action) {next : Nat → Act Backend α} {done : α → Scene Backend → Prop}
    {created : List ResourceId} (room : created.length + others.length < audit.most)
    (booked : Booked audit (created ++ others) scene)
    (rest : ∀ number after, Booked audit (typed number :: created ++ others) after →
      (next number).Leads after done fun _ last => Booked audit others last) :
    (step created action >>= next).Leads scene done fun _ last => Booked audit others last := by
  rw [leads_bind]
  exact (step_leads adds created room booked).mono rest fun _ _ gone => gone

private theorem buffer_adds (label : String) (usage : BufferUsage) (contents : Bytes) :
    Adds id .buffer (buffer label usage contents) := by
  refine .bind .own fun b => .bind ?_ fun size => Backend.createBuffer_adds _
  cases alignUp? contents.size b.alignment with
  | none => exact .crash
  | some size => exact .pure _

/-- A build that works adds the seven objects of its set; one that fails adds none. -/
theorem build_booked (dims : Dims) (room : others.length + 7 ≤ audit.most)
    (booked : Booked audit others scene) :
    (build dims).Leads scene (fun set after => Booked audit (set.ids ++ others) after)
      (fun _ after => Booked audit others after) := by
  unfold build
  split
  · exact booked
  rw [leads_bind, leads_own]
  have size (count : Nat) (few : count < 7) : count + others.length < audit.most := by omega
  refine step_bind (buffer_adds _ _ _) (size 0 (by omega)) booked fun positions scene booked => ?_
  refine step_bind (buffer_adds _ _ _) (size 1 (by omega)) booked fun colors scene booked => ?_
  refine step_bind (buffer_adds _ _ _) (size 2 (by omega)) booked fun indices scene booked => ?_
  refine step_bind (buffer_adds _ _ _) (size 3 (by omega)) booked fun uniforms scene booked => ?_
  refine step_bind (Backend.createTexture_adds _) (size 4 (by omega)) booked
    fun texture scene booked => ?_
  refine step_bind (Backend.createSampler_adds _) (size 5 (by omega)) booked
    fun sampler scene booked => ?_
  refine step_bind (Backend.createPipeline_adds _) (size 6 (by omega)) booked
    fun pipeline scene booked => ?_
  rw [leads_bind, leads_notify, leads_pure]
  exact booked.unheld (.record _ nofun) fun _ backs => backs

end ResourceSet

namespace Renderer

def owned (r : Renderer) : List ResourceId :=
  (r.resources.map ResourceSet.ids).getD []

/-- The tier holds what the renderer owns, and the books say so. -/
def Accounted (audit : Audit) (scene : Scene Renderer) : Prop :=
  Booked audit scene.own.owned ⟨scene.own.backend, scene.platform⟩

variable {audit : Audit} {scene : Scene Renderer} {α : Type}

private theorem onBackend_accounted {action : Act Backend α} (spares : Spares id action)
    (accounted : Accounted audit scene) :
    (onBackend action).Leads scene (fun _ after => Accounted audit after)
      (fun _ after => Accounted audit after) := by
  unfold onBackend
  rw [leads_bind, leads_own, leads_within]
  exact spares.leads ⟨scene.own.backend, scene.platform⟩ accounted

theorem submit_accounted (pixels : Bytes) (accounted : Accounted audit scene) :
    (submit pixels).Leads scene (fun _ after => Accounted audit after)
      (fun _ after => Accounted audit after) := by
  unfold submit
  rw [leads_bind, leads_own]
  cases scene.own.resources with
  | none => exact accounted
  | some set =>
    simp only
    split
    · rw [leads_bind]
      refine (onBackend_accounted (Backend.upload_spares _ _ _) accounted).mono ?_ fun _ _ still => still
      exact fun _ after still => onBackend_accounted (Backend.submit_spares _) still
    · exact accounted

theorem resize_accounted (size : Dims) (accounted : Accounted audit scene) :
    (resize size).Leads scene (fun _ after => Accounted audit after)
      (fun _ after => Accounted audit after) :=
  onBackend_accounted (Backend.resize_spares size) accounted

theorem teardown_accounted (accounted : Accounted audit scene) :
    teardown.Leads scene (fun _ after => Accounted audit after ∧ after.own.resources = none)
      (fun _ _ => False) := by
  unfold teardown
  rw [leads_bind, leads_own]
  cases built : scene.own.resources with
  | none => exact ⟨accounted, built⟩
  | some set =>
    have listed : Booked audit (set.ids ++ []) ⟨scene.own.backend, scene.platform⟩ := by
      rw [List.append_nil]
      simpa [Accounted, owned, built] using accounted
    simp only [onBackend, leads_bind, leads_setOwn, leads_own, leads_within]
    exact (ResourceSet.releaseAll_leads set.ids listed).mono (fun _ _ empty => ⟨empty, trivial⟩)
      fun _ _ impossible => impossible

theorem rebuild_accounted (dims : Dims) (room : 7 ≤ audit.most) (accounted : Accounted audit scene) :
    (rebuild dims).Leads scene (fun _ after => Accounted audit after)
      (fun _ after => Accounted audit after) := by
  unfold rebuild
  rw [leads_bind]
  refine (teardown_accounted accounted).mono ?_ fun _ _ impossible => impossible.elim
  intro _ torn ⟨still, bare⟩
  have empty : Booked audit [] ⟨torn.own.backend, torn.platform⟩ := by
    simpa [Accounted, owned, bare] using still
  simp only [onBackend, leads_bind, leads_own, leads_within, leads_update]
  refine (ResourceSet.build_booked dims (by simpa using room) empty).mono ?_ ?_
  · intro set after built
    rw [List.append_nil] at built
    exact built
  · intro _ after still
    simpa [Accounted, owned, bare] using still

theorem close_accounted (accounted : Accounted audit scene) :
    close.Leads scene (fun _ after => Booked audit [] ⟨after.own.backend, after.platform⟩)
      (fun _ after => Booked audit [] ⟨after.own.backend, after.platform⟩) := by
  unfold close
  rw [leads_bind]
  refine (teardown_accounted accounted).mono ?_ fun _ _ impossible => impossible.elim
  intro _ torn ⟨still, bare⟩
  have empty : Booked audit [] ⟨torn.own.backend, torn.platform⟩ := by
    simpa [Accounted, owned, bare] using still
  simp only [onBackend, leads_bind, leads_own, leads_within]
  exact Backend.drop_spares.leads _ empty

/-- A fresh tier without objects is taken over with the seven objects it is given, or dropped
without any. -/
theorem build_accounted {σ : Type} {backend : Backend} {dims : Dims} {scene : Scene σ}
    (room : 7 ≤ audit.most) (empty : Booked audit [] ⟨backend, scene.platform⟩) :
    (build backend dims).Leads scene
      (fun r after => Accounted audit ⟨r, after.platform⟩)
      (fun _ after => ∃ dropped, Booked audit [] ⟨dropped, after.platform⟩) := by
  unfold build
  simp only [leads_bind, leads_apart, leads_onFailure, leads_settle]
  refine (ResourceSet.build_booked dims (by simpa using room) empty).mono ?_ ?_
  · intro set after built
    rw [List.append_nil] at built
    exact built
  · intro _ after still
    exact Leads.mono (Backend.drop_spares.leads after still) (fun _ last gone => ⟨last.own, gone⟩)
      fun _ last gone => ⟨last.own, gone⟩

inductive Use where
  | submit (pixels : Bytes)
  | rebuild (dims : Dims)
  | resize (size : Dims)
  | teardown

def Use.action : Use → Act Renderer Unit
  | submit pixels => Renderer.submit pixels
  | rebuild dims => Renderer.rebuild dims
  | resize size => Renderer.resize size
  | teardown => Renderer.teardown

/-- Whether one use works does not keep the next ones from being made. -/
def useAll (uses : List Use) : Act Renderer Unit :=
  uses.forM fun use => do
    let _ ← Act.attempt use.action

private theorem Use.action_accounted (use : Use) (room : 7 ≤ audit.most) (accounted : Accounted audit scene) :
    use.action.Leads scene (fun _ after => Accounted audit after)
      (fun _ after => Accounted audit after) := by
  cases use with
  | submit pixels => exact submit_accounted pixels accounted
  | rebuild dims => exact rebuild_accounted dims room accounted
  | resize size => exact resize_accounted size accounted
  | teardown =>
    exact (teardown_accounted accounted).mono (fun _ _ torn => torn.1) fun _ _ impossible =>
      impossible.elim

theorem useAll_accounted (uses : List Use) (room : 7 ≤ audit.most) (accounted : Accounted audit scene) :
    (useAll uses).Leads scene (fun _ after => Accounted audit after)
      (fun _ after => Accounted audit after) := by
  refine Leads.forM (fun use scene accounted => ?_) uses accounted
  rw [leads_bind, leads_attempt]
  refine (use.action_accounted room accounted).mono (fun _ _ still => still) ?_
  intro failure after still
  cases failure with
  | refused cause => exact still
  | crashed => exact still

/-- Since the report `base` at most seven objects were live at any instant, no number was handed out
twice, none was taken back that was not live, and now those of `live` are. -/
def Orderly (base platform : Platform) (live : List ResourceId) : Prop :=
  ∃ log, platform.events.toList = base.events.toList ++ log ∧
    (∀ early later, log = early ++ later → (Books.read {} early).live.length ≤ 7) ∧
    Books.Audited 7 {} log ∧ (Books.read {} log).live = live

/-- Besides, every number that was handed out has been taken back exactly once. -/
def Settled (base platform : Platform) : Prop :=
  ∃ log, platform.events.toList = base.events.toList ++ log ∧
    (∀ early later, log = early ++ later → (Books.read {} early).live.length ≤ 7) ∧
    Books.Audited 7 {} log ∧ (Books.read {} log).live = [] ∧
    ∀ id ∈ (Books.read {} log).handed, (Books.returned log).count id = 1

variable {base : Platform} {live : List ResourceId} {backend : Backend} {platform : Platform}

theorem Orderly.of_booked (booked : Booked ⟨7, {}, base⟩ live ⟨backend, platform⟩) :
    Orderly base platform live ∧ backend.Holds live := by
  obtain ⟨log, same, audited, held, backs⟩ := booked
  refine ⟨⟨log, same, ?_, audited, held⟩, held ▸ backs.holds⟩
  rintro early later rfl
  exact (Books.audited_append.mp audited).1.length_le (Nat.zero_le _)

/-- When no object is live any more, each was given back as often as it was handed out. -/
theorem Orderly.settled (orderly : Orderly base platform []) : Settled base platform := by
  obtain ⟨log, same, few, audited, empty⟩ := orderly
  refine ⟨log, same, few, audited, empty, fun rid member => ?_⟩
  have once := List.count_eq_one_of_mem (audited.nodup .nil) member
  have balance := audited.count_eq rid
  simp only [empty, List.count_nil] at balance
  omega

/-- How a renderer stands between two uses: its tier holds what it owns, the report is in order, and
its end leaves no object behind. -/
def Tended (base : Platform) (scene : Scene Renderer) : Prop :=
  scene.own.backend.Holds scene.own.owned ∧ Orderly base scene.platform scene.own.owned ∧
    close.Leads scene
      (fun _ ended => ended.own.backend.Holds [] ∧ Settled base ended.platform)
      (fun _ ended => ended.own.backend.Holds [] ∧ Settled base ended.platform)

theorem Accounted.tended (accounted : Accounted ⟨7, {}, base⟩ scene) : Tended base scene := by
  have ends {last : Scene Backend} (booked : Booked ⟨7, {}, base⟩ [] last) :
      last.own.Holds [] ∧ Settled base last.platform :=
    ⟨(Orderly.of_booked booked).2, (Orderly.of_booked booked).1.settled⟩
  obtain ⟨orderly, holds⟩ := Orderly.of_booked accounted
  exact ⟨holds, orderly,
    (close_accounted accounted).mono (fun _ _ gone => ends gone) fun _ _ gone => ends gone⟩

/-- Whatever fails, and whatever is done with a renderer that was built on a tier without objects:
the live objects of its tier are at any time those that it owns, never are more than seven live, and
when it ends each number it ever had has been given back exactly once, and while it was live. A
build that fails has given back all that it made. -/
theorem objects_live_while_owned (backend : Backend) (empty : backend.live = 0) (dims : Dims)
    (uses : List Use) (platform : Platform) :
    (build backend dims : Act Unit Renderer).Leads ⟨(), platform⟩
      (fun r built => (useAll uses).Leads ⟨r, built.platform⟩
        (fun _ last => Tended platform last) (fun _ last => Tended platform last))
      (fun _ after => Settled platform after.platform) := by
  have start : Booked ⟨7, {}, platform⟩ [] ⟨backend, platform⟩ :=
    ⟨[], (List.append_nil _).symm, trivial, rfl, Backend.backs_of_live_eq_zero empty⟩
  refine (build_accounted (Nat.le_refl 7) start).mono ?_ ?_
  · intro r built accounted
    exact (useAll_accounted uses (Nat.le_refl 7) accounted).mono (fun _ _ still => still.tended)
      fun _ _ still => still.tended
  · intro _ after ⟨dropped, gone⟩
    exact (Orderly.of_booked gone).1.settled

@[irreducible] def faultyTier : Backend :=
  .simulated { script := { faults :=
    [⟨"quad-colors", some 2, .resource "buffer" "out of memory"⟩, ⟨"upload", some 1, .lost "gone"⟩] } }

def hardLife : List Use :=
  [.rebuild ⟨4, 2⟩, .rebuild ⟨2, 1⟩, .submit #[0, 1], .teardown, .resize ⟨9, 9⟩]

theorem objects_live_while_owned_on_faulty_tier :
    faultyTier.live = 0 ∧
      (build faultyTier ⟨2, 1⟩ : Act Unit Renderer).Leads ⟨(), {}⟩
        (fun r built => (useAll hardLife).Leads ⟨r, built.platform⟩
          (fun _ last => Tended {} last) (fun _ last => Tended {} last))
        (fun _ after => Settled {} after.platform) := by
  have bare : faultyTier.live = 0 := by
    unfold faultyTier
    rfl
  have tended := objects_live_while_owned faultyTier bare ⟨2, 1⟩ hardLife {}
  exact ⟨bare, tended⟩

end Renderer
end FrameViewer
