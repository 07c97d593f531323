import FrameViewer.Proofs.LastingRenderers
import FrameViewer.Proofs.ObjectLifetimes
import FrameViewer.Proofs.TierNegotiation

/-! A negotiated tier listens to its device, if it has one. Whatever the device raises as the surface
takes another size waits for the next call then, so that a renderer takes on any size. -/

namespace FrameViewer
open Act

variable {σ α : Type}

/-- What the device raises outside a scope is kept. -/
def Gpu.Device.Listens (device : Device) : Prop :=
  ∃ pending, device.listener = .installed pending

private theorem Gpu.Device.deliverAll_listens (due : List DeviceError) {scene : Scene Device}
    (listens : scene.own.Listens) :
    (deliverAll due).Leads scene (fun _ after => after.own.Listens) fun _ _ => False := by
  induction due generalizing scene with
  | nil => exact listens
  | cons e rest ih =>
    obtain ⟨pending, installed⟩ := listens
    simp only [deliverAll_cons, deliver, leads_bind, leads_own]
    cases catchIn e scene.own.scopes with
    | some scopes => exact ih ⟨pending, installed⟩
    | none =>
      rw [installed]
      simp only [leads_bind, leads_notify, leads_setOwn]
      exact ih ⟨_, rfl⟩

def Backend.Listens (backend : Backend) : Prop :=
  ∀ b, backend = .gpu b → b.device.Listens

/-- Every size is taken on. -/
theorem Renderer.resize_listens (size : Dims) {scene : Scene Renderer}
    (listens : scene.own.backend.Listens) :
    (resize size).Leads scene (fun _ after => after.own.backend.Listens) fun _ _ => False := by
  simp only [resize, onBackend, Backend.resize, Backend.run, leads_bind, leads_own, leads_within]
  cases kind : scene.own.backend with
  | null | simulated b =>
    intro other same
    cases same
  | gpu b =>
    simp only [leads_within, Gpu.Backend.resize, Gpu.Backend.onDevice, Gpu.Device.configure,
      Gpu.Device.reach, Gpu.say, leads_bind, leads_own, leads_setOwn, leads_emit, leads_platform,
      leads_updatePlatform]
    apply (Gpu.Device.deliverAll_listens _ (listens b kind)).mono
    · intro _ after heard other same
      cases same
      exact heard
    · exact fun _ _ impossible => impossible

namespace Backend

abbrev StaysOff (action : Act Backend α) : Prop :=
  Preserves (fun backend _ => ∀ b, backend ≠ .gpu b) action

private theorem run_staysOff {simulated : Act Simulated.Backend α} {gpu : Act Gpu.Backend α}
    {otherwise : Act Backend α} (rest : StaysOff otherwise) :
    StaysOff (run simulated gpu otherwise) := by
  refine .of_leads fun scene off => ?_
  simp only [run, leads_bind, leads_own]
  cases kind : scene.own with
  | null => exact rest.leads off
  | gpu b => exact absurd kind (off b)
  | simulated b =>
    rw [leads_within]
    have elsewhere (after : Simulated.Backend) (other : Gpu.Backend) :
        Backend.simulated after ≠ .gpu other := by
      intro same
      cases same
    exact .of_forall (fun _ after => elsewhere after.own) fun _ after => elsewhere after.own

end Backend

namespace ResourceSet

private theorem releaseAll_staysOff (ids : List ResourceId) : Backend.StaysOff (releaseAll ids) :=
  .listForM (fun _ => Backend.run_staysOff (.pure _)) ids

private theorem step_staysOff (created : List ResourceId) {action : Act Backend Nat}
    (stays : Backend.StaysOff action) : Backend.StaysOff (step created action) := by
  refine .onFailure stays (.ite (.bind .own fun _ => ?_) (releaseAll_staysOff _))
  exact .bind (fun _ off => off) fun _ => releaseAll_staysOff _

private theorem build_staysOff (dims : Dims) : Backend.StaysOff (build dims) := by
  have made (created : List ResourceId) {simulated : Act Simulated.Backend Nat}
      {gpu : Act Gpu.Backend Nat} :
      Backend.StaysOff (step created (Backend.run simulated gpu (Act.refuse Backend.absent))) :=
    step_staysOff created (Backend.run_staysOff (.refuse _))
  have buffered (created : List ResourceId) (label : String) (usage : BufferUsage) (contents : Bytes) :
      Backend.StaysOff (step created (buffer label usage contents)) :=
    step_staysOff created (.bind .own fun _ => .bind (.checked _) fun _ => Backend.run_staysOff (.refuse _))
  refine .ite (.refuse _) (.bind .own fun _ => ?_)
  refine .bind (buffered _ _ _ _) fun _ => .bind (buffered _ _ _ _) fun _ => ?_
  refine .bind (buffered _ _ _ _) fun _ => .bind (buffered _ _ _ _) fun _ => ?_
  refine .bind (made _) fun _ => .bind (made _) fun _ => .bind (made _) fun _ => ?_
  exact .bind (fun _ off => off) fun _ => .pure _

end ResourceSet

namespace Probe

/-- What a probe acquires from drivers is as its acquisition starts it. -/
private theorem acquire_starts (probe : Probe) (scene : Scene σ) :
    probe.acquire.Leads scene
      (fun found _ => ∀ b, found.1 = .ok (.gpu b) →
        ∃ tier, probe = .gpu tier ∧ Gpu.Acquire.Started (Gpu.Acquire.kind tier) b)
      fun _ _ => True := by
  cases probe with
  | simulated probe =>
    simp only [acquire, ask, Simulated.Probe.acquire, leads_bind, leads_emit]
    cases (probe.attempts[probe.uses]?).or probe.attempts.getLast? with
    | none =>
      intro b same
      cases same
    | some attempt =>
      cases attempt with
      | fails _ | gives _ =>
        intro b same
        cases same
  | gpu tier =>
    simp only [acquire, ask, leads_bind, leads_attempt]
    apply (Gpu.Acquire.tier_leads tier scene).mono
    · intro b after found other same
      cases same
      exact ⟨tier, rfl, found.2.1⟩
    · intro failure _ _
      cases failure with
      | crashed => trivial
      | refused cause =>
        intro b same
        cases same

/-- A renderer that a probe gives listens. -/
theorem Gives.listens {dims : Dims} {probe next : Probe} {renderer : Renderer} {before after : Scene σ}
    (gives : probe.Gives dims next renderer before after) : renderer.backend.Listens := by
  obtain ⟨acquired, built⟩ := gives
  have starts := (leads_of_ok acquired).mp (probe.acquire_starts before)
  rename_i backend middle
  by_cases on : ∃ b, backend = .gpu b
  · obtain ⟨b, rfl⟩ := on
    obtain ⟨tier, _, started⟩ := starts b rfl
    have booked : Booked ⟨7, {}, middle.platform⟩ [] ⟨.gpu b, middle.platform⟩ :=
      ⟨[], (List.append_nil _).symm, trivial, rfl, Backend.backs_of_live_eq_zero started.live_eq_zero⟩
    have steady := Renderer.build_steady dims (Renderer.steady_of_started started) booked
    obtain ⟨⟨last, same, _, waiting, listened, _⟩, _⟩ := (leads_of_ok built).mp steady
    intro other kind
    cases same.symm.trans kind
    exact ⟨_, congrArg Gpu.Device.listener listened⟩
  · have off (b : Gpu.Backend) : backend ≠ .gpu b := fun same => on ⟨b, same⟩
    have stays : (Renderer.build backend dims).Leads middle
        (fun r _ => ∀ b, r.backend ≠ .gpu b) fun _ _ => True := by
      simp only [Renderer.build, leads_bind, leads_apart, leads_onFailure, leads_settle]
      refine Leads.mono ((ResourceSet.build_staysOff dims).leads off) ?_ ?_
      · exact fun _ _ still => still
      · exact fun _ _ _ => .of_forall (fun _ _ => trivial) fun _ _ => trivial
    exact fun b kind => absurd kind ((leads_of_ok built).mp stays b)

end Probe

/-- A renderer that was won listens. -/
theorem Negotiator.Won.listens {dims : Dims} {before after : Scene Negotiator} {renderer : Renderer}
    (won : Won dims before after) (active : after.own.active = some renderer) :
    renderer.backend.Listens := by
  obtain ⟨_, found, own, _, _⟩ := won
  rw [own] at active
  obtain rfl := Option.some.inj active
  obtain ⟨_, _, gives⟩ := found
  exact gives.listens

end FrameViewer
