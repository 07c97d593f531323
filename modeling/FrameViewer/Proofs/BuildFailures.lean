import FrameViewer.Proofs.FreedMemory

/-! Builds that fail on a tier that listens to its device. The failure names the step that the first
error was raised at, no check comes after the one that found it, and the tier is as it was before. -/

namespace FrameViewer.ResourceSet
open Act
open Gpu (Api Machine Regime pointsOf)

structure Faultless (api : Api) (b : Gpu.Backend) (platform : Platform) (dims : Dims)
    (after : Scene Backend) : Prop where
  drawn : dims.isEmpty = false
  calm : platform.gpu.due api (pointsOf (buildChecks b.tier)) = []
  used : Machine.Used api (pointsOf (buildChecks b.tier)) platform.gpu after.platform.gpu

/-- The first error was told as the check that found it tells it, and no point was used after those
of that check. What was registered was destroyed, and the tier is as before. -/
structure Unbuilt (api : Api) (b : Gpu.Backend) (platform : Platform) (failure : Failure)
    (after : Scene Backend) : Prop where
  told : ∃ passed broken first,
    platform.gpu.FirstBroken api (buildChecks b.tier) passed broken first ∧
    failure = .refused (broken.into first.text) ∧
    Machine.Used api (pointsOf (passed ++ [broken])) platform.gpu after.platform.gpu
  freed : ∃ memory, after.platform.registered = platform.registered ++ memory ∧
    after.platform.destroyed = platform.destroyed ++ memory.reverse
  restored : ∃ last : Gpu.Backend, after.own = .gpu last ∧ last.device = b.device ∧
    last.contents = b.contents ∧ last.live = b.live

variable {api : Api} {b : Gpu.Backend} {books : Books} {platform : Platform} {dims : Dims}
  {failure : Failure} {after : Scene Backend}

/-- Where a build breaks off, the memory of its early objects goes with them. -/
private theorem BreaksOff.frees {size : Bytes → Nat} {early : List (Creation × Nat)}
    (listens : b.device = Regime.listened.device api [])
    (booked : Booked ⟨books.live.length + 7, books, platform⟩ books.live ⟨.gpu b, platform⟩)
    (breaks : BreaksOff size ⟨.gpu b, platform⟩ dims early failure after) :
    ∃ last : Gpu.Backend, after.own = .gpu last ∧ last.contents = b.contents ∧
      ∃ memory, after.platform.registered = platform.registered ++ memory ∧
        after.platform.destroyed = platform.destroyed ++ memory.reverse := by
  obtain ⟨set, creation, number, late, ⟨own, between⟩, ⟨own', later⟩, of, planned, sofar, ran, undone⟩ :=
    breaks
  have room : books.live.length + early.length ≤ books.live.length + 7 :=
    Nat.add_le_add_left (Nat.le_of_lt (length_early planned)) _
  obtain ⟨mid, rfl, device, emptied, registered, destroyed⟩ := sofar.registers listens booked room
  obtain ⟨_, _, _, _, backs⟩ := sofar.booked booked room
  have failed := creation.make_registers (device.trans listens) backs between
  rw [leads_of_error ran] at failed
  obtain ⟨lost, rfl, untouched⟩ := failed
  obtain ⟨last, same, freed⟩ := (leads_of_ok undone).mp (rollBack_frees _)
  refine ⟨last, same, ?_, (mid.contents.freed (Creation.objects early).reverse).reverse, ?_, ?_⟩
  · rw [freed.contents, untouched.contents]
    exact emptied
  · exact (freed.registered.trans untouched.registered).trans registered
  · rw [freed.destroyed, untouched.contents, untouched.destroyed, destroyed, List.reverse_reverse]

/-- With something to draw, a build fails just when a point that it uses raises an error. -/
theorem build_drawn (listens : b.device = Regime.listened.device api [])
    (held : (Backend.gpu b).Backs books) (drawn : dims.isEmpty = false) (platform : Platform) :
    (build dims).Leads ⟨.gpu b, platform⟩ (fun _ after => Faultless api b platform dims after)
      (Unbuilt api b platform) := by
  have booked : Booked ⟨books.live.length + 7, books, platform⟩ books.live ⟨.gpu b, platform⟩ :=
    ⟨[], (List.append_nil _).symm, trivial, rfl, held⟩
  obtain ⟨size, sized, _⟩ := exists_sizes (show 2 < 64 by decide)
  have undergoes := build_undergoes dims api ⟨.gpu b, platform⟩ ⟨b, rfl, listens, rfl, nofun⟩
  apply (undergoes.and (build_makes drawn sized booked (Nat.le_refl _))).mono
  · exact fun _ after ⟨⟨_, calm, _, used⟩, _⟩ => ⟨drawn, calm, used⟩
  · intro failure after ⟨⟨used, ends, ⟨last, same, on, _⟩, usedNow⟩, early, breaks⟩
    have unlike : ¬(dims.isEmpty = true ∧ ∃ cause, failure = .refused cause) := by
      simp [drawn]
    obtain ⟨passed, broken, first, firstBroken, told, rfl⟩ := ends.firstBroken unlike
    obtain ⟨last', same', contents, freed⟩ := breaks.frees listens booked
    obtain rfl : last' = last := by
      rw [same] at same'
      cases same'
      rfl
    exact ⟨⟨passed, broken, first, firstBroken, told, usedNow⟩, freed,
      last', same, on.trans listens.symm, contents, Gpu.Backend.live_eq_of_contents contents⟩

/-- An error at any of its points makes a build fail, and the tier then has as many objects as before. -/
private theorem build_fails_of_due (listens : b.device = Regime.listened.device api [])
    (held : (Backend.gpu b).Backs books) (drawn : dims.isEmpty = false)
    (raised : platform.gpu.due api (pointsOf (buildChecks b.tier)) ≠ []) :
    (build dims).Leads ⟨.gpu b, platform⟩ (fun _ _ => False) (fun _ after => after.own.live = b.live) := by
  apply (build_drawn listens held drawn platform).mono
  · exact fun _ _ faultless => raised faultless.calm
  · intro failure ⟨own, last⟩ unbuilt
    obtain ⟨_, rfl, _, _, live⟩ := unbuilt.restored
    exact live

/-- Without anything to draw a build is refused at once. With something, it fails just when a point that
it uses raises an error, and tells the first error of all as the step that it was raised at. -/
theorem build_names_first_broken_step (listens : b.device = Regime.listened.device api [])
    (held : (Backend.gpu b).Backs books) (dims : Dims) (platform : Platform) :
    (build dims).Leads ⟨.gpu b, platform⟩ (fun _ after => Faultless api b platform dims after)
      (fun failure after =>
        if dims.isEmpty then
          failure = .refused (.resource "texture" ("empty framebuffer " ++ dims.text)) ∧
            after = ⟨.gpu b, platform⟩
        else Unbuilt api b platform failure after) := by
  by_cases empty : dims.isEmpty = true
  · rw [build, if_pos empty, leads_refuse, if_pos empty]
    exact ⟨rfl, rfl⟩
  · have drawn : dims.isEmpty = false := by simpa using empty
    simp only [drawn, Bool.false_eq_true, if_false]
    exact build_drawn listens held drawn platform

def keptTier : Gpu.Backend :=
  { tier := .modern
    device := Regime.listened.device .primary []
    config := ⟨"Bgra8Unorm", ⟨640, 320⟩, "Opaque"⟩
    buffers := { next := 2, items := [(1, 7)] } }

def keptBooks : Books :=
  { live := [.buffer 1], handed := [.buffer 1] }

/-- A driver that runs out of memory at the second bind group of its first quad. -/
@[irreducible] def fullPlatform : Platform :=
  { gpu.primary.script.faults := [⟨"quad-texture-bg", some 1, ⟨.outOfMemory, "out of memory"⟩⟩] }

private theorem keptTier_backs : (Backend.gpu keptTier).Backs keptBooks := by
  have vacant {α : Type} (number : ResourceId → Option Nat) (other : number (.buffer 1) = none) :
      ({} : Slots α).Backs number keptBooks :=
    ⟨by simp [keptBooks, Slots.ids, other], by simp [keptBooks, other], by simp [keptBooks],
      by simp [keptBooks, other]⟩
  exact ⟨⟨rfl, by simp [keptBooks, keptTier, ResourceId.buffer?], by simp [keptBooks], by decide⟩,
    vacant _ rfl, vacant _ rfl, vacant _ rfl⟩

private theorem fullPlatform_raises :
    fullPlatform.gpu.due .primary (pointsOf (buildChecks keptTier.tier)) ≠ [] := by
  unfold fullPlatform
  simp [keptTier, Machine.due, Machine.driver, Gpu.Script.dueAll, Gpu.Script.due,
    Gpu.Driver.reach, pointsOf, buildChecks, Gpu.Backend.pipelineChecks, Gpu.ShaderDialect.ofTier,
    Gpu.ShaderDialect.label]

/-- A build can fail without any error, when there is nothing to draw, and one that fails leaves alone
what the tier held before. -/
theorem build_fails_without_error_and_keeps_others :
    (build ⟨0, 32⟩).Leads ⟨.gpu keptTier, {}⟩ (fun _ _ => False)
      (fun _ after => Machine.Used .primary [] {} after.platform.gpu) ∧
    (build ⟨64, 32⟩).Leads ⟨.gpu keptTier, fullPlatform⟩ (fun _ _ => False)
      (fun _ after => after.own.live = 1) :=
  ⟨.refl _, build_fails_of_due rfl keptTier_backs rfl fullPlatform_raises⟩

theorem build_names_first_broken_step_on_full_tier :
    keptTier.device = Regime.listened.device .primary [] ∧ (Backend.gpu keptTier).Backs keptBooks ∧
      (build ⟨64, 32⟩).Leads ⟨.gpu keptTier, fullPlatform⟩
        (fun _ after => Faultless .primary keptTier fullPlatform ⟨64, 32⟩ after)
        (Unbuilt .primary keptTier fullPlatform) :=
  ⟨rfl, keptTier_backs, build_names_first_broken_step rfl keptTier_backs ⟨64, 32⟩ fullPlatform⟩

end FrameViewer.ResourceSet
