import FrameViewer.Proofs.LoopChanges
import Mathlib.Data.List.Nodup

/-! Who owns the frame. The loop remembers only that somebody does; the invariant here ties that to
the generations of the callbacks that have begun and not ended, and every change of a loop keeps
it. -/

namespace FrameViewer
open Act

def Callback.rest? (outcome : Except RenderError Progress) : Option Callback :=
  match outcome with
  | .ok (.running callback) | .ok (.paused callback) => some callback
  | _ => none

variable {ε : Type}

namespace FrameLoop

/-- `held` are the generations of the callbacks that have begun and not ended. The frame is taken
when one of them is of the loop's generation, and no two are of the same. -/
structure Owned (l : FrameLoop ε) (held : List Nat) : Prop where
  behind : l.state.generation ≤ l.session.generation
  bounded : ∀ generation ∈ held, generation ≤ l.state.generation
  taken : l.state.inFlight = true ↔ l.state.generation ∈ held
  distinct : held.Nodup

/-- Neither the frame nor the generations have changed. -/
structure SameFrame (before after : FrameLoop ε) : Prop where
  generation : after.state.generation = before.state.generation
  inFlight : after.state.inFlight = before.state.inFlight
  newest : after.session.generation = before.session.generation

def taken (l : FrameLoop ε) (now : Binary) : FrameLoop ε :=
  { l with state := { l.state with
      inFlight := true, phase := .stepping, lastTimestamp := some now } }

namespace Owned

variable {before after : FrameLoop ε} {held : List Nat}

theorem ofSession (session : Session ε) (renderer : Renderer) :
    (FrameLoop.ofSession session renderer).Owned [] :=
  ⟨Nat.le_refl _, nofun, ⟨nofun, nofun⟩, .nil⟩

theorem count_owners (owned : before.Owned held) :
    held.count before.state.generation = if before.state.inFlight then 1 else 0 := by
  by_cases member : before.state.generation ∈ held
  · rw [if_pos (owned.taken.mpr member)]
    exact List.count_eq_one_of_mem owned.distinct member
  · rw [if_neg (fun taken => member (owned.taken.mp taken))]
    exact List.count_eq_zero_of_not_mem member

theorem perm {other : List Nat} (owned : before.Owned held) (same : held.Perm other) :
    before.Owned other where
  behind := owned.behind
  bounded generation member := owned.bounded generation (same.mem_iff.mpr member)
  taken := owned.taken.trans same.mem_iff
  distinct := same.nodup_iff.mp owned.distinct

theorem of_sameFrame (owned : before.Owned held) (same : before.SameFrame after) :
    after.Owned held := by
  refine ⟨?_, ?_, ?_, owned.distinct⟩
  · rw [same.generation, same.newest]
    exact owned.behind
  · rw [same.generation]
    exact owned.bounded
  · rw [same.generation, same.inFlight]
    exact owned.taken

/-- A callback that takes the free frame owns it. -/
theorem take (owned : before.Owned held) (free : before.state.inFlight = false) (now : Binary) :
    (before.taken now).Owned (before.state.generation :: held) := by
  have absent : before.state.generation ∉ held := by
    intro member
    rw [owned.taken.mpr member] at free
    cases free
  refine ⟨owned.behind, ?_, ?_, List.nodup_cons.mpr ⟨absent, owned.distinct⟩⟩
  · intro generation member
    rcases List.mem_cons.mp member with rfl | member
    · exact Nat.le_refl _
    · exact owned.bounded generation member
  · exact ⟨fun _ => List.mem_cons_self, fun _ => rfl⟩

/-- A callback that ends leaves the others as they are. It gives the frame back if it had it. -/
theorem release {generation : Nat} (owned : before.Owned (generation :: held))
    (same : after.state.generation = before.state.generation)
    (newest : after.session.generation = before.session.generation)
    (freed : after.state.inFlight =
      (before.state.inFlight && generation != before.state.generation)) :
    after.Owned held := by
  obtain ⟨absent, distinct⟩ := List.nodup_cons.mp owned.distinct
  refine ⟨?_, ?_, ?_, distinct⟩
  · rw [same, newest]
    exact owned.behind
  · rw [same]
    exact fun older member => owned.bounded older (List.mem_cons_of_mem _ member)
  · rw [same, freed, Bool.and_eq_true, bne_iff_ne, owned.taken, List.mem_cons]
    constructor
    · rintro ⟨mine | other, different⟩
      · exact absurd mine.symm different
      · exact other
    · intro member
      refine ⟨.inr member, ?_⟩
      rintro rfl
      exact absent member

/-- After a load that worked nobody owns the frame: all who began before are of older
generations. -/
theorem restart (owned : before.Owned held) (newer : before.session.generation < after.state.generation)
    (newest : after.session.generation = after.state.generation)
    (free : after.state.inFlight = false) : after.Owned held := by
  have older : ∀ generation ∈ held, generation < after.state.generation := by
    intro generation member
    have := owned.bounded generation member
    have := owned.behind
    omega
  refine ⟨Nat.le_of_eq newest.symm, ?_, ?_, owned.distinct⟩
  · exact fun generation member => Nat.le_of_lt (older generation member)
  rw [free]
  exact ⟨nofun, fun member => absurd (older _ member) (Nat.lt_irrefl _)⟩

theorem outdate (owned : before.Owned held) (same : after.state = before.state)
    (newer : before.session.generation ≤ after.session.generation) : after.Owned held := by
  refine ⟨?_, ?_, ?_, owned.distinct⟩
  · rw [same]
    exact Nat.le_trans owned.behind newer
  · rw [same]
    exact owned.bounded
  · rw [same]
    exact owned.taken

end Owned

/-- A callback begins when the loop is running and the frame is free, and takes the frame. -/
theorem begin_leads (host : Host) (config : LoopConfig) (now : Binary)
    (scene : Scene (FrameLoop ε)) :
    (Callback.begin host config now).Leads scene
      (fun begun after =>
        if scene.own.state.running && !scene.own.state.inFlight then
          begun = some { generation := scene.own.state.generation, config, host } ∧
            after = ⟨scene.own.taken now, scene.platform⟩
        else begun = none ∧ after = scene)
      (fun _ _ => False) := by
  unfold Callback.begin begin updateState
  simp only [leads_bind, leads_own]
  split
  · exact ⟨rfl, rfl⟩
  · exact ⟨rfl, rfl⟩

end FrameLoop

theorem Callback.Turn.rest_eq [Engine ε] {callback rest : Callback} {before after : FrameLoop ε}
    {outcome : Except RenderError Progress} (turn : callback.Turn before outcome after)
    (left : rest ∈ Callback.rest? outcome) :
    rest.generation = callback.generation ∧ rest.ticks < Callback.tickLimit := by
  cases turn with
  | superseded _ | presented _ _ _ _ | refused _ _ _ _ => cases left
  | going _ _ _ bounded reached =>
    rcases reached with rfl | rfl <;> cases left <;> exact ⟨rfl, bounded⟩

theorem Callback.Turn.unmoved [Engine ε] {callback rest : Callback} {before after : FrameLoop ε}
    {outcome : Except RenderError Progress} (turn : callback.Turn before outcome after)
    (left : rest ∈ Callback.rest? outcome) : after.state = before.state := by
  cases turn with
  | superseded _ | presented _ _ _ _ | refused _ _ _ _ => cases left
  | going _ _ unmoved _ _ => exact unmoved

/-- After a turn the frame is owned by who owned it before, as far as their callbacks go on. -/
theorem Callback.Turn.owned [Engine ε] {callback : Callback} {before after : FrameLoop ε}
    {outcome : Except RenderError Progress} {held : List Nat}
    (turn : callback.Turn before outcome after)
    (owned : before.Owned (callback.generation :: held)) :
    after.Owned ((Callback.rest? outcome).toList.map (·.generation) ++ held) := by
  cases turn with
  | superseded older =>
    refine owned.release rfl rfl ?_
    rw [bne_iff_ne.mpr older, Bool.and_true]
  | going current kept unmoved _ reached =>
    have same : before.SameFrame after :=
      ⟨kept.generation, congrArg LoopState.inFlight unmoved, kept.newest⟩
    have still := owned.of_sameFrame same
    rcases reached with rfl | rfl <;> exact still
  | presented current kept free _ =>
    refine owned.release kept.generation kept.newest ?_
    rw [free, bne_eq_false_iff_eq.mpr current, Bool.and_false]
  | refused current kept free _ =>
    refine owned.release kept.generation kept.newest ?_
    rw [free, bne_eq_false_iff_eq.mpr current, Bool.and_false]

end FrameViewer
