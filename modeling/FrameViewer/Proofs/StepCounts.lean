import FrameViewer.Loop.Rehearsal
import FrameViewer.Proofs.FrameShapes
import Mathlib.Data.ENat.Lattice

/-! How often a callback would step its engine. A stint is a callback's way to its presentation,
with whatever runs at its pauses. It is as long as it takes to the first tick that asks for a
redraw, to the first instruction that is not there or to the cap, whichever comes first. -/

namespace FrameViewer
open Act

/-- What a callback asks of its engine and of the tier, and what is heard of it. -/
inductive Deed where
  | next (more : Bool)
  | tick (report : Tick)
  | cue
  | upload
  | draw
  deriving DecidableEq, Repr

def Event.deed? : Event → Option Deed
  | engine _ (.next more) => some (.next more)
  | engine _ (.tick report) => some (.tick report)
  | cued => some .cue
  | .tier _ (.upload ..) | gpu (.writeTexture ..) => some .upload
  | .tier _ (.draw _) | gpu .submit => some .draw
  | _ => none

def Event.IsDeedless (event : Event) : Prop :=
  event.deed? = none

def Platform.deeds (platform : Platform) : List Deed :=
  platform.events.toList.filterMap Event.deed?

def Tick.deeds (report : Tick) : List Deed :=
  [.next true, .tick report] ++ if report.beep then [.cue] else []

theorem Platform.Extends.deeds {before after : Platform}
    (grown : before.Extends Event.IsDeedless after) : after.deeds = before.deeds :=
  grown.filterMap fun _ deedless => deedless

private theorem Platform.deeds_record (platform : Platform) (event : Event) :
    (platform.record event).deeds = platform.deeds ++ event.deed?.toList := by
  unfold deeds record
  rw [Array.toList_push, List.filterMap_append]
  cases same : event.deed? with
  | none => rw [List.filterMap_cons_none same, List.filterMap_nil, Option.toList_none]
  | some deed => rw [List.filterMap_cons_some same, List.filterMap_nil, Option.toList_some]

variable {ε α : Type} [Engine ε]

namespace FrameLoop

def instruct : Act (FrameLoop ε) (Option Tick) := do
  if ← next then
    let report ← tick
    if report.beep then Audio.beep
    return some report
  else return none

def outcomeOf : Option Tick → StepOutcome
  | none => .halted
  | some report => if report.redraw then .redraw else .quiet

theorem leads_step {generation : Nat} {scene : Scene (FrameLoop ε)}
    {done : StepOutcome → Scene (FrameLoop ε) → Prop}
    {failed : Failure → Scene (FrameLoop ε) → Prop}
    (current : generation = scene.own.state.generation) :
    (step generation).Leads scene done failed ↔
      instruct.Leads scene (fun made after => done (outcomeOf made) after) failed := by
  unfold step instruct
  rw [leads_bind, leads_own, if_neg (not_not_intro current.symm)]
  simp only [leads_bind, leads_ite, leads_pure]
  rfl

/-- An instruction leaves the loop's state and its renderer alone. -/
theorem instruct_leads (scene : Scene (FrameLoop ε)) :
    instruct.Leads scene
      (fun made after => after.own.state = scene.own.state ∧
        after.own.renderer = scene.own.renderer ∧
        after.platform.deeds = scene.platform.deeds ++ made.elim [.next false] Tick.deeds)
      fun failure _ => failure = .crashed := by
  unfold instruct next tick Session.reportCall
  simp only [leads_bind, leads_own, leads_emit, leads_setOwn, leads_pure, leads_ite]
  split
  next more =>
    rw [leads_checked]
    cases ticked : Engine.tick (Engine.next scene.own.session.engine).2 with
    | none => trivial
    | some answer =>
      simp only
      split
      next beeps =>
        refine (Audio.beep_sounds _).mono ?_ fun _ _ failed => failed.1
        intro _ after sounded
        obtain ⟨same, beeped⟩ := sounded
        have cued : after.platform.deeds = _ := beeped.filterMap rfl rfl rfl
        rw [same, cued]
        refine ⟨rfl, rfl, ?_⟩
        simp [Platform.deeds, Platform.record, Event.deed?, Tick.deeds, more, beeps]
      next silent =>
        refine ⟨trivial, trivial, ?_⟩
        simp [Platform.deeds_record, Event.deed?, Tick.deeds, more, silent]
  next none =>
    refine ⟨trivial, trivial, ?_⟩
    simp [Platform.deeds_record, Event.deed?, none]

end FrameLoop

private theorem Act.bind_eq_ok {σ α β : Type} {action : Act σ α} {next : α → Act σ β}
    {scene after : Scene σ} {result : β} (ran : (action >>= next) scene = .ok result after) :
    ∃ value middle, action scene = .ok value middle ∧ next value middle = .ok result after := by
  simp only [bind, EStateM.bind] at ran
  cases early : action scene with
  | ok value middle =>
    rw [early] at ran
    exact ⟨value, middle, rfl, ran⟩
  | error failure middle =>
    rw [early] at ran
    cases ran

open Classical in
/-- The least number of which that holds; infinite when there is none. -/
noncomputable def leastOf (holds : Nat → Prop) : ℕ∞ :=
  if found : ∃ n, holds n then (Nat.find found : ℕ∞) else ⊤

open Classical in
theorem leastOf_le {holds : Nat → Prop} {n : Nat} (here : holds n) : leastOf holds ≤ n := by
  rw [leastOf, dif_pos ⟨n, here⟩]
  exact_mod_cast Nat.find_le here

open Classical in
theorem leastOf_holds {holds : Nat → Prop} {n : Nat} (least : leastOf holds = n) : holds n := by
  unfold leastOf at least
  split at least
  next found =>
    have same : Nat.find found = n := by exact_mod_cast least
    exact same ▸ Nat.find_spec found
  next => exact absurd least (ENat.top_ne_natCast n)

open Classical in
theorem le_leastOf {holds : Nat → Prop} {n : Nat} (later : ∀ m, holds m → n ≤ m) :
    (n : ℕ∞) ≤ leastOf holds := by
  unfold leastOf
  split
  next found => exact_mod_cast later _ (Nat.find_spec found)
  next => exact le_top

namespace Rehearsal

omit [Engine ε] in
theorem leads_onLoop (action : Act (FrameLoop ε) α) (scene : Scene (Rehearsal ε))
    {done : α → Scene (Rehearsal ε) → Prop} {failed : Failure → Scene (Rehearsal ε) → Prop} :
    (onLoop action).Leads scene done failed ↔
      action.Leads ⟨scene.own.loop, scene.platform⟩
        (fun value inner => done value ⟨{ scene.own with loop := inner.own }, inner.platform⟩)
        (fun failure inner =>
          failed failure ⟨{ scene.own with loop := inner.own }, inner.platform⟩) := by
  unfold onLoop
  simp only [leads_bind, leads_own, leads_within]

/-- What runs at the pause of that number. A loop without a throttle never pauses. -/
def pause (config : LoopConfig) (hooks : Nat → Act (Rehearsal ε) (List LoopAnswer)) (number : Nat) :
    Act (Rehearsal ε) (List LoopAnswer) :=
  if config.throttle = 0 then pure [] else hooks number

/-- So many ticks, each with the pause after it; nothing but a missing instruction stops them. -/
def stretch (config : LoopConfig) (hooks : Nat → Act (Rehearsal ε) (List LoopAnswer)) :
    Nat → Act (Rehearsal ε) (List Tick × List LoopAnswer)
  | 0 => return ([], [])
  | count + 1 => do
    let (ticks, answers) ← stretch config hooks count
    match ← onLoop FrameLoop.instruct with
    | none => Act.crash
    | some report =>
      let further ← pause config hooks (count + 1)
      return (ticks ++ [report], answers ++ further)

end Rehearsal

/-- A callback's way to its presentation, from where it has the frame. -/
structure Stint (ε : Type) where
  config : LoopConfig
  /-- What runs at each pause. -/
  hooks : Nat → Act (Rehearsal ε) (List LoopAnswer)
  start : Scene (Rehearsal ε)

namespace Stint

variable (stint : Stint ε)

def Reaches (count : Nat) (past : List Tick × List LoopAnswer) (scene : Scene (Rehearsal ε)) : Prop :=
  Rehearsal.stretch stint.config stint.hooks count stint.start = .ok past scene

def RedrawsAt : Nat → Prop
  | 0 => False
  | count + 1 => ∃ past scene report after, stint.Reaches count past scene ∧
      Rehearsal.onLoop FrameLoop.instruct scene = .ok (some report) after ∧ report.redraw = true

def HaltsAt (count : Nat) : Prop :=
  ∃ past scene after, stint.Reaches count past scene ∧
    Rehearsal.onLoop FrameLoop.instruct scene = .ok none after

/-- After so many ticks the engine, its sound or what runs at the next pause breaks down. -/
def BreaksAt (count : Nat) (failure : Failure) (after : Scene (Rehearsal ε)) : Prop :=
  ∃ past scene, stint.Reaches count past scene ∧
    (Rehearsal.onLoop FrameLoop.instruct scene = .error failure after ∨
      ∃ report middle, Rehearsal.onLoop FrameLoop.instruct scene = .ok (some report) middle ∧
        Rehearsal.pause stint.config stint.hooks (count + 1) middle = .error failure after)

noncomputable def redraw : ℕ∞ := leastOf stint.RedrawsAt

noncomputable def halt : ℕ∞ := leastOf stint.HaltsAt

/-- The ticks after which a frame is shown anyway. Before the first tick none is. -/
def cap : ℕ∞ :=
  match stint.config.maxTicks with
  | none => ⊤
  | some cap => (max cap 1 : Nat)

/-- The ticks that are made before the frame is shown. -/
noncomputable def length : ℕ∞ := min stint.redraw (min stint.halt stint.cap)

/-- It is the missing instruction that ends the stint. -/
def Halts : Prop := stint.halt < stint.redraw ∧ stint.halt < stint.cap

/-- No program is loaded meanwhile, or not with success; and what runs at the pauses neither steps
the engine nor sounds. -/
structure Undisturbed : Prop where
  generation : ∀ count past scene, stint.Reaches count past scene →
    scene.own.loop.state.generation = stint.start.own.loop.state.generation
  frames : ∀ count past scene, stint.Reaches count past scene →
    scene.own.loop.state.frames = stint.start.own.loop.state.frames
  deedless : ∀ number, (stint.hooks number).Emits Event.IsDeedless

variable {stint} {count : Nat} {past : List Tick × List LoopAnswer} {scene : Scene (Rehearsal ε)}

theorem Reaches.succ (reached : stint.Reaches (count + 1) past scene) :
    ∃ before middle report after answers, stint.Reaches count before middle ∧
      Rehearsal.onLoop FrameLoop.instruct middle = .ok (some report) after ∧
      Rehearsal.pause stint.config stint.hooks (count + 1) after = .ok answers scene ∧
      past = (before.1 ++ [report], before.2 ++ answers) := by
  obtain ⟨before, middle, early, rest⟩ := bind_eq_ok reached
  obtain ⟨made, after, stepped, rest⟩ := bind_eq_ok rest
  cases made with
  | none => cases rest
  | some report =>
    obtain ⟨answers, last, paused, rest⟩ := bind_eq_ok rest
    cases rest
    exact ⟨before, middle, report, after, answers, early, stepped, paused, rfl⟩

theorem Reaches.add {middle after : Scene (Rehearsal ε)} {report : Tick} {answers : List LoopAnswer}
    (reached : stint.Reaches count past middle)
    (made : Rehearsal.onLoop FrameLoop.instruct middle = .ok (some report) after)
    (paused : Rehearsal.pause stint.config stint.hooks (count + 1) after = .ok answers scene) :
    stint.Reaches (count + 1) (past.1 ++ [report], past.2 ++ answers) scene := by
  unfold Reaches at reached ⊢
  rw [Rehearsal.stretch]
  refine Leads.eq_ok ?_
  rw [leads_bind, leads_of_ok reached, leads_bind, leads_of_ok made, leads_bind, leads_of_ok paused]
  exact ⟨rfl, rfl⟩

theorem Reaches.unique {other : List Tick × List LoopAnswer} {last : Scene (Rehearsal ε)}
    (reached : stint.Reaches count past scene) (again : stint.Reaches count other last) :
    past = other ∧ scene = last := by
  cases reached.symm.trans again
  exact ⟨rfl, rfl⟩

end Stint
end FrameViewer
