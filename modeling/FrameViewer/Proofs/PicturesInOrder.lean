import FrameViewer.Proofs.PictureMoves

/-! A run of a loop that was just given a program shows the program's pictures in order, whatever
callbacks begin, overlap, pause and go on, as long as no key is pressed, nothing else is loaded and
nothing fails. -/

namespace FrameViewer
open Act Player

def Event.frame? (event : Event) : Option Framebuffer :=
  event.mark?.bind Mark.frame?

def Event.isCue (event : Event) : Bool :=
  event.mark?.any Mark.isCue

def Entry.frames (entry : Entry) : List Framebuffer :=
  entry.log.filterMap Event.frame?

variable {κ : Type} [BEq κ]

namespace Interplay

/-- The loop was just given the program: it was made with it, or it has loaded it after any moves. -/
inductive Opened (κ : Type) [BEq κ] (rom : Rom) : Scene (Interplay Player) → Prop where
  | made (session : Session Player) (renderer : Renderer) (platform : Platform)
      (fits : ∀ set, renderer.resources = some set → set.dims = (session.loaded rom).dims) :
      Opened κ rom ⟨.ofSession (session.loaded rom) renderer, platform⟩
  | loaded (session : Session Player) (renderer : Renderer) (platform : Platform)
      (earlier : List (Move κ)) {before after : Scene (Interplay Player)}
      (ran : performAll earlier ⟨.ofSession session renderer, platform⟩ = .ok () before)
      (worked : perform (.load rom : Move κ) before = .ok (.loaded (.ok ())) after) :
      Opened κ rom after

theorem Opened.screening {rom : Rom} {scene : Scene (Interplay Player)}
    (opened : Opened κ rom scene) : scene.own.Screening rom.bytes 0 0 := by
  cases opened with
  | made session renderer platform fits =>
    refine ⟨.ofSession _ _, nofun, ?_, nofun, fun _ => rfl⟩
    exact ⟨played_blank rom.bytes, by decide, fun _ => rfl, fits⟩
  | @loaded session renderer platform earlier before _ ran worked =>
    have kept (before after : Interplay Player) (good : before.Exclusive ∧ before.Dated)
        (change : before.Change after) : after.Exclusive ∧ after.Dated :=
      ⟨change.exclusive good.1, change.dated good.1 good.2⟩
    have start : Interplay.Exclusive _ ∧ Interplay.Dated _ :=
      ⟨.ofSession session renderer, .ofSession session renderer⟩
    obtain ⟨exclusive, dated⟩ :=
      (leads_of_ok ran).mp (performAll_leads kept earlier ⟨_, platform⟩ start)
    have change := (leads_of_ok worked).mp (perform_leads (.load rom : Move κ) before)
    obtain ⟨loop, same, restarted, state, set, built, dims⟩ :=
      (leads_of_ok worked).mp (perform_load_leads (κ := κ) rom before) rfl
    have exclusive' := change.exclusive exclusive
    rw [same] at exclusive' ⊢
    refine ⟨exclusive', dated.counted, ?_, ?_, fun _ => rfl⟩
    · refine ⟨?_, by decide, fun _ => rfl, ?_⟩
      · rw [restarted]
        exact played_blank rom.bytes
      · intro found given
        obtain rfl := Option.some.inj (built.symm.trans given)
        rw [dims, restarted]
        rfl
    · intro member inside current
      have older : member.callback.generation ≤ before.own.loop.state.generation :=
        exclusive.owned.bounded _ (List.mem_map.mpr ⟨member, inside, rfl⟩)
      have behind := exclusive.owned.behind
      rw [state] at current
      simp only at current
      omega

end Interplay

namespace Entry

/-- The entry of a move that showed a frame, or did not, and says so. -/
structure Truthful (rom : Bytes) (entry : Entry) : Prop where
  frames : entry.frames.length = if entry.answer.isShown then 1 else 0
  ticks : ∀ ticks, entry.answer = .turned (.ok (.finished (.presented ticks))) →
    ticks = frameTicks rom

private theorem frames_eq (log : List Event) :
    log.filterMap Event.frame? = (log.filterMap Event.mark?).filterMap Mark.frame? :=
  List.filterMap_filterMap.symm

private theorem cues_eq (log : List Event) :
    log.countP Event.isCue = (log.filterMap Event.mark?).countP Mark.isCue := by
  rw [List.countP_filterMap]
  congr 1
  funext event
  unfold Event.isCue
  cases event.mark? <;> rfl

end Entry

namespace Interplay

/-- Without a failure so far, what was seen and heard is the beginning of the reel. -/
def Follows (rom : Bytes) (past : List Entry) (scene : Scene (Interplay Player)) : Prop :=
  (∀ entry ∈ past, entry.answer.isError = false) → ∃ index row,
    scene.own.Screening rom index row ∧
    (past.flatMap Entry.log).filterMap Event.mark? = reel rom index ∧
    ∀ entry ∈ past, entry.Truthful rom

theorem Follows.enter {rom : Bytes} {past : List Entry} {scene : Scene (Interplay Player)}
    (follows : Follows rom past scene) (move : Move κ) (plain : move.IsPlain) :
    (enter move).Leads scene (fun entry after => Follows rom (past ++ [entry]) after)
      (fun failure _ => failure = .crashed) := by
  by_cases flawless : ∀ entry ∈ past, entry.answer.isError = false
  · obtain ⟨index, row, screening, marks, truthful⟩ := follows flawless
    refine (enter_leads (perform_shows move plain screening)).mono ?_ fun _ _ crashed => crashed
    rintro ⟨caller, answer, log⟩ after ⟨_, shows, grown⟩ all
    let entry : Entry := ⟨caller, answer, log⟩
    have logged (added : List Mark) (marks : after.platform.marks = scene.platform.marks ++ added) :
        log.filterMap Event.mark? = added := by
      rw [Platform.marks, grown, List.filterMap_append] at marks
      exact List.append_cancel_left marks
    have others (current : entry.Truthful rom) : ∀ other ∈ past ++ [entry], other.Truthful rom := by
      intro other inside
      rcases List.mem_append.mp inside with earlier | latest
      · exact truthful other earlier
      · rw [List.mem_singleton.mp latest]
        exact current
    have reported (added : List Mark) (same : log.filterMap Event.mark? = added) :
        ((past ++ [entry]).flatMap Entry.log).filterMap Event.mark? = reel rom index ++ added := by
      rw [List.flatMap_append, List.filterMap_append, marks, List.flatMap_singleton, same]
    cases shows with
    | failed => exact absurd (all entry (List.mem_append_right _ List.mem_cons_self)) Bool.noConfusion
    | nothing screening unmarked unshown =>
      have silent := logged [] (unmarked.trans (List.append_nil _).symm)
      refine ⟨index, _, screening, (reported [] silent).trans (List.append_nil _), others ⟨?_, ?_⟩⟩
      · rw [Entry.frames, Entry.frames_eq, silent, if_neg (Bool.not_eq_true _ ▸ unshown)]
        rfl
      · rintro ticks rfl
        cases unshown
    | frame screening marked =>
      have seen := logged _ marked
      refine ⟨index + 1, 0, screening, reported _ seen, others ⟨?_, ?_⟩⟩
      · rw [Entry.frames, Entry.frames_eq, seen, List.filterMap_append, cueOf_frames]
        rfl
      · rintro ticks ⟨⟩
        rfl
  · refine (enter_leads (perform_leads move scene)).mono ?_ fun _ _ crashed => crashed
    intro entry after _ all
    exact absurd (fun entry inside => all entry (List.mem_append_left _ inside)) flawless

/-- The first frames of the reel begin any longer list of them. -/
theorem range_initial {rom : Bytes} {few many : Nat} (fewer : few ≤ many) :
    (List.range few).map (frameOf rom) <+: (List.range many).map (frameOf rom) := by
  rw [← Nat.min_eq_left fewer, ← List.take_range, List.map_take]
  exact List.take_prefix _ _

theorem Opened.follows {rom : Rom} {scene : Scene (Interplay Player)} (opened : Opened κ rom scene)
    (moves : List (Move κ)) (plain : ∀ move ∈ moves, move.IsPlain) :
    (chronicle moves).Leads scene (fun entries after => Follows rom.bytes entries after)
      (fun failure _ => failure = .crashed) := by
  have kept (move : Move κ) (past : List Entry) (scene : Scene (Interplay Player))
      (plain : move.IsPlain) (follows : Follows rom.bytes past scene) := follows.enter move plain
  have start : Follows rom.bytes [] scene := fun _ => ⟨0, 0, opened.screening, rfl, nofun⟩
  exact chronicle_leads kept moves plain [] scene start

/-- What was uploaded in a run without a failure depends on nothing but how much it was. -/
theorem Follows.frames {rom : Bytes} {entries : List Entry} {after : Scene (Interplay Player)}
    (follows : Follows rom entries after) (flawless : ∀ entry ∈ entries, entry.answer.isError = false) :
    ∃ count, entries.flatMap Entry.frames = (List.range count).map (frameOf rom) := by
  obtain ⟨index, _, _, marks, _⟩ := follows flawless
  refine ⟨index, ?_⟩
  calc entries.flatMap Entry.frames
    _ = (entries.flatMap Entry.log).filterMap Event.frame? := List.filterMap_flatMap.symm
    _ = (reel rom index).filterMap Mark.frame? := by rw [Entry.frames_eq, marks]
    _ = (List.range index).map (frameOf rom) := reel_frames rom index

/-- The entries of a run that shows the pictures of the program in order. The `k`-th frame is uploaded
when `k / n` beeps have sounded, where `n` is the number of pictures, and the callback that uploaded
it reports 32 ticks. Without a picture every frame is dark and takes no tick, and no beep sounds. -/
structure InOrder (rom : Bytes) (entries : List Entry) : Prop where
  uploaded : ∀ early event late shown, entries.flatMap Entry.log = early ++ event :: late →
    event.frame? = some shown →
    let n := countOf rom
    let k := (early.filterMap Event.frame?).length + 1
    if n = 0 then shown = dark
    else shown = pictureOf rom ((k - 1) % n) ∧ early.countP Event.isCue = k / n
  silent : countOf rom = 0 → (entries.flatMap Entry.log).countP Event.isCue = 0
  frames : ∀ entry ∈ entries, entry.frames.length = if entry.answer.isShown then 1 else 0
  ticks : ∀ entry ∈ entries, ∀ ticks, entry.answer = .turned (.ok (.finished (.presented ticks))) →
    ticks = if countOf rom = 0 then 0 else 32

theorem Follows.inOrder {rom : Bytes} {entries : List Entry} {after : Scene (Interplay Player)}
    (follows : Follows rom entries after) (flawless : ∀ entry ∈ entries, entry.answer.isError = false) :
    InOrder rom entries := by
  obtain ⟨index, row, screening, marks, truthful⟩ := follows flawless
  refine ⟨?_, ?_, fun entry inside => (truthful entry inside).frames,
    fun entry inside => (truthful entry inside).ticks⟩
  · intro early event late shown split given
    have mark : event.mark? = some (.frame shown) := by
      obtain ⟨mark, same, framed⟩ := Option.bind_eq_some_iff.mp given
      cases mark with
      | frame other => rw [same, Option.some.inj framed]
      | cue => cases framed
    rw [split, List.filterMap_append, List.filterMap_cons_some mark] at marks
    obtain ⟨same, cues⟩ := reel_split rom marks.symm
    rw [← Entry.frames_eq] at same cues
    rw [← Entry.cues_eq] at cues
    simp only [Nat.add_sub_cancel]
    rw [same, frameOf]
    by_cases none : countOf rom = 0
    · rw [if_pos none, if_pos none]
    · rw [if_neg none, if_neg none]
      exact ⟨rfl, cues⟩
  · intro none
    rw [Entry.cues_eq, marks, reel_cues, none, Nat.div_zero]

/-- However a run of the program is scheduled, it shows the pictures of the program in order. Two
runs upload the same frames, as far as both of them get. -/
theorem pictures_shown_in_order (rom : Rom) (scene other : Scene (Interplay Player))
    (opened : Opened κ rom scene) (reopened : Opened κ rom other) (moves others : List (Move κ))
    (plain : ∀ move ∈ moves ++ others, move.IsPlain) :
    (chronicle moves).Leads scene
      (fun entries _ => (∀ entry ∈ entries, entry.answer.isError = false) →
        InOrder rom.bytes entries ∧
        (chronicle others).Leads other
          (fun second _ => (∀ entry ∈ second, entry.answer.isError = false) →
            entries.flatMap Entry.frames <+: second.flatMap Entry.frames ∨
              second.flatMap Entry.frames <+: entries.flatMap Entry.frames)
          (fun failure _ => failure = .crashed))
      (fun failure _ => failure = .crashed) := by
  have first (move : Move κ) (inside : move ∈ moves) := plain move (List.mem_append_left _ inside)
  have last (move : Move κ) (inside : move ∈ others) := plain move (List.mem_append_right _ inside)
  refine (opened.follows moves first).mono (fun entries after follows flawless => ?_)
    fun _ _ crashed => crashed
  refine ⟨follows.inOrder flawless, ?_⟩
  refine (reopened.follows others last).mono (fun second _ again sound => ?_)
    fun _ _ crashed => crashed
  obtain ⟨few, same⟩ := follows.frames flawless
  obtain ⟨many, equal⟩ := again.frames sound
  rw [same, equal]
  rcases Nat.le_total few many with fewer | fewer
  · exact .inl (range_initial fewer)
  · exact .inr (range_initial fewer)

/-- A loop that was made with the checkerboard, on a tier that draws nothing. It stays folded, so
that it runs in the kernel only. -/
@[irreducible] def checkerboard : Scene (Interplay Player) where
  own := .ofSession (Session.loaded { engine := blank, factory := fun _ => blank, made := 1 } demo)
    { backend := .simulated {}
      resources := some
        { positions := 0, colors := 1, indices := 2, uniforms := 3, texture := 4, sampler := 5
          pipeline := 6, dims := ⟨64, 32⟩ } }
  platform := {}

/-- An unpaced callback, a paced one that overlaps with a third, and a key that is let go. -/
def overlapping : List (Move Unit) :=
  [.start .display { throttle := 0, maxTicks := some 32 } (millis 0), .start .display {} (millis 1),
    .start .window {} (millis 2), .resume 0, .interrupt (.keyUp {} ())]

theorem checkerboard_shown_in_order :
    (chronicle overlapping).Leads checkerboard
      (fun entries _ => InOrder demo.bytes entries ∧ (entries.flatMap Entry.frames).length = 1)
      (fun _ _ => False) := by
  have opened : Opened Unit demo checkerboard := by
    unfold checkerboard
    refine .made _ _ _ fun set built => ?_
    cases Option.some.inj built
    rfl
  have plain : ∀ move ∈ overlapping ++ overlapping, move.IsPlain := by
    have roomy (throttle : Nat) : ({ throttle } : LoopConfig).Roomy := nofun
    have capped : ({ throttle := 0, maxTicks := some 32 } : LoopConfig).Roomy := by
      rintro _ ⟨⟩
      exact Nat.le_refl _
    simp only [overlapping, List.cons_append, List.nil_append, List.forall_mem_cons]
    exact ⟨capped, roomy _, roomy _, trivial, trivial, capped, roomy _, roomy _, trivial, trivial,
      nofun⟩
  have ran : (chronicle overlapping).Leads checkerboard
      (fun entries _ => (∀ entry ∈ entries, entry.answer.isError = false) ∧
        (entries.flatMap Entry.frames).length = 1) (fun _ _ => False) := by
    decide +kernel
  have ordered := pictures_shown_in_order demo checkerboard checkerboard opened opened overlapping
    overlapping plain
  refine (ran.and ordered).mono (fun entries _ both => ?_) fun _ _ failed => failed.1
  obtain ⟨⟨flawless, one⟩, shown⟩ := both
  exact ⟨(shown flawless).1, one⟩

end Interplay
end FrameViewer
