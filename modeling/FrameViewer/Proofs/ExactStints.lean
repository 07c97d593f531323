import FrameViewer.Engine.Scripted
import FrameViewer.Proofs.CallbackStints
import FrameViewer.Proofs.FrameOwnership

/-! A callback makes exactly the ticks of its stint, with a pause between any two of them if the loop
is throttled, and shows the frame then. -/

namespace FrameViewer
open Act FrameLoop

variable {ε : Type} [Engine ε]

namespace Stint

variable {stint : Stint ε} {count : Nat} {past : List Tick × List LoopAnswer}
  {scene : Scene (Rehearsal ε)}

def caller (stint : Stint ε) (count : Nat) : Callback :=
  { generation := stint.start.own.loop.state.generation
    ticks := count
    config := stint.config
    host := .display }

def pausesIn (stint : Stint ε) (count : Nat) : Nat :=
  if stint.config.throttle = 0 then 0 else count

omit [Engine ε] in
private theorem isCapped_iff (count : Nat) :
    (stint.caller (count + 1)).isCapped = true ↔ stint.cap ≤ (count + 1 : Nat) := by
  unfold Callback.isCapped cap caller
  cases stint.config.maxTicks with
  | none => simp
  | some cap =>
    rw [Option.any_some, decide_eq_true_iff, Nat.cast_le]
    exact ⟨fun small => Nat.max_le.mpr ⟨small, by omega⟩, fun small => (Nat.max_le.mp small).1⟩

omit [Engine ε] in
private theorem one_le_cap (stint : Stint ε) : 1 ≤ stint.cap := by
  unfold cap
  cases stint.config.maxTicks with
  | none => exact le_top
  | some cap =>
    change ((1 : Nat) : ℕ∞) ≤ (max cap 1 : Nat)
    exact_mod_cast Nat.le_max_right cap 1

private theorem account (undisturbed : stint.Undisturbed) (reached : stint.Reaches count past scene) :
    past.1.length = count ∧
      scene.platform.deeds = stint.start.platform.deeds ++ past.1.flatMap Tick.deeds := by
  induction count generalizing past scene with
  | zero =>
    cases reached
    exact ⟨rfl, (List.append_nil _).symm⟩
  | succ count ih =>
    obtain ⟨before, middle, report, after, answers, early, stepped, paused, rfl⟩ := reached.succ
    obtain ⟨length, deeds⟩ := ih early
    obtain ⟨inner, ran, rfl⟩ := Rehearsal.onLoop_eq_ok stepped
    obtain ⟨_, _, made⟩ := (leads_of_ok ran).mp (instruct_leads _)
    have quiet : (Rehearsal.pause stint.config stint.hooks (count + 1)).Emits Event.IsDeedless :=
      .ite (.pure _) (undisturbed.deedless _)
    have still := ((leads_of_ok paused).mp (quiet _)).deeds
    refine ⟨by rw [List.length_append, length]; rfl, ?_⟩
    rw [still, made, deeds, List.flatMap_append, List.append_assoc, List.flatMap_singleton]
    rfl

structure Undue (stint : Stint ε) (count : Nat) : Prop where
  redraw : ∀ earlier ≤ count, ¬stint.RedrawsAt earlier
  cap : (count : ℕ∞) < stint.cap

theorem Undue.earlier {earlier : Nat} (undue : stint.Undue count) (small : earlier ≤ count) :
    stint.Undue earlier where
  redraw first smaller := undue.redraw first (smaller.trans small)
  cap := lt_of_le_of_lt (by exact_mod_cast small) undue.cap

theorem Undue.goesOn {middle : Scene (Rehearsal ε)} {report : Tick}
    (undue : stint.Undue (count + 1)) (reached : stint.Reaches count past scene)
    (made : Rehearsal.onLoop instruct scene = .ok (some report) middle) :
    (stint.caller count).GoesOn report := by
  refine ⟨?_, ?_⟩
  · rw [← Bool.not_eq_true]
    intro asked
    exact undue.redraw (count + 1) (Nat.le_refl _) ⟨_, _, _, _, reached, made, asked⟩
  · rw [← Bool.not_eq_true]
    intro capped
    exact absurd ((isCapped_iff count).mp capped) (not_le.mpr undue.cap)

omit [Engine ε] in
/-- There is fuel left for what follows so many ticks. -/
theorem exists_fuel (stint : Stint ε) (counted : count < Callback.tickLimit) :
    ∃ fuel, Callback.tickLimit - stint.pausesIn count = fuel + 1 := by
  refine Nat.exists_eq_add_one.mpr ?_
  unfold pausesIn
  split <;> omega

section Follow

variable {done : LoopAnswer → Scene (Rehearsal ε) → Prop}
  {failed : Failure → Scene (Rehearsal ε) → Prop} (undisturbed : stint.Undisturbed)
include undisturbed

/-- Followed tick by tick, the callback gets to wherever its stint does. -/
theorem leads_follow (reached : stint.Reaches count past scene)
    (counted : count < Callback.tickLimit) (undue : stint.Undue count) :
    (Rehearsal.follow stint.hooks Callback.tickLimit (stint.caller 0) 0 []).Leads stint.start
        done failed ↔
      (Rehearsal.follow stint.hooks (Callback.tickLimit - stint.pausesIn count) (stint.caller count)
        (stint.pausesIn count) past.2).Leads scene done failed := by
  induction count generalizing past scene with
  | zero =>
    cases reached
    have none : stint.pausesIn 0 = 0 := ite_self 0
    rw [none]
    rfl
  | succ count ih =>
    obtain ⟨before, middle, report, after, answers, early, stepped, paused, rfl⟩ := reached.succ
    rw [ih early (by omega) (undue.earlier (Nat.le_succ count))]
    obtain ⟨fuel, more⟩ := stint.exists_fuel (Nat.lt_of_succ_lt counted)
    have current := (undisturbed.generation count before middle early).symm
    rw [more, Rehearsal.leads_follow_of_goesOn counted current stepped (undue.goesOn early stepped)]
    rw [show (stint.caller count).config.throttle = stint.config.throttle from rfl]
    by_cases free : stint.config.throttle = 0
    · rw [if_pos free]
      rw [Rehearsal.pause, if_pos free] at paused
      cases paused
      rw [List.append_nil, ← more, pausesIn, pausesIn, if_pos free, if_pos free]
      rfl
    · rw [if_neg free]
      rw [Rehearsal.pause, if_neg free] at paused
      rw [pausesIn, if_neg free] at more
      have rest : Callback.tickLimit - (count + 1) = fuel := by omega
      rw [pausesIn, pausesIn, if_neg free, if_neg free, leads_of_ok paused, rest]
      rfl

/-- A breakdown of the engine is that of the callback. -/
theorem follow_of_error {failure : Failure} {after : Scene (Rehearsal ε)}
    (reached : stint.Reaches count past scene) (counted : count < Callback.tickLimit)
    (undue : stint.Undue count) (broke : Rehearsal.onLoop instruct scene = .error failure after)
    (fails : failed failure after) :
    (Rehearsal.follow stint.hooks Callback.tickLimit (stint.caller 0) 0 []).Leads stint.start
      done failed := by
  obtain ⟨fuel, more⟩ := stint.exists_fuel counted
  have current := (undisturbed.generation count past scene reached).symm
  rw [leads_follow undisturbed reached counted undue, more]
  exact Rehearsal.leads_follow_of_error counted current broke fails

/-- A breakdown on the way, be it at a pause, is that of the callback. -/
private theorem follow_of_breaks {failure : Failure} {after : Scene (Rehearsal ε)}
    (broke : stint.BreaksAt count failure after) (counted : count + 1 < Callback.tickLimit)
    (undue : stint.Undue (count + 1)) (fails : failed failure after) :
    (Rehearsal.follow stint.hooks Callback.tickLimit (stint.caller 0) 0 []).Leads stint.start
      done failed := by
  have before := undue.earlier (Nat.le_succ count)
  obtain ⟨past, scene, reached, halfway | ⟨report, middle, stepped, paused⟩⟩ := broke
  · exact follow_of_error undisturbed reached (by omega) before halfway fails
  · obtain ⟨fuel, more⟩ := stint.exists_fuel (Nat.lt_of_succ_lt counted)
    have current := (undisturbed.generation count past scene reached).symm
    have goesOn := undue.goesOn reached stepped
    rw [leads_follow undisturbed reached (by omega) before, more,
      Rehearsal.leads_follow_of_goesOn counted current stepped goesOn]
    rw [show (stint.caller count).config.throttle = stint.config.throttle from rfl]
    by_cases free : stint.config.throttle = 0
    · rw [Rehearsal.pause, if_pos free] at paused
      cases paused
    · rw [Rehearsal.pause, if_neg free] at paused
      rw [if_neg free, pausesIn, if_neg free, leads_of_error paused]
      exact fails

end Follow

/-- As long as there are instructions a stint goes on, or something breaks down. -/
private theorem reaches_or_breaks (count : Nat) (more : ∀ earlier < count, ¬stint.HaltsAt earlier) :
    (∃ past scene, stint.Reaches count past scene) ∨
      ∃ earlier < count, ∃ failure after, stint.BreaksAt earlier failure after := by
  induction count with
  | zero => exact .inl ⟨_, _, rfl⟩
  | succ count ih =>
    obtain ⟨past, scene, reached⟩ | ⟨earlier, small, broke⟩ :=
      ih fun earlier small => more earlier (Nat.lt_succ_of_lt small)
    · cases ran : Rehearsal.onLoop instruct scene with
      | error failure after =>
        exact .inr ⟨count, Nat.lt_succ_self _, failure, after, past, scene, reached, .inl ran⟩
      | ok made middle =>
        cases made with
        | none => exact absurd ⟨past, scene, middle, reached, ran⟩ (more count (Nat.lt_succ_self _))
        | some report =>
          cases paused : Rehearsal.pause stint.config stint.hooks (count + 1) middle with
          | error failure after =>
            exact .inr ⟨count, Nat.lt_succ_self _, failure, after, past, scene, reached,
              .inr ⟨report, middle, ran, paused⟩⟩
          | ok answers after => exact .inl ⟨_, after, reached.add ran paused⟩
    · exact .inr ⟨earlier, Nat.lt_succ_of_lt small, broke⟩

variable {ticks : Nat}

private theorem undue_of_length (length : stint.length = ticks) (small : count < ticks) :
    stint.Undue count := by
  have below : (count : ℕ∞) < ticks := by exact_mod_cast small
  rw [← length, Stint.length, lt_min_iff, lt_min_iff] at below
  refine ⟨fun earlier smaller asked => ?_, below.2.2⟩
  have first : stint.redraw ≤ count := (leastOf_le asked).trans (by exact_mod_cast smaller)
  exact absurd below.1 (not_lt.mpr first)

private theorem not_haltsAt_of_length (length : stint.length = ticks) (small : count < ticks) :
    ¬stint.HaltsAt count := by
  have below : (count : ℕ∞) < ticks := by exact_mod_cast small
  rw [← length, Stint.length, lt_min_iff, lt_min_iff] at below
  exact fun halted => absurd below.2.1 (not_lt.mpr (leastOf_le halted))

/-- A stint that a missing instruction ends is undue to its end. -/
private theorem of_halts (length : stint.length = ticks) (halts : stint.Halts) :
    stint.HaltsAt ticks ∧ stint.Undue ticks := by
  obtain ⟨unasked, uncapped⟩ := halts
  have last : stint.halt = ticks := by
    rw [← length, Stint.length, min_eq_left uncapped.le, min_eq_right unasked.le]
  rw [last] at unasked uncapped
  refine ⟨leastOf_holds last, fun earlier small asked => ?_, uncapped⟩
  have first : stint.redraw ≤ ticks := (leastOf_le asked).trans (by exact_mod_cast small)
  exact absurd unasked (not_lt.mpr first)

/-- Otherwise its last tick asks for a redraw or is the one at the cap. -/
private theorem of_not_halts (length : stint.length = ticks) (goes : ¬stint.Halts) :
    ∃ count, ticks = count + 1 ∧ (stint.RedrawsAt ticks ∨ stint.cap = ticks) := by
  have all : (ticks : ℕ∞) ≤ stint.length := length.ge
  rw [Stint.length, le_min_iff, le_min_iff] at all
  have either : stint.redraw = ticks ∨ stint.cap = ticks := by
    by_contra neither
    obtain ⟨unasked, uncapped⟩ := not_or.mp neither
    have asks := lt_of_le_of_ne all.1 (Ne.symm unasked)
    have caps := lt_of_le_of_ne all.2.2 (Ne.symm uncapped)
    have halts : stint.halt ≤ ticks := by
      by_contra later
      have longer : (ticks : ℕ∞) < stint.length :=
        lt_min_iff.mpr ⟨asks, lt_min_iff.mpr ⟨not_le.mp later, caps⟩⟩
      exact absurd length longer.ne'
    exact goes ⟨lt_of_le_of_lt halts asks, lt_of_le_of_lt halts caps⟩
  cases ticks with
  | zero =>
    rcases either with asked | capped
    · exact (leastOf_holds asked).elim
    · exact absurd (stint.one_le_cap.trans_eq capped) (by decide)
  | succ count => exact ⟨count, rfl, either.imp_left leastOf_holds⟩

/-- What a stint has reached, it has reached by ticks that it reports. -/
theorem Reaches.ticked {earlier : Nat} {before : List Tick × List LoopAnswer}
    {middle : Scene (Rehearsal ε)} (reached : stint.Reaches count past scene)
    (sooner : earlier < count) (early : stint.Reaches earlier before middle) :
    ∃ report after, Rehearsal.onLoop instruct middle = .ok (some report) after ∧ report ∈ past.1 := by
  induction count generalizing past scene with
  | zero => omega
  | succ count ih =>
    obtain ⟨former, last, report, after, answers, here, made, _, rfl⟩ := reached.succ
    by_cases same : earlier = count
    · subst same
      obtain ⟨rfl, rfl⟩ := early.unique here
      exact ⟨report, after, made, List.mem_append_right _ List.mem_cons_self⟩
    · obtain ⟨found, next, ran, member⟩ := ih here (by omega)
      exact ⟨found, next, ran, List.mem_append_left _ member⟩

/-- A stint whose ticks are quiet up to one that asks for a redraw ends with that one. -/
private theorem length_of_redraw (quiet : (Rehearsal.stretch stint.config stint.hooks count).Leads stint.start
      (fun past scene => (∀ report ∈ past.1, report.redraw = false) ∧
        (Rehearsal.onLoop instruct).Leads scene
          (fun made _ => made.any Tick.redraw = true) fun _ _ => False)
      fun _ _ => False)
    (uncapped : (count + 1 : Nat) ≤ stint.cap) :
    stint.length = (count + 1 : Nat) ∧ ¬stint.Halts := by
  cases ran : Rehearsal.stretch stint.config stint.hooks count stint.start with
  | error failure after => exact ((leads_of_error ran).mp quiet).elim
  | ok past scene =>
    obtain ⟨undrawn, asks⟩ := (leads_of_ok ran).mp quiet
    cases stepped : Rehearsal.onLoop instruct scene with
    | error failure after => exact ((leads_of_error stepped).mp asks).elim
    | ok made after =>
      cases made with
      | none => nomatch (leads_of_ok stepped).mp asks
      | some report =>
        have redraw : report.redraw = true := (leads_of_ok stepped).mp asks
        have reached : stint.Reaches count past scene := ran
        have earliest : ∀ position, stint.RedrawsAt position → count + 1 ≤ position := by
          intro position early
          cases position with
          | zero => exact early.elim
          | succ position =>
            obtain ⟨_, middle, other, next, here, again, asked⟩ := early
            by_contra sooner
            obtain ⟨found, _, same, member⟩ := reached.ticked (by omega) here
            cases again.symm.trans same
            exact Bool.false_ne_true ((undrawn _ member).symm.trans asked)
        have halted : (count + 1 : Nat) ≤ stint.halt := by
          refine le_leastOf fun position halted => ?_
          obtain ⟨_, middle, next, here, none⟩ := halted
          by_contra sooner
          by_cases same : position = count
          · subst same
            obtain ⟨_, rfl⟩ := reached.unique here
            cases stepped.symm.trans none
          · obtain ⟨found, _, ticked, _⟩ := reached.ticked (by omega) here
            cases none.symm.trans ticked
        have drawn : stint.redraw = (count + 1 : Nat) :=
          le_antisymm (leastOf_le ⟨past, scene, report, after, reached, stepped, redraw⟩)
            (le_leastOf earliest)
        refine ⟨?_, fun halts => ?_⟩
        · rw [length, drawn, min_eq_left (le_min halted uncapped)]
        · rw [Halts, drawn] at halts
          exact absurd halted (not_le.mpr halts.1)

structure BeginsIn (stint : Stint ε) (scene : Scene (Rehearsal ε)) : Prop where
  running : scene.own.loop.state.running = true
  free : scene.own.loop.state.inFlight = false
  start : stint.start =
    ⟨{ scene.own with loop := scene.own.loop.taken (Format.double.ofInt scene.own.ms) },
      scene.platform⟩

private theorem leads_frame {done : LoopAnswer → Scene (Rehearsal ε) → Prop}
    {failed : Failure → Scene (Rehearsal ε) → Prop} (begins : stint.BeginsIn scene) :
    (Rehearsal.frame stint.config stint.hooks).Leads scene done failed ↔
      (Rehearsal.follow stint.hooks Callback.tickLimit (stint.caller 0) 0 []).Leads stint.start
        done failed := by
  have vacant : (scene.own.loop.state.running && !scene.own.loop.state.inFlight) = true := by
    rw [begins.running, begins.free]
    rfl
  unfold Rehearsal.frame Callback.begin FrameLoop.begin caller
  simp only [leads_bind, leads_own, Rehearsal.leads_onLoop, vacant, if_true, updateState,
    leads_update, leads_pure, begins.start]
  rfl

open Classical in
/-- How often the callback pauses on the way: before every step but the first. -/
noncomputable def pauses (stint : Stint ε) (ticks : Nat) : Nat :=
  stint.pausesIn (if stint.Halts then ticks else ticks - 1)

open Classical in
noncomputable def unanswered (stint : Stint ε) : List Deed :=
  if stint.Halts then [.next false] else []

structure Leaves (stint : Stint ε) (made : List Tick) (due : Scene (Rehearsal ε)) : Prop where
  deeds : due.platform.deeds =
    stint.start.platform.deeds ++ made.flatMap Tick.deeds ++ stint.unanswered
  frames : due.own.loop.state.frames = stint.start.own.loop.state.frames

/-- What a callback comes to that makes so many ticks: how often it paused and what became of the
frame, which was due after them. -/
def Answers (stint : Stint ε) (ticks : Nat) (answer : LoopAnswer) (after : Scene (Rehearsal ε)) :
    Prop :=
  ∃ made due result answers, made.length = ticks ∧ stint.Leaves made due ∧
    answer = .frame result (stint.pauses ticks)
      (if stint.pauses ticks = 0 then 0 else stint.config.throttle) answers ∧
    Rehearsal.Shown due ticks result after

/-- Why a callback comes to nothing that would make so many ticks: something breaks down on the way,
or the tier does when it is to draw the frame. -/
def BreaksDown (stint : Stint ε) (ticks : Nat) (failure : Failure) (after : Scene (Rehearsal ε)) :
    Prop :=
  (∃ count < ticks, stint.BreaksAt count failure after) ∨
    failure = .crashed ∧ ∃ made due, made.length = ticks ∧ stint.Leaves made due ∧
      Showing ⟨due.own.loop, due.platform⟩ (.error .crashed) ⟨after.own.loop, after.platform⟩

/-- Once its last instruction is asked for, the callback answers. -/
theorem follow_answers {made : Option Tick} {middle : Scene (Rehearsal ε)} {reports : List Tick}
    (undisturbed : stint.Undisturbed) (room : ticks < Callback.tickLimit)
    (counted : count < Callback.tickLimit)
    (reached : stint.Reaches count past scene) (undue : stint.Undue count)
    (ran : Rehearsal.onLoop instruct scene = .ok made middle)
    (due : (stint.caller count).Due made ticks) (length : reports.length = ticks)
    (deeds : past.1.flatMap Tick.deeds ++ made.elim [.next false] Tick.deeds =
      reports.flatMap Tick.deeds ++ stint.unanswered)
    (pauses : stint.pauses ticks = stint.pausesIn count) :
    (Rehearsal.follow stint.hooks Callback.tickLimit (stint.caller 0) 0 []).Leads stint.start
      (stint.Answers ticks) (stint.BreaksDown ticks) := by
  obtain ⟨fuel, more⟩ := stint.exists_fuel counted
  have current := (undisturbed.generation count past scene reached).symm
  obtain ⟨inner, stepped, rfl⟩ := Rehearsal.onLoop_eq_ok ran
  obtain ⟨state, _, asked⟩ := (leads_of_ok stepped).mp (instruct_leads _)
  have leaves (due : Scene (Rehearsal ε)) (same : due.own.loop = inner.own)
      (quiet : inner.platform.Extends Event.IsDeedless due.platform) : stint.Leaves reports due := by
    refine ⟨?_, ?_⟩
    · rw [quiet.deeds, asked, (account undisturbed reached).2, List.append_assoc, deeds,
        List.append_assoc]
    · rw [same, state]
      exact undisturbed.frames count past scene reached
  rw [leads_follow undisturbed reached counted undue, more]
  refine (Rehearsal.follow_shows room rfl current ran due).mono ?_ ?_
  · intro answer after shown
    obtain ⟨due, result, same, quiet, rfl, shown⟩ := shown
    refine ⟨reports, due, result, past.2, length, leaves due (by rw [same]) quiet, ?_, shown⟩
    rw [pauses]
    rfl
  · intro failure after broke
    obtain ⟨crashed, due, same, quiet, showing⟩ := broke
    exact .inr ⟨crashed, reports, due, length, leaves due (by rw [same]) quiet, showing⟩

/-- The engine is asked in vain after the last tick. -/
private theorem follow_of_halts (undisturbed : stint.Undisturbed) (length : stint.length = ticks)
    (counted : ticks < Callback.tickLimit) (halts : stint.Halts) :
    (Rehearsal.follow stint.hooks Callback.tickLimit (stint.caller 0) 0 []).Leads stint.start
      (stint.Answers ticks) (stint.BreaksDown ticks) := by
  obtain ⟨⟨past, scene, after, reached, ran⟩, undue⟩ := of_halts length halts
  have made := (account undisturbed reached).1
  refine follow_answers undisturbed counted counted reached undue ran .halted made ?_ ?_
  · rw [unanswered, if_pos halts]
    rfl
  · rw [pauses, if_pos halts]

/-- The last tick is one that asks for a redraw, or the one at the cap. -/
private theorem follow_of_not_halts (undisturbed : stint.Undisturbed) (length : stint.length = ticks)
    (counted : ticks < Callback.tickLimit) (goes : ¬stint.Halts) :
    (Rehearsal.follow stint.hooks Callback.tickLimit (stint.caller 0) 0 []).Leads stint.start
      (stint.Answers ticks) (stint.BreaksDown ticks) := by
  obtain ⟨count, rfl, last⟩ := of_not_halts length goes
  have undue : stint.Undue count := undue_of_length length (Nat.lt_succ_self count)
  have halts : ¬stint.HaltsAt count := not_haltsAt_of_length length (Nat.lt_succ_self count)
  obtain ⟨past, scene, reached⟩ | ⟨earlier, small, failure, after, broke⟩ :=
    stint.reaches_or_breaks count fun earlier small =>
      not_haltsAt_of_length length (Nat.lt_succ_of_lt small)
  · cases ran : Rehearsal.onLoop instruct scene with
    | error failure after =>
      refine follow_of_error undisturbed reached (by omega) undue ran (.inl ?_)
      exact ⟨count, Nat.lt_succ_self count, past, scene, reached, .inl ran⟩
    | ok made after =>
      cases made with
      | none => exact absurd ⟨past, scene, after, reached, ran⟩ halts
      | some report =>
        have due : (stint.caller count).Due (some report) (count + 1) := by
          cases asked : report.redraw with
          | true => exact .redraw asked
          | false =>
            refine .capped asked ((isCapped_iff count).mpr ?_)
            rcases last with ⟨other, again, answer, next, found, stepped, redraw⟩ | capped
            · obtain ⟨rfl, rfl⟩ := reached.unique found
              cases ran.symm.trans stepped
              exact absurd redraw (by simp [asked])
            · exact capped.le
        have length : (past.1 ++ [report]).length = count + 1 := by
          rw [List.length_append, (account undisturbed reached).1]
          rfl
        refine follow_answers undisturbed counted (by omega) reached undue ran due length ?_ ?_
        · rw [unanswered, if_neg goes, List.append_nil, List.flatMap_append, List.flatMap_singleton]
          rfl
        · rw [pauses, if_neg goes, Nat.add_sub_cancel]
  · refine follow_of_breaks undisturbed broke (by omega) ?_ (.inl ?_)
    · exact undue_of_length length (by omega)
    · exact ⟨earlier, by omega, broke⟩

/-- A frame that is shown is on the screen and counted, and the next callback may have it. -/
private theorem shown_counts {due after : Scene (Rehearsal ε)} {report : FrameReport}
    (shown : Rehearsal.Shown due ticks (.ok report) after) :
    report = .presented ticks ∧ due.platform.Displays after.platform ∧
      after.own.loop.state.inFlight = false ∧
      after.own.loop.state.frames = due.own.loop.state.frames + 1 := by
  cases shown with
  | presented showing =>
    cases showing with
    | shown fits ran =>
      have displayed := (leads_of_ok ran).mp (ResourceSet.submit_displays _ _ _)
      exact ⟨rfl, displayed.record rfl, rfl, rfl⟩

/-- Unpaused loops are given a cap, so that a callback ends however the engine goes on. -/
private theorem length_of_unthrottled (stint : Stint ε) (config : stint.config = .ofThrottle 0) :
    stint.length ≤ tickCap ∧ stint.pauses ticks = 0 := by
  constructor
  · have cap : stint.cap = tickCap := by
      rw [Stint.cap, config]
      rfl
    exact (min_le_right _ _).trans ((min_le_right _ _).trans_eq cap)
  · rw [pauses, pausesIn, config]
    exact if_pos rfl

/-- A callback that begins and is not superseded makes exactly as many ticks as it takes to the
first one that asks for a redraw, to the first missing instruction or to the cap, whichever comes
first. Each follows an instruction that was there, and has its beep if it reports one; an
instruction is missing in the end exactly if that is what ended the stint. The callback pauses
between the ticks and before the missing instruction, if the loop is throttled. Then the frame is
uploaded and drawn. If that works it is counted and the next one asked for; no callback comes to
nothing unless something breaks down. A loop that is set up without a throttle has a cap and never
pauses. -/
theorem callback_makes_exactly_its_ticks {stint : Stint ε} {scene : Scene (Rehearsal ε)}
    {ticks : Nat} (begins : stint.BeginsIn scene) (undisturbed : stint.Undisturbed)
    (length : stint.length = ticks) (counted : ticks < Callback.tickLimit) :
    (Rehearsal.frame stint.config stint.hooks).Leads scene
      (fun answer after => ∃ (made : List Tick) (due : Scene (Rehearsal ε))
          (result : Except RenderError FrameReport) (answers : List LoopAnswer),
        made.length = ticks ∧
        due.platform.deeds =
          scene.platform.deeds ++ made.flatMap Tick.deeds ++ stint.unanswered ∧
        answer = .frame result (stint.pauses ticks)
          (if stint.pauses ticks = 0 then 0 else stint.config.throttle) answers ∧
        Rehearsal.Shown due ticks result after ∧
        ∀ report, result = .ok report → report = .presented ticks ∧
          due.platform.Displays after.platform ∧
          after.own.loop.state.inFlight = false ∧
          after.own.loop.state.frames = scene.own.loop.state.frames + 1)
      (stint.BreaksDown ticks) ∧
    (stint.config = .ofThrottle 0 → stint.length ≤ tickCap ∧ stint.pauses ticks = 0) := by
  have answers : (Rehearsal.follow stint.hooks Callback.tickLimit (stint.caller 0) 0 []).Leads
      stint.start (stint.Answers ticks) (stint.BreaksDown ticks) := by
    by_cases halts : stint.Halts
    · exact follow_of_halts undisturbed length counted halts
    · exact follow_of_not_halts undisturbed length counted halts
  refine ⟨(leads_frame begins).mpr (answers.mono ?_ fun _ _ broke => broke), length_of_unthrottled stint⟩
  intro answer after answered
  obtain ⟨made, due, result, answers, length, leaves, answered, shown⟩ := answered
  have deeds := leaves.deeds
  have frames := leaves.frames
  rw [begins.start] at deeds frames
  refine ⟨made, due, result, answers, length, deeds, answered, shown, ?_⟩
  rintro report rfl
  obtain ⟨presented, displayed, free, count⟩ := shown_counts shown
  exact ⟨presented, displayed, free, by rw [count, frames]; rfl⟩

end Stint

/-- What runs at a pause leaves the loop's state alone, and does none of what the callback does. -/
structure Act.Minds {α : Type} (action : Act (Rehearsal ε) α) : Prop where
  state : action.Respects (·.own.loop.state) .still
  deedless : action.Emits Event.IsDeedless

private theorem Stint.undisturbed_of_minds {stint : Stint ε}
    (minds : ∀ number, (stint.hooks number).Minds) : stint.Undisturbed := by
  suffices still : ∀ count past scene, stint.Reaches count past scene →
      scene.own.loop.state = stint.start.own.loop.state from
    ⟨fun _ _ _ reached => congrArg _ (still _ _ _ reached),
      fun _ _ _ reached => congrArg _ (still _ _ _ reached), fun number => (minds number).deedless⟩
  intro count
  induction count with
  | zero =>
    intro past scene reached
    cases reached
    rfl
  | succ count ih =>
    intro past scene reached
    obtain ⟨before, middle, report, after, answers, early, stepped, paused, _⟩ := reached.succ
    obtain ⟨inner, ran, rfl⟩ := Rehearsal.onLoop_eq_ok stepped
    have same := ((leads_of_ok ran).mp (instruct_leads _)).1
    unfold Rehearsal.pause at paused
    split at paused
    · cases paused
      exact same.trans (ih _ _ early)
    · have still := (leads_of_ok paused).mp ((minds _).state _)
      exact (still.trans same).trans (ih _ _ early)

namespace Act.Minds

variable {α β : Type}

omit [Engine ε]

theorem pure (value : α) : (pure value : Act (Rehearsal ε) α).Minds :=
  ⟨.pure value, .pure value⟩

theorem own : (own : Act (Rehearsal ε) (Rehearsal ε)).Minds :=
  ⟨.own, .own⟩

theorem bind {action : Act (Rehearsal ε) α} {next : α → Act (Rehearsal ε) β}
    (first : action.Minds) (rest : ∀ value, (next value).Minds) : (action >>= next).Minds :=
  ⟨.bind first.state fun value => (rest value).state,
    .bind first.deedless fun value => (rest value).deedless⟩

theorem onSession {action : Act (Session ε) α} (deedless : action.Emits Event.IsDeedless) :
    (Rehearsal.onLoop (FrameLoop.onSession action)).Minds := by
  refine ⟨fun scene => ?_, .bind .own fun _ => .within (onSession_emits deedless)⟩
  unfold FrameLoop.onSession
  simp only [Rehearsal.leads_onLoop, leads_bind, leads_own, leads_within]
  exact .of_forall (fun _ _ => trivial) fun _ _ => trivial

end Act.Minds

namespace Session

variable {κ : Type} [BEq κ]

theorem keyDown_deedless (map : KeyMap κ) (key : κ) :
    (keyDown map key : Act (Session ε) (Option Nat)).Emits Event.IsDeedless := by
  unfold keyDown
  cases map.get? key with
  | none => exact .pure _
  | some binding =>
    exact .bind .own fun _ => .bind (.setOwn _) fun _ =>
      .ite (.bind (.bind .own fun _ => .bind (.emit rfl) fun _ => .setOwn _) fun _ => .pure _) (.pure _)

theorem keyUp_deedless (map : KeyMap κ) (key : κ) :
    (keyUp map key : Act (Session ε) (Option Nat)).Emits Event.IsDeedless := by
  unfold keyUp
  cases map.get? key with
  | none => exact .pure _
  | some binding =>
    exact .bind .own fun _ => .bind (.setOwn _) fun _ =>
      .ite (.bind (.bind .own fun _ => .bind (.emit rfl) fun _ => .setOwn _) fun _ => .pure _) (.pure _)

end Session

def LoopStep.IsKey : LoopStep → Prop
  | keyDown _ | keyUp _ => True
  | _ => False

namespace Rehearsal

private theorem run_minds {step : LoopStep} (key : step.IsKey) :
    (run step : Act (Rehearsal ε) LoopAnswer).Minds := by
  cases step with
  | keyDown name =>
    unfold run
    exact .bind .own fun _ => .bind (.onSession (Session.keyDown_deedless _ _)) fun _ => .pure _
  | keyUp name =>
    unfold run
    exact .bind .own fun _ => .bind (.onSession (Session.keyUp_deedless _ _)) fun _ => .pure _
  | _ => exact key.elim

/-- Keys may go down and up at every pause. -/
private theorem runAll_minds (steps : List LoopStep) (keys : ∀ step ∈ steps, step.IsKey) :
    (runAll steps : Act (Rehearsal ε) (List LoopAnswer)).Minds := by
  induction steps with
  | nil =>
    unfold runAll
    exact .pure _
  | cons step rest ih =>
    unfold runAll
    refine .bind (run_minds (keys step List.mem_cons_self)) fun _ => .bind ?_ fun _ => .pure _
    exact ih fun other inside => keys other (List.mem_cons_of_mem _ inside)

end Rehearsal

def LoopAnswer.report? : LoopAnswer → Option FrameReport
  | frame (.ok report) _ _ _ => some report
  | _ => none

namespace Stint

/-- A loop on a simulated tier whose engine beeps at its first tick and asks for a redraw at its
third. It stays folded, so that it runs in the kernel only. -/
@[irreducible] def opened : Scene (Rehearsal ScriptedEngine) :=
  let script : EngineScript :=
    { dims := ⟨2, 1⟩, size := 2, draws := true
      steps := [.tick { beep := true }, .tick {}, .tick { redraw := true }] }
  let session : Session ScriptedEngine :=
    { engine := .ofScript 1 script, factory := ScriptedEngine.factory [script], made := 1 }
  let renderer : Renderer :=
    { backend := .simulated {}
      resources := some
        { positions := 0, colors := 1, indices := 2, uniforms := 3, texture := 4, sampler := 5
          pipeline := 6, dims := ⟨2, 1⟩ } }
  ⟨{ loop := .ofSession session renderer, keys := KeyMap.ofKeypad ["1", "2"] }, {}⟩

/-- A paced callback on it, with a key that goes down at its first pause and one at its second. -/
def keyed : Stint ScriptedEngine where
  config := {}
  hooks number := Rehearsal.runAll [.keyDown (if number = 1 then "1" else "2")]
  start := ⟨{ opened.own with loop := opened.own.loop.taken (Format.double.ofInt opened.own.ms) },
    opened.platform⟩

private theorem keyed_length : keyed.length = (3 : Nat) ∧ ¬keyed.Halts := by
  refine length_of_redraw ?_ le_top
  decide +kernel

private theorem keyed_runs :
    (Rehearsal.frame keyed.config keyed.hooks).Leads opened
      (fun answer after => answer.report? = some (.presented 3) ∧
        after.own.loop.session.keys = ⟨0b110⟩ ∧
        after.platform.deeds =
          Tick.deeds { beep := true } ++ Tick.deeds {} ++ Tick.deeds { redraw := true } ++
            [.upload, .draw])
      fun _ _ => False := by
  decide +kernel

/-- Both keys are down when the frame is shown, after two pauses. -/
theorem keyed_callback_ticks_thrice :
    keyed.BeginsIn opened ∧ keyed.Undisturbed ∧ keyed.length = (3 : Nat) ∧
      3 < Callback.tickLimit ∧
      (Rehearsal.frame keyed.config keyed.hooks).Leads opened
        (fun answer after => ∃ (made : List Tick) (due : Scene (Rehearsal ScriptedEngine))
            (answers : List LoopAnswer), made.length = 3 ∧
          due.platform.deeds = opened.platform.deeds ++ made.flatMap Tick.deeds ∧
          answer = .frame (.ok (.presented 3)) 2 50 answers ∧
          due.platform.Displays after.platform ∧
          after.own.loop.state.inFlight = false ∧
          after.own.loop.state.frames = opened.own.loop.state.frames + 1 ∧
          after.own.loop.session.keys = ⟨0b110⟩ ∧
          after.platform.deeds =
            Tick.deeds { beep := true } ++ Tick.deeds {} ++ Tick.deeds { redraw := true } ++
              [.upload, .draw])
        fun _ _ => False := by
  obtain ⟨length, goes⟩ := keyed_length
  have begins : keyed.BeginsIn opened := by
    refine ⟨?_, ?_, rfl⟩ <;> decide +kernel
  have undisturbed : keyed.Undisturbed :=
    undisturbed_of_minds fun _ => Rehearsal.runAll_minds _ (by simp [LoopStep.IsKey])
  have counted : 3 < Callback.tickLimit := by decide
  have pauses : keyed.pauses 3 = 2 := by
    rw [Stint.pauses, if_neg goes]
    rfl
  refine ⟨begins, undisturbed, length, counted, ?_⟩
  have answers := (callback_makes_exactly_its_ticks begins undisturbed length counted).1
  refine (answers.and keyed_runs).mono ?_ fun _ _ failed => failed.2
  intro answer after both
  obtain ⟨⟨made, due, result, answers, ticks, deeds, rfl, _, shown⟩, reported, keys, all⟩ := both
  rw [unanswered, if_neg goes, List.append_nil] at deeds
  cases result with
  | error cause => nomatch reported
  | ok report =>
    obtain ⟨rfl, displayed, free, frames⟩ := shown report rfl
    refine ⟨made, due, answers, ticks, deeds, ?_, displayed, free, frames, keys, all⟩
    rw [pauses]
    rfl

end Stint
end FrameViewer
