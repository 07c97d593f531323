import FrameViewer.Proofs.StepCounts

/-! A callback followed from one tick to the next, which is the same whether or not it pauses in
between, up to the instruction with which its frame is due. -/

namespace FrameViewer
open Act FrameLoop

variable {ε : Type} [Engine ε]

namespace Callback

variable {callback : Callback} {scene : Scene (FrameLoop ε)}
  {done : Progress → Scene (FrameLoop ε) → Prop} {failed : Failure → Scene (FrameLoop ε) → Prop}

/-- A turn is a step, and the rest of the turn if the step does not end it. -/
theorem leads_run (counted : callback.ticks < tickLimit) :
    callback.run.Leads scene done failed ↔
      callback.step.Leads scene
        (fun progress after => match progress with
          | .running further =>
            (runFor (tickLimit - (callback.ticks + 1)) further).Leads after done failed
          | progress => done progress after) failed := by
  obtain ⟨fuel, more⟩ : ∃ fuel, tickLimit - callback.ticks = fuel + 1 :=
    Nat.exists_eq_add_one.mpr (by omega)
  have rest : tickLimit - (callback.ticks + 1) = fuel := by omega
  unfold run
  rw [more, rest, runFor, leads_bind]
  refine iff_of_eq (congrArg (Leads callback.step scene · failed) ?_)
  funext progress after
  cases progress <;> rfl

private theorem leads_callbackStep (current : callback.generation = scene.own.state.generation) :
    callback.step.Leads scene done failed ↔
      instruct.Leads scene
        (fun made after => (callback.proceed (outcomeOf made)).Leads after done failed) failed := by
  unfold step
  rw [leads_bind]
  exact leads_step current

def ticked (callback : Callback) : Callback :=
  { callback with ticks := callback.ticks + 1 }

def GoesOn (callback : Callback) (report : Tick) : Prop :=
  report.redraw = false ∧ callback.ticked.isCapped = false

variable {middle : Scene (FrameLoop ε)}

/-- A tick that leaves the frame undue is followed by the next one, at once or after a pause. -/
private theorem leads_run_of_goesOn {report : Tick} (room : callback.ticks + 1 < tickLimit)
    (current : callback.generation = scene.own.state.generation)
    (made : instruct scene = .ok (some report) middle) (goesOn : callback.GoesOn report) :
    callback.run.Leads scene done failed ↔
      if callback.config.throttle = 0 then callback.ticked.run.Leads middle done failed
      else done (.paused callback.ticked) middle := by
  obtain ⟨undue, uncapped⟩ := goesOn
  unfold ticked at uncapped
  rw [leads_run (by omega), leads_callbackStep current, leads_of_ok made]
  simp only [outcomeOf, undue, Bool.false_eq_true, if_false, proceed, leads_bind, counted, if_pos room,
    leads_pure, uncapped]
  rw [leads_ite]
  split <;> rfl

inductive Due (callback : Callback) : Option Tick → Nat → Prop where
  | halted : Due callback none callback.ticks
  | redraw {report : Tick} (due : report.redraw = true) :
      Due callback (some report) (callback.ticks + 1)
  | capped {report : Tick} (undue : report.redraw = false)
      (capped : callback.ticked.isCapped = true) : Due callback (some report) (callback.ticks + 1)

/-- From `scene` on the action shows the frame of `middle`, and asks for the next one. -/
def Presents (host : Host) (ticks : Nat) (middle : Scene (FrameLoop ε))
    (action : Act (FrameLoop ε) Progress) (scene : Scene (FrameLoop ε)) : Prop :=
  action.Leads scene
    (fun progress after => ∃ due shown, due.own = middle.own ∧
      middle.platform.Extends Event.IsDeedless due.platform ∧
      Showing due (.ok ()) shown ∧ progress = .finished (.presented ticks) ∧
      after = ⟨shown.own, shown.platform.record (.frameRequested host)⟩)
    fun failure after => ∃ due, due.own = middle.own ∧
      middle.platform.Extends Event.IsDeedless due.platform ∧ Showing due (.error failure) after

private theorem present_presents (callback : Callback) {due : Scene (FrameLoop ε)}
    (current : callback.generation = due.own.state.generation) (same : due.own = middle.own)
    (quiet : middle.platform.Extends Event.IsDeedless due.platform) :
    Presents callback.host callback.ticks middle callback.present due := by
  unfold Presents present
  simp only [leads_bind, leads_emit, leads_pure]
  refine (present_shows callback.ticks due current).mono ?_ ?_
  · intro report shown both
    obtain ⟨presented, showing⟩ := both
    exact ⟨due, shown, same, quiet, showing, by rw [presented], rfl⟩
  · exact fun _ _ showing => ⟨due, same, quiet, showing⟩

/-- A step that shows the frame is the whole turn. -/
private theorem run_presents_of_step {host : Host} {ticks : Nat} (counted : callback.ticks < tickLimit)
    (presents : Presents host ticks middle callback.step scene) :
    Presents host ticks middle callback.run scene := by
  refine (leads_run counted).mpr (presents.mono ?_ fun _ _ failed => failed)
  intro progress after shown
  obtain ⟨due, last, same, quiet, showing, rfl, rfl⟩ := shown
  exact ⟨due, last, same, quiet, showing, rfl, rfl⟩

/-- The callback shows the frame once it is due. -/
private theorem run_presents {made : Option Tick} {ticks : Nat} (room : ticks < tickLimit)
    (current : callback.generation = scene.own.state.generation)
    (ran : instruct scene = .ok made middle) (same : middle.own.state = scene.own.state)
    (due : callback.Due made ticks) :
    Presents callback.host ticks middle callback.run scene := by
  have before : callback.ticks < tickLimit := by
    cases due <;> omega
  have still : callback.generation = middle.own.state.generation := by rw [current, same]
  refine run_presents_of_step before ((leads_callbackStep current).mpr ((leads_of_ok ran).mpr ?_))
  cases due with
  | halted => exact callback.present_presents still rfl (.refl _)
  | redraw asked =>
    simp only [outcomeOf, asked, if_true, proceed, leads_bind, counted, if_pos room, leads_pure]
    exact callback.ticked.present_presents still rfl (.refl _)
  | capped undue capped =>
    unfold ticked at capped
    simp only [outcomeOf, undue, Bool.false_eq_true, if_false, proceed, leads_bind, counted,
      if_pos room, leads_pure, capped, if_true, leads_notify]
    exact callback.ticked.present_presents still rfl (.record _ rfl)

end Callback

namespace Rehearsal

omit [Engine ε] in
theorem onLoop_eq_ok {α : Type} {action : Act (FrameLoop ε) α} {scene after : Scene (Rehearsal ε)}
    {value : α} (ran : onLoop action scene = .ok value after) :
    ∃ inner, action ⟨scene.own.loop, scene.platform⟩ = .ok value inner ∧
      after = ⟨{ scene.own with loop := inner.own }, inner.platform⟩ := by
  have leads := (leads_onLoop action scene).mp (leads_ran _ scene)
  rw [ran] at leads
  unfold Leads at leads
  cases inside : action ⟨scene.own.loop, scene.platform⟩ with
  | ok found inner =>
    rw [inside] at leads
    cases leads
    exact ⟨inner, rfl, rfl⟩
  | error failure inner =>
    rw [inside] at leads
    cases leads

variable {hooks : Nat → Act (Rehearsal ε) (List LoopAnswer)} {callback : Callback}
  {scene middle : Scene (Rehearsal ε)} {done : LoopAnswer → Scene (Rehearsal ε) → Prop}
  {failed : Failure → Scene (Rehearsal ε) → Prop} {fuel pauses : Nat} {answers : List LoopAnswer}

/-- A tick that leaves the frame undue takes the callback to where it goes on from. -/
theorem leads_follow_of_goesOn {report : Tick} (room : callback.ticks + 1 < Callback.tickLimit)
    (current : callback.generation = scene.own.loop.state.generation)
    (made : onLoop instruct scene = .ok (some report) middle) (goesOn : callback.GoesOn report) :
    (follow hooks (fuel + 1) callback pauses answers).Leads scene done failed ↔
      if callback.config.throttle = 0 then
        (follow hooks (fuel + 1) callback.ticked pauses answers).Leads middle done failed
      else (hooks (pauses + 1)).Leads middle
        (fun further after =>
          (follow hooks fuel callback.ticked (pauses + 1) (answers ++ further)).Leads after done failed)
        failed := by
  obtain ⟨inner, stepped, rfl⟩ := onLoop_eq_ok made
  simp only [follow, leads_bind, leads_attempt, leads_onLoop]
  rw [Callback.leads_run_of_goesOn room current stepped goesOn]
  split
  · rfl
  · simp only [leads_bind]

omit [Engine ε] in
private theorem onLoop_eq_error {α : Type} {action : Act (FrameLoop ε) α}
    {scene after : Scene (Rehearsal ε)} {failure : Failure}
    (ran : onLoop action scene = .error failure after) :
    ∃ inner, action ⟨scene.own.loop, scene.platform⟩ = .error failure inner ∧
      after = ⟨{ scene.own with loop := inner.own }, inner.platform⟩ := by
  have leads := (leads_onLoop action scene).mp (leads_ran _ scene)
  rw [ran] at leads
  unfold Leads at leads
  cases inside : action ⟨scene.own.loop, scene.platform⟩ with
  | ok found inner =>
    rw [inside] at leads
    cases leads
  | error cause inner =>
    rw [inside] at leads
    cases leads
    exact ⟨inner, rfl, rfl⟩

/-- When the engine or its sound breaks down, so does the callback. -/
theorem leads_follow_of_error {failure : Failure} (counted : callback.ticks < Callback.tickLimit)
    (current : callback.generation = scene.own.loop.state.generation)
    (broke : onLoop instruct scene = .error failure middle) (fails : failed failure middle) :
    (follow hooks (fuel + 1) callback pauses answers).Leads scene done failed := by
  obtain ⟨inner, ran, rfl⟩ := onLoop_eq_error broke
  obtain rfl : failure = .crashed := (leads_of_error ran).mp (instruct_leads _)
  simp only [follow, leads_bind, leads_attempt, leads_onLoop]
  rw [Callback.leads_run counted, Callback.leads_callbackStep current, leads_of_error ran]
  exact fails

/-- What has become of a frame that was due in that scene, after so many ticks. -/
inductive Shown (due : Scene (Rehearsal ε)) (ticks : Nat) :
    Except RenderError FrameReport → Scene (Rehearsal ε) → Prop
  | presented {shown : Scene (FrameLoop ε)}
      (showing : Showing ⟨due.own.loop, due.platform⟩ (.ok ()) shown) :
      Shown due ticks (.ok (.presented ticks))
        ⟨{ due.own with loop := shown.own }, shown.platform.record (.frameRequested .display)⟩
  | refused {cause : RenderError} {refused : Scene (FrameLoop ε)}
      (showing : Showing ⟨due.own.loop, due.platform⟩ (.error (.refused cause)) refused) :
      Shown due ticks (.error cause) ⟨{ due.own with loop := refused.own }, refused.platform⟩

/-- The callback of the display shows the frame once it is due, and is at its end. -/
theorem follow_shows {made : Option Tick} {ticks : Nat} (room : ticks < Callback.tickLimit)
    (host : callback.host = .display)
    (current : callback.generation = scene.own.loop.state.generation)
    (ran : onLoop instruct scene = .ok made middle) (due : callback.Due made ticks) :
    (follow hooks (fuel + 1) callback pauses answers).Leads scene
      (fun answer after => ∃ (last : Scene (Rehearsal ε)) (result : Except RenderError FrameReport),
        last.own = middle.own ∧ middle.platform.Extends Event.IsDeedless last.platform ∧
        answer = .frame result pauses (if pauses = 0 then 0 else callback.config.throttle) answers ∧
        Shown last ticks result after)
      (fun failure after => failure = .crashed ∧ ∃ last : Scene (Rehearsal ε),
        last.own = middle.own ∧ middle.platform.Extends Event.IsDeedless last.platform ∧
        Showing ⟨last.own.loop, last.platform⟩ (.error .crashed)
          ⟨after.own.loop, after.platform⟩) := by
  obtain ⟨inner, stepped, rfl⟩ := onLoop_eq_ok ran
  obtain ⟨same, _, _⟩ := (leads_of_ok stepped).mp (instruct_leads _)
  have presents := Callback.run_presents room current stepped same due
  rw [host] at presents
  simp only [follow, leads_bind, leads_attempt, leads_onLoop]
  refine presents.mono ?_ ?_
  · intro progress last presented
    obtain ⟨due, shown, same, quiet, showing, rfl, rfl⟩ := presented
    let last : Scene (Rehearsal ε) := ⟨{ scene.own with loop := due.own }, due.platform⟩
    have moved : Showing ⟨last.own.loop, last.platform⟩ (.ok ()) shown := showing
    exact ⟨last, _, by rw [← same], quiet, rfl, .presented moved⟩
  · intro failure after failed
    obtain ⟨due, same, quiet, showing⟩ := failed
    let last : Scene (Rehearsal ε) := ⟨{ scene.own with loop := due.own }, due.platform⟩
    cases failure with
    | refused cause =>
      have moved : Showing ⟨last.own.loop, last.platform⟩ (.error (.refused cause)) after := showing
      exact ⟨last, _, by rw [← same], quiet, rfl, .refused moved⟩
    | crashed => exact ⟨trivial, last, by rw [← same], quiet, showing⟩

end Rehearsal
end FrameViewer
