import FrameViewer.Proofs.LoopChronicle
import FrameViewer.Proofs.PictureTurns
import FrameViewer.Proofs.StaleCallbacks

/-! Whatever the schedule, a program is shown picture by picture. The callback that has the frame
stands at the row where the player is; when nobody has it, the player stands at the top of a
picture, so the next callback begins there. -/

namespace FrameViewer
open Act Player

variable {κ : Type} {rom : Bytes} {index row : Nat}

/-- Anything but a key press or a load. Callbacks leave a picture the time that it takes. -/
def Move.IsPlain : Move κ → Prop
  | start _ config _ => config.Roomy
  | load _ | interrupt (.keyDown _ _) => False
  | resume _ | interrupt _ => True

def Answer.isError : Answer → Bool
  | turned (.error _) => true
  | _ => false

def Answer.isShown : Answer → Bool
  | turned (.ok (.finished (.presented _))) => true
  | _ => false

namespace Interplay

/-- An interplay on a loop that has shown `index` frames of the program and has unpacked `row` rows
of the next one. -/
structure Screening (rom : Bytes) (index row : Nat) (p : Interplay Player) : Prop where
  exclusive : p.Exclusive
  counted : ∀ member ∈ p.suspended, member.callback.ticks < Callback.tickLimit
  rolled : p.loop.Rolled rom index row
  owner : ∀ member ∈ p.suspended, member.callback.generation = p.loop.state.generation →
    member.callback.ticks = row ∧ member.callback.config.Roomy
  idle : p.loop.state.inFlight = false → row = 0

namespace Screening

variable {p : Interplay Player} {loop : FrameLoop Player}

theorem withLoop (screening : p.Screening rom index row) (rolled : loop.Rolled rom index row)
    (same : p.loop.SameFrame loop) : { p with loop }.Screening rom index row := by
  have owned := screening.exclusive.owned.of_sameFrame same
  refine ⟨screening.exclusive.withLoop owned p.loads, screening.counted, rolled, ?_, ?_⟩
  · intro member inside current
    exact screening.owner member inside (current.trans same.generation)
  · intro free
    exact screening.idle (same.inFlight.symm.trans free)

/-- A callback takes the free frame at the top of a picture. -/
theorem joined (screening : p.Screening rom index row) (free : p.loop.state.inFlight = false)
    (now : Binary) {callback : Callback} (fresh : callback.generation = p.loop.state.generation)
    (zero : callback.ticks = 0) (roomy : callback.config.Roomy) :
    ({ p with loop := p.loop.taken now }.joined callback).Screening rom index 0 := by
  have top := screening.idle free
  have nobody : p.loop.state.generation ∉ p.held := by
    intro held
    rw [screening.exclusive.owned.taken.mpr held] at free
    cases free
  have rolled := screening.rolled
  rw [top] at rolled
  refine ⟨screening.exclusive.joined free now fresh, ?_, rolled.of_same rfl rfl, ?_, fun _ => rfl⟩
  · intro member inside
    rcases List.mem_cons.mp inside with rfl | inside
    · rw [zero]
      decide
    · exact screening.counted member inside
  · intro member inside current
    rcases List.mem_cons.mp inside with rfl | inside
    · exact ⟨zero, roomy⟩
    · exact absurd (List.mem_map.mpr ⟨member, inside, current⟩) nobody

/-- After a turn the frame is where the callback that had it left it; a stale callback leaves it
where it was. -/
theorem advanced {position later next : Nat} {member : Suspended}
    {outcome : Except RenderError Progress} (screening : p.Screening rom index row)
    (found : p.suspended[position]? = some member)
    (turn : member.callback.Turn p.loop outcome loop) (rolled : loop.Rolled rom later next)
    (moved : member.callback.generation = p.loop.state.generation ∨ next = row)
    (reached : ∀ rest ∈ Callback.rest? outcome,
      rest.ticks = next ∧ rest.config = member.callback.config)
    (idle : loop.state.inFlight = false → next = 0) :
    ({ p with loop }.advanced position member outcome).Screening rom later next := by
  have present := List.mem_of_getElem? found
  have distinct := screening.exclusive.owned.distinct
  have same := turn.kept.generation
  refine ⟨screening.exclusive.advanced found turn, ?_, rolled, ?_, idle⟩
  · intro entrant inside
    obtain ⟨former, among, _, rfl | counted⟩ := mem_advanced found turn inside
    · exact screening.counted former among
    · exact counted
  · intro entrant inside newest
    have current : entrant.callback.generation = p.loop.state.generation := newest.trans same
    rcases List.mem_append.mp inside with going | other
    · obtain ⟨callback, left, rfl⟩ := List.mem_map.mp going
      have left := Option.mem_toList.mp left
      obtain ⟨generation, _⟩ := turn.rest_eq left
      obtain ⟨ticks, config⟩ := reached callback left
      obtain ⟨_, roomy⟩ := screening.owner member present (generation.symm.trans current)
      exact ⟨ticks, config ▸ roomy⟩
    · have among := List.mem_of_mem_eraseIdx other
      obtain mine | unmoved := moved
      · -- Two members of one generation would be one, and the other one is not at that position.
        obtain ⟨bound, rfl⟩ := List.getElem?_eq_some_iff.mp found
        have order := (List.getElem_cons_eraseIdx_perm bound).map (·.callback.generation)
        have apart := (List.nodup_cons.mp (order.nodup_iff.mpr distinct)).1
        exact absurd (List.mem_map.mpr ⟨entrant, other, current.trans mine.symm⟩) apart
      · rw [unmoved]
        exact screening.owner entrant among current

end Screening

inductive Shows (rom : Bytes) (index : Nat) (before : List Mark) :
    Answer → Scene (Interplay Player) → Prop where
  | failed {cause : RenderError} {after : Scene (Interplay Player)} :
      Shows rom index before (.turned (.error cause)) after
  | nothing {row : Nat} {answer : Answer} {after : Scene (Interplay Player)}
      (screening : after.own.Screening rom index row) (unmarked : after.platform.marks = before)
      (unshown : answer.isShown = false) : Shows rom index before answer after
  | frame {after : Scene (Interplay Player)} (screening : after.own.Screening rom (index + 1) 0)
      (marked : after.platform.marks =
        before ++ (cueOf rom index ++ [.frame (frameOf rom index)])) :
      Shows rom index before (.turned (.ok (.finished (.presented (frameTicks rom))))) after

private theorem advance_shows (position : Nat) {scene : Scene (Interplay Player)}
    (screening : scene.own.Screening rom index row) :
    (advance position).Leads scene (Shows rom index scene.platform.marks)
      (fun failure _ => failure = .crashed) := by
  unfold advance
  rw [leads_bind, leads_own]
  cases found : scene.own.suspended[position]? with
  | none => exact .nothing screening rfl rfl
  | some member =>
    have present := List.mem_of_getElem? found
    simp only [leads_bind, leads_attempt, leads_onLoop, leads_update, leads_pure]
    by_cases current : member.callback.generation = scene.own.loop.state.generation
    · obtain ⟨ticks, roomy⟩ := screening.owner member present current
      have rolled := screening.rolled
      rw [← ticks] at rolled
      let inner : Scene (FrameLoop Player) := ⟨scene.own.loop, scene.platform⟩
      have screens := member.callback.run_screens inner current roomy rolled
      have turns := member.callback.run_turns inner
      refine (Leads.and screens turns).mono ?_ ?_
      · intro progress after ⟨screens, turn⟩
        cases screens with
        | unfinished further unmarked reached =>
          have held : scene.own.loop.state.generation ∈ scene.own.held :=
            List.mem_map.mpr ⟨member, present, current⟩
          have taken := screening.exclusive.owned.taken.mpr held
          have busy : after.own.state.inFlight = true := by
            rcases reached with rfl | rfl
            · obtain _ | ⟨_, _, unmoved, _, _⟩ := turn
              rw [unmoved, taken]
            · obtain _ | ⟨_, _, unmoved, _, _⟩ := turn
              rw [unmoved, taken]
          refine .nothing (screening.advanced found turn further (.inl current) ?_ ?_) unmarked ?_
          · rcases reached with rfl | rfl
            · rintro _ ⟨⟩
              exact ⟨rfl, rfl⟩
            · rintro _ ⟨⟩
              exact ⟨rfl, rfl⟩
          · intro free
            exact absurd (busy.symm.trans free) Bool.noConfusion
          · rcases reached with rfl | rfl <;> rfl
        | shown further marked =>
          exact .frame (screening.advanced found turn further (.inl current) nofun fun _ => rfl) marked
      · intro failure after _
        cases failure with
        | crashed => trivial
        | refused cause => exact .failed
    · have counted := screening.counted member present
      rw [leads_of_ok (member.callback.run_of_stale ⟨scene.own.loop, scene.platform⟩ counted current)]
      refine .nothing (screening.advanced found (.superseded current) screening.rolled (.inr rfl)
        nofun screening.idle) ?_ rfl
      rw [Platform.marks_record, Platform.marks_record]
      simp [Event.mark?]

end Interplay

section Interruptions

variable [BEq κ]

private theorem Session.keyUp_releases {ε : Type} [Engine ε] (map : KeyMap κ) (key : κ)
    (scene : Scene (Session ε)) :
    (keyUp map key).Leads scene
      (fun _ after => after.own.engine = scene.own.engine ∨
        ∃ code, after.own.engine = Engine.unsetKey code scene.own.engine)
      (fun _ _ => False) := by
  unfold keyUp unsetKey reportCall
  cases map.get? key with
  | none => exact .inl rfl
  | some binding =>
    simp only [leads_bind, leads_own, leads_setOwn]
    split
    · simp only [leads_bind, leads_own, leads_emit, leads_setOwn, leads_pure]
      exact .inr ⟨_, rfl⟩
    · exact .inl rfl

/-- Where no key is held, letting one go changes nothing. -/
theorem Player.Played.released {ticks : Nat} {player : Player} (played : Played rom ticks player)
    (code : Nat) : Played rom ticks (Engine.unsetKey code player) := by
  have none : player.keys.bits = 0 := eq_of_beq played.free
  refine ⟨played.program, ?_, played.picture, played.row, played.size, played.pixels⟩
  apply beq_iff_eq.mpr
  change player.keys.bits &&& _ = 0
  rw [none]
  exact BitVec.zero_and

private theorem Interruption.action_rolled (interruption : Interruption κ)
    (plain : (Move.interrupt interruption).IsPlain) (scene : Scene (FrameLoop Player))
    (rolled : scene.own.Rolled rom index row) :
    interruption.action.Leads scene (fun _ after => after.own.Rolled rom index row)
      (fun _ after => after.own.Rolled rom index row) := by
  cases interruption with
  | keyDown map key => exact plain.elim
  | stop => exact rolled.of_same rfl rfl
  | keyUp map key =>
    unfold action FrameLoop.onSession
    simp only [leads_bind, leads_own, leads_within, leads_pure]
    refine (Session.keyUp_releases map key _).mono ?_ fun _ _ impossible => impossible.elim
    intro _ after released
    refine ⟨?_, rolled.below, rolled.empty, rolled.dims⟩
    rcases released with same | ⟨code, same⟩
    · rw [same]
      exact rolled.played
    · rw [same]
      exact rolled.played.released code
  | resize size =>
    unfold action FrameLoop.onRenderer
    simp only [leads_bind, leads_own, leads_within]
    refine (Renderer.resize_leads size _).mono ?_ ?_
    · exact fun _ _ same => rolled.of_same rfl same
    · exact fun _ _ same => rolled.of_same rfl same
  | teardown =>
    unfold action FrameLoop.onRenderer
    simp only [leads_bind, leads_own, leads_within]
    have torn {r : Renderer} (bare : r.resources = none) :
        { scene.own with renderer := r }.Rolled rom index row := by
      refine ⟨rolled.played, rolled.below, rolled.empty, fun set built => ?_⟩
      cases bare.symm.trans built
    exact (Renderer.teardown_leads _).mono (fun _ _ bare => torn bare) fun _ _ bare => torn bare

private theorem Interruption.action_unmarked {ε : Type} [Engine ε] (interruption : Interruption κ) :
    (interruption.action : Act (FrameLoop ε) Unit).Emits Event.IsUnmarked := by
  have engine (event : Event) (part : event.part = .engine) : event.IsUnmarked := by
    cases event with
    | tier _ _ | gpu _ | cued => cases part
    | _ => rfl
  cases interruption with
  | stop => exact .update fun l => { l with state := { l.state with running := false } }
  | keyDown map key =>
    have pressed := (Session.keyDown_emits (ε := ε) map key).mono engine
    exact .bind (FrameLoop.onSession_emits pressed) fun _ => .pure _
  | keyUp map key =>
    have released := (Session.keyUp_emits (ε := ε) map key).mono engine
    exact .bind (FrameLoop.onSession_emits released) fun _ => .pure _
  | resize size => exact FrameLoop.onRenderer_emits (Renderer.resize_unmarked size)
  | teardown => exact FrameLoop.onRenderer_emits Renderer.teardown_unmarked

end Interruptions

namespace Interplay

variable [BEq κ]

theorem perform_shows (move : Move κ) (plain : move.IsPlain) {scene : Scene (Interplay Player)}
    (screening : scene.own.Screening rom index row) :
    (perform move).Leads scene (Shows rom index scene.platform.marks)
      (fun failure _ => failure = .crashed) := by
  cases move with
  | load rom => exact plain.elim
  | resume position => exact advance_shows position screening
  | start host config now =>
    simp only [perform, leads_bind, leads_onLoop]
    refine (FrameLoop.begin_leads host config now _).mono ?_ fun _ _ impossible => impossible.elim
    intro begun inner taken
    split at taken
    next free =>
      obtain ⟨rfl, rfl⟩ := taken
      have released : scene.own.loop.state.inFlight = false := by
        simpa using (Bool.and_eq_true_iff.mp free).2
      let callback : Callback := { generation := scene.own.loop.state.generation, config, host }
      have fresh : callback.generation = scene.own.loop.state.generation := rfl
      have joined := screening.joined released now fresh rfl plain
      simp only [leads_bind, leads_update]
      exact advance_shows 0 joined
    next =>
      obtain ⟨rfl, rfl⟩ := taken
      exact .nothing screening rfl rfl
  | interrupt interruption =>
    simp only [perform, leads_bind, leads_attempt, leads_onLoop, leads_pure]
    let inner : Scene (FrameLoop Player) := ⟨scene.own.loop, scene.platform⟩
    have attended := interruption.action_leads inner
    have rolled := interruption.action_rolled plain inner screening.rolled
    have unmarked := interruption.action_unmarked (ε := Player) inner
    have all := (attended.and rolled).and unmarked
    refine all.mono ?_ ?_
    · intro _ after ends
      obtain ⟨⟨attended, rolled⟩, grown⟩ := ends
      exact .nothing (screening.withLoop rolled attended.toSameFrame) grown.marks rfl
    · intro failure after ends
      obtain ⟨⟨attended, rolled⟩, grown⟩ := ends
      cases failure with
      | crashed => trivial
      | refused cause =>
        exact .nothing (screening.withLoop rolled attended.toSameFrame) grown.marks rfl

end Interplay
end FrameViewer
