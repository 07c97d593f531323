import FrameViewer.Proofs.RequestAccounts
import FrameViewer.Proofs.StaleCallbacks

/-! A callback that was suspended when a program was loaded never does anything again but end. Its
number and its generation stay with it, and generations only rise. -/

namespace FrameViewer
open Act

variable {ε κ : Type}

namespace Interplay

/-- What is kept of an interplay later on: no callback of an earlier number appears anew, and
generations only rise. -/
structure Later (before after : Interplay ε) : Prop where
  begun : before.begun ≤ after.begun
  generation : before.loop.state.generation ≤ after.loop.state.generation
  members : ∀ member ∈ after.suspended, before.begun ≤ member.number ∨
    ∃ former ∈ before.suspended, former.record = member.record

theorem Later.refl (p : Interplay ε) : p.Later p :=
  ⟨Nat.le_refl _, Nat.le_refl _, fun member inside => .inr ⟨member, inside, rfl⟩⟩

theorem Later.trans {first second third : Interplay ε} (early : first.Later second)
    (late : second.Later third) : first.Later third := by
  refine ⟨Nat.le_trans early.begun late.begun,
    Nat.le_trans early.generation late.generation, ?_⟩
  intro member inside
  rcases late.members member inside with newer | ⟨former, present, same⟩
  · exact .inl (Nat.le_trans early.begun newer)
  · rw [← same, show member.number = former.number from congrArg TurnRecord.number same.symm]
    exact early.members former present

variable [Engine ε]

theorem Later.advanced {p q : Interplay ε} {loop : FrameLoop ε} {position : Nat}
    {member : Suspended} {outcome : Except RenderError Progress} (later : p.Later q)
    (found : q.suspended[position]? = some member)
    (turn : member.callback.Turn q.loop outcome loop) :
    p.Later ({ q with loop }.advanced position member outcome) := by
  refine ⟨later.begun, ?_, ?_⟩
  · exact Nat.le_trans later.generation (Nat.le_of_eq turn.kept.generation.symm)
  · intro entrant inside
    obtain ⟨former, present, same, _⟩ := mem_advanced found turn inside
    have record : former.record = entrant.record := by
      rw [Suspended.record, Suspended.record, same.1, same.2.2]
    rw [← record, ← same.1]
    exact later.members former present

theorem Change.later {before after : Interplay ε} (change : before.Change after)
    (exclusive : before.Exclusive) : before.Later after := by
  have behind := exclusive.owned.behind
  cases change with
  | unchanged => exact .refl before
  | @started callback now outcome loop free fresh turn =>
    have joined : before.Later ({ before with loop := before.loop.taken now }.joined callback) := by
      refine ⟨Nat.le_succ _, Nat.le_refl _, ?_⟩
      intro member inside
      rcases List.mem_cons.mp inside with rfl | inside
      · exact .inl (Nat.le_refl _)
      · exact .inr ⟨member, inside, rfl⟩
    have first {member : Suspended} {rest : List Suspended} :
        (member :: rest)[0]? = some member := rfl
    exact joined.advanced first turn
  | resumed found turn => exact (Later.refl before).advanced found turn
  | loaded session state =>
    refine ⟨Nat.le_refl _, ?_, (Later.refl before).members⟩
    rw [state, session]
    exact Nat.le_succ_of_le behind
  | unloaded _ state _ =>
    exact ⟨Nat.le_refl _, Nat.le_of_eq (congrArg LoopState.generation state.symm),
      (Later.refl before).members⟩
  | interrupted attended =>
    exact ⟨Nat.le_refl _, Nat.le_of_eq attended.generation.symm, (Later.refl before).members⟩


omit [Engine ε] in
/-- A callback of a number that was suspended before the load that worked is not of the loop's
generation any more. -/
theorem Later.stale {before loaded last : Interplay ε} (later : loaded.Later last)
    (exclusive : before.Exclusive) (begun : loaded.begun = before.begun)
    (suspended : loaded.suspended = before.suspended)
    (newer : before.loop.session.generation < loaded.loop.state.generation)
    {member found : Suspended} (paused : member ∈ before.suspended) (inside : found ∈ last.suspended)
    (same : found.number = member.number) :
    found.callback.generation ≠ last.loop.state.generation := by
  have earlier := exclusive.paused_bounded paused
  rcases later.members found inside with fresh | ⟨former, present, record⟩
  · omega
  · rw [suspended] at present
    have older : former.callback.generation ≤ before.loop.state.generation :=
      exclusive.owned.bounded _ (List.mem_map.mpr ⟨former, present, rfl⟩)
    have generation : former.callback.generation = found.callback.generation :=
      congrArg TurnRecord.generation record
    have behind := exclusive.owned.behind
    have risen := later.generation
    omega

structure Audited (start : Nat) (past : List Entry) (scene : Scene (Interplay ε)) : Prop where
  exclusive : scene.own.Exclusive
  dated : scene.own.Dated
  tallied : Entry.Tallied past scene.own.paused scene.own.begun
  each : ∀ entry ∈ past, entry.requests = if entry.answer.handsOn then 1 else 0
  total : scene.platform.requests = start + past.countP (·.answer.handsOn)

theorem Audited.enter [BEq κ] {start : Nat} {past : List Entry} {scene : Scene (Interplay ε)}
    (audited : Audited start past scene) (move : Move κ) :
    (enter move).Leads scene (fun entry after => Audited start (past ++ [entry]) after)
      (fun failure _ => failure = .crashed) := by
  have accounts := perform_accounts move audited.exclusive audited.tallied
  have changes := perform_leads move scene
  have both := (changes.and accounts).mono (fun _ _ both => both) fun _ _ crashed => crashed.1
  refine (enter_leads both).mono ?_ fun _ _ crashed => crashed
  intro entry after ⟨caller, ⟨change, asked, tallied⟩, grown⟩
  have requests : entry.requests = if entry.answer.handsOn then 1 else 0 := by
    have counted : after.platform.requests = scene.platform.requests + entry.requests := by
      rw [Platform.requests, grown, List.countP_append]
      rfl
    omega
  refine ⟨change.exclusive audited.exclusive, change.dated audited.exclusive audited.dated,
    tallied entry caller rfl requests, ?_, ?_⟩
  · intro other inside
    rcases List.mem_append.mp inside with earlier | latest
    · exact audited.each other earlier
    · rw [List.mem_singleton.mp latest, requests]
  · rw [asked, audited.total, List.countP_append, List.countP_singleton, Nat.add_assoc]

/-- A run asks for as many frames as callbacks showed a frame or were superseded. Each of these asked
once, over all its turns, and no other one that ended did. A callback that is suspended when a load
works ends the next time it is resumed, whatever happens in between: it leaves a notice, asks for a
frame and does nothing else. -/
theorem requests_add_up_and_stale_callbacks_only_end [BEq κ] (session : Session ε)
    (renderer : Renderer) (platform : Platform) (moves : List (Move κ)) :
    (chronicle moves).Leads ⟨.ofSession session renderer, platform⟩
      (fun entries after =>
        after.platform.requests = platform.requests + entries.countP (·.answer.handsOn) ∧
        (∀ entry ∈ entries, entry.answer.ends = true →
          Entry.requestsOfCaller entries entry = if entry.answer.handsOn then 1 else 0) ∧
        ∀ rom loaded, perform (.load rom : Move κ) after = .ok (.loaded (.ok ())) loaded →
          ∀ member ∈ after.own.suspended, ∀ further : List (Move κ),
            (performAll further).Leads loaded
              (fun _ last => ∀ position found, last.own.suspended[position]? = some found →
                found.number = member.number →
                perform (.resume position : Move κ) last =
                  .ok (.turned (.ok (.finished .superseded)))
                    ⟨last.own.advanced position found (.ok (.finished .superseded)),
                      (last.platform.record
                        (.notice (.frameSuperseded found.callback.generation))).record
                          (.frameRequested found.callback.host)⟩)
              (fun failure _ => failure = .crashed))
      (fun failure _ => failure = .crashed) := by
  have start : Audited platform.requests [] ⟨Interplay.ofSession session renderer, platform⟩ :=
    ⟨.ofSession session renderer, .ofSession session renderer, .none, nofun, rfl⟩
  have kept (move : Move κ) (past : List Entry) (scene : Scene (Interplay ε)) (_ : True)
      (audited : Audited platform.requests past scene) := audited.enter move
  have run := chronicle_leads kept moves (fun _ _ => trivial) [] _ start
  refine run.mono (fun entries after audited => ⟨audited.total, ?_, ?_⟩) fun _ _ crashed => crashed
  · intro entry inside ended
    rw [← audited.each entry inside]
    cases caller : entry.caller with
    | none => rw [Entry.requestsOfCaller, caller, Option.elim_none]
    | some number =>
      rw [Entry.requestsOfCaller, caller, Option.elim_some]
      exact (audited.tallied.settled entry inside ended number caller).2.2
  · intro rom loaded worked member paused further
    have change := (leads_of_ok worked).mp (perform_leads (.load rom : Move κ) after)
    obtain ⟨loop, restarted, _, state, _⟩ :=
      (leads_of_ok worked).mp (perform_load_leads (κ := κ) rom after) rfl
    have begun : loaded.own.begun = after.own.begun := by rw [restarted]
    have suspended : loaded.own.suspended = after.own.suspended := by rw [restarted]
    have newer : after.own.loop.session.generation < loaded.own.loop.state.generation := by
      rw [restarted, state]
      exact Nat.lt_succ_self _
    have kept (before after : Interplay ε)
        (good : before.Exclusive ∧ before.Dated ∧ loaded.own.Later before)
        (change : before.Change after) : after.Exclusive ∧ after.Dated ∧ loaded.own.Later after :=
      ⟨change.exclusive good.1, change.dated good.1 good.2.1,
        good.2.2.trans (change.later good.1)⟩
    have rest := performAll_leads kept further loaded
      ⟨change.exclusive audited.exclusive, change.dated audited.exclusive audited.dated, .refl _⟩
    refine rest.mono (fun _ last ⟨_, dated, later⟩ => ?_) fun _ _ crashed => crashed
    intro position found place same
    have inside := List.mem_of_getElem? place
    have stale := later.stale audited.exclusive begun suspended newer paused inside same
    exact resume_of_stale place (dated.counted found inside) stale

end Interplay
end FrameViewer
