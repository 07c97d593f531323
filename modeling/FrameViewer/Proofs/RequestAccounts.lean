import FrameViewer.Proofs.FrameRequests
import FrameViewer.Proofs.FrameExclusivity
import Mathlib.Algebra.GroupWithZero.Nat

/-! Every frame that is asked for is accounted for by a callback that has ended. The account of a
callback is open while it is suspended and stands at nothing; the turn that ends it settles the
account for good. -/

namespace FrameViewer
open Act

def Answer.ends : Answer → Bool
  | turned outcome => (Callback.rest? outcome).isNone
  | none | loaded _ => false

/-- Whether a callback ended with the move and asks for the next one. -/
def Answer.handsOn : Answer → Bool
  | turned outcome => Callback.handsOn outcome
  | none | loaded _ => false

private theorem Answer.ends_of_handsOn {answer : Answer} (hands : answer.handsOn = true) :
    answer.ends = true := by
  rcases answer with _ | ⟨_ | (_ | _ | report)⟩ | _
  all_goals first
    | rfl
    | exact nomatch hands

namespace Entry

def requests (entry : Entry) : Nat :=
  entry.log.countP Event.isRequest

def requestsOf (entries : List Entry) (number : Nat) : Nat :=
  ((entries.filter (·.caller = some number)).map requests).sum

/-- How often the callback that had its turn in `entry` asked for a frame, all its turns taken
together. -/
def requestsOfCaller (entries : List Entry) (entry : Entry) : Nat :=
  entry.caller.elim entry.requests (requestsOf entries)

private theorem requestsOf_concat (past : List Entry) (entry : Entry) (number : Nat) :
    requestsOf (past ++ [entry]) number =
      requestsOf past number + if entry.caller = some number then entry.requests else 0 := by
  unfold requestsOf
  rw [List.filter_append, List.map_append, List.sum_append]
  by_cases own : entry.caller = some number
  · simp [own]
  · simp [own]

/-- The accounts when `begun` callbacks have begun and those of the numbers `paused` have not
ended. -/
structure Tallied (past : List Entry) (paused : List Nat) (begun : Nat) : Prop where
  fresh : ∀ number, begun ≤ number → requestsOf past number = 0
  unsettled : ∀ number ∈ paused, requestsOf past number = 0
  settled : ∀ entry ∈ past, entry.answer.ends = true → ∀ number, entry.caller = some number →
    number < begun ∧ number ∉ paused ∧ requestsOf past number = entry.requests

namespace Tallied

variable {past : List Entry} {paused : List Nat} {begun : Nat} {entry : Entry}

theorem none : Tallied [] [] 0 :=
  ⟨fun _ _ => rfl, nofun, nofun⟩

theorem joined (tallied : Tallied past paused begun) :
    Tallied past (begun :: paused) (begun + 1) := by
  refine ⟨fun number older => tallied.fresh number (by omega), ?_, ?_⟩
  · intro number among
    rcases List.mem_cons.mp among with rfl | among
    · exact tallied.fresh number (Nat.le_refl _)
    · exact tallied.unsettled number among
  · intro entry inside ended number caller
    obtain ⟨earlier, gone, same⟩ := tallied.settled entry inside ended number caller
    refine ⟨by omega, ?_, same⟩
    intro among
    rcases List.mem_cons.mp among with rfl | among
    · exact Nat.lt_irrefl _ earlier
    · exact gone among

theorem apart (tallied : Tallied past paused begun) (nobody : entry.caller = .none) :
    Tallied (past ++ [entry]) paused begun := by
  have same (number : Nat) : requestsOf (past ++ [entry]) number = requestsOf past number := by
    rw [requestsOf_concat, nobody, if_neg nofun, Nat.add_zero]
  refine ⟨?_, ?_, ?_⟩
  · intro number older
    rw [same, tallied.fresh number older]
  · intro number among
    rw [same, tallied.unsettled number among]
  · intro other inside ended number caller
    rw [same]
    rcases List.mem_append.mp inside with earlier | latest
    · exact tallied.settled other earlier ended number caller
    · rw [List.mem_singleton.mp latest, nobody] at caller
      cases caller

/-- A turn of a suspended callback: it stays suspended and has asked for nothing, or it ends and
its account is what it asked for in that turn. -/
theorem turned {number : Nat} {left : List Nat} (tallied : Tallied past paused begun)
    (known : number ∈ paused) (bounded : number < begun) (caller : entry.caller = some number)
    (among : ∀ other ∈ left, other ∈ paused) (gone : entry.answer.ends = true → number ∉ left)
    (quiet : entry.answer.ends = false → entry.requests = 0) :
    Tallied (past ++ [entry]) left begun := by
  have other {different : Nat} (apart : different ≠ number) :
      requestsOf (past ++ [entry]) different = requestsOf past different := by
    rw [requestsOf_concat, if_neg, Nat.add_zero]
    rw [caller]
    exact fun same => apart (Option.some.inj same).symm
  have own : requestsOf (past ++ [entry]) number = entry.requests := by
    rw [requestsOf_concat, if_pos caller, tallied.unsettled number known, Nat.zero_add]
  refine ⟨?_, ?_, ?_⟩
  · intro newer fresh
    rw [other (by omega), tallied.fresh newer fresh]
  · intro member inside
    by_cases same : member = number
    · subst same
      have going : entry.answer.ends = false := by
        by_contra ended
        exact gone (Bool.not_eq_false _ ▸ ended) inside
      rw [own, quiet going]
    · rw [other same, tallied.unsettled member (among member inside)]
  · intro settled inside ended mine called
    rcases List.mem_append.mp inside with earlier | latest
    · obtain ⟨started, absent, same⟩ := tallied.settled settled earlier ended mine called
      have apart : mine ≠ number := fun same => absent (same ▸ known)
      exact ⟨started, fun inside => absent (among mine inside), by rw [other apart, same]⟩
    · obtain rfl := List.mem_singleton.mp latest
      obtain rfl : number = mine := Option.some.inj (caller.symm.trans called)
      exact ⟨bounded, gone ended, own⟩

end Tallied
end Entry

variable {ε κ : Type}

namespace Interplay

def paused (p : Interplay ε) : List Nat :=
  p.suspended.map (·.number)

theorem Exclusive.paused_bounded {p : Interplay ε} (exclusive : p.Exclusive) {member : Suspended}
    (inside : member ∈ p.suspended) : member.number < p.begun :=
  exclusive.numbered member.record (List.mem_append_left _ (List.mem_map_of_mem inside))

/-- Suspended callbacks of one number are of one generation, and no two are. -/
private theorem Exclusive.paused_nodup {p : Interplay ε} (exclusive : p.Exclusive) : p.paused.Nodup := by
  have distinct := exclusive.owned.distinct
  refine (distinct.of_map _).map_on ?_
  intro first among second inside same
  have known {member : Suspended} (suspended : member ∈ p.suspended) :
      member.record ∈ p.records := List.mem_append_left _ (List.mem_map_of_mem suspended)
  have records := exclusive.identified first.record (known among) second.record (known inside) same
  have generations := congrArg TurnRecord.generation records
  exact List.inj_on_of_nodup_map distinct among inside generations

/-- The numbers that stay after a turn, and that of a callback that ended is not among them. -/
private theorem paused_advanced {p : Interplay ε} {position : Nat} {member : Suspended}
    (found : p.suspended[position]? = some member) (distinct : p.paused.Nodup)
    (outcome : Except RenderError Progress) :
    (∀ number ∈ (p.advanced position member outcome).paused, number ∈ p.paused) ∧
      ((Callback.rest? outcome).isNone = true →
        member.number ∉ (p.advanced position member outcome).paused) := by
  obtain ⟨inside, rfl⟩ := List.getElem?_eq_some_iff.mp found
  have others : (p.suspended.eraseIdx position).map (·.number) ⊆ p.paused :=
    List.map_subset _ (List.eraseIdx_subset)
  constructor
  · intro number among
    unfold paused advanced at among
    rw [List.map_append] at among
    rcases List.mem_append.mp among with going | other
    · obtain ⟨entrant, kept, rfl⟩ := List.mem_map.mp going
      obtain ⟨callback, _, rfl⟩ := List.mem_map.mp kept
      exact List.mem_map.mpr ⟨_, List.getElem_mem inside, rfl⟩
    · exact others other
  · intro ended
    have order := (List.getElem_cons_eraseIdx_perm inside).map (·.number)
    have apart := List.nodup_cons.mp (order.nodup_iff.mpr distinct)
    simpa [paused, advanced, Option.isNone_iff_eq_none.mp ended] using apart.1

variable [Engine ε]

/-- A turn is answered with what it came to, and asks as often as that says. -/
private theorem advance_answers (position : Nat) (scene : Scene (Interplay ε)) :
    (advance position).Leads scene
      (fun answer after =>
        after.platform.requests =
          scene.platform.requests + (if answer.handsOn then 1 else 0) ∧
        match scene.own.suspended[position]? with
        | none => answer = .none ∧ after = scene
        | some member => ∃ outcome loop, answer = .turned outcome ∧
          after.own = { scene.own with loop }.advanced position member outcome)
      (fun failure _ => failure = .crashed) := by
  unfold advance
  rw [leads_bind, leads_own]
  cases scene.own.suspended[position]? with
  | none => exact ⟨rfl, rfl, rfl⟩
  | some member =>
    simp only [leads_bind, leads_attempt, leads_onLoop, leads_update, leads_pure]
    have asked := member.callback.run_asksOnce ⟨scene.own.loop, scene.platform⟩
    refine asked.mono ?_ ?_
    · intro progress after requests
      exact ⟨requests, .ok progress, after.own, rfl, rfl⟩
    · intro failure after requests
      cases failure with
      | crashed => trivial
      | refused cause => exact ⟨requests, .error cause, after.own, rfl, rfl⟩

def Accounted (past : List Entry) (before : Scene (Interplay ε)) (caller : Option Nat)
    (answer : Answer) (after : Scene (Interplay ε)) : Prop :=
  after.platform.requests = before.platform.requests + (if answer.handsOn then 1 else 0) ∧
  ∀ entry : Entry, entry.caller = caller → entry.answer = answer →
    (entry.requests = if answer.handsOn then 1 else 0) →
    Entry.Tallied (past ++ [entry]) after.own.paused after.own.begun

private theorem advance_accounts {past : List Entry} {scene : Scene (Interplay ε)} (position : Nat)
    (exclusive : scene.own.Exclusive)
    (tallied : Entry.Tallied past scene.own.paused scene.own.begun) :
    (advance position).Leads scene
      (Accounted past scene (scene.own.suspended[position]?.map (·.number)))
      (fun failure _ => failure = .crashed) := by
  refine (advance_answers position scene).mono ?_ fun _ _ crashed => crashed
  intro answer after ⟨asked, came⟩
  refine ⟨asked, ?_⟩
  intro entry caller answered requests
  cases found : scene.own.suspended[position]? with
  | none =>
    simp only [found, Option.map_none] at came caller
    rw [came.2]
    exact tallied.apart caller
  | some member =>
    simp only [found, Option.map_some] at came caller
    obtain ⟨outcome, loop, rfl, same⟩ := came
    have present := List.mem_of_getElem? found
    have moved : after.own.paused = (scene.own.advanced position member outcome).paused := by
      rw [same]
      rfl
    obtain ⟨others, gone⟩ := paused_advanced found exclusive.paused_nodup outcome
    rw [same]
    refine tallied.turned (List.mem_map_of_mem present) (exclusive.paused_bounded present) caller
      others ?_ ?_
    · rw [answered]
      exact gone
    · intro going
      rw [answered] at going
      rw [requests, if_neg]
      exact fun hands => Bool.false_ne_true (going.symm.trans (Answer.ends_of_handsOn hands))

theorem perform_accounts [BEq κ] {past : List Entry} {scene : Scene (Interplay ε)} (move : Move κ)
    (exclusive : scene.own.Exclusive)
    (tallied : Entry.Tallied past scene.own.paused scene.own.begun) :
    (perform move).Leads scene (Accounted past scene (scene.own.caller? move))
      (fun failure _ => failure = .crashed) := by
  cases move with
  | start host config now =>
    simp only [perform, leads_bind, leads_onLoop]
    refine (FrameLoop.begin_leads host config now _).mono ?_ fun _ _ impossible => impossible.elim
    intro begun inner taken
    split at taken
    next free =>
      obtain ⟨rfl, rfl⟩ := taken
      have released : scene.own.loop.state.inFlight = false := by
        simpa using (Bool.and_eq_true_iff.mp free).2
      simp only [leads_bind, leads_update]
      rw [caller?, if_pos free]
      let callback : Callback := { generation := scene.own.loop.state.generation, config, host }
      have joined := exclusive.joined released now (show callback.generation = _ from rfl)
      exact advance_accounts 0 joined tallied.joined
    next free =>
      obtain ⟨rfl, rfl⟩ := taken
      refine ⟨rfl, fun entry caller _ _ => tallied.apart ?_⟩
      rw [caller, caller?, if_neg free]
  | resume position => exact advance_accounts position exclusive tallied
  | load rom =>
    simp only [perform, leads_bind, leads_attempt, leads_onLoop, leads_update, leads_pure]
    have unasked := FrameLoop.loadRom_unasked (ε := ε) rom ⟨scene.own.loop, scene.platform⟩
    refine Leads.mono unasked ?_ ?_
    · exact fun _ _ grown => ⟨grown.requests, fun _ caller _ _ => tallied.apart caller⟩
    · intro failure _ grown
      cases failure with
      | crashed => trivial
      | refused cause => exact ⟨grown.requests, fun _ caller _ _ => tallied.apart caller⟩
  | interrupt interruption =>
    simp only [perform, leads_bind, leads_attempt, leads_onLoop, leads_pure]
    have unasked := (interruption.action_emits (ε := ε)).mono Event.IsAttended.isUnasked
    refine Leads.mono (unasked ⟨scene.own.loop, scene.platform⟩) ?_ ?_
    · exact fun _ _ grown => ⟨grown.requests, fun _ caller _ _ => tallied.apart caller⟩
    · intro failure _ grown
      cases failure with
      | crashed => trivial
      | refused cause => exact ⟨grown.requests, fun _ caller _ _ => tallied.apart caller⟩

end Interplay
end FrameViewer
