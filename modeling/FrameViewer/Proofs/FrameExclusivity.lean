import FrameViewer.Proofs.LoopInterleaving
import Mathlib.Data.List.Perm.Basic

/-! At most one callback of a generation has the frame, in whatever order callbacks begin, pause,
go on and end, and whatever is loaded, stopped or torn down between. -/

namespace FrameViewer
open Act

def Suspended.record (member : Suspended) : TurnRecord :=
  ⟨member.number, member.callback.generation⟩

/-- Between two turns of one callback there is none of another callback of its generation. -/
def Unbroken (turns : List TurnRecord) : Prop :=
  ∀ first between last, [first, between, last].Sublist turns → first.number = last.number →
    between.generation = first.generation → between.number = first.number

/-- A list that is found in a longer one by its last member ends with that member. -/
private theorem sublist_concat {α : Type} {part whole : List α} {last : α}
    (within : part.Sublist (whole ++ [last])) :
    part.Sublist whole ∨ ∃ front, part = front ++ [last] ∧ front.Sublist whole := by
  obtain ⟨front, back, rfl, early, late⟩ := List.sublist_append_iff.mp within
  rcases back with _ | ⟨head, tail⟩
  · exact .inl (by simpa using early)
  · have same := late.eq_of_length_le (by simp)
    exact .inr ⟨front, by rw [same], early⟩

variable {ε κ : Type}

namespace Interplay

def held (p : Interplay ε) : List Nat :=
  p.suspended.map (·.callback.generation)

/-- How many callbacks have begun, have not ended and are of the loop's generation. -/
def owners (p : Interplay ε) : Nat :=
  p.suspended.countP (·.callback.generation = p.loop.state.generation)

def records (p : Interplay ε) : List TurnRecord :=
  p.suspended.map Suspended.record ++ p.turns

structure Exclusive (p : Interplay ε) : Prop where
  owned : p.loop.Owned p.held
  numbered : ∀ entry ∈ p.records, entry.number < p.begun
  identified : ∀ entry ∈ p.records, ∀ other ∈ p.records, entry.number = other.number → entry = other
  /-- Since the first turn of a suspended callback no other one of its generation had a turn. -/
  alone : ∀ member ∈ p.suspended, ∀ later, [member.record, later].Sublist p.turns →
    later.generation = member.callback.generation → later = member.record
  unbroken : ∀ entry between, [entry, between, entry].Sublist p.turns →
    between.generation = entry.generation → between = entry

namespace Exclusive

variable {p : Interplay ε} {loop : FrameLoop ε}

theorem ofSession (session : Session ε) (renderer : Renderer) :
    (Interplay.ofSession session renderer).Exclusive where
  owned := .ofSession session renderer
  numbered := nofun
  identified := nofun
  alone := nofun
  unbroken _ _ within := nomatch within

theorem withLoop (exclusive : p.Exclusive) (owned : loop.Owned p.held) (loads : List Bool) :
    { p with loop, loads }.Exclusive :=
  ⟨owned, exclusive.numbered, exclusive.identified, exclusive.alone, exclusive.unbroken⟩

private theorem owners_eq (exclusive : p.Exclusive) :
    p.owners = if p.loop.state.inFlight then 1 else 0 := by
  rw [← exclusive.owned.count_owners, owners, held, List.count, List.countP_map]
  rfl

private theorem unbroken_turns (exclusive : p.Exclusive) : Unbroken p.turns := by
  intro first between last within same generation
  have known : ∀ entry ∈ [first, between, last], entry ∈ p.records := fun entry member =>
    List.mem_append_right _ (within.subset member)
  have returned := exclusive.identified first (known _ (by simp)) last (known _ (by simp)) same
  subst returned
  rw [exclusive.unbroken first between within generation]

theorem joined (exclusive : p.Exclusive) (free : p.loop.state.inFlight = false) (now : Binary)
    {callback : Callback} (fresh : callback.generation = p.loop.state.generation) :
    ({ p with loop := p.loop.taken now }.joined callback).Exclusive := by
  have numbered : ∀ entry ∈ p.records, entry.number < p.begun := exclusive.numbered
  refine ⟨?_, ?_, ?_, ?_, exclusive.unbroken⟩
  · change (p.loop.taken now).Owned (callback.generation :: p.held)
    rw [fresh]
    exact exclusive.owned.take free now
  · intro entry member
    rcases List.mem_cons.mp member with rfl | member
    · exact Nat.lt_succ_self _
    · exact Nat.lt_succ_of_lt (numbered entry member)
  · intro entry member other among same
    rcases List.mem_cons.mp member with rfl | member <;>
      rcases List.mem_cons.mp among with rfl | among
    · rfl
    · exact absurd same (Nat.ne_of_gt (numbered other among))
    · exact absurd same (Nat.ne_of_lt (numbered entry member))
    · exact exclusive.identified entry member other among same
  · intro entrant member later within generation
    rcases List.mem_cons.mp member with rfl | member
    · have turned := List.mem_append_right (p.suspended.map Suspended.record)
        (within.subset List.mem_cons_self)
      exact absurd (numbered _ turned) (Nat.lt_irrefl _)
    · exact exclusive.alone entrant member later within generation

theorem advanced {position : Nat} {member : Suspended} {outcome : Except RenderError Progress}
    [Engine ε] (exclusive : p.Exclusive) (found : p.suspended[position]? = some member)
    (turn : member.callback.Turn p.loop outcome loop) :
    ({ p with loop }.advanced position member outcome).Exclusive := by
  have present := List.mem_of_getElem? found
  obtain ⟨inside, rfl⟩ := List.getElem?_eq_some_iff.mp found
  have former {entrant : Suspended}
      (suspended : entrant ∈ ({ p with loop }.advanced position p.suspended[position] outcome).suspended) :
      ∃ former ∈ p.suspended, former.record = entrant.record := by
    obtain ⟨former, member, same, _⟩ := mem_advanced found turn suspended
    refine ⟨former, member, ?_⟩
    rw [Suspended.record, Suspended.record, same.1, same.2.2]
  have known : ∀ entry ∈ ({ p with loop }.advanced position p.suspended[position] outcome).records,
      entry ∈ p.records := by
    intro entry recorded
    rcases List.mem_append.mp recorded with suspended | turned
    · obtain ⟨entrant, inside, rfl⟩ := List.mem_map.mp suspended
      obtain ⟨old, member, same⟩ := former inside
      exact List.mem_append_left _ (List.mem_map.mpr ⟨old, member, same⟩)
    · rcases List.mem_append.mp turned with earlier | latest
      · exact List.mem_append_right _ earlier
      · rw [List.mem_singleton.mp latest]
        exact List.mem_append_left _ (List.mem_map.mpr ⟨_, present, rfl⟩)
  refine ⟨?_, ?_, ?_, ?_, ?_⟩
  · have order := (List.getElem_cons_eraseIdx_perm inside).map (·.callback.generation)
    have owned := turn.owned (exclusive.owned.perm order.symm)
    simpa [held, Interplay.advanced, Function.comp_def] using owned
  · exact fun entry recorded => exclusive.numbered entry (known entry recorded)
  · exact fun entry recorded other among =>
      exclusive.identified entry (known entry recorded) other (known other among)
  · intro entrant suspended later within generation
    obtain ⟨old, member, same⟩ := former suspended
    have generations := congrArg TurnRecord.generation same
    rw [← same] at within ⊢
    rcases sublist_concat within with earlier | ⟨front, split, _⟩
    · exact exclusive.alone old member later earlier (generation.trans generations.symm)
    · -- The latest turn was for the generation of `old`, so it was the turn of `old` itself.
      obtain ⟨_, rfl⟩ : front = [old.record] ∧ later = p.suspended[position].record := by
        obtain ⟨rfl, last⟩ := List.append_inj' (show [old.record] ++ [later] = _ from split) rfl
        exact ⟨rfl, List.cons.inj last |>.1⟩
      have one := List.inj_on_of_nodup_map exclusive.owned.distinct present member
        (generation.trans generations.symm)
      rw [one]
  · intro entry between within generation
    rcases sublist_concat within with earlier | ⟨front, split, early⟩
    · exact exclusive.unbroken entry between earlier generation
    · obtain ⟨rfl, last⟩ := List.append_inj' (show [entry, between] ++ [entry] = _ from split) rfl
      obtain rfl : entry = p.suspended[position].record := (List.cons.inj last).1
      exact exclusive.alone _ present between early generation

end Exclusive

variable [Engine ε]

theorem Change.exclusive {before after : Interplay ε} (change : before.Change after)
    (exclusive : before.Exclusive) : after.Exclusive := by
  cases change with
  | unchanged => exact exclusive
  | started free fresh turn =>
    have first {member : Suspended} {rest : List Suspended} :
        (member :: rest)[0]? = some member := rfl
    exact (exclusive.joined free _ fresh.1).advanced first turn
  | resumed found turn => exact exclusive.advanced found turn
  | loaded session state =>
    refine exclusive.withLoop (exclusive.owned.restart ?_ ?_ ?_) _
    · rw [state, session]
      exact Nat.lt_succ_self _
    · rw [state]
    · rw [state]
  | unloaded session state _ =>
    refine exclusive.withLoop (exclusive.owned.outdate state ?_) _
    rw [session]
    exact Nat.le_succ _
  | interrupted attended =>
    exact exclusive.withLoop (exclusive.owned.of_sameFrame attended.toSameFrame) _

/-- A callback that finds the loop stopped or the frame taken ends at once and changes nothing at
all. -/
theorem perform_start_of_denied [BEq κ] (scene : Scene (Interplay ε))
    (denied : (scene.own.loop.state.running && !scene.own.loop.state.inFlight) = false)
    (host : Host) (config : LoopConfig) (now : Binary) :
    perform (.start host config now : Move κ) scene =
      .ok (.turned (.ok (.finished .skipped))) scene := by
  apply Leads.eq_ok
  simp only [perform, leads_bind, leads_onLoop]
  refine (FrameLoop.begin_leads host config now _).mono ?_ fun _ _ impossible => impossible
  intro begun inner skipped
  rw [denied, if_neg Bool.false_ne_true] at skipped
  obtain ⟨rfl, rfl⟩ := skipped
  exact ⟨rfl, rfl⟩

private theorem perform_start_of_inFlight [BEq κ] (scene : Scene (Interplay ε))
    (taken : scene.own.loop.state.inFlight = true) (host : Host) (config : LoopConfig)
    (now : Binary) :
    perform (.start host config now : Move κ) scene =
      .ok (.turned (.ok (.finished .skipped))) scene :=
  perform_start_of_denied scene (by rw [taken, Bool.not_true, Bool.and_false]) host config now

/-- However callbacks are begun and resumed, and whatever happens between their turns, the number
of open callbacks of the loop's generation is what the loop says of its frame. No two callbacks of
one generation take turns, and one that begins while the frame is taken ends without a trace. -/
theorem frame_has_at_most_one_owner [BEq κ] (session : Session ε) (renderer : Renderer)
    (platform : Platform) (moves : List (Move κ)) :
    (performAll moves).Leads ⟨.ofSession session renderer, platform⟩
      (fun _ after =>
        after.own.owners = (if after.own.loop.state.inFlight then 1 else 0) ∧
        Unbroken after.own.turns ∧
        (after.own.loop.state.inFlight = true → ∀ host config now,
          perform (.start host config now : Move κ) after =
            .ok (.turned (.ok (.finished .skipped))) after))
      (fun failure _ => failure = .crashed) := by
  have run := performAll_leads (fun _ _ exclusive change => Change.exclusive change exclusive) moves
    ⟨Interplay.ofSession session renderer, platform⟩ (.ofSession session renderer)
  refine run.mono (fun _ after exclusive => ?_) fun _ _ crashed => crashed
  exact ⟨exclusive.owners_eq, exclusive.unbroken_turns, perform_start_of_inFlight after⟩

end Interplay
end FrameViewer
