import FrameViewer.Proofs.TierCounts

/-! One report tells of all tiers that are open together. The books on it list the objects of each
beside those of the others, so they can be read at every instant for what lies outside the tier
that is at work. -/

namespace FrameViewer

namespace Books

/-- What is in order for one tier is entered beside the objects of others, and leaves them. -/
theorem Audited.read_live {most : Nat} {log : List Event} {own all : Books} {others : List ResourceId}
    (audited : own.Audited most log) (beside : all.live = own.live ++ others) :
    (all.read log).live = (own.read log).live ++ others := by
  induction log generalizing own all with
  | nil => exact beside
  | cons event rest ih =>
    refine ih audited.2 ?_
    cases event with
    | handedOut tier id object => exact congrArg (id :: ·) beside
    | takenBack tier id stale =>
      show all.live.erase id = own.live.erase id ++ others
      rw [beside, List.erase_append_left _ audited.1.1]
    | _ => exact beside

end Books

def Event.tried? : Event → Option Tier
  | notice (.trying kind) => some kind
  | _ => none

theorem Event.IsRendering.untried (event : Event) (rendering : event.IsRendering) :
    event.tried? = none := by
  cases event with
  | notice n =>
    cases n with
    | trying tier => rcases rendering with part | part <;> cases part
    | _ => rfl
  | _ => rfl

theorem Notice.unheld (notice : Notice) : (Event.notice notice).part ≠ .holding := by
  cases notice <;> nofun

/-- After that report the objects `others` are live and no more, and so many tiers are open. -/
structure Vacant (others : List ResourceId) (tiers : Nat) (log : List Event) : Prop where
  live : (Books.read {} log).live = others
  count : log.foldl Event.openAfter 0 = tiers

namespace Platform

theorem Extends.live {before after : Platform} (grown : before.Extends (·.part ≠ .holding) after) :
    (Books.read {} after.events.toList).live = (Books.read {} before.events.toList).live := by
  obtain ⟨added, same, unheld⟩ := grown
  rw [same, Books.read_append, (@Books.read_of_unheld 7 _ _ unheld).1]

/-- Notices tell of no object, and open or close no tier. -/
theorem vacant_notice {others : List ResourceId} {tiers : Nat} {platform : Platform}
    (vacant : Vacant others tiers platform.events.toList) (notice : Notice) :
    Vacant others tiers (platform.record (.notice notice)).events.toList := by
  refine ⟨(Extends.record platform notice.unheld).live.trans vacant.live, ?_⟩
  exact (platform.openTiers_notice notice).trans vacant.count

/-- The report went on from an earlier one. Besides the objects `others` at most seven were live at
any instant, and whenever a tier was about to be tried, those and so many tiers were all there
was. -/
structure Sparing (others : List ResourceId) (tiers : Nat) (before after : Platform) : Prop where
  grown : before.events.toList <+: after.events.toList
  few : ∀ log, before.events.toList <+: log → log <+: after.events.toList →
    (Books.read {} log).live.length ≤ others.length + 7
  vacant : ∀ log tier, before.events.toList <+: log →
    log ++ [.notice (.trying tier)] <+: after.events.toList → Vacant others tiers log

namespace Sparing

variable {others : List ResourceId} {tiers : Nat} {before middle after : Platform}

theorem trans (early : Sparing others tiers before middle) (late : Sparing others tiers middle after) :
    Sparing others tiers before after := by
  refine ⟨early.grown.trans late.grown, ?_, ?_⟩
  · intro log since until_
    rcases List.prefix_or_prefix_of_prefix until_ late.grown with first | last
    · exact early.few log since first
    · exact late.few log last until_
  · intro log tier since until_
    rcases List.prefix_or_prefix_of_prefix until_ late.grown with first | last
    · exact early.vacant log tier since first
    · rcases List.prefix_concat_iff.mp last with whole | part
      · exact early.vacant log tier since (whole ▸ List.prefix_refl _)
      · exact late.vacant log tier part until_

/-- Nothing is tried while only such events are added. -/
theorem of_untried (grown : before.Extends (·.tried? = none) after)
    (few : ∀ log, before.events.toList <+: log → log <+: after.events.toList →
      (Books.read {} log).live.length ≤ others.length + 7) : Sparing others tiers before after := by
  obtain ⟨added, same, untried⟩ := grown
  refine ⟨⟨added, same.symm⟩, few, ?_⟩
  rintro log tier ⟨early, rfl⟩ ⟨late, whole⟩
  rw [same, List.append_assoc, List.append_assoc] at whole
  have inside : .notice (.trying tier) ∈ added := by
    rw [← List.append_cancel_left whole]
    simp
  cases untried _ inside

/-- Events that tell of no object leave as many live as there were. -/
theorem of_unheld (vacant : Vacant others tiers before.events.toList)
    (grown : before.Extends (fun event => event.tried? = none ∧ event.part ≠ .holding) after) :
    Sparing others tiers before after := by
  refine of_untried (grown.mono fun _ both => both.1) ?_
  obtain ⟨added, same, unheld⟩ := grown
  rintro log ⟨early, rfl⟩ ⟨late, whole⟩
  rw [same, List.append_assoc] at whole
  have part : ∀ event ∈ early, event.part ≠ .holding := by
    intro event member
    refine (unheld event ?_).2
    rw [← List.append_cancel_left whole]
    exact List.mem_append_left _ member
  rw [Books.read_append, (@Books.read_of_unheld 7 _ _ part).1, vacant.live]
  omega

theorem notice (vacant : Vacant others tiers before.events.toList) {notice : Notice}
    (untried : (Event.notice notice).tried? = none) :
    Sparing others tiers before (before.record (.notice notice)) := by
  exact of_unheld vacant (.record before ⟨untried, notice.unheld⟩)

/-- A tier may be tried when there is nothing else. -/
theorem trying (vacant : Vacant others tiers before.events.toList) (tier : Tier) :
    Sparing others tiers before (before.record (.notice (.trying tier))) := by
  have whole : (before.record (.notice (.trying tier))).events.toList =
      before.events.toList ++ [.notice (.trying tier)] := by simp [Platform.record]
  refine ⟨⟨_, whole.symm⟩, ?_, ?_⟩
  · intro log since until_
    rw [whole] at until_
    have live : (Books.read {} log).live = others := by
      rcases List.prefix_concat_iff.mp until_ with rfl | part
      · rw [Books.read_append]
        exact vacant.live
      · rw [part.eq_of_length_le since.length_le]
        exact vacant.live
    rw [live]
    omega
  · intro log next since until_
    rw [whole] at until_
    have same : log = before.events.toList := by
      apply List.IsPrefix.eq_of_length_le _ since.length_le
      rcases List.prefix_concat_iff.mp until_ with equal | part
      · exact ⟨[], (List.append_nil _).trans (List.append_inj_left' equal rfl)⟩
      · exact (List.prefix_append _ _).trans part
    rw [same]
    exact vacant

end Sparing

section Booked

variable {others live : List ResourceId} {tiers : Nat} {start before after : Platform}
  {backend : Backend} (booked : Booked ⟨7, {}, start⟩ live ⟨backend, after⟩)
  (apart : (Books.read {} start.events.toList).live = others)
include booked apart

/-- The objects of the tier are live beside those that were live before it was acquired. -/
theorem live_of_booked : (Books.read {} after.events.toList).live = live ++ others := by
  obtain ⟨log, same, audited, held, _⟩ := booked
  rw [show after.events.toList = start.events.toList ++ log from same, Books.read_append,
    audited.read_live apart, held]

/-- What one tier does is in order by its own books, and the others do nothing meanwhile. -/
theorem Sparing.of_booked (earlier : start.events.toList <+: before.events.toList)
    (grown : before.Extends (·.tried? = none) after) : Sparing others tiers before after := by
  refine of_untried grown ?_
  obtain ⟨log, same, audited, _, _⟩ := booked
  intro report since until_
  obtain ⟨part, rfl⟩ := earlier.trans since
  have first : part <+: log := by
    rw [show after.events.toList = start.events.toList ++ log from same] at until_
    exact (List.prefix_append_right_inj _).mp until_
  obtain ⟨later, rfl⟩ := first
  have inOrder := (Books.audited_append.mp audited).1
  have few : (Books.read {} part).live.length ≤ 7 := inOrder.length_le (Nat.zero_le _)
  rw [Books.read_append, inOrder.read_live apart, List.length_append]
  have same : (Books.read (⟨7, {}, start⟩ : Audit).start part).live.length =
    (Books.read {} part).live.length := rfl
  omega

end Booked
end Platform
end FrameViewer
