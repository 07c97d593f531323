import FrameViewer.Mailbox
import FrameViewer.Proofs.RecordedRuns
import Mathlib.Data.List.Basic

/-! A box over any calls of those who hold it. While a value waits no other is accepted, and the next
take gets it, whoever posts and whoever takes. Each value that is accepted wakes the event loop once,
when it is in the box already. -/

namespace FrameViewer

/-- What is in the box that the first holder and all clones share. -/
def Mailroom.slot? {α : Type} (room : Mailroom α) : Option α :=
  room.boxes.head?.bind Mailbox.slot

namespace HandOver
open Act

variable {α : Type}

inductive Call (α : Type) where
  | clone (holder : Nat)
  | post (holder : Nat) (value : α)
  | take (holder : Nat)

namespace Call

def holder : Call α → Nat
  | clone holder | post holder _ | take holder => holder

def isTake : Call α → Bool
  | take _ => true
  | _ => false

def holdersAfter (holders : Nat) : Call α → Nat
  | clone _ => holders + 1
  | _ => holders

def action : Call α → Act (Mailroom α) (Option α)
  | clone holder => do
    let _ ← Mailroom.clone holder
    return none
  | post holder value => do
    Mailroom.post holder value
    return none
  | take holder => Mailroom.take holder

end Call

/-- Of a call that record tells what was in the box and what was taken out of it. -/
abbrev Record (α : Type) :=
  CallRecord (Call α) (Option α) (Option α)

def attendAll (calls : List (Call α)) : Act (Mailroom α) (List (Record α)) :=
  calls.mapM (record (·.own.slot?) Call.action)

/-- Every call is made by a holder that is there by then. -/
def Known (holders : Nat) : List (Call α) → Prop
  | [] => True
  | call :: rest =>
    call.holder < holders ∧ Known (call.holdersAfter holders) rest

namespace Record

def accepted (record : Record α) : Option α :=
  if record.before.isNone then record.after else none

private theorem eq_of_accepted {record : Record α} {value : α} (accepted : record.accepted = some value) :
    record.before = none ∧ record.after = some value := by
  rw [Record.accepted] at accepted
  split at accepted
  next empty => exact ⟨Option.isNone_iff_eq_none.mp empty, accepted⟩
  · cases accepted

inductive Lawful : Record α → Prop where
  | cloned (holder : Nat) (slot : Option α) : Lawful ⟨.clone holder, slot, slot, none, []⟩
  | accepted (holder : Nat) (value : α) :
      Lawful ⟨.post holder value, none, some value, none, [.nudge]⟩
  | rejected (holder : Nat) (value waiting : α) :
      Lawful ⟨.post holder value, some waiting, some waiting, none, []⟩
  | taken (holder : Nat) (slot : Option α) : Lawful ⟨.take holder, slot, none, slot, []⟩

end Record

/-- A value was accepted and no take came since. -/
def Waits (past : List (Record α)) (value : α) : Prop :=
  ∃ early record late, past = early ++ record :: late ∧ record.accepted = some value ∧
    ∀ later ∈ late, later.call.isTake = false

/-- What the calls came to that found the box empty and left that in it. -/
structure HandsOver (calls : List (Call α)) (records : List (Record α)) (last : Option α) : Prop where
  calls : records.map CallRecord.call = calls
  accepted_iff : ∀ past record future holder value, records = past ++ record :: future →
    record.call = .post holder value →
    (record.accepted = some value ↔ ∀ waiting, ¬ Waits past waiting)
  posted : ∀ record ∈ records, ∀ value, record.accepted = some value →
    ∃ holder, record.call = .post holder value
  taken_iff : ∀ past record future value, records = past ++ record :: future →
    (record.answer = some value ↔ record.call.isTake = true ∧ Waits past value)
  /-- A value waits alone. -/
  alone : ∀ early record late future value, records = early ++ record :: (late ++ future) →
    record.accepted = some value → (∀ later ∈ late, later.call.isTake = false) →
    ∀ later ∈ late, later.accepted = none
  order : records.filterMap CallRecord.answer ++ last.toList = records.filterMap Record.accepted
  nudges : records.flatMap CallRecord.log = (records.filterMap Record.accepted).map fun _ => .nudge
  nudged : ∀ record ∈ records, record.log = record.accepted.toList.map fun _ => .nudge
  /-- Whatever wakes the taker begins when the value is in the box. -/
  woken : ∀ record ∈ records, ∀ value, record.accepted = some value → ∀ wake platform,
    Mailbox.postWith wake value ⟨⟨record.before⟩, platform⟩ = wake ⟨⟨some value⟩, platform⟩
  /-- While a value waits, a nudge came after all takes that got one. -/
  awake : ∀ past future value, records = past ++ future → Waits past value →
    ∃ early record late, past = early ++ record :: late ∧ .nudge ∈ record.log ∧
      ∀ later ∈ record :: late, later.answer = none

section Rooms

def shared (holders : Nat) (slot : Option α) : Mailroom α :=
  ⟨[⟨slot⟩], List.replicate holders 0⟩

variable {holders holder : Nat} {slot : Option α} {platform : Platform} {β : Type}
  {failed : Failure → Scene (Mailroom α) → Prop}

private theorem shared_holders (inside : holder < holders) :
    (shared holders slot).holders[holder]? = some 0 := by
  simp [shared, inside]

private theorem shared_holders_outside (outside : holders ≤ holder) :
    (shared holders slot).holders[holder]? = none := by
  simp [shared, outside]

private theorem onBox_leads {done : β → Scene (Mailroom α) → Prop} (inside : holder < holders)
    (action : Act (Mailbox α) β) :
    (Mailroom.onBox holder action).Leads ⟨shared holders slot, platform⟩ done failed ↔
      action.Leads ⟨⟨slot⟩, platform⟩
        (fun value inner => done value ⟨shared holders inner.own.slot, inner.platform⟩)
        (fun failure inner => failed failure ⟨shared holders inner.own.slot, inner.platform⟩) := by
  simp only [Mailroom.onBox, leads_bind, leads_own, shared_holders inside, leads_checked, leads_within]
  rfl

private theorem onBox_leads_outside {done : β → Scene (Mailroom α) → Prop} (outside : holders ≤ holder)
    (action : Act (Mailbox α) β) :
    (Mailroom.onBox holder action).Leads ⟨shared holders slot, platform⟩ done failed ↔
      failed .crashed ⟨shared holders slot, platform⟩ := by
  simp only [Mailroom.onBox, leads_bind, leads_own, shared_holders_outside outside, leads_checked]

private theorem clone_leads {done : Nat → Scene (Mailroom α) → Prop} (inside : holder < holders) :
    (Mailroom.clone holder).Leads ⟨shared holders slot, platform⟩ done failed ↔
      done holders ⟨shared (holders + 1) slot, platform⟩ := by
  simp only [Mailroom.clone, leads_bind, leads_own, shared_holders inside, leads_checked,
    leads_setOwn, leads_pure]
  simp only [shared, List.length_replicate, List.replicate_succ']

private theorem clone_leads_outside {done : Nat → Scene (Mailroom α) → Prop} (outside : holders ≤ holder) :
    (Mailroom.clone holder).Leads ⟨shared holders slot, platform⟩ done failed ↔
      failed .crashed ⟨shared holders slot, platform⟩ := by
  simp only [Mailroom.clone, leads_bind, leads_own, shared_holders_outside outside, leads_checked]

theorem Call.action_leads (call : Call α) :
    call.action.Leads ⟨shared holders slot, platform⟩
      (fun answer after => after.own = shared (call.holdersAfter holders) after.own.slot? ∧
        ∃ log, after.platform.events.toList = platform.events.toList ++ log ∧
          Record.Lawful ⟨call, slot, after.own.slot?, answer, log⟩)
      fun _ _ => holders ≤ call.holder := by
  cases call with
  | clone holder =>
    rw [Call.action, leads_bind]
    rcases Nat.lt_or_ge holder holders with inside | outside
    · rw [clone_leads inside]
      exact ⟨rfl, [], (List.append_nil _).symm, .cloned holder slot⟩
    · rw [clone_leads_outside outside]
      exact outside
  | post holder value =>
    rw [Call.action, leads_bind, Mailroom.post]
    rcases Nat.lt_or_ge holder holders with inside | outside
    · rw [onBox_leads inside, Mailbox.post, Mailbox.postWith, leads_bind, leads_own]
      cases slot with
      | some waiting => exact ⟨rfl, [], (List.append_nil _).symm, .rejected holder value waiting⟩
      | none => exact ⟨rfl, [.nudge], by simp [Platform.record], .accepted holder value⟩
    · rw [onBox_leads_outside outside]
      exact outside
  | take holder =>
    rw [Call.action, Mailroom.take]
    rcases Nat.lt_or_ge holder holders with inside | outside
    · rw [onBox_leads inside]
      exact ⟨rfl, [], (List.append_nil _).symm, .taken holder slot⟩
    · rw [onBox_leads_outside outside]
      exact outside

/-- The room is still of that kind, and as far as the calls were known so far they are known on. -/
def Fits (calls rest : List (Call α)) (scene : Scene (Mailroom α)) : Prop :=
  ∃ holders, scene.own = shared holders scene.own.slot? ∧ (Known 1 calls → Known holders rest)

/-- The calls are recorded as the law says. -/
theorem attendAll_leads (calls : List (Call α)) :
    (attendAll calls).Leads ⟨shared 1 none, platform⟩
      (fun records after => Recorded Record.Lawful calls none records after.own.slot?)
      fun _ _ => ¬ Known 1 calls := by
  have start : Fits calls calls (⟨shared 1 none, platform⟩ : Scene (Mailroom α)) := ⟨1, rfl, id⟩
  refine (leads_recordAll Record.Lawful ?_ calls start).mono (fun _ _ both => both.2) fun _ _ unknown => unknown
  intro call rest scene fits
  obtain ⟨room, platform⟩ := scene
  obtain ⟨holders, same, known⟩ := fits
  rw [show room = shared holders room.slot? from same]
  refine call.action_leads.mono (fun answer after done => ?_) fun _ _ outside all => ?_
  · exact ⟨⟨_, done.1, fun all => (known all).2⟩, done.2⟩
  · exact Nat.not_lt.mpr outside (known all).1

end Rooms

section Records

namespace Record.Lawful

variable {record : Record α} {value : α}

/-- Only what was posted into an empty box is accepted. -/
theorem accepted_iff (law : record.Lawful) : record.accepted = some value ↔
    record.before = none ∧ ∃ holder, record.call = .post holder value := by
  cases law with
  | cloned holder slot => cases slot <;> simp [Record.accepted]
  | accepted holder value => simp [Record.accepted]
  | rejected holder value waiting => simp [Record.accepted]
  | taken holder slot => cases slot <;> simp [Record.accepted]

/-- What waits stays until it is taken. -/
private theorem after_of_before (law : record.Lawful) (waiting : record.before = some value)
    (kept : record.call.isTake = false) : record.after = some value := by
  cases law with
  | cloned | rejected => exact waiting
  | accepted => cases waiting
  | taken => cases kept

private theorem answer_eq (law : record.Lawful) :
    record.answer = if record.call.isTake then record.before else none := by
  cases law <;> rfl

/-- What was in the box and what was put in is what was taken and what is left. -/
theorem conserves (law : record.Lawful) :
    record.answer.toList ++ record.after.toList = record.before.toList ++ record.accepted.toList := by
  cases law with
  | cloned holder slot => cases slot <;> simp [Record.accepted]
  | accepted holder value => simp [Record.accepted]
  | rejected holder value waiting => simp [Record.accepted]
  | taken holder slot => cases slot <;> simp [Record.accepted]

private theorem log_eq (law : record.Lawful) :
    record.log = record.accepted.toList.map fun _ => .nudge := by
  cases law with
  | cloned holder slot => cases slot <;> rfl
  | accepted holder value => rfl
  | rejected holder value waiting => rfl
  | taken holder slot => cases slot <;> rfl

end Record.Lawful

variable {records : List (Record α)} {first last : Option α} {value : α}

/-- A value in the box stays there over calls that take nothing. -/
private theorem last_of_first (laws : ∀ record ∈ records, record.Lawful)
    (linked : Linked (some value) records last)
    (kept : ∀ record ∈ records, record.call.isTake = false) : last = some value := by
  have stays : ∀ record ∈ records, record.before = some value → record.after = some value :=
    fun record among waiting => (laws record among).after_of_before waiting (kept record among)
  exact (linked.lasting (· = some value) stays rfl).2

/-- A value in the box was there before and no take came, or was accepted and no take came since. -/
private theorem waits_or_first (laws : ∀ record ∈ records, record.Lawful)
    (linked : Linked first records (some value)) :
    (first = some value ∧ ∀ record ∈ records, record.call.isTake = false) ∨ Waits records value := by
  refine linked.since (· = some value) (fun record among there => ?_) rfl
  have law := laws record among
  cases law with
  | cloned | rejected => exact .inl ⟨there, rfl⟩
  | accepted => exact .inr there
  | taken => cases there

/-- What waits by the records is what is in the box. -/
private theorem waits_iff (laws : ∀ record ∈ records, record.Lawful) (linked : Linked none records last) :
    Waits records value ↔ last = some value := by
  constructor
  · rintro ⟨early, record, late, rfl, accepted, kept⟩
    obtain ⟨middle, -, -, linked⟩ := Linked.append_iff.mp linked
    rw [(Record.eq_of_accepted accepted).2] at linked
    exact last_of_first (fun later among => laws later (by simp [among])) linked kept
  · rintro rfl
    exact (waits_or_first laws linked).resolve_left nofun

/-- What a call finds in the box is what waits by the records before it. -/
theorem before_of_linked {past future : List (Record α)} {record : Record α}
    (laws : ∀ other ∈ past ++ record :: future, other.Lawful)
    (linked : Linked none (past ++ record :: future) last) :
    Waits past value ↔ record.before = some value := by
  obtain ⟨middle, linked, rfl, -⟩ := Linked.append_iff.mp linked
  exact waits_iff (fun other among => laws other (by simp [among])) linked

private theorem nudges_of_nudged
    (nudged : ∀ record ∈ records, record.log = record.accepted.toList.map fun _ => .nudge) :
    records.flatMap CallRecord.log = (records.filterMap Record.accepted).map fun _ => .nudge := by
  rw [List.filterMap_eq_flatMap_toList, List.map_flatMap, List.flatMap_def, List.flatMap_def,
    List.map_congr_left nudged]

private theorem answers_append_last (laws : ∀ record ∈ records, record.Lawful)
    (linked : Linked first records last) :
    records.filterMap CallRecord.answer ++ last.toList =
      first.toList ++ records.filterMap Record.accepted := by
  rw [List.filterMap_eq_flatMap_toList, List.filterMap_eq_flatMap_toList]
  exact linked.conserves fun record among => (laws record among).conserves

private theorem alone_of_linked {early late future : List (Record α)} {record later : Record α}
    (laws : ∀ other ∈ early ++ record :: (late ++ future), other.Lawful)
    (linked : Linked none (early ++ record :: (late ++ future)) last)
    (accepted : record.accepted = some value) (kept : ∀ later ∈ late, later.call.isTake = false)
    (among : later ∈ late) : later.accepted = none := by
  obtain ⟨sooner, further, rfl⟩ := List.append_of_mem among
  have split : early ++ record :: (sooner ++ later :: further ++ future) =
      (early ++ record :: sooner) ++ later :: (further ++ future) := by simp
  rw [split] at laws linked
  have waits : Waits (early ++ record :: sooner) value :=
    ⟨early, record, sooner, rfl, accepted, fun other there => kept other (by simp [there])⟩
  rw [Record.accepted, (before_of_linked laws linked).mp waits]
  rfl

/-- The call that accepted the value nudged, and the calls since were no takes. -/
private theorem awake_of_waits (laws : ∀ record ∈ records, record.Lawful) (waits : Waits records value) :
    ∃ early record late, records = early ++ record :: late ∧ .nudge ∈ record.log ∧
      ∀ later ∈ record :: late, later.answer = none := by
  obtain ⟨early, record, late, rfl, accepted, kept⟩ := waits
  have law := laws record (by simp)
  obtain ⟨-, holder, posted⟩ := law.accepted_iff.mp accepted
  refine ⟨early, record, late, rfl, by simp [law.log_eq, accepted],
    List.forall_mem_cons.mpr ⟨?_, fun later among => ?_⟩⟩
  · rw [law.answer_eq, posted]
    rfl
  · rw [(laws later (by simp [among])).answer_eq, kept later among]
    rfl

private theorem HandsOver.of_linked {calls : List (Call α)} (same : records.map CallRecord.call = calls)
    (laws : ∀ record ∈ records, record.Lawful) (linked : Linked none records last) :
    HandsOver calls records last where
  calls := same
  accepted_iff := by
    rintro past record future holder value rfl posted
    rw [(laws record (by simp)).accepted_iff, posted, Option.eq_none_iff_forall_ne_some]
    simp [before_of_linked laws linked]
  posted record among value accepted := ((laws record among).accepted_iff.mp accepted).2
  taken_iff := by
    rintro past record future value rfl
    rw [before_of_linked laws linked, (laws record (by simp)).answer_eq]
    split <;> simp [*]
  alone := by
    rintro early record late future value rfl accepted kept later among
    exact alone_of_linked laws linked accepted kept among
  order := by simpa using answers_append_last laws linked
  nudges := nudges_of_nudged fun record among => (laws record among).log_eq
  nudged record among := (laws record among).log_eq
  woken := by
    intro record among value accepted wake platform
    rw [(Record.eq_of_accepted accepted).1]
    rfl
  awake := by
    rintro past future value rfl waits
    exact awake_of_waits (fun record among => laws record (by simp [among])) waits

end Records

/-- Whoever posts, takes and clones, and in whatever order: a value is accepted if none waits, goes to
the next take and to no other, and has the event loop nudged once. Only a call by a holder that is not
there breaks down. -/
theorem accepted_values_go_to_next_take (calls : List (Call α)) (platform : Platform) :
    (attendAll calls).Leads ⟨{}, platform⟩
      (fun records after => HandsOver calls records after.own.slot?)
      fun _ _ => ¬ Known 1 calls := by
  have ran : (attendAll calls).Leads ⟨shared 1 none, platform⟩ _ _ := attendAll_leads calls
  refine ran.mono (fun records after recorded => ?_) fun _ _ unknown => unknown
  exact .of_linked recorded.calls recorded.lawful recorded.linked

end HandOver
end FrameViewer
