import Mathlib.Data.List.Induction
import Mathlib.Data.List.Nodup
import FrameViewer.Graphics.Slots

/-! Numbered storage over any row of requests. The insertions are numbered in order, and what is
found under a number is told by the requests alone: the item of the insertion with that number,
unless that number was removed or all were cleared since. -/

namespace FrameViewer.Slots

variable {α : Type} {slots : Slots α} {number : Nat} {item : α}

/-- Every number stands for one item, and is below those that are to come. -/
structure Numbered (slots : Slots α) : Prop where
  distinct : slots.ids.Nodup
  below : ∀ number ∈ slots.ids, number < slots.next

theorem Numbered.insert (numbered : slots.Numbered) (item : α) : (slots.insert item).2.Numbered := by
  have ids : (slots.insert item).2.ids = slots.ids ++ [slots.next] := by
    simp [Slots.insert, Slots.ids]
  refine ⟨?_, fun other member => ?_⟩
  · rw [ids]
    refine List.nodup_append.mpr ⟨numbered.distinct, by simp, fun early member late last => ?_⟩
    rw [List.mem_singleton.mp last]
    exact Nat.ne_of_lt (numbered.below early member)
  · rw [ids, List.mem_append, List.mem_singleton] at member
    obtain member | rfl := member
    · exact Nat.lt_succ_of_lt (numbered.below other member)
    · exact Nat.lt_succ_self _

theorem Numbered.remove (numbered : slots.Numbered) (number : Nat) :
    (slots.remove number).2.Numbered := by
  have fewer : (slots.remove number).2.ids.Sublist slots.ids := List.filter_sublist.map _
  exact ⟨fewer.nodup numbered.distinct, fun other member => numbered.below other (fewer.subset member)⟩

theorem Numbered.clear (slots : Slots α) : slots.clear.Numbered :=
  ⟨List.nodup_nil, nofun⟩

theorem mem_items_of_get? (found : slots.get? number = some item) : (number, item) ∈ slots.items := by
  obtain ⟨early, late, split, -⟩ := List.lookup_eq_some_iff.mp found
  simp [split]

theorem mem_items_of_insert {entry : Nat × α} (member : entry ∈ (slots.insert item).2.items) :
    entry ∈ slots.items ∨ entry = (slots.next, item) :=
  (List.mem_append.mp member).imp_right List.mem_singleton.mp

theorem mem_items_of_remove {entry : Nat × α} (member : entry ∈ (slots.remove number).2.items) :
    entry ∈ slots.items :=
  List.filter_sublist.subset member

private theorem mem_ids_iff : number ∈ slots.ids ↔ ∃ item, slots.get? number = some item := by
  rw [← Option.isSome_iff_exists, get?, List.lookup_isSome_iff, ids, List.mem_map]
  simp only [beq_iff_eq, eq_comm (b := number)]

private theorem Numbered.get?_next (numbered : slots.Numbered) : slots.get? slots.next = none := by
  rw [← Option.not_isSome_iff_eq_none, Option.isSome_iff_exists, ← mem_ids_iff]
  exact fun member => Nat.lt_irrefl _ (numbered.below _ member)

theorem Numbered.get?_insert (numbered : slots.Numbered) (item : α) (number : Nat) :
    (slots.insert item).2.get? number =
      if number = slots.next then some item else slots.get? number := by
  have looked : (slots.insert item).2.get? number =
      (slots.get? number).or ([(slots.next, item)].lookup number) := List.lookup_append
  rw [looked]
  by_cases newest : number = slots.next
  · rw [if_pos newest, newest, numbered.get?_next]
    simp
  · rw [if_neg newest, List.lookup_cons, beq_false_of_ne newest]
    simp

private theorem get?_remove (slots : Slots α) (number other : Nat) :
    (slots.remove number).2.get? other = if other = number then none else slots.get? other := by
  change (slots.items.filter (·.1 != number)).lookup other = if _ then _ else slots.items.lookup other
  induction slots.items with
  | nil => simp
  | cons entry rest ih =>
    rw [List.lookup_cons]
    by_cases gone : entry.1 = number
    · rw [List.filter_cons_of_neg (by simp [gone]), ih, gone]
      grind
    · rw [List.filter_cons_of_pos (by simp [gone]), List.lookup_cons, ih]
      grind

theorem remove_of_get?_eq_none (missing : slots.get? number = none) :
    (slots.remove number).2 = slots := by
  have kept : slots.items.filter (·.1 != number) = slots.items := by
    refine List.filter_eq_self.mpr fun entry member => ?_
    have apart := List.lookup_eq_none_iff.mp missing entry member
    simpa [bne, BEq.comm] using apart
  rw [Slots.remove, kept]

/-- The item found under a number is all that is removed with it. -/
theorem Numbered.perm_remove (numbered : slots.Numbered) (found : slots.get? number = some item) :
    slots.items.Perm ((number, item) :: (slots.remove number).2.items) := by
  obtain ⟨early, late, split, before⟩ := List.lookup_eq_some_iff.mp found
  have distinct := numbered.distinct
  rw [ids, split, List.map_append, List.map_cons, List.nodup_append, List.nodup_cons] at distinct
  have keptEarly : early.filter (·.1 != number) = early := by
    refine List.filter_eq_self.mpr fun entry member => ?_
    have apart := before entry member
    simpa [bne, BEq.comm] using apart
  have keptLate : late.filter (·.1 != number) = late := by
    refine List.filter_eq_self.mpr fun entry member => ?_
    rw [bne_iff_ne]
    rintro rfl
    exact distinct.2.1.1 (List.mem_map.mpr ⟨entry, member, rfl⟩)
  have rest : (slots.remove number).2.items = early ++ late := by
    rw [Slots.remove, split, List.filter_append, List.filter_cons_of_neg (by simp), keptEarly, keptLate]
  rw [rest, split]
  exact List.perm_middle

inductive Request (α : Type) where
  | insert (item : α)
  | get (number : Nat)
  | remove (number : Nat)
  | clear
  | size

inductive Reply (α : Type) where
  | number (number : Nat)
  | item (found : Option α)
  | done
  | count (size : Nat)

def answer (slots : Slots α) : Request α → Reply α × Slots α
  | .insert item => (.number (slots.insert item).1, (slots.insert item).2)
  | .get number => (.item (slots.get? number), slots)
  | .remove number => (.item (slots.remove number).1, (slots.remove number).2)
  | .clear => (.done, slots.clear)
  | .size => (.count slots.size, slots)

def answerAll (slots : Slots α) : List (Request α) → List (Reply α) × Slots α
  | [] => ([], slots)
  | request :: rest =>
    let (reply, after) := slots.answer request
    let (replies, last) := after.answerAll rest
    (reply :: replies, last)

@[simp] theorem replies_cons (slots : Slots α) (request : Request α) (rest : List (Request α)) :
    (slots.answerAll (request :: rest)).1 =
      (slots.answer request).1 :: ((slots.answer request).2.answerAll rest).1 :=
  rfl

def Reply.number? : Reply α → Option Nat
  | .number number => some number
  | _ => none

namespace Request

def isInsert : Request α → Bool
  | insert _ => true
  | _ => false

def Spares (number : Nat) : Request α → Prop
  | remove other => other ≠ number
  | clear => False
  | _ => True

end Request

def insertions (requests : List (Request α)) : Nat :=
  requests.countP Request.isInsert

private theorem insertions_concat (past : List (Request α)) (request : Request α) :
    insertions (past ++ [request]) = insertions past + if request.isInsert then 1 else 0 := by
  rw [insertions, List.countP_append, List.countP_singleton, insertions]

/-- After these requests the item is stored under the number: it came with the insertion of that
number, and whatever followed has spared it. -/
def Stored (past : List (Request α)) (number : Nat) (item : α) : Prop :=
  ∃ early late, past = early ++ .insert item :: late ∧ number = insertions early + 1 ∧
    ∀ request ∈ late, request.Spares number

inductive Lawful (past : List (Request α)) : Request α → Reply α → Prop where
  | inserted (item : α) : Lawful past (.insert item) (.number (insertions past + 1))
  | read {number : Nat} {found : Option α} (same : ∀ item, found = some item ↔ Stored past number item) :
      Lawful past (.get number) (.item found)
  | removed {number : Nat} {found : Option α}
      (same : ∀ item, found = some item ↔ Stored past number item) :
      Lawful past (.remove number) (.item found)
  | cleared : Lawful past .clear .done
  | counted {numbers : List Nat} (distinct : numbers.Nodup)
      (same : ∀ number, number ∈ numbers ↔ ∃ item, Stored past number item) :
      Lawful past .size (.count numbers.length)

/-- A split of a row with one more element is a split of the row, or is made at that element. -/
private theorem concat_eq_append_cons_iff {β : Type} {row early late : List β} {last middle : β} :
    row ++ [last] = early ++ middle :: late ↔
      late = [] ∧ row = early ∧ last = middle ∨
        ∃ rest, late = rest ++ [last] ∧ row = early ++ middle :: rest := by
  constructor
  · intro split
    obtain rfl | ⟨rest, final, rfl⟩ := late.eq_nil_or_concat'
    · obtain ⟨same, ends⟩ := List.append_inj' split rfl
      exact .inl ⟨rfl, same, List.singleton_injective ends⟩
    · rw [← List.cons_append, ← List.append_assoc] at split
      obtain ⟨same, ends⟩ := List.append_inj' split rfl
      exact .inr ⟨rest, List.singleton_injective ends ▸ rfl, same⟩
  · rintro (⟨rfl, rfl, rfl⟩ | ⟨rest, rfl, rfl⟩) <;> simp

namespace Stored

variable {past : List (Request α)}

theorem le (stored : Stored past number item) : number ≤ insertions past := by
  obtain ⟨early, late, rfl, rfl, -⟩ := stored
  rw [insertions, insertions, List.countP_append, List.countP_cons_of_pos rfl]
  omega

theorem concat {request : Request α} (stored : Stored past number item)
    (spares : request.Spares number) : Stored (past ++ [request]) number item := by
  obtain ⟨early, late, rfl, place, spared⟩ := stored
  refine ⟨early, late ++ [request], by simp, place, fun later member => ?_⟩
  obtain member | last := List.mem_append.mp member
  · exact spared later member
  · exact List.mem_singleton.mp last ▸ spares

private theorem of_concat {request : Request α} (stored : Stored (past ++ [request]) number item) :
    (request = .insert item ∧ number = insertions past + 1) ∨
      Stored past number item ∧ request.Spares number := by
  obtain ⟨early, late, split, place, spared⟩ := stored
  obtain ⟨-, rfl, rfl⟩ | ⟨rest, rfl, rfl⟩ := concat_eq_append_cons_iff.mp split
  · exact .inl ⟨rfl, place⟩
  · exact .inr ⟨⟨early, rest, rfl, place, fun later member => spared later (by simp [member])⟩,
      spared request (by simp)⟩

private theorem concat_iff {request : Request α} (other : request.isInsert = false) :
    Stored (past ++ [request]) number item ↔ Stored past number item ∧ request.Spares number := by
  refine ⟨fun stored => stored.of_concat.resolve_left ?_, fun both => both.1.concat both.2⟩
  rintro ⟨rfl, -⟩
  cases other

private theorem concat_insert_iff {newest : α} : Stored (past ++ [.insert newest]) number item ↔
    if number = insertions past + 1 then newest = item else Stored past number item := by
  split
  next newer =>
    constructor
    · intro stored
      obtain ⟨same, -⟩ | ⟨stored, -⟩ := stored.of_concat
      · injection same
      · exact absurd stored.le (by omega)
    · rintro rfl
      exact ⟨past, [], rfl, newer, nofun⟩
  next older =>
    refine ⟨fun stored => ?_, fun stored => stored.concat trivial⟩
    exact (stored.of_concat.resolve_left fun both => older both.2).1

/-- What was removed does not come back: its number went to an insertion before. -/
private theorem not_after_remove {number : Nat} {item other : α} (stored : Stored past number item)
    (middle : List (Request α)) : ¬ Stored (past ++ .remove number :: middle) number other := by
  induction middle using List.reverseRecOn with
  | nil => exact fun again => (again.of_concat.resolve_left fun both => nomatch both.1).2 rfl
  | append_singleton middle request ih =>
    intro again
    rw [← List.cons_append, ← List.append_assoc] at again
    obtain ⟨-, newest⟩ | ⟨again, -⟩ := again.of_concat
    · have early := stored.le
      have more : insertions past ≤ insertions (past ++ .remove number :: middle) := by
        rw [insertions, insertions, List.countP_append]
        exact Nat.le_add_right _ _
      omega
    · exact ih again

end Stored

private theorem Lawful.number?_eq {past : List (Request α)} {request : Request α} {reply : Reply α}
    (lawful : Lawful past request reply) :
    reply.number? = if request.isInsert then some (insertions past + 1) else none := by
  cases lawful <;> rfl

structure Tells (past : List (Request α)) (slots : Slots α) : Prop where
  numbered : slots.Numbered
  next : slots.next = insertions past + 1
  found : ∀ number item, slots.get? number = some item ↔ Stored past number item

namespace Tells

theorem empty : Tells [] ({} : Slots α) where
  numbered := ⟨List.nodup_nil, nofun⟩
  next := rfl
  found number item := ⟨nofun, fun ⟨early, late, split, _⟩ => by simp at split⟩

variable {past : List (Request α)} (tells : Tells past slots)
include tells

theorem insert (item : α) : Tells (past ++ [.insert item]) (slots.insert item).2 where
  numbered := tells.numbered.insert item
  next := by
    rw [insertions_concat]
    exact congrArg (· + 1) tells.next
  found number other := by
    rw [Stored.concat_insert_iff, tells.numbered.get?_insert, ← tells.next, ← tells.found]
    split <;> simp

theorem remove (number : Nat) : Tells (past ++ [.remove number]) (slots.remove number).2 where
  numbered := tells.numbered.remove number
  next := by
    rw [insertions_concat]
    exact tells.next
  found other item := by
    rw [Stored.concat_iff rfl, get?_remove, ← tells.found, Request.Spares, ne_comm]
    split <;> simp [*]

theorem clear : Tells (past ++ [.clear]) slots.clear where
  numbered := .clear slots
  next := by
    rw [insertions_concat]
    exact tells.next
  found number item := by
    rw [Stored.concat_iff rfl]
    exact ⟨nofun, fun both => both.2.elim⟩

/-- A request that only looks leaves all as it was. -/
theorem look {request : Request α} (other : request.isInsert = false)
    (spares : ∀ number, request.Spares number) : Tells (past ++ [request]) slots where
  numbered := tells.numbered
  next := by
    rw [insertions_concat, other]
    exact tells.next
  found number item := by
    rw [Stored.concat_iff other, tells.found]
    exact (and_iff_left (spares number)).symm

/-- A request is answered by those before it, and is one of them for the next. -/
theorem answer (request : Request α) :
    Lawful past request (slots.answer request).1 ∧ Tells (past ++ [request]) (slots.answer request).2 := by
  cases request with
  | insert item =>
    have place : (slots.answer (.insert item)).1 = .number (insertions past + 1) :=
      congrArg _ tells.next
    exact ⟨place ▸ .inserted item, tells.insert item⟩
  | get number => exact ⟨.read (tells.found number), tells.look rfl fun _ => trivial⟩
  | remove number => exact ⟨.removed (tells.found number), tells.remove number⟩
  | clear => exact ⟨.cleared, tells.clear⟩
  | size =>
    have listed : slots.size = slots.ids.length := (List.length_map ..).symm
    refine ⟨?_, tells.look rfl fun _ => trivial⟩
    change Lawful past .size (.count slots.size)
    rw [listed]
    exact .counted tells.numbered.distinct fun number => by simp only [mem_ids_iff, tells.found]

/-- Every one of the requests is answered by those before it. -/
theorem answerAll (requests : List (Request α)) :
    Tells (past ++ requests) (slots.answerAll requests).2 ∧
      (slots.answerAll requests).1.length = requests.length ∧
      (slots.answerAll requests).1.filterMap Reply.number? =
        List.range' (insertions past + 1) (insertions requests) ∧
      ∀ early request late, requests = early ++ request :: late → ∃ reply,
        (slots.answerAll requests).1[early.length]? = some reply ∧
          Lawful (past ++ early) request reply := by
  induction requests generalizing past slots with
  | nil =>
    refine ⟨?_, rfl, rfl, fun early request late split => by simp at split⟩
    rw [List.append_nil]
    exact tells
  | cons first rest ih =>
    obtain ⟨lawful, after⟩ := tells.answer first
    obtain ⟨last, length, numbers, laws⟩ := ih after
    rw [List.append_assoc] at last
    refine ⟨last, congrArg (· + 1) length, ?_, fun early request late split => ?_⟩
    · rw [replies_cons, List.filterMap_cons, lawful.number?_eq, numbers, insertions_concat]
      cases isInsert : first.isInsert with
      | false => simp [insertions, isInsert]
      | true => simp [insertions, isInsert, List.range'_succ]
    · cases early with
      | nil =>
        obtain ⟨rfl, -⟩ := List.cons.inj split
        refine ⟨_, rfl, ?_⟩
        rw [List.append_nil]
        exact lawful
      | cons second early =>
        obtain ⟨rfl, further⟩ := List.cons.inj split
        obtain ⟨reply, found, law⟩ := laws early request late further
        rw [List.append_assoc] at law
        exact ⟨reply, found, law⟩

end Tells

/-- Replies that the requests alone tell. The numbers given out count up from one, and after an item
was taken out nothing is found under its number. -/
structure Faithful (requests : List (Request α)) (replies : List (Reply α)) : Prop where
  length : replies.length = requests.length
  lawful : ∀ past request future, requests = past ++ request :: future → ∃ reply,
    replies[past.length]? = some reply ∧ Lawful past request reply
  numbers : replies.filterMap Reply.number? = List.range' 1 (insertions requests)
  once : ∀ early middle late number item request,
    requests = early ++ .remove number :: (middle ++ request :: late) →
    replies[early.length]? = some (.item (some item)) →
    request = .get number ∨ request = .remove number →
    replies[early.length + 1 + middle.length]? = some (.item none)

/-- A request for one number leaves what is found under the others. -/
private theorem get?_answer_of_ne {other : Nat} (apart : other ≠ number) {request : Request α}
    (one : request = .get number ∨ request = .remove number) :
    (slots.answer request).2.get? other = slots.get? other := by
  obtain rfl | rfl := one
  · rfl
  · exact (get?_remove slots number other).trans (if_neg apart)

private theorem Faithful.of_lawful {requests : List (Request α)} {replies : List (Reply α)}
    (length : replies.length = requests.length)
    (lawful : ∀ past request future, requests = past ++ request :: future → ∃ reply,
      replies[past.length]? = some reply ∧ Lawful past request reply)
    (numbers : replies.filterMap Reply.number? = List.range' 1 (insertions requests)) :
    Faithful requests replies := by
  refine ⟨length, lawful, numbers, ?_⟩
  intro early middle late number item request split taken again
  obtain ⟨first, found, law⟩ := lawful early _ _ split
  obtain rfl := Option.some.inj (taken.symm.trans found)
  cases law with
  | removed same =>
    have stored := (same item).mp rfl
    have whole : requests = (early ++ .remove number :: middle) ++ request :: late := by simp [split]
    obtain ⟨second, found, law⟩ := lawful _ _ _ whole
    rw [List.length_append, List.length_cons, ← Nat.add_assoc, Nat.add_right_comm] at found
    rw [found]
    obtain rfl | rfl := again <;> cases law
    all_goals
      next found' same =>
        cases found' with
        | none => rfl
        | some other => exact absurd ((same other).mp rfl) (stored.not_after_remove middle)

/-- As long as the numbers fit their word, whatever is asked of an empty storage, and in whatever
order, is answered as the requests before tell. -/
theorem answers_told_by_requests (requests : List (Request α))
    (few : insertions requests ≤ UInt32.size - 2) :
    Faithful requests (({} : Slots α).answerAll requests).1 ∧
      ∀ past future, requests = past ++ future →
        (({} : Slots α).answerAll past).2.next < UInt32.size ∧
        ∀ number other request, other ≠ number → request = .get number ∨ request = .remove number →
          ((({} : Slots α).answerAll past).2.answer request).2.get? other =
            (({} : Slots α).answerAll past).2.get? other := by
  obtain ⟨-, length, numbers, lawful⟩ := Tells.empty.answerAll requests
  refine ⟨.of_lawful length lawful numbers, fun past future split => ⟨?_, ?_⟩⟩
  · have told := (Tells.empty.answerAll past).1.next
    have fewer : insertions past ≤ insertions requests := by
      rw [split, insertions, insertions, List.countP_append]
      exact Nat.le_add_right _ _
    rw [List.nil_append] at told
    have word : UInt32.size = 4294967296 := rfl
    omega
  · exact fun number other request apart one => get?_answer_of_ne apart one

/-- Storage that is emptied one by one and all at once, and filled again. -/
def refilling : List (Request String) :=
  [.insert "a", .insert "b", .remove 1, .clear, .insert "c", .remove 3, .remove 3, .get 1, .size]

theorem answers_told_while_refilling :
    insertions refilling ≤ UInt32.size - 2 ∧
      (({} : Slots String).answerAll refilling).1 =
        [.number 1, .number 2, .item (some "a"), .done, .number 3, .item (some "c"), .item none,
          .item none, .count 0] ∧
      Faithful refilling (({} : Slots String).answerAll refilling).1 := by
  have few : insertions refilling ≤ UInt32.size - 2 := by decide
  exact ⟨few, rfl, (answers_told_by_requests refilling few).1⟩

end FrameViewer.Slots
