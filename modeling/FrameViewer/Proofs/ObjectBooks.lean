import FrameViewer.Graphics.Slots
import FrameViewer.Proofs.EventReports
import Mathlib.Data.List.Nodup

/-! Books on the objects of a tier, kept from its report alone. They tell which numbers are live at
any instant of it, and whether what it reports is in order: no number is handed out twice, none is
taken back that is not live, and no more objects are live than there may be. -/

namespace FrameViewer

namespace ResourceId

def buffer? : ResourceId → Option Nat
  | buffer number => some number
  | _ => none

def texture? : ResourceId → Option Nat
  | texture number => some number
  | _ => none

def sampler? : ResourceId → Option Nat
  | sampler number => some number
  | _ => none

def pipeline? : ResourceId → Option Nat
  | pipeline number => some number
  | _ => none

end ResourceId

structure Books where
  /-- What was handed out and not taken back, the newest first. -/
  live : List ResourceId := []
  /-- What was ever handed out. -/
  handed : List ResourceId := []

namespace Books

def enter (books : Books) : Event → Books
  | .handedOut _ id _ => { live := id :: books.live, handed := id :: books.handed }
  | .takenBack _ id _ => { books with live := books.live.erase id }
  | _ => books

def read (books : Books) (log : List Event) : Books :=
  log.foldl enter books

/-- Whether an event is in order when at most `most` objects may be live. -/
def Allows (most : Nat) (books : Books) : Event → Prop
  | .handedOut _ id _ => id ∉ books.handed ∧ books.live.length < most
  | .takenBack _ id stale => id ∈ books.live ∧ stale = false
  | _ => True

def Audited (most : Nat) (books : Books) : List Event → Prop
  | [] => True
  | event :: rest => books.Allows most event ∧ (books.enter event).Audited most rest

def returned (log : List Event) : List ResourceId :=
  log.filterMap fun
    | .takenBack _ id _ => some id
    | _ => none

variable {most : Nat} {books : Books} {log more : List Event}

theorem read_append : books.read (log ++ more) = (books.read log).read more :=
  List.foldl_append

theorem audited_append :
    books.Audited most (log ++ more) ↔ books.Audited most log ∧ (books.read log).Audited most more := by
  induction log generalizing books with
  | nil => simp [Audited, read]
  | cons event rest ih => simp only [List.cons_append, Audited, ih, and_assoc, read, List.foldl_cons]

/-- Events that tell of no object leave the books alone. -/
theorem read_of_unheld (unheld : ∀ event ∈ more, event.part ≠ .holding) :
    books.read more = books ∧ books.Audited most more := by
  induction more generalizing books with
  | nil => exact ⟨rfl, trivial⟩
  | cons event rest ih =>
    have outside := unheld event List.mem_cons_self
    have same : books.enter event = books ∧ books.Allows most event := by
      cases event <;> first | exact ⟨rfl, trivial⟩ | exact absurd rfl outside
    obtain ⟨read, audited⟩ : books.read rest = books ∧ books.Audited most rest :=
      ih fun other member => unheld other (List.mem_cons_of_mem _ member)
    refine ⟨?_, same.2, ?_⟩
    · rw [Books.read, List.foldl_cons, same.1]
      exact read
    · rw [same.1]
      exact audited

/-- What is in order never makes more objects live than there may be. -/
theorem Audited.length_le (audited : books.Audited most log) (few : books.live.length ≤ most) :
    (books.read log).live.length ≤ most := by
  induction log generalizing books with
  | nil => exact few
  | cons event rest ih =>
    apply ih audited.2
    cases event with
    | handedOut tier id object => exact audited.1.2
    | takenBack tier id stale => exact Nat.le_trans List.length_erase_le few
    | _ => exact few

theorem Audited.nodup (audited : books.Audited most log) (distinct : books.handed.Nodup) :
    (books.read log).handed.Nodup := by
  induction log generalizing books with
  | nil => exact distinct
  | cons event rest ih =>
    apply ih audited.2
    cases event with
    | handedOut tier id object => exact List.nodup_cons.mpr ⟨audited.1.1, distinct⟩
    | _ => exact distinct

/-- What was handed out is live or was taken back. -/
theorem Audited.count_eq (audited : books.Audited most log) (id : ResourceId) :
    (books.read log).handed.count id + books.live.count id =
      books.handed.count id + (books.read log).live.count id + (returned log).count id := by
  induction log generalizing books with
  | nil => simp [read, returned]
  | cons event rest ih =>
    have later := ih audited.2
    cases event with
    | handedOut tier entry object =>
      simp only [enter, List.count_cons] at later
      simp only [read, List.foldl_cons, enter, returned, List.filterMap_cons] at later ⊢
      omega
    | takenBack tier entry stale =>
      have present : 0 < books.live.count entry := List.count_pos_iff.mpr audited.1.1
      simp only [enter, List.count_erase] at later
      simp only [read, List.foldl_cons, enter, returned, List.filterMap_cons, List.count_cons] at later ⊢
      by_cases same : entry = id
      · subst same
        simp only [beq_self_eq_true, if_true] at later ⊢
        omega
      · simp only [beq_iff_eq, same, if_false] at later ⊢
        omega
    | _ => exact later

end Books

private theorem filterMap_erase_of_some {number : ResourceId → Option Nat} {id : ResourceId} {n : Nat}
    (typed : number id = some n) {live : List ResourceId} (member : id ∈ live)
    (distinct : (live.filterMap number).Nodup) :
    (live.erase id).filterMap number = (live.filterMap number).erase n := by
  induction live with
  | nil => cases member
  | cons head rest ih =>
    by_cases same : head = id
    · subst same
      simp [typed]
    · have inside := (List.mem_cons.mp member).resolve_left (Ne.symm same)
      have listed : n ∈ rest.filterMap number := List.mem_filterMap.mpr ⟨id, inside, typed⟩
      rw [List.erase_cons_tail (by simpa using same)]
      cases other : number head with
      | none =>
        simp only [List.filterMap_cons, other] at distinct ⊢
        exact ih inside distinct
      | some m =>
        simp only [List.filterMap_cons, other] at distinct ⊢
        have different : m ≠ n := by
          rintro rfl
          exact (List.nodup_cons.mp distinct).1 listed
        rw [List.erase_cons_tail (by simpa using different), ih inside (List.nodup_cons.mp distinct).2]

private theorem filterMap_erase_of_none {number : ResourceId → Option Nat} {id : ResourceId}
    (untyped : number id = none) (live : List ResourceId) :
    (live.erase id).filterMap number = live.filterMap number := by
  induction live with
  | nil => rfl
  | cons head rest ih =>
    by_cases same : head = id
    · subst same
      simp [untyped]
    · rw [List.erase_cons_tail (by simpa using same), List.filterMap_cons, List.filterMap_cons, ih]

namespace Slots

variable {α : Type}

/-- The storage has the objects that the books list under a number of its own, and has counted
past all that it ever gave out. -/
structure Backs (slots : Slots α) (number : ResourceId → Option Nat) (books : Books) : Prop where
  ids : slots.ids = (books.live.filterMap number).reverse
  below : ∀ id ∈ books.handed, ∀ n, number id = some n → n < slots.next
  known : ∀ id ∈ books.live, id ∈ books.handed
  distinct : (books.live.filterMap number).Nodup

namespace Backs

variable {slots : Slots α} {number : ResourceId → Option Nat} {books : Books} {tier : Tier}
  {id : ResourceId} {object : Nat} {stale : Bool}

theorem fresh (backs : slots.Backs number books) (typed : number id = some slots.next) :
    id ∉ books.handed :=
  fun member => absurd (backs.below id member _ typed) (Nat.lt_irrefl _)

theorem handOut (backs : slots.Backs number books) (item : α) (typed : number id = some slots.next) :
    (slots.insert item).2.Backs number (books.enter (.handedOut tier id object)) := by
  refine ⟨?_, ?_, ?_, ?_⟩
  · have inserted : (slots.insert item).2.ids = slots.ids ++ [slots.next] := by
      simp [insert, Slots.ids]
    rw [inserted, backs.ids]
    simp [Books.enter, typed]
  · intro other member n numbered
    change n < slots.next + 1
    rcases List.mem_cons.mp member with rfl | member
    · rw [typed] at numbered
      cases numbered
      exact Nat.lt_succ_self _
    · exact Nat.lt_succ_of_lt (backs.below other member n numbered)
  · intro other member
    rcases List.mem_cons.mp member with rfl | member
    · exact List.mem_cons_self
    · exact List.mem_cons_of_mem _ (backs.known other member)
  · simp only [Books.enter, List.filterMap_cons, typed]
    refine List.nodup_cons.mpr ⟨?_, backs.distinct⟩
    intro member
    obtain ⟨other, inside, numbered⟩ := List.mem_filterMap.mp member
    exact absurd (backs.below other (backs.known other inside) _ numbered) (Nat.lt_irrefl _)

theorem handOut_other (backs : slots.Backs number books) (typed : number id = none) :
    slots.Backs number (books.enter (.handedOut tier id object)) := by
  refine ⟨?_, ?_, ?_, ?_⟩
  · simpa [Books.enter, typed] using backs.ids
  · intro other member n numbered
    rcases List.mem_cons.mp member with rfl | member
    · rw [typed] at numbered
      cases numbered
    · exact backs.below other member n numbered
  · intro other member
    rcases List.mem_cons.mp member with rfl | member
    · exact List.mem_cons_self
    · exact List.mem_cons_of_mem _ (backs.known other member)
  · simpa [Books.enter, typed] using backs.distinct

/-- A live number has an object, and gives it up. -/
theorem takeBack {n : Nat} (backs : slots.Backs number books) (member : id ∈ books.live)
    (typed : number id = some n) :
    (slots.get? n).isNone = false ∧
      (slots.remove n).2.Backs number (books.enter (.takenBack tier id stale)) := by
  have erased := filterMap_erase_of_some typed member backs.distinct
  have listed : n ∈ slots.ids := by
    rw [backs.ids, List.mem_reverse]
    exact List.mem_filterMap.mpr ⟨id, member, typed⟩
  refine ⟨?_, ?_, backs.below, ?_, ?_⟩
  · obtain ⟨entry, inside, rfl⟩ := List.mem_map.mp listed
    rw [get?, Option.isNone_eq_false_iff, List.lookup_isSome_iff]
    exact ⟨entry, inside, BEq.rfl⟩
  · have removed : (slots.remove n).2.ids = slots.ids.filter (· != n) := by
      simp [remove, Slots.ids, List.filter_map, Function.comp_def]
    rw [removed, backs.ids, List.filter_reverse, Books.enter, erased,
      backs.distinct.erase_eq_filter]
  · exact fun other inside => backs.known other (List.mem_of_mem_erase inside)
  · rw [Books.enter, erased]
    exact backs.distinct.erase n

theorem takeBack_other (backs : slots.Backs number books) (typed : number id = none) :
    slots.Backs number (books.enter (.takenBack tier id stale)) := by
  have erased := filterMap_erase_of_none typed books.live
  refine ⟨?_, backs.below, ?_, ?_⟩
  · rw [Books.enter, erased]
    exact backs.ids
  · exact fun other inside => backs.known other (List.mem_of_mem_erase inside)
  · rw [Books.enter, erased]
    exact backs.distinct

end Backs
end Slots
end FrameViewer
