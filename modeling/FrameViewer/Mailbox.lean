import FrameViewer.Platform

/-! Handing a value from a task to the event loop. A box holds one value; while it waits, further
ones are dropped. An accepted value wakes the event loop. -/

namespace FrameViewer

structure Mailbox (α : Type) where
  slot : Option α := none

namespace Mailbox

variable {α : Type}

/-- Puts a value into the slot, unless one waits there, and then does what wakes its taker. -/
def postWith (wake : Act (Mailbox α) Unit) (value : α) : Act (Mailbox α) Unit := do
  match (← Act.own).slot with
  | some _ => pure ()
  | none =>
    Act.setOwn ⟨some value⟩
    wake

def post (value : α) : Act (Mailbox α) Unit :=
  postWith (Act.emit .nudge) value

def take : Act (Mailbox α) (Option α) := do
  let box ← Act.own
  Act.setOwn ⟨none⟩
  return box.slot

end Mailbox

/-- Boxes and those who hold them; clones of a holder share its box. -/
structure Mailroom (α : Type) where
  boxes : List (Mailbox α) := [{}]
  holders : List Nat := [0]

namespace Mailroom

variable {α : Type}

/-- A further holder with a box of its own; the answer is the holder's number. -/
def newBox : Act (Mailroom α) Nat := do
  let room ← Act.own
  Act.setOwn { boxes := room.boxes ++ [{}], holders := room.holders ++ [room.boxes.length] }
  return room.holders.length

def clone (holder : Nat) : Act (Mailroom α) Nat := do
  let room ← Act.own
  let index ← Act.checked room.holders[holder]?
  Act.setOwn { room with holders := room.holders ++ [index] }
  return room.holders.length

def onBox {β : Type} (holder : Nat) (action : Act (Mailbox α) β) : Act (Mailroom α) β := do
  let room ← Act.own
  let index ← Act.checked room.holders[holder]?
  Act.within (room.boxes.getD index {})
    (fun box => { room with boxes := room.boxes.set index box }) action

def post (holder : Nat) (value : α) : Act (Mailroom α) Unit :=
  onBox holder (Mailbox.post value)

def take (holder : Nat) : Act (Mailroom α) (Option α) :=
  onBox holder Mailbox.take

end Mailroom
end FrameViewer
