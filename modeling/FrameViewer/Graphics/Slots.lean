/-! Numbered storage. Numbers start at one and count up over the whole history, so none is ever
used twice, whatever is removed in between. -/

namespace FrameViewer

structure Slots (α : Type) where
  next : Nat := 1
  items : List (Nat × α) := []

namespace Slots

variable {α : Type}

def insert (slots : Slots α) (item : α) : Nat × Slots α :=
  (slots.next, { next := slots.next + 1, items := slots.items ++ [(slots.next, item)] })

def get? (slots : Slots α) (id : Nat) : Option α :=
  slots.items.lookup id

/-- The item under that number, and the storage without it. -/
def remove (slots : Slots α) (id : Nat) : Option α × Slots α :=
  (slots.get? id, { slots with items := slots.items.filter (·.1 != id) })

def clear (slots : Slots α) : Slots α :=
  { slots with items := [] }

def size (slots : Slots α) : Nat :=
  slots.items.length

def isEmpty (slots : Slots α) : Bool :=
  slots.items.isEmpty

def ids (slots : Slots α) : List Nat :=
  slots.items.map (·.1)

end Slots
end FrameViewer
