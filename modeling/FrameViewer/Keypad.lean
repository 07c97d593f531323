/-! The sixteen keys of the hex keypad: which are held, and which keys of the host stand for
them. Only the low four bits of a code count. -/

namespace FrameViewer

/-- The held keys, one bit for each. -/
structure KeySet where
  bits : BitVec 16 := 0
  deriving DecidableEq

namespace KeySet

def mask (code : Nat) : BitVec 16 :=
  1#16 <<< (code % 16)

def contains (keys : KeySet) (code : Nat) : Bool :=
  keys.bits &&& mask code != 0

def isEmpty (keys : KeySet) : Bool :=
  keys.bits == 0

def insert (keys : KeySet) (code : Nat) : KeySet :=
  ⟨keys.bits ||| mask code⟩

def erase (keys : KeySet) (code : Nat) : KeySet :=
  ⟨keys.bits &&& ~~~mask code⟩

/-- Holds a key down; tells whether it was up. -/
def press (keys : KeySet) (code : Nat) : Bool × KeySet :=
  (!keys.contains code, keys.insert code)

/-- Lets a key go; tells whether it was down. -/
def release (keys : KeySet) (code : Nat) : Bool × KeySet :=
  (keys.contains code, keys.erase code)

end KeySet

/-- A key of the keypad and its place on the screen. -/
structure KeyBinding where
  code : Nat
  place : Nat
  deriving DecidableEq, Repr

/-- The keys as they are shown, row by row. -/
def hexKeypad : List Nat :=
  [0x1, 0x2, 0x3, 0xC,
   0x4, 0x5, 0x6, 0xD,
   0x7, 0x8, 0x9, 0xE,
   0xA, 0x0, 0xB, 0xF]

/-- Which keys of the host are bound, each at most once. -/
structure KeyMap (κ : Type) where
  bindings : List (κ × KeyBinding) := []

namespace KeyMap

variable {κ : Type} [BEq κ]

def get? (map : KeyMap κ) (key : κ) : Option KeyBinding :=
  map.bindings.lookup key

/-- Binds a key, in place of what it was bound to. -/
def bind (map : KeyMap κ) (key : κ) (binding : KeyBinding) : KeyMap κ :=
  ⟨(key, binding) :: map.bindings.filter (·.1 != key)⟩

def size (map : KeyMap κ) : Nat :=
  map.bindings.length

/-- Binds host keys, given in the order of the screen, to the hex keypad. -/
def ofKeypad (keys : List κ) : KeyMap κ :=
  (keys.zip hexKeypad).zipIdx.foldl
    (fun map (bound, place) => map.bind bound.1 ⟨bound.2, place⟩) {}

end KeyMap
end FrameViewer
