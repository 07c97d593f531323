/-! Byte sequences and the two ways a report writes them: as hexadecimal digits and as runs. -/

namespace FrameViewer

abbrev Bytes := Array UInt8

def hexDigit (n : Nat) : Char :=
  if n < 10 then Char.ofNat (48 + n) else Char.ofNat (87 + n)

/-- `count` hexadecimal digits of `n`, the highest first. -/
def hexDigits (n : Nat) : Nat → List Char
  | 0 => []
  | count + 1 => hexDigit (n >>> (4 * count) % 16) :: hexDigits n count

def hexByte (b : UInt8) : String :=
  String.ofList (hexDigits b.toNat 2)

/-- The word as eight hexadecimal digits. -/
def hexWord (n : Nat) : String :=
  String.ofList (hexDigits n 8)

/-- The bytes of a word, the lowest first. -/
def littleEndian (n : Nat) : Nat → List UInt8
  | 0 => []
  | count + 1 => UInt8.ofNat (n % 256) :: littleEndian (n / 256) count

/-- One more element behind stretches that are listed backwards. -/
def extendRuns {α : Type} [BEq α] (runs : List (α × Nat)) (x : α) : List (α × Nat) :=
  match runs with
  | (y, count) :: rest => if y == x then (y, count + 1) :: rest else (x, 1) :: runs
  | [] => [(x, 1)]

/-- Maximal stretches of equal elements with their lengths. -/
def runLengths {α : Type} [BEq α] (xs : List α) : List (α × Nat) :=
  (xs.foldl extendRuns []).reverse

namespace Bytes

def hex (bytes : Bytes) : String :=
  bytes.foldl (fun text b => text ++ hexByte b) ""

/-- Each run as `hh*count`, or `hh` when it has one byte, separated by commas. -/
def runs (bytes : Bytes) : String :=
  let run : UInt8 × Nat → String := fun (b, count) =>
    if count = 1 then hexByte b else hexByte b ++ "*" ++ toString count
  ",".intercalate ((runLengths bytes.toList).map run)

def fill (b : UInt8) (count : Nat) : Bytes :=
  Array.replicate count b

/-- The first `size` bytes, followed by as many copies of `pad` as are missing. -/
def resize (bytes : Bytes) (size : Nat) (pad : UInt8) : Bytes :=
  bytes.extract 0 size ++ fill pad (size - bytes.size)

end Bytes
end FrameViewer
