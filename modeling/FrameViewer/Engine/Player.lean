import FrameViewer.Engine.Basic
import FrameViewer.Keypad

/-! An engine that plays pictures back. The program holds one picture after another, a bit to a
pixel; each tick unpacks one row of the current one. While any key is held the picture stands
still. -/

namespace FrameViewer

structure Player where
  rom : Bytes
  pixels : Bytes
  picture : Nat
  row : Nat
  keys : KeySet

namespace Player

def width : Nat := 64

def height : Nat := 32

def rowBytes : Nat := width / 8

def pictureBytes : Nat := rowBytes * height

def blank : Player :=
  { rom := #[], pixels := Bytes.fill 0 (width * height), picture := 0, row := 0, keys := {} }

/-- The whole pictures of the program; what is left over is not played. -/
def pictureCount (player : Player) : Nat :=
  player.rom.size / pictureBytes

/-- Pixel `x` of a packed row: the highest bit of a byte comes first. -/
def unpackedPixel (packed : Bytes) (start x : Nat) : UInt8 :=
  packed.getD (start + x / 8) 0 >>> UInt8.ofNat (7 - x % 8) &&& 1

/-- The pixels of the packed row that begins at byte `start`. -/
def unpackedRow (packed : Bytes) (start : Nat) : List UInt8 :=
  (List.range width).map (unpackedPixel packed start)

/-- Unpacks the current row; there is none when the program ends before it does. -/
def unpackRow (player : Player) : Option Bytes :=
  let start := player.picture * pictureBytes + player.row * rowBytes
  if player.rom.size < start + rowBytes then none
  else
    let before := player.pixels.toList.take (player.row * width)
    let after := player.pixels.toList.drop ((player.row + 1) * width)
    some (before ++ unpackedRow player.rom start ++ after).toArray

/-- Goes on to the next row, the next picture, or back to the first picture with a beep. -/
def advance (player : Player) (pixels : Bytes) : Tick × Player :=
  if player.row + 1 < height then ({}, { player with pixels, row := player.row + 1 })
  else
    let wrapped := player.picture + 1 = player.pictureCount
    let picture := if wrapped then 0 else player.picture + 1
    ({ redraw := true, beep := wrapped }, { player with pixels, row := 0, picture })

def tick (player : Player) : Option (Tick × Player) :=
  if player.keys.isEmpty then player.unpackRow.map player.advance
  else some ({ redraw := true }, player)

instance : Engine Player where
  load rom _ := { blank with rom }
  next player := (0 < player.pictureCount, player)
  tick := tick
  setKey code player := { player with keys := player.keys.insert code }
  unsetKey code player := { player with keys := player.keys.erase code }
  screen player := ⟨⟨width, height⟩, player.pixels⟩
  serial _ := none

/-- Two pictures: a checkerboard of 8 by 8 cells and its inverse. -/
def demo : Rom where
  name := "checkerboard"
  bytes :=
    ([0x00, 0xFF].flatMap fun inverse => (List.range height).flatMap fun y =>
      (List.range rowBytes).map fun cell =>
        (if (cell + y / 8) % 2 = 0 then 0xFF else 0x00) ^^^ inverse).toArray

end Player
end FrameViewer
