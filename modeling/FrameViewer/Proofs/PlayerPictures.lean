import FrameViewer.Proofs.WholePictures
import Mathlib.Tactic.Ring

/-! A player with no key held plays the pictures of its program in order, over and over. After some
ticks its screen shows the rows of the current picture that were reached, and below them what is
left of the picture before. -/

namespace FrameViewer
namespace Player

/-- A pixel of a picture of the program: a bit of one of its bytes, the highest bit first. -/
def pixelOf (rom : Bytes) (picture x y : Nat) : UInt8 :=
  if (rom.getD (256 * picture + 8 * y + x / 8) 0).toNat.testBit (7 - x % 8) then 1 else 0

def pictureOf (rom : Bytes) (picture : Nat) : Framebuffer where
  dims := ⟨64, 32⟩
  pixels := Array.ofFn fun place : Fin (64 * 32) => pixelOf rom picture (place % 64) (place / 64)

def dark : Framebuffer :=
  ⟨⟨64, 32⟩, Bytes.fill 0 (64 * 32)⟩

/-- The whole pictures of a program. -/
def countOf (rom : Bytes) : Nat :=
  rom.size / 256

def drawnAt (rom : Bytes) (ticks place : Nat) : UInt8 :=
  if place / 64 < ticks % 32 then
    pixelOf rom (ticks / 32 % countOf rom) (place % 64) (place / 64)
  else if ticks < 32 then 0
  else pixelOf rom ((ticks / 32 - 1) % countOf rom) (place % 64) (place / 64)

structure Played (rom : Bytes) (ticks : Nat) (player : Player) : Prop where
  program : player.rom = rom
  free : player.keys.isEmpty = true
  picture : player.picture = ticks / 32 % countOf rom
  row : player.row = ticks % 32
  size : player.pixels.size = 64 * 32
  pixels : ∀ place < 64 * 32, player.pixels.toList[place]? = some (drawnAt rom ticks place)

private theorem unpackedPixel_eq (packed : Bytes) (start x : Nat) :
    unpackedPixel packed start x =
      if (packed.getD (start + x / 8) 0).toNat.testBit (7 - x % 8) then 1 else 0 := by
  unfold unpackedPixel
  generalize packed.getD (start + x / 8) 0 = byte
  have small : 7 - x % 8 < 8 := by omega
  have word : 7 - x % 8 < UInt8.size := Nat.lt_trans small (by decide)
  rw [← UInt8.toNat_inj, UInt8.toNat_and, UInt8.toNat_shiftRight, UInt8.toNat_ofNat_of_lt' word,
    Nat.mod_eq_of_lt small, UInt8.toNat_one, Nat.and_one_is_mod, Nat.shiftRight_eq_div_pow,
    Nat.testBit_eq_decide_div_mod_eq]
  rcases Nat.mod_two_eq_zero_or_one (byte.toNat / 2 ^ (7 - x % 8)) with even | odd
  · rw [even]
    rfl
  · rw [odd]
    rfl

/-- A list with a stretch of it replaced by another one of that length. -/
private theorem getElem?_spliced {α : Type} (whole part : List α) (start place : Nat)
    (fits : start + part.length ≤ whole.length) :
    (whole.take start ++ part ++ whole.drop (start + part.length))[place]? =
      if start ≤ place ∧ place < start + part.length then part[place - start]?
      else whole[place]? := by
  have front : (whole.take start).length = start := by
    rw [List.length_take]
    omega
  rcases Nat.lt_or_ge place start with before | after
  · rw [if_neg (by omega), List.append_assoc, List.getElem?_append_left (by omega),
      List.getElem?_take_of_lt before]
  · rw [List.append_assoc, List.getElem?_append_right (by omega), front]
    rcases Nat.lt_or_ge place (start + part.length) with inside | beyond
    · rw [if_pos ⟨after, inside⟩, List.getElem?_append_left (by omega)]
    · rw [if_neg (by omega), List.getElem?_append_right (by omega), List.getElem?_drop]
      congr 1
      omega

variable {player : Player} {rom : Bytes} {ticks : Nat}

/-- Unpacking a row that the program has changes that row only. -/
private theorem unpackRow_eq (size : player.pixels.size = 64 * 32) (row : player.row < 32)
    (fits : 256 * player.picture + 8 * player.row + 8 ≤ player.rom.size) :
    ∃ pixels, player.unpackRow = some pixels ∧ pixels.size = 64 * 32 ∧ ∀ place,
      pixels.toList[place]? = if place / 64 = player.row
        then some (pixelOf player.rom player.picture (place % 64) (place / 64))
        else player.pixels.toList[place]? := by
  have whole : player.Whole := ⟨size, row⟩
  have enough :
      ¬player.rom.size < player.picture * pictureBytes + player.row * rowBytes + rowBytes := by
    simp only [pictureBytes, rowBytes, width, height]
    omega
  have unpacked : player.unpackRow = some _ := if_neg enough
  refine ⟨_, unpacked, whole.unpackRow unpacked, ?_⟩
  intro place
  let start := player.picture * pictureBytes + player.row * rowBytes
  have part : (unpackedRow player.rom start).length = 64 := by
    rw [unpackedRow, List.length_map, List.length_range, width]
  have spliced := getElem?_spliced player.pixels.toList (unpackedRow player.rom start)
    (player.row * 64) place (by rw [part, Array.length_toList, size]; omega)
  rw [part, show player.row * 64 + 64 = (player.row + 1) * 64 by ring] at spliced
  refine spliced.trans ?_
  by_cases same : place / 64 = player.row
  · have column : place - player.row * 64 = place % 64 := by omega
    have byte : start + place % 64 / 8 =
        256 * player.picture + 8 * (place / 64) + place % 64 / 8 := by
      simp only [start, pictureBytes, rowBytes, width, height, same]
      omega
    have inside : place % 64 < width := Nat.mod_lt _ (by decide)
    rw [if_pos same, if_pos (by omega), column, unpackedRow, List.getElem?_map,
      List.getElem?_range inside, Option.map_some, unpackedPixel_eq, byte]
    rfl
  · rw [if_neg same, if_neg (by omega)]

theorem countOf_eq (player : Player) : player.pictureCount = countOf player.rom :=
  rfl

/-- The pixels after one more tick, which unpacks one row. -/
private theorem drawnAt_succ (rom : Bytes) (ticks place : Nat) (inside : place < 64 * 32) :
    drawnAt rom (ticks + 1) place =
      if place / 64 = ticks % 32 then
        pixelOf rom (ticks / 32 % countOf rom) (place % 64) (place / 64)
      else drawnAt rom ticks place := by
  unfold drawnAt
  by_cases last : ticks % 32 = 31
  · -- The picture is complete: it becomes the one before, and no row of the next is reached.
    have next : (ticks + 1) / 32 - 1 = ticks / 32 := by omega
    rw [if_neg (by omega), if_neg (by omega), next]
    by_cases bottom : place / 64 = ticks % 32
    · rw [if_pos bottom]
    · rw [if_neg bottom, if_pos (by omega)]
  · have same : (ticks + 1) / 32 = ticks / 32 := by omega
    have early : ticks + 1 < 32 ↔ ticks < 32 := by omega
    rw [same]
    simp only [early]
    by_cases reached : place / 64 = ticks % 32
    · rw [if_pos reached, if_pos (by omega)]
    · rw [if_neg reached]
      by_cases above : place / 64 < ticks % 32
      · rw [if_pos above, if_pos (by omega)]
      · rw [if_neg above, if_neg (by omega)]

theorem played_blank (rom : Bytes) : Played rom 0 { blank with rom } := by
  refine ⟨rfl, rfl, (Nat.zero_mod _).symm, rfl, blank_whole.pixels, ?_⟩
  intro place inside
  have dark : drawnAt rom 0 place = 0 := by simp [drawnAt]
  rw [dark]
  unfold blank Bytes.fill
  rw [Array.toList_replicate]
  exact List.getElem?_replicate_of_lt inside

/-- The current picture is one that the program has. -/
theorem Played.fits (played : Played rom ticks player) (positive : 0 < countOf rom) :
    256 * player.picture + 8 * player.row + 8 ≤ player.rom.size := by
  have picture : player.picture < countOf rom := by
    rw [played.picture]
    exact Nat.mod_lt _ positive
  have row : player.row < 32 := by
    rw [played.row]
    exact Nat.mod_lt _ (by decide)
  rw [played.program]
  unfold countOf at picture
  omega

/-- The number of a picture goes back to zero behind the last one. -/
theorem succ_mod_count {index count : Nat} (positive : 0 < count) :
    (index + 1) % count = if index % count + 1 = count then 0 else index % count + 1 := by
  have below := Nat.mod_lt index positive
  have split : (index + 1) % count = (index % count + 1) % count :=
    calc (index + 1) % count
      _ = (count * (index / count) + (index % count + 1)) % count := by
        rw [← Nat.add_assoc, Nat.div_add_mod]
      _ = (index % count + 1) % count := Nat.mul_add_mod _ _ _
  rw [split]
  by_cases last : index % count + 1 = count
  · rw [if_pos last, last, Nat.mod_self]
  · rw [if_neg last, Nat.mod_eq_of_lt (by omega)]

/-- A round ends with a row that completes a picture. -/
theorem no_round {count : Nat} (more : ticks % 32 ≠ 0) : ticks % (32 * count) ≠ 0 := by
  intro round
  apply more
  rw [← Nat.mod_mul_right_mod ticks 32 count, round, Nat.zero_mod]

/-- With the last row of the last picture a whole number of rounds is played. -/
private theorem round_iff {count : Nat} (positive : 0 < count) (bottom : ticks % 32 = 31) :
    (ticks + 1) % (32 * count) = 0 ↔ ticks / 32 % count + 1 = count := by
  have whole : ticks + 1 = 32 * (ticks / 32 + 1) := by omega
  rw [whole, Nat.mul_mod_mul_left, succ_mod_count positive]
  split
  next last => simp [last]
  next more => simp [more]

/-- A tick unpacks the row that is due. Every 32nd completes a picture, and sounds a beep when that
was the last one of the program. -/
theorem Played.tick (played : Played rom ticks player) (positive : 0 < countOf rom) :
    ∃ later, player.tick = some
        ({ redraw := (ticks + 1) % 32 = 0, beep := (ticks + 1) % (32 * countOf rom) = 0 }, later) ∧
      Played rom (ticks + 1) later := by
  have row : player.row < 32 := by
    rw [played.row]
    exact Nat.mod_lt _ (by decide)
  obtain ⟨pixels, unpacked, size, drawn⟩ := unpackRow_eq played.size row (played.fits positive)
  have shown (place : Nat) (inside : place < 64 * 32) :
      pixels.toList[place]? = some (drawnAt rom (ticks + 1) place) := by
    rw [drawn, drawnAt_succ rom ticks place inside, played.row, played.picture, played.program,
      played.pixels place inside]
    split <;> rfl
  have ticked : player.tick = some (player.advance pixels) := by
    unfold Player.tick
    rw [if_pos played.free, unpacked, Option.map_some]
  rw [ticked]
  unfold advance
  have bound := played.row
  by_cases more : player.row + 1 < height
  · have inside : ticks % 32 + 1 < 32 := played.row ▸ more
    have still : (ticks + 1) % 32 ≠ 0 := by omega
    rw [if_pos more, decide_eq_false still, decide_eq_false (no_round still)]
    refine ⟨_, rfl, played.program, played.free, ?_, ?_, size, shown⟩
    · rw [show (ticks + 1) / 32 = ticks / 32 by omega]
      exact played.picture
    · change player.row + 1 = (ticks + 1) % 32
      omega
  · have bottom : ticks % 32 = 31 := by
      simp only [height] at more
      omega
    have due : (ticks + 1) % 32 = 0 := by omega
    have wraps := round_iff positive bottom
    rw [if_neg more, decide_eq_true due, countOf_eq, played.program, played.picture]
    simp only [wraps]
    refine ⟨_, rfl, rfl, played.free, ?_, due.symm, size, shown⟩
    rw [show (ticks + 1) / 32 = ticks / 32 + 1 by omega, succ_mod_count positive]

/-- A screen whose pixels are known one by one. -/
theorem Played.screen_eq {frame : Framebuffer} (played : Played rom ticks player)
    (dims : frame.dims = ⟨64, 32⟩) (size : frame.pixels.size = 64 * 32)
    (same : ∀ place (inside : place < frame.pixels.size),
      frame.pixels[place] = drawnAt rom ticks place) :
    Engine.screen player = frame := by
  have pixels : player.pixels = frame.pixels := by
    apply Array.ext
    · rw [played.size, size]
    · intro place inside bounded
      have drawn := played.pixels place (played.size ▸ inside)
      rw [Array.getElem?_toList, Array.getElem?_eq_getElem inside] at drawn
      rw [Option.some.inj drawn, same]
  calc Engine.screen player
    _ = ⟨⟨64, 32⟩, player.pixels⟩ := rfl
    _ = frame := by rw [← dims, pixels]

theorem Played.screen_of_start (played : Played rom 0 player) : Engine.screen player = dark := by
  have size : dark.pixels.size = 64 * 32 := Array.size_replicate
  refine played.screen_eq rfl size fun place inside => ?_
  have unlit : drawnAt rom 0 place = 0 := by simp [drawnAt]
  rw [unlit]
  exact Array.getElem_replicate _

/-- Once a picture is complete it is what the screen shows. -/
theorem Played.screen {index : Nat} (played : Played rom (32 * (index + 1)) player) :
    Engine.screen player = pictureOf rom (index % countOf rom) := by
  have size : (pictureOf rom (index % countOf rom)).pixels.size = 64 * 32 := by
    rw [pictureOf, Array.size_ofFn]
  refine played.screen_eq rfl size fun place inside => ?_
  have complete : drawnAt rom (32 * (index + 1)) place =
      pixelOf rom (index % countOf rom) (place % 64) (place / 64) := by
    unfold drawnAt
    rw [if_neg (by omega), if_neg (by omega), show 32 * (index + 1) / 32 - 1 = index by omega]
  rw [complete]
  simp only [pictureOf, Array.getElem_ofFn]

end Player
end FrameViewer
