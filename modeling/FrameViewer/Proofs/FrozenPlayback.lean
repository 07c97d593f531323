import FrameViewer.Proofs.EngineCalls
import FrameViewer.Proofs.PlayerPictures

/-! A player whose keys are held and let go between its ticks. Only the ticks made while no key is
held count: they and the keys that are held make the player what it is, so that it plays on where it
stopped, in the middle of a picture too. -/

namespace FrameViewer

namespace KeySet

variable {keys : KeySet} {code key : Nat}

private theorem insert_mod (keys : KeySet) (code : Nat) : keys.insert (code % 16) = keys.insert code := by
  simp only [insert, mask, Nat.mod_mod]

private theorem erase_mod (keys : KeySet) (code : Nat) : keys.erase (code % 16) = keys.erase code := by
  simp only [erase, mask, Nat.mod_mod]

theorem isEmpty_iff : keys.isEmpty = true ↔ ∀ key : Fin 16, keys.contains key = false := by
  constructor
  · intro empty key
    obtain ⟨bits⟩ := keys
    obtain rfl : bits = 0#16 := beq_iff_eq.mp empty
    exact contains_empty key.isLt
  · intro free
    have same : keys = mk 0#16 := ext_contains fun key fits => by
      rw [contains_empty fits]
      exact free ⟨key, fits⟩
    rw [same]
    rfl

end KeySet

namespace Player

inductive Move where
  | tick
  | hold (code : Nat)
  | letGo (code : Nat)
  deriving DecidableEq

namespace Move

def turn (key : Fin 16) (held : Bool) : Move → Bool
  | tick => held
  | hold code => held || decide (key.val = code % 16)
  | letGo code => held && !decide (key.val = code % 16)

def action (player : Player) : Move → Option (List Tick × Player)
  | tick => (Engine.tick player).map fun (report, later) => ([report], later)
  | hold code => some ([], Engine.setKey code player)
  | letGo code => some ([], Engine.unsetKey code player)

end Move

def follow (player : Player) : List Move → Option (List Tick × Player)
  | [] => some ([], player)
  | move :: rest => do
    let (reports, middle) ← move.action player
    let (more, last) ← follow middle rest
    return (reports ++ more, last)

def isHeld (moves : List Move) (key : Fin 16) : Bool :=
  moves.foldl (Move.turn key) false

def isFree (moves : List Move) : Bool :=
  decide (∀ key, isHeld moves key = false)

/-- The ticks that were made while no key was held. -/
def played (moves : List Move) : Nat :=
  (List.range moves.length).countP fun made =>
    decide (moves[made]? = some .tick) && isFree (moves.take made)

example : played [.tick, .hold 3, .tick, .tick, .letGo 19, .tick] = 2 := by decide

section Moves

variable {player middle last : Player} {early late : List Move} {reports more : List Tick}

private theorem isHeld_concat (moves : List Move) (move : Move) (key : Fin 16) :
    isHeld (moves ++ [move]) key = move.turn key (isHeld moves key) := by
  rw [isHeld, List.foldl_append]
  rfl

private theorem played_concat (moves : List Move) (move : Move) :
    played (moves ++ [move]) = played moves + if move = .tick ∧ isFree moves = true then 1 else 0 := by
  have earlier : (List.range moves.length).countP (fun made =>
      decide ((moves ++ [move])[made]? = some .tick) && isFree ((moves ++ [move]).take made)) =
      played moves := by
    refine List.countP_congr fun made inside => ?_
    have before := List.mem_range.mp inside
    rw [List.getElem?_append_left before, List.take_append_of_le_length (Nat.le_of_lt before)]
  rw [played, List.length_append, List.length_singleton, List.range_succ, List.countP_append, earlier,
    List.countP_singleton, List.getElem?_concat_length, List.take_left]
  simp only [Option.some.injEq, Bool.and_eq_true, decide_eq_true_eq]

private theorem follow_append (walked : follow player early = some (reports, middle))
    (onward : follow middle late = some (more, last)) :
    follow player (early ++ late) = some (reports ++ more, last) := by
  induction early generalizing player reports with
  | nil =>
    cases walked
    exact onward
  | cons move rest ih =>
    simp only [follow, Option.bind_eq_bind, Option.bind_eq_some_iff] at walked
    obtain ⟨⟨first, next⟩, moved, ⟨others, there⟩, walked, same⟩ := walked
    cases same
    simp only [List.cons_append, follow, moved, Option.bind_eq_bind, Option.bind_some, ih walked]
    exact congrArg (fun all => some (all, last)) (List.append_assoc first others more).symm

private theorem tick_rom {report : Tick} (ticked : player.tick = some (report, last)) :
    last.rom = player.rom := by
  unfold tick at ticked
  split at ticked
  · obtain ⟨pixels, _, advanced⟩ := Option.map_eq_some_iff.mp ticked
    unfold advance at advanced
    split at advanced <;> cases advanced <;> rfl
  · cases ticked
    rfl

/-- No move changes the program. -/
private theorem follow_rom (followed : follow player early = some (reports, last)) : last.rom = player.rom := by
  induction early generalizing player reports with
  | nil =>
    cases followed
    rfl
  | cons move rest ih =>
    simp only [follow, Option.bind_eq_bind, Option.bind_eq_some_iff] at followed
    obtain ⟨⟨first, next⟩, moved, ⟨others, there⟩, followed, same⟩ := followed
    cases same
    rw [ih followed]
    cases move with
    | tick =>
      obtain ⟨⟨report, later⟩, ticked, same⟩ := Option.map_eq_some_iff.mp moved
      cases same
      exact tick_rom ticked
    | hold code | letGo code =>
      cases moved
      rfl

end Moves

/-- The player after those moves of that program. The keys apart, it has played so many ticks. -/
structure Reached (rom : Bytes) (moves : List Move) (player : Player) : Prop where
  keys : ∀ key : Fin 16, player.keys.contains key = isHeld moves key
  played : Played rom (played moves) { player with keys := {} }

namespace Reached

variable {rom : Bytes} {moves other : List Move} {player second : Player}

private theorem isEmpty_eq (reached : Reached rom moves player) : player.keys.isEmpty = isFree moves := by
  rw [Bool.eq_iff_iff, KeySet.isEmpty_iff, isFree, decide_eq_true_eq]
  simp only [reached.keys]

theorem start (rom : Bytes) (old : Player) : Reached rom [] (Engine.load rom old) :=
  ⟨fun key => KeySet.contains_empty key.isLt, played_blank rom⟩

/-- A move of a key changes which keys are held, and nothing else. -/
theorem keyed {move : Move} {keys : KeySet} (reached : Reached rom moves player) (still : move ≠ .tick)
    (turned : ∀ key : Fin 16, keys.contains key = move.turn key (player.keys.contains key)) :
    Reached rom (moves ++ [move]) { player with keys } := by
  refine ⟨fun key => ?_, ?_⟩
  · rw [turned, isHeld_concat, reached.keys]
  · rw [played_concat, if_neg fun both => still both.1]
    exact reached.played

private theorem hold (reached : Reached rom moves player) (code : Nat) :
    Reached rom (moves ++ [.hold code]) (Engine.setKey code player) := by
  refine reached.keyed nofun fun key => ?_
  rw [← KeySet.insert_mod, KeySet.contains_insert (Nat.mod_lt code (by decide)) key.isLt]
  rfl

private theorem letGo (reached : Reached rom moves player) (code : Nat) :
    Reached rom (moves ++ [.letGo code]) (Engine.unsetKey code player) := by
  refine reached.keyed nofun fun key => ?_
  rw [← KeySet.erase_mod, KeySet.contains_erase (Nat.mod_lt code (by decide)) key.isLt]
  rfl

/-- While a key is held a tick leaves everything as it is. -/
theorem tick_of_held (reached : Reached rom moves player) (held : isFree moves = false) :
    Engine.tick player = some ({ redraw := true }, player) ∧ Reached rom (moves ++ [.tick]) player := by
  constructor
  · change player.tick = _
    rw [Player.tick, reached.isEmpty_eq, held]
    rfl
  · refine ⟨fun key => ?_, ?_⟩
    · rw [isHeld_concat]
      exact reached.keys key
    · rw [played_concat, if_neg (by simp [held])]
      exact reached.played

/-- Without held keys a tick is one more of those that count. -/
theorem tick_of_free (reached : Reached rom moves player) (positive : 0 < countOf rom)
    (free : isFree moves = true) :
    ∃ later, Engine.tick player = some
        ({ redraw := (Player.played moves + 1) % 32 = 0
           beep := (Player.played moves + 1) % (32 * countOf rom) = 0 }, later) ∧
      Reached rom (moves ++ [.tick]) later := by
  have bare : player.keys = {} := by
    refine congrArg KeySet.mk (beq_iff_eq.mp ?_)
    exact reached.isEmpty_eq.trans free
  have own : { player with keys := {} } = player := by rw [← bare]
  obtain ⟨later, ticked, plays⟩ := reached.played.tick positive
  rw [own] at ticked
  have same := tick_keys ticked
  have emptied : { later with keys := {} } = later := by rw [← bare, ← same]
  refine ⟨later, ticked, fun key => ?_, ?_⟩
  · rw [same, isHeld_concat]
    exact reached.keys key
  · rw [played_concat, if_pos ⟨rfl, free⟩, emptied]
    exact plays

theorem move (reached : Reached rom moves player) (positive : 0 < countOf rom) (next : Move) :
    ∃ reports later, next.action player = some (reports, later) ∧ Reached rom (moves ++ [next]) later := by
  cases next with
  | tick =>
    cases free : isFree moves with
    | false =>
      obtain ⟨ticked, still⟩ := reached.tick_of_held free
      exact ⟨_, player, by rw [Move.action, ticked, Option.map_some], still⟩
    | true =>
      obtain ⟨later, ticked, on⟩ := reached.tick_of_free positive free
      exact ⟨_, later, by rw [Move.action, ticked, Option.map_some], on⟩
  | hold code => exact ⟨[], _, rfl, reached.hold code⟩
  | letGo code => exact ⟨[], _, rfl, reached.letGo code⟩

/-- No move breaks down. -/
theorem follow (reached : Reached rom moves player) (positive : 0 < countOf rom) (late : List Move) :
    ∃ reports last, player.follow late = some (reports, last) ∧ Reached rom (moves ++ late) last := by
  induction late generalizing moves player with
  | nil => exact ⟨[], player, rfl, (List.append_nil moves).symm ▸ reached⟩
  | cons next rest ih =>
    obtain ⟨reports, later, moved, on⟩ := reached.move positive next
    obtain ⟨more, last, followed, there⟩ := ih on
    rw [List.append_assoc, List.singleton_append] at there
    refine ⟨reports ++ more, last, ?_, there⟩
    simp only [Player.follow, moved, Option.bind_eq_bind, Option.bind_some, followed]
    rfl

/-- The ticks that count and the held keys are all there is to a player of a program. -/
theorem unique (reached : Reached rom moves player) (again : Reached rom other second)
    (ticks : Player.played other = Player.played moves)
    (held : ∀ key, isHeld other key = isHeld moves key) : second = player := by
  obtain ⟨rom₁, pixels₁, picture₁, row₁, keys₁⟩ := player
  obtain ⟨rom₂, pixels₂, picture₂, row₂, keys₂⟩ := second
  have first := reached.played
  have later := again.played
  rw [ticks] at later
  obtain rfl : rom₁ = rom := first.program
  obtain rfl : rom₂ = rom₁ := later.program
  obtain rfl : picture₂ = picture₁ := later.picture.trans first.picture.symm
  obtain rfl : row₂ = row₁ := later.row.trans first.row.symm
  have keys : keys₂ = keys₁ := KeySet.ext_contains fun key fits => by
    have both := (again.keys ⟨key, fits⟩).trans (held ⟨key, fits⟩)
    exact both.trans (reached.keys ⟨key, fits⟩).symm
  have pixels : pixels₂ = pixels₁ := by
    apply Array.ext (later.size.trans first.size.symm)
    intro place inside within
    have bound : place < 64 * 32 := later.size ▸ inside
    have same := (later.pixels place bound).trans (first.pixels place bound).symm
    rw [Array.getElem?_toList, Array.getElem?_toList, Array.getElem?_eq_getElem inside,
      Array.getElem?_eq_getElem within] at same
    exact Option.some.inj same
  rw [keys, pixels]

end Reached

/-- The screen of a player after so many ticks that count. Every row shows the picture that is being
unpacked where that was reached, and the one before it, or nothing, below. -/
structure Shows (rom : Bytes) (ticks : Nat) (player : Player) : Prop where
  size : player.pixels.size = 2048
  /-- The row that is due is one of the screen, and the program has it. -/
  row : player.row < 32
  packed : 256 * player.picture + 8 * player.row + 8 ≤ rom.size
  lit : ∀ pixel ∈ player.pixels, pixel = 0 ∨ pixel = 1
  reached : ∀ y < ticks % 32, ∀ x < 64,
    player.pixels[64 * y + x]? = some (pixelOf rom (ticks / 32 % countOf rom) x y)
  below : ∀ y < 32, ticks % 32 ≤ y → ∀ x < 64, player.pixels[64 * y + x]? =
    some (if ticks / 32 = 0 then 0 else pixelOf rom ((ticks / 32 - 1) % countOf rom) x y)

private theorem pixelOf_lit (rom : Bytes) (picture x y : Nat) :
    pixelOf rom picture x y = 0 ∨ pixelOf rom picture x y = 1 := by
  unfold pixelOf
  split
  · exact .inr rfl
  · exact .inl rfl

private theorem drawnAt_lit (rom : Bytes) (ticks place : Nat) :
    drawnAt rom ticks place = 0 ∨ drawnAt rom ticks place = 1 := by
  unfold drawnAt
  split
  · exact pixelOf_lit _ _ _ _
  · split
    · exact .inl rfl
    · exact pixelOf_lit _ _ _ _

theorem Played.shows {rom : Bytes} {ticks : Nat} {player : Player} (played : Played rom ticks player)
    (positive : 0 < countOf rom) : player.Shows rom ticks := by
  have drawn (place : Nat) (inside : place < 64 * 32) :
      player.pixels[place]? = some (drawnAt rom ticks place) := by
    rw [← Array.getElem?_toList]
    exact played.pixels place inside
  have row : player.row < 32 := by
    rw [played.row]
    exact Nat.mod_lt _ (by decide)
  have packed := played.fits positive
  rw [played.program] at packed
  refine ⟨played.size, row, packed, ?_, ?_, ?_⟩
  · intro pixel member
    obtain ⟨place, inside, rfl⟩ := Array.mem_iff_getElem.mp member
    have bound : place < 64 * 32 := played.size ▸ inside
    have same := drawn place bound
    rw [Array.getElem?_eq_getElem inside] at same
    rw [Option.some.inj same]
    exact drawnAt_lit rom ticks place
  · intro y above x inside
    have bound := Nat.mod_lt ticks (show 0 < 32 by decide)
    rw [drawn _ (by omega), drawnAt, show (64 * y + x) / 64 = y by omega,
      show (64 * y + x) % 64 = x by omega, if_pos above]
  · intro y bound below x inside
    rw [drawn _ (by omega), drawnAt, show (64 * y + x) / 64 = y by omega,
      show (64 * y + x) % 64 = x by omega, if_neg (by omega)]
    have early : ticks < 32 ↔ ticks / 32 = 0 := by omega
    simp only [early]

/-- Every tick of the stretch is made while a key is held, and after it the same keys are held as
before it. -/
structure Frozen (moves stretch : List Move) : Prop where
  ticks : ∀ early late, stretch = early ++ .tick :: late → isFree (moves ++ early) = false
  keys : ∀ key, isHeld (moves ++ stretch) key = isHeld moves key

private theorem played_of_frozen {moves stretch : List Move}
    (ticks : ∀ early late, stretch = early ++ .tick :: late → isFree (moves ++ early) = false) :
    played (moves ++ stretch) = played moves := by
  induction stretch using List.reverseRecOn with
  | nil => rw [List.append_nil]
  | append_singleton early move ih =>
    have held : ¬(move = .tick ∧ isFree (moves ++ early) = true) := by
      rintro ⟨rfl, free⟩
      rw [ticks early [] rfl] at free
      cases free
    rw [← List.append_assoc, played_concat, if_neg held, Nat.add_zero]
    refine ih fun first last split => ticks first (last ++ [move]) ?_
    rw [split, List.append_assoc, List.cons_append]

/-- A program of at least one whole picture never breaks down, whatever keys are held and let go.
Its screen is told by the ticks made while no key was held. A tick with a key held leaves the player
as it is; one without completes a picture, and a round of all pictures, at the multiples. A stretch
in which the player only stands still may be put in anywhere: the later reports and the player in the
end are the same. A program without a whole picture has nothing to run. -/
theorem plays_on_where_it_stopped (rom : Bytes) (moves : List Move) (old : Player) :
    (0 < countOf rom → ∃ reports player,
      (Engine.load rom old).follow moves = some (reports, player) ∧ player.Shows rom (played moves) ∧
      (∃ report later, Engine.tick player = some (report, later) ∧
        if isFree moves = true then
          (report.redraw = true ↔ 32 ∣ played moves + 1) ∧
            (report.beep = true ↔ 32 * countOf rom ∣ played moves + 1)
        else report = { redraw := true, beep := false } ∧ later = player) ∧
      ∀ stretch late, Frozen moves stretch → ∃ between after last,
        (Engine.load rom old).follow (moves ++ late) = some (reports ++ after, last) ∧
        (Engine.load rom old).follow (moves ++ stretch ++ late) =
          some (reports ++ between ++ after, last)) ∧
    ∀ reports player, (Engine.load rom old).follow moves = some (reports, player) →
      Engine.next player = (decide (0 < countOf rom), player) := by
  constructor
  · intro positive
    obtain ⟨reports, player, followed, reached⟩ := (Reached.start rom old).follow positive moves
    rw [List.nil_append] at reached
    have shows := reached.played.shows positive
    refine ⟨reports, player, followed, ⟨shows.size, shows.row, shows.packed, shows.lit, shows.reached,
      shows.below⟩, ?_, ?_⟩
    · cases free : isFree moves with
      | false =>
        obtain ⟨ticked, _⟩ := reached.tick_of_held free
        exact ⟨_, _, ticked, rfl, rfl⟩
      | true =>
        obtain ⟨later, ticked, _⟩ := reached.tick_of_free positive free
        refine ⟨_, later, ticked, ?_⟩
        simp only [if_true, decide_eq_true_eq, Nat.dvd_iff_mod_eq_zero, and_self]
    · intro stretch late frozen
      obtain ⟨between, stood, waited, same⟩ := reached.follow positive stretch
      obtain rfl : stood = player := reached.unique same (played_of_frozen frozen.ticks) frozen.keys
      obtain ⟨after, last, onward, _⟩ := reached.follow positive late
      exact ⟨between, after, last, follow_append followed onward,
        follow_append (follow_append followed waited) onward⟩
  · intro reports player followed
    have same : player.rom = rom := follow_rom followed
    change (decide (0 < player.pictureCount), player) = _
    rw [countOf_eq, same]

end Player
end FrameViewer
