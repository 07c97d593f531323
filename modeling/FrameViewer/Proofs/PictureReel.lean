import FrameViewer.Proofs.FrameUploads
import FrameViewer.Proofs.PlayerPictures

/-! All there is to see and to hear of a program: its pictures in order, over and over, with a beep
at the end of each round just before the last picture of the round is shown. -/

namespace FrameViewer

def Mark.frame? : Mark → Option Framebuffer
  | frame shown => some shown
  | cue => none

def Mark.isCue : Mark → Bool
  | frame _ => false
  | cue => true

namespace Player

def frameOf (rom : Bytes) (index : Nat) : Framebuffer :=
  if countOf rom = 0 then dark else pictureOf rom (index % countOf rom)

/-- The ticks after which that frame is complete. -/
def frameTicks (rom : Bytes) : Nat :=
  if countOf rom = 0 then 0 else 32

/-- The beep at the end of a round. -/
def cueOf (rom : Bytes) (index : Nat) : List Mark :=
  if countOf rom ≠ 0 ∧ (index + 1) % countOf rom = 0 then [.cue] else []

/-- The first `count` frames. -/
def reel (rom : Bytes) : Nat → List Mark
  | 0 => []
  | count + 1 => reel rom count ++ (cueOf rom count ++ [.frame (frameOf rom count)])

variable (rom : Bytes)

theorem cueOf_frames (index : Nat) : (cueOf rom index).filterMap Mark.frame? = [] := by
  unfold cueOf
  split <;> rfl

/-- The number of rounds that are complete with a frame. -/
theorem cueOf_count (index : Nat) :
    index / countOf rom + (cueOf rom index).countP Mark.isCue = (index + 1) / countOf rom := by
  unfold cueOf
  by_cases none : countOf rom = 0
  · rw [if_neg (fun round => round.1 none), none, Nat.div_zero, Nat.div_zero]
    rfl
  · rw [Nat.succ_div]
    by_cases last : (index + 1) % countOf rom = 0
    · rw [if_pos ⟨none, last⟩, if_pos (Nat.dvd_of_mod_eq_zero last)]
      rfl
    · rw [if_neg (fun round => last round.2),
        if_neg (fun whole => last (Nat.mod_eq_zero_of_dvd whole))]
      rfl

theorem reel_frames (count : Nat) :
    (reel rom count).filterMap Mark.frame? = (List.range count).map (frameOf rom) := by
  induction count with
  | zero => rfl
  | succ count ih =>
    rw [reel, List.filterMap_append, List.filterMap_append, ih, cueOf_frames, List.range_succ,
      List.map_append]
    rfl

theorem reel_cues (count : Nat) : (reel rom count).countP Mark.isCue = count / countOf rom := by
  induction count with
  | zero => exact (Nat.zero_div _).symm
  | succ count ih =>
    rw [reel, List.countP_append, List.countP_append, ih, ← cueOf_count]
    rfl

/-- The stretch that a frame adds to the reel has that frame at its end only. -/
private theorem cueOf_split {index : Nat} {last shown : Framebuffer} {between late : List Mark}
    (split : cueOf rom index ++ [.frame last] = between ++ .frame shown :: late) :
    between = cueOf rom index ∧ shown = last := by
  obtain silent | sounds : cueOf rom index = [] ∨ cueOf rom index = [.cue] := by
    unfold cueOf
    split
    · exact .inr rfl
    · exact .inl rfl
  · rw [silent] at split ⊢
    rcases between with _ | ⟨first, rest⟩
    · cases split
      exact ⟨rfl, rfl⟩
    · simp at split
  · rw [sounds] at split ⊢
    rcases between with _ | ⟨first, _ | ⟨second, rest⟩⟩
    · cases split
    · cases split
      exact ⟨rfl, rfl⟩
    · simp at split

/-- Wherever a frame stands in the reel, the frames before it tell which one it is, and the beeps
before it are the rounds that are complete with it. -/
theorem reel_split {count : Nat} {early late : List Mark} {shown : Framebuffer}
    (split : reel rom count = early ++ .frame shown :: late) :
    shown = frameOf rom (early.filterMap Mark.frame?).length ∧
      early.countP Mark.isCue = ((early.filterMap Mark.frame?).length + 1) / countOf rom := by
  induction count generalizing late with
  | zero => exact nomatch List.append_eq_nil_iff.mp split.symm
  | succ count ih =>
    have latest {between : List Mark} (same : early = reel rom count ++ between)
        (rest : cueOf rom count ++ [.frame (frameOf rom count)] = between ++ .frame shown :: late) :
        shown = frameOf rom (early.filterMap Mark.frame?).length ∧
          early.countP Mark.isCue = ((early.filterMap Mark.frame?).length + 1) / countOf rom := by
      obtain ⟨rfl, rfl⟩ := cueOf_split rom rest
      have frames : (early.filterMap Mark.frame?).length = count := by
        rw [same, List.filterMap_append, reel_frames, cueOf_frames, List.append_nil, List.length_map,
          List.length_range]
      rw [frames, same, List.countP_append, reel_cues, cueOf_count]
      exact ⟨rfl, rfl⟩
    rw [reel] at split
    rcases List.append_eq_append_iff.mp split with ⟨between, same, rest⟩ | ⟨between, same, rest⟩
    · exact latest same rest
    · rcases between with _ | ⟨first, between⟩
      · have whole : early = reel rom count ++ [] := by rw [same, List.append_nil, List.append_nil]
        exact latest whole rest.symm
      · obtain ⟨rfl, _⟩ := List.cons.inj rest
        exact ih same

end Player
end FrameViewer
