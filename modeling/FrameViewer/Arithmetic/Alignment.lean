/-! Sizes of device buffers are multiples of an alignment. The alignment is a power of two, so
rounding up is an addition and a mask on 64-bit words; a sum that does not fit a word has no
rounded size. -/

namespace FrameViewer

/-- One more than the largest 64-bit word. -/
def wordLimit : Nat := UInt64.size

/-- The least multiple of `align` that is at least `size`. There is none when the alignment is
zero or the sum of both leaves the word. The mask is the 64-bit complement of `align - 1`. -/
def alignUp? (size align : Nat) : Option Nat :=
  if align = 0 ∨ wordLimit ≤ size + align then none
  else some ((size + align - 1) &&& (wordLimit - align))

end FrameViewer
