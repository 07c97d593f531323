import FrameViewer.Arithmetic.Binary

/-! The running clock counts microseconds from the start of a run. The loop and the audio graph
read it as milliseconds in double precision. -/

namespace FrameViewer

/-- The clock in milliseconds: whole seconds plus the fraction, then scaled. -/
def millis (micros : Nat) : Binary :=
  let f := Format.double
  let fraction := (f.ofNat (micros % 1000000 * 1000)).div f (f.ofNat 1000000000)
  ((f.ofNat (micros / 1000000)).add f fraction).mul f (f.ofNat 1000)

/-- Whole milliseconds, as a signed word of 64 bits that stops at its ends. -/
def wholeMillis (ms : Binary) : Int :=
  ms.truncateInt (UInt64.size / 2)

end FrameViewer
