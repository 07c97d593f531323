/-! Binary floating-point numbers as exact dyadic values. Each operation is the exact one
followed by a single rounding to the nearest number of the format, ties to the even significand. -/

namespace FrameViewer

/-- A format by the digits of its significand and the exponents of its last digit. -/
structure Format where
  digits : Nat
  exponentBits : Nat
  minExponent : Int
  maxExponent : Int

def Format.single : Format := ⟨24, 8, -149, 104⟩

def Format.double : Format := ⟨53, 11, -1074, 971⟩

/-- The number `± significand * 2 ^ exponent`, an infinity, or no number. -/
inductive Binary where
  | nan
  | infinity (negative : Bool)
  | finite (negative : Bool) (significand : Nat) (exponent : Int)
  deriving DecidableEq

/-- The nearest integer to `num / den`; a half goes to the even neighbour. -/
def roundHalfEven (num den : Nat) : Nat :=
  let quotient := num / den
  let rest := num % den
  if 2 * rest < den then quotient
  else if den < 2 * rest then quotient + 1
  else quotient + quotient % 2

/-- The greatest `k` with `2 ^ k ≤ num / den`, for positive arguments. -/
def floorLog (num den : Nat) : Int :=
  let estimate : Int := num.log2 - den.log2
  let reached :=
    if 0 ≤ estimate then den <<< estimate.toNat ≤ num else den ≤ num <<< (-estimate).toNat
  if reached then estimate else estimate - 1

/-- How many units of `2 ^ unit` are nearest to `num / den * 2 ^ exponent`. -/
def countUnits (num den : Nat) (exponent unit : Int) : Nat :=
  if unit ≤ exponent then roundHalfEven (num <<< (exponent - unit).toNat) den
  else roundHalfEven num (den <<< (unit - exponent).toNat)

namespace Format

/-- The least significand that has all its digits. -/
def leastFull (f : Format) : Nat := 1 <<< (f.digits - 1)

/-- Rounds `± num / den * 2 ^ exponent` to the format. -/
def round (f : Format) (negative : Bool) (num den : Nat) (exponent : Int) : Binary :=
  if num = 0 then .finite negative 0 f.minExponent
  else
    let unit := max (floorLog num den + exponent - (f.digits - 1 : Nat)) f.minExponent
    let count := countUnits num den exponent unit
    let carried := count = 1 <<< f.digits
    let unit := if carried then unit + 1 else unit
    let count := if carried then f.leastFull else count
    if f.maxExponent < unit then .infinity negative else .finite negative count unit

def ofNat (f : Format) (n : Nat) : Binary :=
  f.round false n 1 0

def ofInt (f : Format) (n : Int) : Binary :=
  f.round (n < 0) n.natAbs 1 0

def ofRatio (f : Format) (num den : Nat) : Binary :=
  f.round false num den 0

/-- The number that the bits of the format's interchange encoding stand for. -/
def ofBits (f : Format) (bits : Nat) : Binary :=
  let fraction := bits % f.leastFull
  let biased := bits / f.leastFull % (1 <<< f.exponentBits)
  let negative := bits.testBit (f.digits - 1 + f.exponentBits)
  if biased + 1 = 1 <<< f.exponentBits then
    if fraction = 0 then .infinity negative else .nan
  else if biased = 0 then .finite negative fraction f.minExponent
  else .finite negative (fraction + f.leastFull) (f.minExponent + (biased - 1 : Nat))

/-- The interchange encoding of a number of the format; no number is the quiet pattern. -/
def toBits (f : Format) (x : Binary) : Nat :=
  let sign (negative : Bool) := if negative then 1 <<< (f.digits - 1 + f.exponentBits) else 0
  let specials := ((1 <<< f.exponentBits) - 1) * f.leastFull
  match x with
  | .nan => specials + (1 <<< (f.digits - 2))
  | .infinity negative => sign negative + specials
  | .finite negative significand exponent =>
    if significand < f.leastFull then sign negative + significand
    else
      sign negative + ((exponent - f.minExponent).toNat + 1) * f.leastFull +
        (significand - f.leastFull)

end Format

namespace Binary

def neg : Binary → Binary
  | nan => nan
  | infinity negative => infinity (!negative)
  | finite negative significand exponent => finite (!negative) significand exponent

/-- A signed significand in units of `2 ^ unit`, for `unit` no greater than the exponent. -/
def signedUnits (negative : Bool) (significand : Nat) (exponent unit : Int) : Int :=
  let units : Int := significand <<< (exponent - unit).toNat
  if negative then -units else units

/-- The exact sum, rounded once. An exact zero is negative only when both summands are. -/
def add (f : Format) : Binary → Binary → Binary
  | nan, _ => nan
  | _, nan => nan
  | infinity a, infinity b => if a = b then infinity a else nan
  | infinity a, finite .. => infinity a
  | finite .., infinity b => infinity b
  | finite a m d, finite b n e =>
    let unit := min d e
    let sum := signedUnits a m d unit + signedUnits b n e unit
    if sum = 0 then finite (a && b) 0 f.minExponent
    else f.round (sum < 0) sum.natAbs 1 unit

def sub (f : Format) (x y : Binary) : Binary :=
  add f x y.neg

def mul (f : Format) : Binary → Binary → Binary
  | nan, _ => nan
  | _, nan => nan
  | infinity a, infinity b => infinity (a != b)
  | infinity a, finite b n _ => if n = 0 then nan else infinity (a != b)
  | finite a m _, infinity b => if m = 0 then nan else infinity (a != b)
  | finite a m d, finite b n e => f.round (a != b) (m * n) 1 (d + e)

/-- The exact quotient, rounded once. A positive number over zero is infinite. -/
def div (f : Format) : Binary → Binary → Binary
  | nan, _ => nan
  | _, nan => nan
  | infinity _, infinity _ => nan
  | infinity a, finite b _ _ => infinity (a != b)
  | finite a _ _, infinity b => finite (a != b) 0 f.minExponent
  | finite a m d, finite b n e =>
    if n = 0 then (if m = 0 then nan else infinity (a != b))
    else f.round (a != b) m n (d - e)

/-- The strict order of numbers. No number is neither less nor greater than any. -/
def lt : Binary → Binary → Bool
  | nan, _ => false
  | _, nan => false
  | infinity a, infinity b => a && !b
  | infinity a, finite .. => a
  | finite .., infinity b => !b
  | finite a m d, finite b n e =>
    let unit := min d e
    signedUnits a m d unit < signedUnits b n e unit

def isZero : Binary → Bool
  | finite _ significand _ => significand == 0
  | _ => false

/-- The greatest integer that is not above the number; a zero keeps its sign. -/
def floor (f : Format) : Binary → Binary
  | finite negative significand exponent =>
    if 0 ≤ exponent then finite negative significand exponent
    else
      let unit := (-exponent).toNat
      let whole := significand >>> unit
      let below := if negative && whole <<< unit != significand then whole + 1 else whole
      f.round negative below 1 0
  | x => x

/-- The integer part as a count below `limit`: negative numbers give zero, larger ones stop at
`limit - 1`, and no number gives zero. -/
def truncate (limit : Nat) : Binary → Nat
  | nan => 0
  | infinity negative => if negative then 0 else limit - 1
  | finite negative significand exponent =>
    if negative then 0
    else
      let whole :=
        if 0 ≤ exponent then significand <<< exponent.toNat
        else significand >>> (-exponent).toNat
      min whole (limit - 1)

/-- The integer part of a number of either sign, toward zero. Numbers below `-limit` stop there,
those from `limit` on stop at `limit - 1`, and no number gives zero. -/
def truncateInt (limit : Nat) : Binary → Int
  | finite true significand exponent => -(finite false significand exponent).truncate (limit + 1)
  | infinity true => -limit
  | x => x.truncate limit

end Binary
end FrameViewer
