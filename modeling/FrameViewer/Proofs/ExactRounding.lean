import Mathlib.Algebra.Order.Field.Power
import Mathlib.Algebra.Order.Floor.Ring
import Mathlib.Algebra.Order.Floor.Semifield
import Mathlib.Data.Rat.Floor
import Mathlib.Tactic.FieldSimp
import Mathlib.Tactic.Linarith
import Mathlib.Tactic.Positivity
import Mathlib.Tactic.Ring
import FrameViewer.Arithmetic.Binary

/-! The rational numbers behind the floating-point ones. Rounding never passes a number that the
format holds, so an operation whose exact result the format holds gives just that, and one whose exact
result is between two powers of two stays between them. -/

namespace FrameViewer

def signum (negative : Bool) : ℚ :=
  if negative then -1 else 1

def Binary.value? : Binary → Option ℚ
  | finite negative significand exponent => some (signum negative * (significand * 2 ^ exponent))
  | _ => none

namespace Format

/-- A number of the format: its digits are few enough and its exponent is in range. -/
def Holds (f : Format) (value : ℚ) : Prop :=
  ∃ significand exponent : ℤ, value = significand * 2 ^ exponent ∧ |significand| < 2 ^ f.digits ∧
    f.minExponent ≤ exponent ∧ exponent ≤ f.maxExponent

/-- The result is finite between numbers of the format and passes none of them. -/
def Rounds (f : Format) (exact : ℚ) (result : Binary) : Prop :=
  ∀ low high, f.Holds low → f.Holds high → low ≤ exact → exact ≤ high →
    ∃ value, result.value? = some value ∧ low ≤ value ∧ value ≤ high

variable {f : Format} {exact : ℚ} {result : Binary}

theorem Holds.neg {value : ℚ} (holds : f.Holds value) : f.Holds (-value) := by
  obtain ⟨significand, exponent, rfl, few, range⟩ := holds
  exact ⟨-significand, exponent, by push_cast; ring, by rwa [abs_neg], range⟩

theorem holds_two_pow (digits : 0 < f.digits) {exponent : ℤ} (least : f.minExponent ≤ exponent)
    (most : exponent ≤ f.maxExponent) : f.Holds (2 ^ exponent) := by
  refine ⟨1, exponent, by simp, ?_, least, most⟩
  rw [abs_one]
  exact one_lt_pow₀ one_lt_two digits.ne'

private theorem Rounds.of_value? (value : result.value? = some exact) : f.Rounds exact result :=
  fun _ _ _ _ above below => ⟨exact, value, above, below⟩

theorem Rounds.value?_eq (rounds : f.Rounds exact result) (holds : f.Holds exact) :
    result.value? = some exact := by
  obtain ⟨value, equal, above, below⟩ := rounds exact exact holds holds le_rfl le_rfl
  rw [equal, le_antisymm below above]

end Format

section Units

variable {num den : ℕ}

private theorem cast_div_eq (num : ℕ) (positive : 0 < den) :
    (num : ℚ) / den = (num / den : ℕ) + (num % den : ℕ) / den := by
  have large : (den : ℚ) ≠ 0 := by exact_mod_cast positive.ne'
  rw [div_eq_iff large, add_mul, div_mul_cancel₀ _ large, mul_comm]
  exact_mod_cast (Nat.div_add_mod num den).symm

private theorem roundHalfEven_near (num : ℕ) (positive : 0 < den) :
    |(roundHalfEven num den : ℚ) - num / den| ≤ 1 / 2 := by
  have large : (0 : ℚ) < den := by exact_mod_cast positive
  have less := Nat.mod_lt num positive
  rw [cast_div_eq num positive, roundHalfEven, abs_le]
  generalize num / den = quotient at *
  generalize num % den = left at *
  have nonneg : (0 : ℚ) ≤ left / den := by positivity
  have small : (left : ℚ) / den ≤ 1 := by
    rw [div_le_one large]
    exact_mod_cast less.le
  split
  next below =>
    have half : (left : ℚ) / den ≤ 1 / 2 := by
      have : (2 : ℚ) * left < den := by exact_mod_cast below
      rw [div_le_iff₀ large]
      linarith
    constructor <;> linarith
  next reached =>
    split
    next above =>
      have half : 1 / 2 ≤ (left : ℚ) / den := by
        have : (den : ℚ) < 2 * left := by exact_mod_cast above
        rw [le_div_iff₀ large]
        linarith
      push_cast
      constructor <;> linarith
    next tie =>
      have half : (left : ℚ) / den = 1 / 2 := by
        have same : 2 * left = den := by omega
        have : (2 : ℚ) * left = den := by exact_mod_cast same
        rw [div_eq_iff large.ne']
        linarith
      have even : ((quotient % 2 : ℕ) : ℚ) ≤ 1 := by
        exact_mod_cast Nat.le_of_lt_succ (Nat.mod_lt quotient two_pos)
      have : (0 : ℚ) ≤ (quotient % 2 : ℕ) := Nat.cast_nonneg _
      rw [half, Nat.cast_add]
      constructor <;> linarith

private theorem cast_shiftLeft (n : ℕ) {steps : ℤ} (nonneg : 0 ≤ steps) :
    ((n <<< steps.toNat : ℕ) : ℚ) = n * 2 ^ steps := by
  obtain ⟨count, rfl⟩ := Int.eq_ofNat_of_zero_le nonneg
  simp [Nat.shiftLeft_eq]

private theorem mul_zpow_of_neg (n : ℕ) {steps : ℤ} (negative : steps < 0) :
    (n : ℚ) * 2 ^ steps = n / (2 ^ (-steps).toNat : ℕ) := by
  rw [div_eq_mul_inv, Nat.cast_pow, Nat.cast_two, ← zpow_natCast, ← zpow_neg,
    Int.toNat_of_nonneg (by omega), neg_neg]

private theorem shift_units (significand : ℤ) {unit place : ℤ} (reach : unit ≤ place) :
    (significand : ℚ) * 2 ^ place =
      ((significand * 2 ^ (place - unit).toNat : ℤ) : ℚ) * 2 ^ unit := by
  obtain ⟨shift, rfl⟩ := Int.le.dest reach
  rw [zpow_add₀ two_ne_zero]
  simp
  ring

private theorem countUnits_near (num : ℕ) (positive : 0 < den) (exponent unit : ℤ) :
    |(countUnits num den exponent unit : ℚ) - num / den * 2 ^ exponent / 2 ^ unit| ≤ 1 / 2 := by
  rw [mul_div_assoc, ← zpow_sub₀ two_ne_zero, countUnits]
  split
  next fine =>
    have near := roundHalfEven_near (num <<< (exponent - unit).toNat) positive
    rwa [cast_shiftLeft num (by omega), mul_div_right_comm] at near
  next coarse =>
    have near := roundHalfEven_near num
      (show 0 < den <<< (unit - exponent).toNat by simpa [Nat.shiftLeft_eq] using positive)
    rwa [cast_shiftLeft den (by omega), ← div_div, div_eq_mul_inv _ ((2 : ℚ) ^ (unit - exponent)),
      ← zpow_neg, neg_sub] at near

/-- The counts on either side are integers, so a bound that is one holds of both. -/
private theorem countUnits_le {exponent unit bound : ℤ} (positive : 0 < den)
    (below : (num : ℚ) / den * 2 ^ exponent ≤ bound * 2 ^ unit) :
    (countUnits num den exponent unit : ℤ) ≤ bound := by
  have near := abs_le.mp (countUnits_near num positive exponent unit)
  rw [← div_le_iff₀ (by positivity)] at below
  have : ((countUnits num den exponent unit : ℤ) : ℚ) < (bound + 1 : ℤ) := by
    push_cast
    linarith
  exact Int.lt_add_one_iff.mp (by exact_mod_cast this)

private theorem le_countUnits {exponent unit bound : ℤ} (positive : 0 < den)
    (above : (bound : ℚ) * 2 ^ unit ≤ num / den * 2 ^ exponent) :
    bound ≤ countUnits num den exponent unit := by
  have near := abs_le.mp (countUnits_near num positive exponent unit)
  rw [← le_div_iff₀ (by positivity)] at above
  have : (bound : ℚ) < ((countUnits num den exponent unit + 1 : ℤ) : ℚ) := by
    push_cast
    linarith
  exact Int.lt_add_one_iff.mp (by exact_mod_cast this)

end Units

section Leading

variable {num den : ℕ}

theorem log2_bounds {n : ℕ} (positive : 0 < n) :
    (2 : ℚ) ^ (n.log2 : ℤ) ≤ n ∧ (n : ℚ) < 2 ^ (n.log2 + 1 : ℤ) := by
  constructor
  · exact_mod_cast Nat.log2_self_le positive.ne'
  · exact_mod_cast Nat.lt_log2_self

private theorem power_le_iff (den_pos : 0 < den) (power : ℤ) :
    (if 0 ≤ power then den <<< power.toNat ≤ num else den ≤ num <<< (-power).toNat) ↔
      (2 : ℚ) ^ power ≤ num / den := by
  have large : (0 : ℚ) < den := by exact_mod_cast den_pos
  rw [le_div_iff₀ large]
  split
  next up => rw [← Nat.cast_le (α := ℚ), cast_shiftLeft den up, mul_comm]
  next down =>
    rw [← Nat.cast_le (α := ℚ), cast_shiftLeft num (by omega), zpow_neg, ← div_eq_mul_inv,
      le_div_iff₀ (by positivity), mul_comm]

private theorem floorLog_bounds (num_pos : 0 < num) (den_pos : 0 < den) :
    (2 : ℚ) ^ floorLog num den ≤ num / den ∧ (num : ℚ) / den < 2 ^ (floorLog num den + 1) := by
  have large : (0 : ℚ) < den := by exact_mod_cast den_pos
  obtain ⟨num_low, num_high⟩ := log2_bounds num_pos
  obtain ⟨den_low, den_high⟩ := log2_bounds den_pos
  rw [floorLog]
  generalize of_logs : (num.log2 : ℤ) - den.log2 = estimate
  simp only [power_le_iff den_pos]
  split
  next reached =>
    refine ⟨reached, (div_lt_iff₀ large).mpr (num_high.trans_le ?_)⟩
    calc (2 : ℚ) ^ (num.log2 + 1 : ℤ) = 2 ^ (estimate + 1) * 2 ^ (den.log2 : ℤ) := by
          rw [← zpow_add₀ two_ne_zero]
          congr 1
          omega
      _ ≤ 2 ^ (estimate + 1) * den := by gcongr
  next missed =>
    refine ⟨(le_div_iff₀ large).mpr (le_trans ?_ num_low), by simpa using missed⟩
    calc (2 : ℚ) ^ (estimate - 1) * den ≤ 2 ^ (estimate - 1) * 2 ^ (den.log2 + 1 : ℤ) := by gcongr
      _ = 2 ^ (num.log2 : ℤ) := by
          rw [← zpow_add₀ two_ne_zero]
          congr 1
          omega

private theorem leading_le (num_pos : 0 < num) (den_pos : 0 < den) (exponent : ℤ) :
    (2 : ℚ) ^ (floorLog num den + exponent) ≤ num / den * 2 ^ exponent := by
  rw [zpow_add₀ two_ne_zero]
  gcongr
  exact (floorLog_bounds num_pos den_pos).1

end Leading

namespace Format

variable {f : Format} {num den : ℕ} {exponent : ℤ}

/-- The exponent of the last digit of `num / den * 2 ^ exponent`, rounded. -/
def lastDigit (f : Format) (num den : ℕ) (exponent : ℤ) : ℤ :=
  max (floorLog num den + exponent - (f.digits - 1 : ℕ)) f.minExponent

/-- The size of `num / den * 2 ^ exponent`, rounded, for exponents without an upper bound. -/
def nearest (f : Format) (num den : ℕ) (exponent : ℤ) : ℚ :=
  countUnits num den exponent (f.lastDigit num den exponent) * 2 ^ f.lastDigit num den exponent

private theorem value?_round (negative : Bool) {top : ℤ} (nonzero : num ≠ 0) (digits : 0 < f.digits)
    (range : top ≤ f.maxExponent) (reach : f.lastDigit num den exponent ≤ top)
    (room : f.nearest num den exponent < 2 ^ (f.digits + top : ℤ)) :
    (f.round negative num den exponent).value? =
      some (signum negative * f.nearest num den exponent) := by
  simp only [round, if_neg nonzero, nearest, lastDigit] at *
  generalize max _ f.minExponent = unit at *
  generalize countUnits num den exponent unit = count at *
  split
  next carried =>
    have total : (count : ℚ) = 2 ^ (f.digits : ℤ) := by simp [carried, Nat.shiftLeft_eq]
    rw [total, ← zpow_add₀ two_ne_zero] at room ⊢
    have : unit < top := by
      rw [zpow_lt_zpow_iff_right₀ one_lt_two] at room
      omega
    have half : (f.leastFull : ℚ) * 2 ^ (unit + 1) = 2 ^ (f.digits + unit) := by
      have : ((f.digits - 1 : ℕ) : ℤ) + (unit + 1) = f.digits + unit := by omega
      rw [leastFull, Nat.shiftLeft_eq, one_mul, Nat.cast_pow, Nat.cast_two, ← zpow_natCast,
        ← zpow_add₀ two_ne_zero, this]
    rw [if_neg (by omega), Binary.value?, half]
  next => rw [if_neg (by omega), Binary.value?]

private theorem units_le_nearest {units : ℤ} (den_pos : 0 < den)
    (above : (units : ℚ) * 2 ^ f.lastDigit num den exponent ≤ num / den * 2 ^ exponent) :
    (units : ℚ) * 2 ^ f.lastDigit num den exponent ≤ f.nearest num den exponent := by
  rw [nearest]
  gcongr
  exact_mod_cast le_countUnits den_pos above

private theorem lt_of_few {digits : ℕ} {significand : ℤ} (few : |significand| < 2 ^ digits) (place : ℤ) :
    (significand : ℚ) * 2 ^ place < 2 ^ (digits + place : ℤ) := by
  rw [zpow_add₀ two_ne_zero]
  gcongr
  exact_mod_cast (le_abs_self significand).trans_lt few

section Neighbours

variable (num_pos : 0 < num) (den_pos : 0 < den) (digits : 0 < f.digits) {significand place : ℤ}
  (few : |significand| < 2 ^ f.digits) (least : f.minExponent ≤ place)
include num_pos den_pos digits few least

/-- A number with as many digits reaches the leading digit only if its last one is as high. -/
theorem lastDigit_le (below : (num : ℚ) / den * 2 ^ exponent ≤ significand * 2 ^ place) :
    f.lastDigit num den exponent ≤ place := by
  refine max_le ?_ least
  have leading := (leading_le num_pos den_pos exponent).trans_lt
    (below.trans_lt (lt_of_few few place))
  rw [zpow_lt_zpow_iff_right₀ one_lt_two] at leading
  omega

private theorem nearest_le (below : (num : ℚ) / den * 2 ^ exponent ≤ significand * 2 ^ place) :
    f.nearest num den exponent ≤ significand * 2 ^ place := by
  have reach := lastDigit_le num_pos den_pos digits few least below
  rw [shift_units significand reach] at below ⊢
  rw [nearest]
  gcongr
  exact_mod_cast countUnits_le den_pos below

private theorem le_nearest (above : (significand : ℚ) * 2 ^ place ≤ num / den * 2 ^ exponent) :
    (significand : ℚ) * 2 ^ place ≤ f.nearest num den exponent := by
  rcases le_or_gt (f.lastDigit num den exponent) place with reach | beyond
  · rw [shift_units significand reach] at above ⊢
    exact units_le_nearest den_pos above
  · -- the last digit is above the number's, so all the digits are there and make the larger number
    have leading : floorLog num den + exponent =
        (f.digits - 1 : ℕ) + f.lastDigit num den exponent := by
      rw [lastDigit] at *
      omega
    have full : ((2 ^ (f.digits - 1) : ℤ) : ℚ) * 2 ^ f.lastDigit num den exponent =
        2 ^ (floorLog num den + exponent) := by
      rw [leading, zpow_add₀ two_ne_zero, zpow_natCast, Int.cast_pow, Int.cast_two]
    calc (significand : ℚ) * 2 ^ place ≤ 2 ^ (f.digits + place) := (lt_of_few few place).le
      _ ≤ 2 ^ (floorLog num den + exponent) := zpow_le_zpow_right₀ one_le_two (by omega)
      _ ≤ f.nearest num den exponent := by
          rw [← full]
          exact units_le_nearest den_pos (full.trans_le (leading_le num_pos den_pos exponent))

end Neighbours

private theorem round_rounds (digits : 0 < f.digits) (negative : Bool) (num : ℕ) (den_pos : 0 < den)
    (exponent : ℤ) : f.Rounds (signum negative * (num / den * 2 ^ exponent))
      (f.round negative num den exponent) := by
  rcases Nat.eq_zero_or_pos num with rfl | num_pos
  · exact .of_value? (by simp [round, Binary.value?])
  have unsigned {low high : ℚ} (holds_low : f.Holds low) (holds_high : f.Holds high)
      (above : low ≤ num / den * 2 ^ exponent) (below : num / den * 2 ^ exponent ≤ high) :
      (f.round negative num den exponent).value? =
          some (signum negative * f.nearest num den exponent) ∧
        low ≤ f.nearest num den exponent ∧ f.nearest num den exponent ≤ high := by
    obtain ⟨_, _, rfl, few_low, least_low, -⟩ := holds_low
    obtain ⟨_, top, rfl, few_high, least_high, range⟩ := holds_high
    have reach := lastDigit_le num_pos den_pos digits few_high least_high below
    have le := nearest_le num_pos den_pos digits few_high least_high below
    exact ⟨value?_round negative num_pos.ne' digits range reach
        (le.trans_lt (lt_of_few few_high top)),
      le_nearest num_pos den_pos digits few_low least_low above, le⟩
  intro low high holds_low holds_high above below
  cases negative with
  | false =>
    simp only [signum, Bool.false_eq_true, if_false, one_mul] at above below unsigned
    obtain ⟨value, bounds⟩ := unsigned holds_low holds_high above below
    exact ⟨_, value, bounds⟩
  | true =>
    simp only [signum, if_true, neg_one_mul] at above below unsigned
    obtain ⟨value, low', high'⟩ := unsigned holds_high.neg holds_low.neg (by linarith) (by linarith)
    exact ⟨_, value, by linarith, by linarith⟩

end Format

section Signs

private theorem signum_not (negative : Bool) : signum (!negative) = -signum negative := by
  cases negative <;> simp [signum]

private theorem signum_bne (a b : Bool) : signum (a != b) = signum a * signum b := by
  cases a <;> cases b <;> simp [signum]

private theorem signum_inv (negative : Bool) : (signum negative)⁻¹ = signum negative := by
  cases negative <;> simp [signum]

private theorem signum_natAbs (n : ℤ) : signum (decide (n < 0)) * n.natAbs = n := by
  rw [Nat.cast_natAbs]
  rcases lt_or_ge n 0 with below | above
  · simp [signum, below, abs_of_neg]
  · simp [signum, above.not_gt, abs_of_nonneg above]

private theorem signedUnits_eq (negative : Bool) (significand : ℕ) {exponent unit : ℤ}
    (reach : unit ≤ exponent) :
    (Binary.signedUnits negative significand exponent unit : ℚ) * 2 ^ unit =
      signum negative * (significand * 2 ^ exponent) := by
  have units : ((significand <<< (exponent - unit).toNat : ℕ) : ℚ) * 2 ^ unit =
      significand * 2 ^ exponent := by
    rw [cast_shiftLeft _ (by omega), mul_assoc, ← zpow_add₀ two_ne_zero, sub_add_cancel]
  rw [← units, Binary.signedUnits]
  cases negative <;> simp [signum, Nat.shiftLeft_eq]

/-- The floor of a signed quotient, counted up from zero. -/
private theorem floor_signed_div (negative : Bool) (num : ℕ) {den : ℕ} (positive : 0 < den) :
    (⌊signum negative * ((num : ℚ) / den)⌋ : ℚ) = signum negative *
      (if negative && num / den * den != num then num / den + 1 else num / den : ℕ) := by
  have large : (0 : ℚ) < den := by exact_mod_cast positive
  have low := Nat.div_mul_le_self num den
  have high := (Nat.div_lt_iff_lt_mul positive).mp (num / den).lt_succ_self
  have floor_div : ⌊(num : ℚ) / den⌋ = (num / den : ℕ) := by
    rw [Rat.floor_natCast_div_natCast, Int.natCast_div]
  generalize num / den = quotient at *
  cases negative with
  | false => simp [signum, floor_div]
  | true =>
    by_cases whole : quotient * den = num
    · have : (num : ℚ) / den = quotient := by
        rw [div_eq_iff large.ne']
        exact_mod_cast whole.symm
      simp [signum, whole, this, Int.floor_neg]
    · have above : (quotient : ℚ) < num / den := by
        rw [lt_div_iff₀ large]
        exact_mod_cast low.lt_of_ne whole
      have below : (num : ℚ) / den < quotient + 1 := by
        rw [div_lt_iff₀ large]
        exact_mod_cast high
      have : ⌊-((num : ℚ) / den)⌋ = -(quotient + 1 : ℤ) := by
        rw [Int.floor_eq_iff]
        push_cast
        constructor <;> linarith
      simp [signum, whole, this]

end Signs

namespace Binary
open Format

variable {f : Format} (digits : 0 < f.digits) {x y : Binary} {p q : ℚ}

private theorem value?_eq_some : x.value? = some p ↔ ∃ negative significand exponent,
    x = finite negative significand exponent ∧
      signum negative * (significand * 2 ^ exponent) = p := by
  cases x <;> simp [value?, and_assoc]

private theorem value?_neg (x_value : x.value? = some p) : x.neg.value? = some (-p) := by
  obtain ⟨negative, significand, exponent, rfl, rfl⟩ := value?_eq_some.mp x_value
  rw [neg, value?, signum_not, neg_mul]

theorem lt_iff (x_value : x.value? = some p) (y_value : y.value? = some q) :
    x.lt y = true ↔ p < q := by
  obtain ⟨a, m, d, rfl, rfl⟩ := value?_eq_some.mp x_value
  obtain ⟨b, n, e, rfl, rfl⟩ := value?_eq_some.mp y_value
  rw [← signedUnits_eq a m (min_le_left d e), ← signedUnits_eq b n (min_le_right d e),
    mul_lt_mul_iff_left₀ (by positivity)]
  simp [lt]

/-- Below the limit the count is the integer part. -/
theorem truncate_eq_floor (x_value : x.value? = some p) (nonneg : 0 ≤ p) {limit : ℕ}
    (room : p < limit) : x.truncate limit = ⌊p⌋₊ := by
  obtain ⟨a, m, d, rfl, rfl⟩ := value?_eq_some.mp x_value
  cases a with
  | true =>
    have zero : (m : ℚ) * 2 ^ d = 0 := by
      have : (0 : ℚ) ≤ m * 2 ^ d := by positivity
      simp only [signum, if_true] at nonneg
      linarith
    simp [truncate, zero]
  | false =>
    simp only [signum, Bool.false_eq_true, if_false, one_mul] at room ⊢
    have whole : (if 0 ≤ d then m <<< d.toNat else m >>> (-d).toNat) = ⌊(m : ℚ) * 2 ^ d⌋₊ := by
      split
      next up => rw [← cast_shiftLeft m up, Nat.floor_natCast]
      next down =>
        rw [mul_zpow_of_neg m (not_le.mp down), Nat.floor_div_eq_div, Nat.shiftRight_eq_div_pow]
    have below : ⌊(m : ℚ) * 2 ^ d⌋₊ < limit := (Nat.floor_lt (by positivity)).mpr room
    simp only [truncate, Bool.false_eq_true, if_false, whole]
    omega

include digits

private theorem ofNat_rounds (n : ℕ) : f.Rounds n (f.ofNat n) := by
  simpa [signum, Format.ofNat] using round_rounds digits false n one_pos 0

private theorem add_rounds (x_value : x.value? = some p) (y_value : y.value? = some q) :
    f.Rounds (p + q) (x.add f y) := by
  obtain ⟨a, m, d, rfl, rfl⟩ := value?_eq_some.mp x_value
  obtain ⟨b, n, e, rfl, rfl⟩ := value?_eq_some.mp y_value
  rw [← signedUnits_eq a m (min_le_left d e), ← signedUnits_eq b n (min_le_right d e), ← add_mul,
    ← Int.cast_add]
  simp only [add]
  generalize signedUnits a m d (min d e) + signedUnits b n e (min d e) = sum
  split
  next zero => exact .of_value? (by simp [value?, zero])
  next =>
    have rounds := round_rounds digits (sum < 0) sum.natAbs one_pos (min d e)
    rwa [Nat.cast_one, div_one, ← mul_assoc, signum_natAbs] at rounds

theorem sub_rounds (x_value : x.value? = some p) (y_value : y.value? = some q) :
    f.Rounds (p - q) (x.sub f y) := by
  rw [sub_eq_add_neg]
  exact add_rounds digits x_value (value?_neg y_value)

theorem mul_rounds (x_value : x.value? = some p) (y_value : y.value? = some q) :
    f.Rounds (p * q) (x.mul f y) := by
  obtain ⟨a, m, d, rfl, rfl⟩ := value?_eq_some.mp x_value
  obtain ⟨b, n, e, rfl, rfl⟩ := value?_eq_some.mp y_value
  have rounds := round_rounds digits (a != b) (m * n) one_pos (d + e)
  rw [signum_bne, zpow_add₀ two_ne_zero] at rounds
  rw [mul]
  convert rounds using 1
  push_cast
  ring

theorem div_rounds (x_value : x.value? = some p) (y_value : y.value? = some q) (nonzero : q ≠ 0) :
    f.Rounds (p / q) (x.div f y) := by
  obtain ⟨a, m, d, rfl, rfl⟩ := value?_eq_some.mp x_value
  obtain ⟨b, n, e, rfl, rfl⟩ := value?_eq_some.mp y_value
  have : n ≠ 0 := by
    rintro rfl
    simp at nonzero
  have rounds := round_rounds digits (a != b) m (Nat.pos_of_ne_zero this) (d - e)
  rw [signum_bne, zpow_sub₀ two_ne_zero] at rounds
  rw [div, if_neg this]
  convert rounds using 1
  rw [mul_div_mul_comm, div_eq_mul_inv (signum a), signum_inv, mul_div_mul_comm]

theorem floor_rounds (x_value : x.value? = some p) : f.Rounds ⌊p⌋ (x.floor f) := by
  obtain ⟨a, m, d, rfl, rfl⟩ := value?_eq_some.mp x_value
  rw [floor]
  split
  next whole =>
    refine .of_value? ?_
    rw [x_value, ← signedUnits_eq a m whole, zpow_zero, mul_one, Int.floor_intCast]
  next fraction =>
    have rounds := round_rounds digits a
      (if a && m >>> (-d).toNat <<< (-d).toNat != m then m >>> (-d).toNat + 1
        else m >>> (-d).toNat) one_pos 0
    convert rounds using 1
    rw [mul_zpow_of_neg m (not_le.mp fraction), zpow_zero, mul_one, Nat.cast_one, div_one,
      floor_signed_div a m (by positivity), Nat.shiftLeft_eq, Nat.shiftRight_eq_div_pow]

def Within (x : Binary) (low high : ℤ) : Prop :=
  ∃ value, x.value? = some value ∧ 2 ^ low ≤ value ∧ value ≤ 2 ^ high

section Powers

variable {a b c d : ℤ}

private theorem within_of_rounds {exact : ℚ} (rounds : f.Rounds exact x) (least : f.minExponent ≤ a)
    (order : a ≤ b) (most : b ≤ f.maxExponent) (above : 2 ^ a ≤ exact) (below : exact ≤ 2 ^ b) :
    x.Within a b :=
  rounds _ _ (holds_two_pow digits least (order.trans most))
    (holds_two_pow digits (least.trans order) most) above below

theorem ofNat_within {n : ℕ} (positive : 0 < n) (least : f.minExponent ≤ n.log2)
    (most : n.log2 + 1 ≤ f.maxExponent) : (f.ofNat n).Within n.log2 (n.log2 + 1) := by
  obtain ⟨low, high⟩ := log2_bounds positive
  exact within_of_rounds digits (ofNat_rounds digits n) least (by omega) most low high.le

theorem Within.div (dividend : x.Within a b) (divisor : y.Within c d)
    (least : f.minExponent ≤ a - d) (order : a - d ≤ b - c) (most : b - c ≤ f.maxExponent) :
    (x.div f y).Within (a - d) (b - c) := by
  obtain ⟨p, x_value, p_low, p_high⟩ := dividend
  obtain ⟨q, y_value, q_low, q_high⟩ := divisor
  have positive : 0 < q := lt_of_lt_of_le (by positivity) q_low
  refine within_of_rounds digits (div_rounds digits x_value y_value positive.ne') least order most
    ?_ ?_
  · rw [zpow_sub₀ two_ne_zero]
    gcongr
    exact le_trans (by positivity) p_low
  · rw [zpow_sub₀ two_ne_zero]
    gcongr

end Powers
end Binary

section Single
open Format Binary

theorem single_holds (n : ℤ) (halvings : ℕ) (few : |n| ≤ 2 ^ 23) (fine : halvings ≤ 149) :
    single.Holds (n / 2 ^ halvings) := by
  refine ⟨n, -halvings, by rw [zpow_neg, zpow_natCast, div_eq_mul_inv], ?_, ?_, ?_⟩
  · exact few.trans_lt (by decide)
  · simp only [single]
    omega
  · simp only [single]
    omega

theorem single_holds_int (n : ℤ) (few : |n| ≤ 2 ^ 23) : single.Holds n := by
  simpa using single_holds n 0 few (by decide)

theorem single_digits_pos : 0 < single.digits := by
  decide

theorem value?_ofNat {n : ℕ} (few : n ≤ 2 ^ 23) : (single.ofNat n).value? = some (n : ℚ) :=
  (ofNat_rounds single_digits_pos n).value?_eq (single_holds_int n (by simpa using mod_cast few))

end Single
end FrameViewer
