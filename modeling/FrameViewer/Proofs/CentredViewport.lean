import FrameViewer.Graphics.Viewport
import FrameViewer.Proofs.ExactRounding

/-! The viewport as the largest centred rectangle. On surfaces of up to `2 ^ 22` pixels either way
every step but the quotient of the sides is exact, and that one falls on the right side of the
aspect. -/

namespace FrameViewer
open Format Binary

structure Area where
  x : ℚ
  y : ℚ
  width : ℚ
  height : ℚ

namespace Area

structure Within (area : Area) (width height : ℚ) : Prop where
  left : 0 ≤ area.x
  top : 0 ≤ area.y
  right : area.x + area.width ≤ width
  bottom : area.y + area.height ≤ height

/-- No rectangle twice as wide as high is larger, and it is less than two pixels off the middle. -/
structure LargestCentred (area : Area) (width height : ℚ) : Prop where
  positive : 0 < area.width
  aspect : area.width = 2 * area.height
  within : area.Within width height
  largest : ∀ other : Area, other.width = 2 * other.height → other.Within width height →
    other.width ≤ area.width
  level : |area.x - (width - (area.x + area.width))| < 2
  upright : |area.y - (height - (area.y + area.height))| < 2

def centred (width height across : ℚ) : Area :=
  ⟨⌊(width - across) / 2⌋, ⌊(height - across / 2) / 2⌋, across, across / 2⟩

private theorem margins_near (whole used : ℚ) :
    |(⌊(whole - used) / 2⌋ : ℚ) - (whole - (⌊(whole - used) / 2⌋ + used))| < 2 := by
  have low := Int.floor_le ((whole - used) / 2)
  have high := Int.lt_floor_add_one ((whole - used) / 2)
  rw [abs_lt]
  constructor <;> linarith

private theorem margin_fits {whole used : ℚ} (room : used ≤ whole) :
    (0 : ℚ) ≤ ⌊(whole - used) / 2⌋ ∧ ⌊(whole - used) / 2⌋ + used ≤ whole := by
  constructor
  · exact Int.cast_nonneg (Int.floor_nonneg.mpr (by linarith))
  · linarith [Int.floor_le ((whole - used) / 2)]

private theorem centred_largest {width height across : ℚ} (positive : 0 < across) (level : across ≤ width)
    (upright : across / 2 ≤ height) (full : width ≤ across ∨ height ≤ across / 2) :
    (centred width height across).LargestCentred width height where
  positive := positive
  aspect := (mul_div_cancel₀ across two_ne_zero).symm
  within :=
    ⟨(margin_fits level).1, (margin_fits upright).1, (margin_fits level).2, (margin_fits upright).2⟩
  largest other aspect within := by
    obtain ⟨left, top, right, bottom⟩ := within
    rw [centred]
    rcases full with full | full <;> linarith
  level := margins_near width across
  upright := margins_near height (across / 2)

end Area

def Viewport.area? (viewport : Viewport) : Option Area := do
  return ⟨← viewport.x.value?, ← viewport.y.value?, ← viewport.width.value?,
    ← viewport.height.value?⟩

/-- The viewport in exact arithmetic. -/
def fittedArea (width height : ℕ) : Area :=
  if 2 * height < width then ⟨⌊(width - 2 * height : ℚ) / 2⌋, 0, 2 * height, height⟩
  else ⟨0, ⌊(2 * height - width : ℚ) / 4⌋, width, width / 2⟩

private theorem fittedArea_eq (width height : ℕ) : fittedArea width height =
    .centred width height (if 2 * height < width then 2 * height else width) := by
  rw [fittedArea, Area.centred]
  split
  next => simp
  next =>
    have : ((height : ℚ) - width / 2) / 2 = (2 * height - width) / 4 := by ring
    simp [this]

private theorem fittedArea_largestCentred {width height : ℕ} (width_pos : 0 < width)
    (height_pos : 0 < height) : (fittedArea width height).LargestCentred width height := by
  have : (0 : ℚ) < width := by exact_mod_cast width_pos
  have : (0 : ℚ) < height := by exact_mod_cast height_pos
  rw [fittedArea_eq]
  split
  next wide =>
    have : (2 : ℚ) * height < width := by exact_mod_cast wide
    exact Area.centred_largest (by linarith) this.le (by linarith) (.inr (by linarith))
  next narrow =>
    have : (width : ℚ) ≤ 2 * height := by exact_mod_cast not_lt.mp narrow
    exact Area.centred_largest (by linarith) le_rfl (by linarith) (.inl le_rfl)

section Steps

/-- Neither the difference nor its half nor the floor of that is rounded. -/
structure ExactMargin (side part : Binary) (whole used : ℚ) : Prop where
  spare : (side.sub single part).value? = some (whole - used)
  half : ((side.sub single part).div single (single.ofNat 2)).value? = some ((whole - used) / 2)
  floor : (((side.sub single part).div single (single.ofNat 2)).floor single).value? =
    some ⌊(whole - used) / 2⌋

structure ExactSteps (side_across side_down : Binary) (width height : ℚ) : Prop where
  across : side_across.value? = some width
  down : side_down.value? = some height
  doubled : (side_down.mul single displayAspect).value? = some (2 * height)
  halved : (side_across.div single displayAspect).value? = some (width / 2)
  pillars : ExactMargin side_across (side_down.mul single displayAspect) width (2 * height)
  bars : ExactMargin side_down (side_across.div single displayAspect) height (width / 2)
  flush_across : ExactMargin side_across side_across width width
  flush_down : ExactMargin side_down side_down height height
  compares : displayAspect.lt (side_across.div single side_down) = true ↔ 2 < width / height

private theorem value?_displayAspect : displayAspect.value? = some 2 :=
  value?_ofNat (by decide)

private theorem abs_floor_le {value : ℚ} {bound : ℤ} (within : |value| ≤ bound) : |⌊value⌋| ≤ bound := by
  obtain ⟨low, high⟩ := abs_le.mp within
  rw [abs_le]
  constructor
  · exact Int.le_floor.mpr (by exact_mod_cast low)
  · exact_mod_cast (Int.floor_le value).trans high

private theorem exactMargin {side part : Binary} {whole used : ℚ} (side_value : side.value? = some whole)
    (part_value : part.value? = some used) (n : ℤ) (halvings : ℕ)
    (equal : whole - used = n / 2 ^ halvings) (few : |n| ≤ 2 ^ 23) (fine : halvings < 149) :
    ExactMargin side part whole used := by
  have spare := (sub_rounds single_digits_pos side_value part_value).value?_eq
    (equal ▸ single_holds n halvings few fine.le)
  have half := (div_rounds single_digits_pos spare value?_displayAspect two_ne_zero).value?_eq
    (by rw [equal, div_div, ← pow_succ]; exact single_holds n _ few fine)
  refine ⟨spare, half, (floor_rounds single_digits_pos half).value?_eq ?_⟩
  refine single_holds_int _ (abs_floor_le ?_)
  rw [equal, div_div, ← pow_succ, abs_div, abs_of_pos (by positivity : (0 : ℚ) < 2 ^ (halvings + 1))]
  exact (div_le_self (abs_nonneg _) (one_le_pow₀ one_le_two)).trans (by exact_mod_cast few)

end Steps

section Fitting

variable {width height : ℕ} (width_pos : 0 < width) (width_le : width ≤ 2 ^ 22)
  (height_pos : 0 < height) (height_le : height ≤ 2 ^ 22)
include width_pos width_le height_pos height_le

/-- Above the aspect the quotient is so by more than the format's digits can miss. -/
private theorem quotient_compares :
    displayAspect.lt ((single.ofNat width).div single (single.ofNat height)) = true ↔
      (2 : ℚ) < width / height := by
  have across : (single.ofNat width).value? = some (width : ℚ) := value?_ofNat (by omega)
  have down : (single.ofNat height).value? = some (height : ℚ) := value?_ofNat (by omega)
  have positive : (0 : ℚ) < height := by exact_mod_cast height_pos
  have quotient := div_rounds single_digits_pos across down positive.ne'
  rcases le_or_gt width (2 * height) with narrow | wide
  · have below : (width : ℚ) / height ≤ 2 := by
      rw [div_le_iff₀ positive]
      exact_mod_cast narrow
    obtain ⟨value, equal, -, high⟩ := quotient 0 2 (single_holds_int 0 (by decide))
      (single_holds_int 2 (by decide)) (by positivity) below
    rw [lt_iff value?_displayAspect equal]
    exact iff_of_false high.not_gt below.not_gt
  · have above : ((2 ^ 22 + 1 : ℤ) : ℚ) / 2 ^ 21 ≤ width / height := by
      have : (2 ^ 22 + 1) * height ≤ width * 2 ^ 21 := by omega
      rw [div_le_div_iff₀ (by positivity) positive]
      exact_mod_cast this
    have below : (width : ℚ) / height ≤ (2 ^ 22 : ℤ) :=
      (div_le_self (Nat.cast_nonneg _) (by exact_mod_cast height_pos)).trans
        (by exact_mod_cast width_le)
    have beyond : (2 : ℚ) < (2 ^ 22 + 1 : ℤ) / 2 ^ 21 := by norm_num
    obtain ⟨value, equal, low, -⟩ := quotient _ _ (single_holds _ 21 (by decide) (by decide))
      (single_holds_int _ (by decide)) above below
    rw [lt_iff value?_displayAspect equal]
    exact iff_of_true (beyond.trans_le low) (beyond.trans_le above)

private theorem exactSteps :
    ExactSteps (single.ofNat width) (single.ofNat height) width height := by
  have across : (single.ofNat width).value? = some (width : ℚ) := value?_ofNat (by omega)
  have down : (single.ofNat height).value? = some (height : ℚ) := value?_ofNat (by omega)
  have doubled := (mul_rounds single_digits_pos down value?_displayAspect).value?_eq
    (by exact_mod_cast single_holds_int (height * 2) (abs_le.mpr (by omega)))
  have halved := (div_rounds single_digits_pos across value?_displayAspect two_ne_zero).value?_eq
    (by simpa using single_holds width 1 (abs_le.mpr (by omega)) (by decide))
  rw [mul_comm] at doubled
  exact {
    across, down, doubled, halved
    pillars := exactMargin across doubled (width - 2 * height) 0 (by simp)
      (abs_le.mpr (by omega)) (by decide)
    bars := exactMargin down halved (2 * height - width) 1 (by simp; ring)
      (abs_le.mpr (by omega)) (by decide)
    flush_across := exactMargin across across 0 0 (by simp) (by simp) (by decide)
    flush_down := exactMargin down down 0 0 (by simp) (by simp) (by decide)
    compares := quotient_compares width_pos width_le height_pos height_le }

private theorem area?_fitAspect :
    (fitAspect width height displayAspect).area? = some (fittedArea width height) := by
  have steps := exactSteps width_pos width_le height_pos height_le
  have positive : (0 : ℚ) < height := by exact_mod_cast height_pos
  have wide_iff : (2 : ℚ) < width / height ↔ 2 * height < width := by
    rw [lt_div_iff₀ positive]
    exact_mod_cast Iff.rfl
  rw [fittedArea_eq]
  simp only [fitAspect, if_neg (show ¬(width = 0 ∨ height = 0) by omega), steps.compares, wide_iff]
  split
  next =>
    simp [Viewport.area?, steps.pillars.floor, steps.flush_down.floor, steps.doubled, steps.down,
      Area.centred]
  next =>
    simp [Viewport.area?, steps.bars.floor, steps.flush_across.floor, steps.halved, steps.across,
      Area.centred]

end Fitting

/-- On a surface of so few pixels the viewport is the largest centred rectangle twice as wide as high,
and nothing but the quotient is rounded on the way to it. -/
theorem fitAspect_largest_centred {width height : ℕ} (width_pos : 0 < width)
    (width_le : width ≤ 2 ^ 22) (height_pos : 0 < height) (height_le : height ≤ 2 ^ 22) :
    ExactSteps (single.ofNat width) (single.ofNat height) width height ∧
      (fitAspect width height displayAspect).area? = some (fittedArea width height) ∧
      (fittedArea width height).LargestCentred width height :=
  ⟨exactSteps width_pos width_le height_pos height_le,
    area?_fitAspect width_pos width_le height_pos height_le,
    fittedArea_largestCentred width_pos height_pos⟩

/-- The surface nearest to the aspect among the wider ones. -/
theorem nearest_surface_fitted :
    (fitAspect 4194303 2097151 displayAspect).area? = some ⟨0, 0, 4194302, 2097151⟩ ∧
      Area.LargestCentred ⟨0, 0, 4194302, 2097151⟩ 4194303 2097151 := by
  have fitted : fittedArea 4194303 2097151 = ⟨0, 0, 4194302, 2097151⟩ := by
    norm_num [fittedArea]
  obtain ⟨-, viewport, largest⟩ := fitAspect_largest_centred
    (by decide : 0 < 4194303) (by decide) (by decide : 0 < 2097151) (by decide)
  rw [fitted] at viewport largest
  exact ⟨viewport, mod_cast largest⟩

end FrameViewer
