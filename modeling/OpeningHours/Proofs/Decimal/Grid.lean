import Mathlib.Algebra.Order.Field.Power
import Mathlib.Data.Rat.Floor
import Mathlib.Tactic.FieldSimp
import Mathlib.Tactic.Linarith
import Mathlib.Tactic.Positivity
import OpeningHours.Double

/-
The grid of double precision and how numbers are brought to it. The steps of the grid are as wide as
a power of two that is told by the size of the number, and the number is brought to the nearest
whole number of steps. Hence a point of the grid stays where it is, and so does whatever lies nearer
to a point than to its neighbours come to that point: this is what `attracts` decides, with the one
exception below a power of two, where the steps are half as wide and the nearest whole number of
them is the power of two itself.
-/

namespace OpeningHours.Decimal

/-! ### Nearest whole numbers -/

/-- The whole number is nearest to the fraction, and even if another one is as near. -/
structure IsNearest (value : Rat) (whole : Int) : Prop where
  within : |value - whole| ≤ 1 / 2
  even : |value - whole| = 1 / 2 → whole % 2 = 0

theorem isNearest_nearest (value : Rat) : IsNearest value (nearest value) := by
  have low : (value.floor : Rat) ≤ value := Int.floor_le value
  have high : value < value.floor + 1 := Int.lt_floor_add_one value
  have below : |value - value.floor| = value - value.floor := abs_of_nonneg (by linarith)
  have above : |value - ((value.floor + 1 : Int) : Rat)| = value.floor + 1 - value := by
    rw [abs_sub_comm, Int.cast_add, Int.cast_one, abs_of_nonneg (by linarith)]
  unfold nearest
  dsimp only
  split
  · next less => exact ⟨by linarith, fun half => by linarith⟩
  · split
    · next less => exact ⟨by linarith, fun half => by linarith⟩
    · split
      · next even => exact ⟨by linarith, fun _ => even⟩
      · next odd => exact ⟨by linarith, fun _ => by omega⟩

theorem IsNearest.not_lt {value : Rat} {one other : Int} (first : IsNearest value one)
    (second : IsNearest value other) : ¬ one < other := by
  intro less
  obtain ⟨-, high⟩ := abs_le.mp first.within
  obtain ⟨low, -⟩ := abs_le.mp second.within
  have apart : (one : Rat) + 1 ≤ other := by exact_mod_cast less
  -- The two are next to each other with the fraction half way between them, so that both are even.
  have below : value - one = 1 / 2 := by linarith
  have above : value - other = -(1 / 2) := by linarith
  have next : other = one + 1 := by
    have : (other : Rat) = one + 1 := by linarith
    exact_mod_cast this
  have oneEven := first.even (by rw [below, abs_of_pos (by norm_num)])
  have otherEven := second.even (by rw [above, abs_neg, abs_of_pos (by norm_num)])
  omega

theorem IsNearest.unique {value : Rat} {one other : Int} (first : IsNearest value one)
    (second : IsNearest value other) : one = other :=
  Int.le_antisymm (Int.not_lt.mp (second.not_lt first)) (Int.not_lt.mp (first.not_lt second))

theorem IsNearest.neg {value : Rat} {whole : Int} (isNearest : IsNearest value whole) :
    IsNearest (-value) (-whole) := by
  have same : |-value - ((-whole : Int) : Rat)| = |value - whole| := by
    rw [Int.cast_neg, neg_sub_neg, abs_sub_comm]
  refine ⟨same ▸ isNearest.within, fun half => ?_⟩
  have even := isNearest.even (same ▸ half)
  omega

theorem isNearest_intCast (whole : Int) : IsNearest whole whole := by
  have none : |(whole : Rat) - whole| = 0 := by rw [sub_self, abs_zero]
  exact ⟨by rw [none]; norm_num, fun half => by rw [none] at half; norm_num at half⟩

/-- The nearest whole number does not pass a whole number. -/
theorem IsNearest.le {value : Rat} {whole bound : Int} (isNearest : IsNearest value whole)
    (below : value < bound + 1 / 2) : whole ≤ bound := by
  obtain ⟨low, -⟩ := abs_le.mp isNearest.within
  have : (whole : Rat) < bound + 1 := by linarith
  exact Int.lt_add_one_iff.mp (by exact_mod_cast this)

theorem IsNearest.ge {value : Rat} {whole bound : Int} (isNearest : IsNearest value whole)
    (above : bound - 1 / 2 < value) : bound ≤ whole := by
  obtain ⟨-, high⟩ := abs_le.mp isNearest.within
  have : (bound : Rat) < whole + 1 := by linarith
  exact Int.lt_add_one_iff.mp (by exact_mod_cast this)

/-! ### Powers -/

/-- A power with a whole exponent is worked out by its natural powers. -/
theorem natPow_eq_zpow (base : Nat) (exponent : Int) :
    (if 0 ≤ exponent then (Nat.pow base exponent.toNat : Rat)
      else 1 / (Nat.pow base (-exponent).toNat : Rat)) = (base : Rat) ^ exponent := by
  split
  · next nonneg =>
    obtain ⟨number, rfl⟩ := Int.eq_ofNat_of_zero_le nonneg
    rw [Int.toNat_natCast, zpow_natCast, ← Nat.cast_pow]
    rfl
  · next negative =>
    obtain ⟨number, same⟩ := Int.eq_ofNat_of_zero_le (show 0 ≤ -exponent by omega)
    obtain rfl : exponent = -number := by omega
    rw [neg_neg, Int.toNat_natCast, zpow_neg, zpow_natCast, ← Nat.cast_pow, one_div]
    rfl

theorem powerOfTwo_eq (exponent : Int) : powerOfTwo exponent = 2 ^ exponent :=
  natPow_eq_zpow 2 exponent

theorem powerOfTen_eq (exponent : Int) : powerOfTen exponent = 10 ^ exponent :=
  natPow_eq_zpow 10 exponent

theorem zpow_add_natCast (exponent : Int) (more : Nat) :
    (2 : Rat) ^ (exponent + more) = 2 ^ more * 2 ^ exponent := by
  rw [zpow_add₀ (by norm_num), zpow_natCast, mul_comm]

/-! ### Steps of the grid -/

/-- The steps of the grid about the number are two to the exponent wide. -/
structure HasStep (value : Rat) (exponent : Int) : Prop where
  least : GridPoint.leastExponent ≤ exponent
  below : value < 2 ^ 53 * (2 : Rat) ^ exponent
  normal : GridPoint.leastExponent < exponent → 2 ^ 52 * (2 : Rat) ^ exponent ≤ value

theorem HasStep.not_lt {value : Rat} {one other : Int} (first : HasStep value one)
    (second : HasStep value other) : ¬ one < other := by
  intro less
  have bound : 2 ^ 52 * (2 : Rat) ^ other ≤ value :=
    second.normal (lt_of_le_of_lt first.least less)
  have powers : (2 : Rat) ^ (one + (1 : Nat)) ≤ 2 ^ other :=
    zpow_le_zpow_right₀ (by norm_num) (by omega)
  rw [zpow_add_natCast] at powers
  have below := first.below
  linarith

theorem HasStep.unique {value : Rat} {one other : Int} (first : HasStep value one)
    (second : HasStep value other) : one = other :=
  Int.le_antisymm (Int.not_lt.mp (second.not_lt first)) (Int.not_lt.mp (first.not_lt second))

/-- The binary digits of numerator and denominator tell the size of a fraction up to one digit. -/
theorem between_of_log2 {value : Rat} (positive : 0 < value) :
    (2 : Rat) ^ ((value.num.natAbs.log2 : Int) - value.den.log2 - 1) ≤ value ∧
      value < 2 ^ ((value.num.natAbs.log2 : Int) - value.den.log2 + 1) := by
  have numNonzero : value.num.natAbs ≠ 0 := Int.natAbs_ne_zero.mpr (Rat.num_pos.mpr positive).ne'
  have parts : value = (value.num.natAbs : Rat) / value.den := by
    rw [Nat.cast_natAbs, abs_of_pos (Rat.num_pos.mpr positive), Rat.num_div_den]
  have numLow : (2 : Rat) ^ value.num.natAbs.log2 ≤ value.num.natAbs := by
    exact_mod_cast Nat.log2_self_le numNonzero
  have numHigh : (value.num.natAbs : Rat) < 2 ^ (value.num.natAbs.log2 + 1) := by
    exact_mod_cast Nat.lt_log2_self
  have denLow : (2 : Rat) ^ value.den.log2 ≤ value.den := by
    exact_mod_cast Nat.log2_self_le value.den_nz
  have denHigh : (value.den : Rat) < 2 ^ (value.den.log2 + 1) := by
    exact_mod_cast Nat.lt_log2_self
  have denPositive : (0 : Rat) < value.den := by exact_mod_cast value.den_pos
  generalize value.num.natAbs.log2 = first at *
  generalize value.den.log2 = second at *
  have low : (2 : Rat) ^ ((first : Int) - second - 1) = 2 ^ first / 2 ^ (second + 1) := by
    rw [← zpow_natCast, ← zpow_natCast, ← zpow_sub₀ (by norm_num)]
    congr 1
    push_cast
    ring
  have high : (2 : Rat) ^ ((first : Int) - second + 1) = 2 ^ (first + 1) / 2 ^ second := by
    rw [← zpow_natCast, ← zpow_natCast, ← zpow_sub₀ (by norm_num)]
    congr 1
    push_cast
    ring
  rw [low, high, parts]
  exact ⟨by gcongr, by gcongr⟩

namespace GridPoint

/-- The point so many steps from zero; with the most steps it is the first point with wider ones. -/
def ofSteps (steps : Nat) (exponent : Int) : GridPoint :=
  if steps = Nat.pow 2 53 then ⟨Nat.pow 2 52, exponent + 1⟩ else ⟨steps, exponent⟩

theorem value_eq (point : GridPoint) : point.value = point.significand * 2 ^ point.exponent := by
  rw [value, powerOfTwo_eq]

theorem value_nonneg (point : GridPoint) : 0 ≤ point.value := by
  rw [value_eq]
  positivity

theorem value_ofSteps (steps : Nat) (exponent : Int) :
    (ofSteps steps exponent).value = steps * 2 ^ exponent := by
  unfold ofSteps
  split
  · next most =>
    have wider : (2 : Rat) ^ (exponent + 1) = 2 * 2 ^ exponent :=
      (zpow_add_natCast exponent 1).trans (by rw [pow_one])
    rw [value_eq, most]
    dsimp only
    rw [wider]
    push_cast [Nat.pow_eq]
    ring
  · rw [value_eq]

/-- A number is brought to the nearest whole number of the steps about it. -/
theorem exists_nearest_eq {number : Rat} (positive : 0 < number) :
    ∃ exponent, HasStep number exponent ∧
      nearest number =
        ofSteps (Decimal.nearest (number / 2 ^ exponent)).toNat exponent := by
  obtain ⟨low, high⟩ := between_of_log2 positive
  unfold nearest
  dsimp only
  simp only [powerOfTwo_eq]
  generalize ((number.num.natAbs.log2 : Int) - number.den.log2) = digits at *
  -- The estimate is the exponent or the one above it, before the finest steps are taken care of.
  have found : ∃ exponent,
      (if number < 2 ^ (digits - 52 + 52) then digits - 52 - 1 else digits - 52) = exponent ∧
        2 ^ 52 * (2 : Rat) ^ exponent ≤ number ∧ number < 2 ^ 53 * (2 : Rat) ^ exponent := by
    refine ⟨_, rfl, ?_⟩
    have fifty (exponent : Int) (more : Nat) :
        (2 : Rat) ^ more * 2 ^ exponent = 2 ^ (exponent + more) :=
      (zpow_add_natCast exponent more).symm
    rw [fifty, fifty]
    split
    · next less =>
      refine ⟨le_of_eq_of_le ?_ low, lt_of_lt_of_eq less ?_⟩
      · congr 1
        push_cast
        ring
      · congr 1
        push_cast
        ring
    · next notLess =>
      refine ⟨le_of_eq_of_le ?_ (not_lt.mp notLess), lt_of_lt_of_eq high ?_⟩
      · congr 1
      · congr 1
        push_cast
        ring
  obtain ⟨exponent, same, least, most⟩ := found
  rw [same]
  refine ⟨max exponent leastExponent, ⟨le_max_right _ _, ?_, fun above => ?_⟩, rfl⟩
  · refine lt_of_lt_of_le most ?_
    gcongr
    · norm_num
    · exact le_max_left _ _
  · have isFirst : max exponent leastExponent = exponent := by omega
    rw [isFirst]
    exact least

/-- Whatever number is nearest to the number of steps, it tells where a number is brought to. -/
theorem value_nearest {number : Rat} {exponent whole : Int} (nonneg : 0 ≤ number)
    (hasStep : HasStep number exponent) (isNearest : IsNearest (number / 2 ^ exponent) whole) :
    (nearest number).value = whole * 2 ^ exponent := by
  rcases nonneg.eq_or_lt with rfl | positive
  · rw [zero_div] at isNearest
    obtain rfl : whole = 0 := isNearest.unique (isNearest_intCast 0)
    rw [Int.cast_zero, zero_mul]
    decide +kernel
  · obtain ⟨own, hasOwnStep, same⟩ := exists_nearest_eq positive
    obtain rfl := hasStep.unique hasOwnStep
    have nonneg : 0 ≤ whole := by
      refine isNearest.ge ?_
      have : 0 < number / 2 ^ exponent := by positivity
      push_cast
      linarith
    rw [same, value_ofSteps, (isNearest_nearest _).unique isNearest, ← Int.cast_natCast,
      Int.toNat_of_nonneg nonneg]

/-- Where a number is brought to. -/
theorem exists_value_nearest {number : Rat} (positive : 0 < number) :
    ∃ (exponent : Int) (steps : Nat), HasStep number exponent ∧
      IsNearest (number / 2 ^ exponent) steps ∧ nearest number = ofSteps steps exponent := by
  obtain ⟨exponent, hasStep, same⟩ := exists_nearest_eq positive
  have isNearest := isNearest_nearest (number / 2 ^ exponent)
  have nonneg : 0 ≤ Decimal.nearest (number / 2 ^ exponent) := by
    refine isNearest.ge ?_
    have : 0 < number / 2 ^ exponent := by positivity
    push_cast
    linarith
  refine ⟨exponent, _, hasStep, ?_, same⟩
  rwa [Int.toNat_of_nonneg nonneg]

/-! ### Points -/

/-- The point is a point of the grid as it stands: its significand has 53 binary digits, or fewer
where the steps are the finest. -/
structure IsCanonical (point : GridPoint) : Prop where
  least : leastExponent ≤ point.exponent
  below : point.significand < 2 ^ 53
  normal : leastExponent < point.exponent → 2 ^ 52 ≤ point.significand

theorem IsCanonical.hasStep {point : GridPoint} (isCanonical : point.IsCanonical) :
    HasStep point.value point.exponent where
  least := isCanonical.least
  below := by
    rw [value_eq]
    gcongr
    exact_mod_cast isCanonical.below
  normal above := by
    rw [value_eq]
    gcongr
    exact_mod_cast isCanonical.normal above

/-- The nearest number of steps is in bounds. -/
theorem isCanonical_nearest {number : Rat} (positive : 0 < number) :
    (nearest number).IsCanonical := by
  obtain ⟨exponent, steps, hasStep, isNearest, same⟩ := exists_value_nearest positive
  have step : (0 : Rat) < 2 ^ exponent := by positivity
  have atMost : (steps : Int) ≤ 2 ^ 53 := by
    refine isNearest.le ?_
    have := (div_lt_iff₀ step).mpr hasStep.below
    push_cast
    linarith
  have atLeast (above : leastExponent < exponent) : 2 ^ 52 ≤ (steps : Int) := by
    refine isNearest.ge ?_
    have := (le_div_iff₀ step).mpr (hasStep.normal above)
    push_cast
    linarith
  have least := hasStep.least
  rw [same, ofSteps]
  split
  · exact ⟨by dsimp only; omega, by norm_num, fun _ => by norm_num⟩
  · next fewer =>
    rw [Nat.pow_eq] at fewer
    exact ⟨least, by dsimp only; omega, fun above => by have := atLeast above; dsimp only; omega⟩

/-- A point of the grid stays where it is. -/
theorem IsCanonical.value_nearest {point : GridPoint} (isCanonical : point.IsCanonical) :
    (nearest point.value).value = point.value := by
  have isNearest : IsNearest (point.value / 2 ^ point.exponent) point.significand := by
    rw [value_eq, mul_div_cancel_right₀ _ (by positivity)]
    exact isNearest_intCast point.significand
  rw [GridPoint.value_nearest point.value_nonneg isCanonical.hasStep isNearest, value_eq,
    Int.cast_natCast]

/-- A point other than zero is at least as large as a step. -/
theorem step_le {point : GridPoint} (nonzero : 0 < point.significand) :
    (2 : Rat) ^ point.exponent ≤ point.value := by
  rw [value_eq]
  exact le_mul_of_one_le_left (by positivity) (by exact_mod_cast nonzero)

/-! ### What a point attracts -/

/-- The step from the point down to the next one. -/
def stepBelow (point : GridPoint) : Rat :=
  if point.significand = 2 ^ 52 ∧ leastExponent < point.exponent then 2 ^ point.exponent / 2
  else 2 ^ point.exponent

theorem stepBelow_le (point : GridPoint) : point.stepBelow ≤ 2 ^ point.exponent := by
  have : (0 : Rat) < 2 ^ point.exponent := by positivity
  unfold stepBelow
  split <;> linarith

/-- The interval that belongs to a point, its ends included where the significand is even. -/
theorem attracts_iff (point : GridPoint) (number : Rat) :
    point.attracts number = true ↔
      if point.significand % 2 = 0 then
        point.value - point.stepBelow / 2 ≤ number ∧ number ≤ point.value + 2 ^ point.exponent / 2
      else
        point.value - point.stepBelow / 2 < number ∧
          number < point.value + 2 ^ point.exponent / 2 := by
  unfold attracts stepBelow
  simp only [powerOfTwo_eq, Nat.pow_eq]
  split <;> simp

/-- What a point attracts lies within half a step, and only for an even significand just half a step
away. -/
theorem within_of_attracts {point : GridPoint} {number : Rat}
    (attracted : point.attracts number = true) :
    point.value - point.stepBelow / 2 ≤ number ∧ number ≤ point.value + 2 ^ point.exponent / 2 ∧
      (|number - point.value| = 2 ^ point.exponent / 2 → point.significand % 2 = 0) := by
  have narrower := point.stepBelow_le
  rw [attracts_iff] at attracted
  split at attracted
  · next even => exact ⟨attracted.1, attracted.2, fun _ => even⟩
  · refine ⟨attracted.1.le, attracted.2.le, fun half => ?_⟩
    have inside : |number - point.value| < 2 ^ point.exponent / 2 :=
      abs_lt.mpr ⟨by linarith [attracted.1], by linarith [attracted.2]⟩
    exact absurd half inside.ne

theorem isNearest_div {number step : Rat} {whole : Int} (positive : 0 < step)
    (within : |number - whole * step| ≤ step / 2)
    (even : |number - whole * step| = step / 2 → whole % 2 = 0) :
    IsNearest (number / step) whole := by
  have scaled : |number / step - whole| = |number - whole * step| / step := by
    rw [← abs_of_pos positive, ← abs_div, abs_of_pos positive, sub_div,
      mul_div_cancel_right₀ _ positive.ne']
  rw [← one_div_mul_eq_div] at within even
  constructor
  · rw [scaled]
    exact (div_le_iff₀ positive).mpr within
  · intro half
    rw [scaled] at half
    exact even ((div_eq_iff positive.ne').mp half)

section

variable {point : GridPoint} {number : Rat}

/-- A number with the same steps about it is brought to the point that attracts it. -/
theorem value_nearest_of_hasStep (nonneg : 0 ≤ number) (hasStep : HasStep number point.exponent)
    (attracted : point.attracts number = true) : (nearest number).value = point.value := by
  obtain ⟨low, high, even⟩ := within_of_attracts attracted
  have narrower := point.stepBelow_le
  have isValue : point.value = ((point.significand : Int) : Rat) * 2 ^ point.exponent := by
    rw [value_eq, Int.cast_natCast]
  have isNearest : IsNearest (number / 2 ^ point.exponent) point.significand := by
    refine isNearest_div (by positivity) ?_ fun half => ?_
    · rw [← isValue]
      exact abs_le.mpr ⟨by linarith, by linarith⟩
    · rw [← isValue] at half
      have := even half
      omega
  rw [value_nearest nonneg hasStep isNearest, isValue]

/-- Just below a power of two the steps are half as wide, and the power is the nearest whole number
of them. -/
theorem IsCanonical.value_nearest_of_lt (isCanonical : point.IsCanonical)
    (above : leastExponent < point.exponent) (less : number < 2 ^ 52 * 2 ^ point.exponent)
    (attracted : point.attracts number = true) : (nearest number).value = point.value := by
  obtain ⟨low, high, -⟩ := within_of_attracts attracted
  have narrower := point.stepBelow_le
  have step : (0 : Rat) < 2 ^ point.exponent := by positivity
  have isPower : point.significand = 2 ^ 52 := by
    have atLeast := isCanonical.normal above
    by_contra other
    have : (2 ^ 52 + 1 : Rat) * 2 ^ point.exponent ≤ point.value := by
      rw [value_eq]
      gcongr
      exact_mod_cast (by omega : 2 ^ 52 + 1 ≤ point.significand)
    linarith
  have below : point.stepBelow = 2 ^ point.exponent / 2 := if_pos ⟨isPower, above⟩
  have half : (2 : Rat) ^ (point.exponent - 1) = 2 ^ point.exponent / 2 := by
    rw [zpow_sub_one₀ (by norm_num), div_eq_mul_inv]
  have isPowerTimesStep : point.value = 2 ^ 52 * 2 ^ point.exponent := by
    rw [value_eq, isPower, Nat.cast_pow, Nat.cast_ofNat]
  have isValue : point.value = ((2 ^ 53 : Int) : Rat) * 2 ^ (point.exponent - 1) := by
    rw [isPowerTimesStep, half]
    push_cast
    ring
  have hasStep : HasStep number (point.exponent - 1) :=
    ⟨by omega, by rw [half]; linarith, fun _ => by rw [half]; linarith⟩
  have isNearest : IsNearest (number / 2 ^ (point.exponent - 1)) (2 ^ 53) := by
    refine isNearest_div (by positivity) ?_ fun _ => by norm_num
    rw [← isValue, half]
    exact abs_le.mpr ⟨by linarith, by linarith⟩
  rw [GridPoint.value_nearest (by linarith) hasStep isNearest, isValue]

/-- What a point attracts is brought to the point. -/
theorem IsCanonical.value_nearest_of_attracts (isCanonical : point.IsCanonical)
    (nonzero : 0 < point.significand) (attracted : point.attracts number = true) :
    0 < number ∧ (nearest number).value = point.value := by
  obtain ⟨low, high, -⟩ := within_of_attracts attracted
  have narrower := point.stepBelow_le
  have step : (0 : Rat) < 2 ^ point.exponent := by positivity
  have first := step_le nonzero
  have last : point.value + 2 ^ point.exponent ≤ 2 ^ 53 * 2 ^ point.exponent := by
    rw [value_eq, ← add_one_mul]
    gcongr
    exact_mod_cast isCanonical.below
  refine ⟨by linarith, ?_⟩
  by_cases normal : leastExponent < point.exponent → 2 ^ 52 * (2 : Rat) ^ point.exponent ≤ number
  · exact value_nearest_of_hasStep (by linarith) ⟨isCanonical.least, by linarith, normal⟩ attracted
  · rw [Classical.not_imp, not_le] at normal
    exact isCanonical.value_nearest_of_lt normal.1 normal.2 attracted

end

end GridPoint

end OpeningHours.Decimal

/-! ### Numbers of double precision -/

namespace OpeningHours.Double

open Decimal

/-- The number is one of double precision: if it is finite, its size is a point of the grid. -/
def IsOnGrid : Double → Prop
  | finite _ size => 0 ≤ size ∧ size < limit ∧ (GridPoint.nearest size).value = size
  | infinite _ => True
  | undefined => True

instance : DecidablePred IsOnGrid
  | finite _ size =>
    inferInstanceAs (Decidable (0 ≤ size ∧ size < limit ∧ (GridPoint.nearest size).value = size))
  | infinite _ => .isTrue trivial
  | undefined => .isTrue trivial

theorem isOnGrid_zero (negative : Bool) : (finite negative 0).IsOnGrid := by
  cases negative <;> decide +kernel

/-- What is brought to the grid is on it. -/
theorem isOnGrid_round (negative : Bool) {size : Rat} (nonneg : 0 ≤ size) :
    (round negative size).IsOnGrid := by
  unfold round
  dsimp only
  split
  · trivial
  · next small =>
    rcases nonneg.eq_or_lt with rfl | positive
    · exact ⟨GridPoint.value_nonneg _, not_le.mp small, by decide +kernel⟩
    · exact ⟨GridPoint.value_nonneg _, not_le.mp small,
        (GridPoint.isCanonical_nearest positive).value_nearest⟩

theorem isOnGrid_ofRat (value : Rat) : (ofRat value).IsOnGrid := by
  unfold ofRat
  split
  · next negative => exact isOnGrid_round true (by linarith)
  · next nonneg => exact isOnGrid_round false (not_lt.mp nonneg)

theorem IsOnGrid.size_nonneg {negative : Bool} {size : Rat}
    (onGrid : (finite negative size).IsOnGrid) : 0 ≤ size :=
  onGrid.1

/-- Sums are on the grid. -/
theorem isOnGrid_add (first second : Double) : (first + second).IsOnGrid := by
  change (add first second).IsOnGrid
  unfold add
  split
  · dsimp only
    split
    · exact isOnGrid_zero _
    · exact isOnGrid_ofRat _
  · split <;> trivial
  all_goals trivial

/-- Products of numbers on the grid are on the grid. -/
theorem IsOnGrid.mul {first second : Double} (one : first.IsOnGrid) (other : second.IsOnGrid) :
    (first * second).IsOnGrid := by
  change (Double.mul first second).IsOnGrid
  unfold Double.mul
  split
  · exact isOnGrid_round _ (mul_nonneg one.size_nonneg other.size_nonneg)
  · trivial
  · split <;> trivial
  · split <;> trivial
  all_goals trivial

/-- Tenths of a number on the grid are on the grid. -/
theorem IsOnGrid.toTenths {number : Double} (onGrid : number.IsOnGrid) :
    number.toTenths.IsOnGrid := by
  cases number with
  | finite negative size =>
    have tenfold : 0 ≤ size * 10 := mul_nonneg onGrid.size_nonneg (by norm_num)
    have nonneg : 0 ≤ nearest (size * 10) :=
      (isNearest_nearest _).ge (by push_cast; linarith)
    exact isOnGrid_round negative (div_nonneg (by exact_mod_cast nonneg) (by norm_num))
  | infinite negative => trivial
  | undefined => trivial

end OpeningHours.Double
