import Mathlib.Tactic.NormNum
import OpeningHours.Decimal.Shortest
import OpeningHours.Proofs.Decimal.Grid
import OpeningHours.Proofs.Text.Numerals

/-
The shortest digits of a number are digits of it. They are looked for with ever more digits, and
whatever is found is attracted by the point of the grid that the number is; so it remains to be seen
that something is found at all. With seventeen digits it is, since these are closer together than
the points of the grid. The zeros at the end can be left out, and what is left neither is empty nor
begins with a zero.
-/

namespace OpeningHours.Decimal

open Text

/-! ### The magnitude -/

theorem between_of_one_le {value : Rat} (atLeast : 1 ≤ value) :
    (10 : Rat) ^ (((Nat.toDigits 10 value.floor.toNat).length : Int) - 1) ≤ value ∧
      value < 10 ^ ((Nat.toDigits 10 value.floor.toNat).length : Int) := by
  have floorAtLeast : 1 ≤ value.floor := Int.le_floor.mpr (by exact_mod_cast atLeast)
  have isFloor : ((value.floor.toNat : Nat) : Rat) = value.floor := by
    rw [← Int.cast_natCast, Int.toNat_of_nonneg (by omega)]
  have low : (value.floor : Rat) ≤ value := Int.floor_le value
  have high : value < value.floor + 1 := Int.lt_floor_add_one value
  obtain ⟨atLeast, below⟩ := Numeral.between_of_length (show 0 < value.floor.toNat by omega)
  have someDigits : 0 < (Numeral.ofNat value.floor.toNat).length := Nat.length_toDigits_pos
  rw [← isFloor] at low high
  unfold Numeral.ofNat at atLeast below someDigits
  have least : (10 : Rat) ^ ((Nat.toDigits 10 value.floor.toNat).length - 1) ≤
      value.floor.toNat := by
    exact_mod_cast atLeast
  have most : (value.floor.toNat : Rat) + 1 ≤
      10 ^ (Nat.toDigits 10 value.floor.toNat).length := by
    exact_mod_cast below
  have power : ((Nat.toDigits 10 value.floor.toNat).length : Int) - 1 =
      ((Nat.toDigits 10 value.floor.toNat).length - 1 : Nat) := by
    omega
  rw [power, zpow_natCast, zpow_natCast]
  exact ⟨by linarith, by linarith⟩

/-- A number lies between two powers of ten next to each other, the greater of which is its
magnitude. -/
theorem between_magnitude {value : Rat} (atLeast : (10 : Rat) ^ (-400 : Int) ≤ value) :
    (10 : Rat) ^ (magnitude value - 1) ≤ value ∧ value < 10 ^ magnitude value := by
  unfold magnitude
  split
  · next large => exact between_of_one_le large
  · next small =>
    simp only [powerOfTen_eq]
    have scaled (zeros : Nat) : (1 ≤ value * (10 : Rat) ^ ((zeros : Int) + 1)) ↔
        (10 : Rat) ^ (-(zeros : Int) - 1) ≤ value := by
      have inverse : (10 : Rat) ^ (-(zeros : Int) - 1) = 1 / 10 ^ ((zeros : Int) + 1) := by
        rw [one_div, ← zpow_neg]
        congr 1
        ring
      rw [inverse, div_le_iff₀ (by positivity)]
    split
    · next zeros found =>
      obtain ⟨enough, -, first⟩ := List.find?_range_eq_some.mp found
      refine ⟨(scaled zeros).mp (of_decide_eq_true enough), ?_⟩
      cases zeros with
      | zero => simpa using small
      | succ fewer =>
        have notEnough := first fewer (Nat.lt_succ_self fewer)
        rw [Bool.not_eq_true', decide_eq_false_iff_not, scaled, not_le] at notEnough
        refine lt_of_lt_of_eq notEnough ?_
        congr 1
        push_cast
        ring
    · next none =>
      have notEnough := List.find?_eq_none.mp none 399 (List.mem_range.mpr (by decide))
      exact absurd (decide_eq_true ((scaled 399).mpr atLeast)) notEnough

/-! ### Candidates -/

theorem two_zpow_le : (2 : Rat) ^ (1075 : Int) ≤ 10 ^ (400 : Int) :=
  calc (2 : Rat) ^ (1075 : Int)
    _ ≤ 2 ^ (3 * 400 : Int) := zpow_le_zpow_right₀ one_le_two (by decide)
    _ = (2 ^ (3 : Int)) ^ (400 : Int) := zpow_mul 2 3 400
    _ ≤ 10 ^ (400 : Int) := zpow_le_zpow_left₀ (by decide) (by norm_num) (by norm_num)

/-- The range of decimals begins far below the grid. -/
theorem tenPower_le_finest : (10 : Rat) ^ (-400 : Int) ≤ 2 ^ GridPoint.leastExponent / 2 := by
  have half : (2 : Rat) ^ GridPoint.leastExponent / 2 = (2 ^ (1075 : Int))⁻¹ := by
    rw [div_eq_mul_inv, ← zpow_sub_one₀ two_ne_zero, ← zpow_neg]
    rfl
  rw [half, zpow_neg]
  exact inv_anti₀ (by positivity) two_zpow_le

namespace GridPoint

/-- What is closer to a point than half the step down from it is attracted. -/
theorem attracts_of_near {point : GridPoint} {number : Rat}
    (near : |number - point.value| < point.stepBelow / 2) : point.attracts number = true := by
  obtain ⟨low, high⟩ := abs_lt.mp near
  have narrower := point.stepBelow_le
  rw [attracts_iff]
  split
  · exact ⟨by linarith, by linarith⟩
  · exact ⟨by linarith, by linarith⟩

/-- The step down from a point is not small, measured by the point. -/
theorem IsCanonical.value_le {point : GridPoint} (isCanonical : point.IsCanonical) :
    point.value ≤ 2 ^ 53 * point.stepBelow := by
  unfold stepBelow
  split
  · next isPower =>
    rw [value_eq, isPower.1]
    push_cast
    linarith
  · rw [value_eq]
    gcongr
    exact_mod_cast isCanonical.below.le

/-- A point other than zero is at least as large as the finest step. -/
theorem IsCanonical.finest_le {point : GridPoint} (isCanonical : point.IsCanonical)
    (nonzero : 0 < point.significand) : (2 : Rat) ^ leastExponent ≤ point.value := by
  have finest : (2 : Rat) ^ leastExponent ≤ 2 ^ point.exponent :=
    zpow_le_zpow_right₀ (by norm_num) isCanonical.least
  exact finest.trans (step_le nonzero)

theorem IsCanonical.between_magnitude {point : GridPoint} (isCanonical : point.IsCanonical)
    (nonzero : 0 < point.significand) :
    (10 : Rat) ^ (magnitude point.value - 1) ≤ point.value ∧
      point.value < 10 ^ magnitude point.value := by
  refine Decimal.between_magnitude ?_
  have finest := isCanonical.finest_le nonzero
  have positive : (0 : Rat) < 2 ^ leastExponent := by positivity
  have far := tenPower_le_finest
  linarith

end GridPoint

theorem attracts_of_mem_candidates {point : GridPoint} {place : Int} {count multiple : Nat}
    (member : multiple ∈ candidates point place count) :
    point.attracts (multiple * 10 ^ (place - count)) = true := by
  rw [← powerOfTen_eq]
  exact (List.mem_filter.mp member).2

/-- The two multiples about a point are tried. -/
theorem mem_candidates {point : GridPoint} {place : Int} {count multiple : Nat}
    (isNeighbour : multiple = (point.value / 10 ^ (place - count)).floor.toNat ∨
      multiple = (point.value / 10 ^ (place - count)).floor.toNat + 1)
    (attracted : point.attracts (multiple * 10 ^ (place - count)) = true) :
    multiple ∈ candidates point place count := by
  rw [← powerOfTen_eq] at isNeighbour attracted
  refine List.mem_filter.mpr ⟨?_, attracted⟩
  split
  · simpa using isNeighbour
  · simpa using isNeighbour.symm

/-- One of the multiples of a step on the two sides of a number is within half a step. -/
theorem exists_multiple_near {value step : Rat} (nonneg : 0 ≤ value) (positive : 0 < step) :
    ∃ multiple : Nat, (multiple = (value / step).floor.toNat ∨
      multiple = (value / step).floor.toNat + 1) ∧ |multiple * step - value| ≤ step / 2 := by
  have isFloor : (((value / step).floor.toNat : Nat) : Rat) = (value / step).floor := by
    have floorNonneg : 0 ≤ (value / step).floor :=
      Int.floor_nonneg.mpr (div_nonneg nonneg positive.le)
    exact_mod_cast congrArg (Int.cast : Int → Rat) (Int.toNat_of_nonneg floorNonneg)
  have low : ((value / step).floor : Rat) * step ≤ value :=
    (le_div_iff₀ positive).mp (Int.floor_le (value / step))
  have high : value < ((value / step).floor + 1) * step :=
    (div_lt_iff₀ positive).mp (Int.lt_floor_add_one (value / step))
  rw [← isFloor] at low high
  rcases le_total (value - (value / step).floor.toNat * step) (step / 2) with near | far
  · exact ⟨_, .inl rfl, abs_le.mpr ⟨by linarith, by linarith⟩⟩
  · refine ⟨_, .inr rfl, ?_⟩
    rw [Nat.cast_add_one]
    exact abs_le.mpr ⟨by linarith, by linarith⟩

/-- Seventeen digits single out every point, since the multiples are closer together than the points
of the grid. -/
theorem exists_mem_candidates {point : GridPoint} (isCanonical : point.IsCanonical)
    (nonzero : 0 < point.significand) :
    ∃ multiple, multiple ∈ candidates point (magnitude point.value) (16 + 1) := by
  obtain ⟨least, -⟩ := isCanonical.between_magnitude nonzero
  have coarse := isCanonical.value_le
  have positive : (0 : Rat) < 10 ^ (magnitude point.value - (16 + 1 : Nat)) := by positivity
  obtain ⟨multiple, isNeighbour, near⟩ := exists_multiple_near point.value_nonneg positive
  refine ⟨multiple, mem_candidates isNeighbour (GridPoint.attracts_of_near ?_)⟩
  have split : (10 : Rat) ^ (magnitude point.value - 1) =
      10 ^ 16 * 10 ^ (magnitude point.value - (16 + 1 : Nat)) := by
    rw [← zpow_natCast, ← zpow_add₀ (by norm_num)]
    congr 1
    push_cast
    ring
  rw [split] at least
  generalize (10 : Rat) ^ (magnitude point.value - (16 + 1 : Nat)) = step at *
  have fine : step < point.stepBelow := by linarith
  linarith

/-! ### Digits -/

namespace Digits

/-- The number that the digits with their point stand for. -/
def value (number : Digits) : Rat :=
  Numeral.value number.digits * 10 ^ (number.place - number.digits.length)

/-- There are digits, all of them decimal ones, and the first is not a zero. -/
structure IsProper (number : Digits) : Prop where
  nonempty : number.digits ≠ []
  all : number.digits.all Char.isDigit = true
  leading : number.digits.head? ≠ some '0'

/-- Zeros at the end change nothing. -/
theorem value_append_replicate (digits : List Char) (count : Nat) (place : Int) :
    value ⟨digits ++ List.replicate count '0', place⟩ = value ⟨digits, place⟩ := by
  have power : (10 : Rat) ^ (place - digits.length) =
      10 ^ count * 10 ^ (place - (digits.length + count : Nat)) := by
    rw [← zpow_natCast, ← zpow_add₀ (by norm_num)]
    congr 1
    push_cast
    ring
  unfold value
  dsimp only
  rw [Numeral.value_append_replicate, List.length_append, List.length_replicate, power]
  push_cast
  ring

end Digits

/-- Behind the digits without the zeros at their end there are just these zeros. -/
theorem exists_stripped (digits : List Char) :
    ∃ count, (digits.reverse.dropWhile (· = '0')).reverse ++ List.replicate count '0' = digits := by
  have zeros : digits.reverse.takeWhile (· = '0') =
      List.replicate (digits.reverse.takeWhile (· = '0')).length '0' := by
    refine List.eq_replicate_of_mem fun char member => ?_
    have isZero := List.mem_takeWhile_imp member
    exact of_decide_eq_true isZero
  refine ⟨(digits.reverse.takeWhile (· = '0')).length, ?_⟩
  rw [← List.reverse_replicate, ← zeros, ← List.reverse_append, List.takeWhile_append_dropWhile,
    List.reverse_reverse]

/-- The digits of a positive number are proper ones also without the zeros at their end. -/
theorem isProper_stripped {number : Nat} (positive : 0 < number) (place : Int) :
    Digits.IsProper ⟨((Numeral.ofNat number).reverse.dropWhile (· = '0')).reverse, place⟩ := by
  obtain ⟨count, same⟩ := exists_stripped (Numeral.ofNat number)
  have all := Numeral.ofNat_all_isDigit number
  have leading := Numeral.head?_ofNat positive
  have someDigits := Numeral.ofNat_ne_nil number
  generalize ((Numeral.ofNat number).reverse.dropWhile (· = '0')).reverse = kept at same ⊢
  rw [← same] at all leading someDigits
  rw [List.all_append, Bool.and_eq_true] at all
  cases kept with
  | nil =>
    cases count with
    | zero => exact absurd rfl someDigits
    | succ count => exact absurd rfl leading
  | cons first others => exact ⟨List.cons_ne_nil first others, all.1, leading⟩

/-- The shortest digits are the digits of a multiple that has been found among the candidates. -/
theorem exists_shortestDigits_eq {point : GridPoint} (isCanonical : point.IsCanonical)
    (nonzero : 0 < point.significand) :
    ∃ count multiple, multiple ∈ candidates point (magnitude point.value) count ∧
      shortestDigits point = ⟨((Numeral.ofNat multiple).reverse.dropWhile (· = '0')).reverse,
        magnitude point.value + ((Numeral.ofNat multiple).length - count)⟩ := by
  obtain ⟨some, isCandidate⟩ := exists_mem_candidates isCanonical nonzero
  unfold shortestDigits
  dsimp only
  cases found : (List.range 17).findSome? fun fewer =>
      (candidates point (magnitude point.value) (fewer + 1)).head?.map
        fun multiple => (fewer + 1, multiple) with
  | none =>
    have none := List.findSome?_eq_none_iff.mp found 16 (List.mem_range.mpr (by decide))
    rw [Option.map_eq_none_iff, List.head?_eq_none_iff] at none
    exact absurd (none ▸ isCandidate) List.not_mem_nil
  | some result =>
    obtain ⟨fewer, -, isFirst⟩ := List.exists_of_findSome?_eq_some found
    obtain ⟨multiple, first, rfl⟩ := Option.map_eq_some_iff.mp isFirst
    exact ⟨fewer + 1, multiple, List.mem_of_mem_head? first, rfl⟩

/-- The shortest digits of a point stand for a number that the point attracts. -/
theorem shortestDigits_spec {point : GridPoint} (isCanonical : point.IsCanonical)
    (nonzero : 0 < point.significand) :
    (shortestDigits point).IsProper ∧ point.attracts (shortestDigits point).value = true := by
  obtain ⟨count, multiple, isCandidate, same⟩ := exists_shortestDigits_eq isCanonical nonzero
  have attracted := attracts_of_mem_candidates isCandidate
  have positive : 0 < multiple := by
    obtain ⟨above, -⟩ := isCanonical.value_nearest_of_attracts nonzero attracted
    by_contra zero
    rw [Nat.eq_zero_of_not_pos zero, Nat.cast_zero, zero_mul] at above
    exact lt_irrefl _ above
  obtain ⟨zeros, stripped⟩ := exists_stripped (Numeral.ofNat multiple)
  have value : (shortestDigits point).value =
      multiple * 10 ^ (magnitude point.value - count) := by
    rw [same, ← Digits.value_append_replicate _ zeros, stripped, Digits.value, Numeral.value_ofNat]
    congr 2
    dsimp only
    ring
  exact ⟨same ▸ isProper_stripped positive _, value ▸ attracted⟩

end OpeningHours.Decimal
