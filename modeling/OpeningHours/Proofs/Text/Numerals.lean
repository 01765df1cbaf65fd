import Mathlib.Algebra.Group.Nat.Defs
import Mathlib.Data.List.TakeWhile
import OpeningHours.Proofs.Text.Classes
import OpeningHours.Text.Numeral

/-
What a written number denotes. The digits of a natural number denote it, the last digit counting for
itself and the others ten times as much, and zeros at the front change nothing. Reading a row of
digits alone, of whatever scripts, yields the number that it denotes.
-/

namespace OpeningHours.Text.Numeral

/-! ### What digits denote -/

theorem value_append_single (digits : List Char) (last : Char) :
    value (digits ++ [last]) = 10 * value digits + (digitValue? last).getD 0 := by
  simp [value, ofDigitValues]

theorem value_single (digit : Char) : value [digit] = (digitValue? digit).getD 0 := by
  rw [← List.nil_append [digit], value_append_single]
  exact Nat.zero_add _

/-- Two digits denote ten times the first and the second. -/
theorem value_pair (first second : Char) :
    value [first, second] = 10 * (digitValue? first).getD 0 + (digitValue? second).getD 0 := by
  rw [show [first, second] = [first] ++ [second] from rfl, value_append_single, value_single]

theorem getD_digitValue?_lt_ten (char : Char) : (digitValue? char).getD 0 < 10 := by
  cases read : digitValue? char with
  | none => decide
  | some value => exact digitValue?_lt_ten read

/-! ### Written numbers -/

theorem digitValue?_digitChar : ∀ digit < 10, digitValue? digit.digitChar = some digit := by
  decide

/-- A number is denoted by its digits. -/
theorem value_ofNat (number : Nat) : value (ofNat number) = number := by
  induction number using Nat.strongRecOn with
  | ind number inductionHypothesis =>
    unfold ofNat at inductionHypothesis ⊢
    by_cases small : number < 10
    · rw [Nat.toDigits_of_lt_base small, value_single, digitValue?_digitChar number small]
      rfl
    · have last : number % 10 < 10 := Nat.mod_lt _ (by decide)
      rw [Nat.toDigits_of_base_le (by decide) (Nat.not_lt.mp small), value_append_single,
        inductionHypothesis (number / 10) (by omega), digitValue?_digitChar _ last]
      exact Nat.div_add_mod number 10

theorem ofInt_natCast (number : Nat) : ofInt number = ofNat number := by
  rw [ofInt, if_neg (by omega), Int.natAbs_natCast]

theorem toNat_of_isDigit {char : Char} (digit : char.isDigit = true) :
    48 ≤ char.toNat ∧ char.toNat ≤ 57 := by
  rw [Char.isDigit, Bool.and_eq_true, decide_eq_true_eq, decide_eq_true_eq] at digit
  exact ⟨UInt32.le_iff_toNat_le.mp digit.1, UInt32.le_iff_toNat_le.mp digit.2⟩

theorem isDigit_of_ascii {char : Char} (digit : char.isDigit = true) : isDigit char = true :=
  (isDigit_iff char).mpr (Or.inl (toNat_of_isDigit digit))

theorem map_toLower_of_ascii {digits : List Char} (all : digits.all Char.isDigit = true) :
    digits.map Char.toLower = digits := by
  have fixed : ∀ char ∈ digits, char.toLower = char := by
    intro char member
    have bounds := toNat_of_isDigit (List.all_eq_true.mp all char member)
    exact toLower_of_not_upper (by omega)
  rw [List.map_congr_left fixed, List.map_id']

theorem all_isDigit_of_ascii {digits : List Char} (all : digits.all Char.isDigit = true) :
    digits.all isDigit = true :=
  List.all_eq_true.mpr fun char member => isDigit_of_ascii (List.all_eq_true.mp all char member)

/-- A number is written in ASCII digits. -/
theorem ofNat_all_isDigit (number : Nat) : (ofNat number).all Char.isDigit = true :=
  List.all_eq_true.mpr fun _ member =>
    Nat.isDigit_of_mem_toDigits (by decide) (by decide) member

theorem ofNat_ne_nil (number : Nat) : ofNat number ≠ [] :=
  List.ne_nil_of_length_pos Nat.length_toDigits_pos

/-- Only the number zero begins with the digit zero. -/
theorem head?_ofNat {number : Nat} (positive : 0 < number) :
    (ofNat number).head? ≠ some '0' := by
  induction number using Nat.strongRecOn with
  | ind number inductionHypothesis =>
    unfold ofNat at inductionHypothesis ⊢
    by_cases small : number < 10
    · have each : ∀ digit < 10, 0 < digit → [digit.digitChar].head? ≠ some '0' := by decide
      rw [Nat.toDigits_of_lt_base small]
      exact each number small positive
    · rw [Nat.toDigits_of_base_le (by decide) (Nat.not_lt.mp small)]
      have front := inductionHypothesis (number / 10) (by omega) (by omega)
      cases digits : Nat.toDigits 10 (number / 10) with
      | nil => exact absurd digits (ofNat_ne_nil _)
      | cons first others =>
        rw [digits] at front
        exact front

/-- A number lies between the powers of ten that its digits tell. -/
theorem between_of_length {number : Nat} (positive : 0 < number) :
    10 ^ ((ofNat number).length - 1) ≤ number ∧ number < 10 ^ (ofNat number).length := by
  have someDigits : 0 < (ofNat number).length := Nat.length_toDigits_pos
  refine ⟨?_, (Nat.length_toDigits_le_iff (by decide) someDigits).mp (Nat.le_refl _)⟩
  by_cases single : (ofNat number).length - 1 = 0
  · rw [single]
    exact positive
  · by_contra less
    have fewer := (Nat.length_toDigits_le_iff (by decide) (Nat.pos_of_ne_zero single)).mpr
      (Nat.not_le.mp less)
    unfold ofNat at fewer someDigits
    omega

theorem length_ofNat_of_lt_hundred {number : Nat} (small : number < 100) :
    (ofNat number).length = 1 ∨ (ofNat number).length = 2 := by
  have positive : 0 < (ofNat number).length := Nat.length_toDigits_pos
  have short : (ofNat number).length ≤ 2 :=
    (Nat.length_toDigits_le_iff (by decide) (by decide)).mpr small
  omega

/-! ### Zeros at the front -/

theorem value_replicate_append (count : Nat) (digits : List Char) :
    value (List.replicate count '0' ++ digits) = value digits := by
  induction count with
  | zero => rfl
  | succ count inductionHypothesis =>
    rw [← inductionHypothesis, List.replicate_succ]
    rfl

/-! ### Zeros at the end -/

theorem value_append_replicate (digits : List Char) (count : Nat) :
    value (digits ++ List.replicate count '0') = value digits * 10 ^ count := by
  induction count with
  | zero => rw [List.replicate_zero, List.append_nil, Nat.pow_zero, Nat.mul_one]
  | succ count inductionHypothesis =>
    have zero : (digitValue? '0').getD 0 = 0 := by decide
    rw [List.replicate_succ', ← List.append_assoc, value_append_single, inductionHypothesis, zero,
      Nat.add_zero, Nat.pow_succ, Nat.mul_left_comm, Nat.mul_comm 10]

/-! ### A width -/

theorem value_padZeros (width : Nat) (digits : List Char) :
    value (padZeros width digits) = value digits :=
  value_replicate_append _ digits

theorem length_padZeros {width : Nat} {digits : List Char} (short : digits.length ≤ width) :
    (padZeros width digits).length = width := by
  rw [padZeros, List.length_append, List.length_replicate]
  omega

theorem padZeros_all_isDigit (width : Nat) {digits : List Char}
    (all : digits.all Char.isDigit = true) : (padZeros width digits).all Char.isDigit = true := by
  rw [padZeros, List.all_append, all, List.all_replicate]
  simp

/-! ### Reading digits -/

theorem isPadding_of_isDigit {char : Char} (digit : isDigit char = true) :
    isPadding char = false := by
  rw [isPadding, isBlank_of_isDigit digit, Bool.false_and]

/-- Digits are no sign. -/
theorem splitSign_of_digits {digits : List Char} (all : digits.all isDigit = true) :
    splitSign digits = (1, digits) := by
  cases digits with
  | nil => rfl
  | cons char rest =>
    rw [List.all_cons, Bool.and_eq_true] at all
    have notMinus : char ≠ '-' := by
      rintro rfl
      exact absurd all.1 (by decide)
    have notPlus : char ≠ '+' := by
      rintro rfl
      exact absurd all.1 (by decide)
    simp [splitSign, notMinus, notPlus]

/-- A row of digits that is not too long is read as the number it denotes. -/
theorem read_of_digits {digits : List Char} (nonempty : digits ≠ [])
    (all : digits.all isDigit = true) (short : digits.length ≤ digitLimit) :
    read digits = .ok (value digits) := by
  have each := List.all_eq_true.mp all
  have unpadded : digits.dropWhile isPadding = digits := by
    cases digits with
    | nil => rfl
    | cons char rest =>
      rw [List.dropWhile_cons, isPadding_of_isDigit (each char List.mem_cons_self)]
      rfl
  have inRow : ∀ char ∈ digits, isRowChar char = true := fun char member => by
    rw [isRowChar, each char member, Bool.true_or]
  have row : digits.takeWhile isRowChar = digits := List.takeWhile_eq_self_iff.mpr inRow
  have nothing : digits.dropWhile isRowChar = [] := List.dropWhile_eq_nil_iff.mpr inRow
  have fits : ¬ digitLimit < (digits.map fun char => (digitValue? char).getD 0).length := by
    rw [List.length_map]
    exact Nat.not_lt.mpr short
  rw [read, unpadded, splitSign_of_digits all]
  simp only [row, nothing, digitValues?_of_all_digits digits nonempty each, if_neg fits]
  rw [List.all_nil, if_pos rfl, Int.one_mul, value]

end OpeningHours.Text.Numeral
