import OpeningHours.Text.Blank
import OpeningHours.Text.Digit
import OpeningHours.Text.LowerCase
import OpeningHours.Text.Word

/-
White space and digits, of whatever script, have no case and have nothing in common, and no word
holds white space. Where two texts differ in the case of ASCII letters alone, lower case makes them
equal.
-/

namespace OpeningHours.Text

/-! ### Members of the classes -/

theorem isDigit_iff (char : Char) :
    isDigit char = true ↔
      (0x30 ≤ char.toNat ∧ char.toNat ≤ 0x39) ∨
        (0x80 ≤ char.toNat ∧
          ∃ start ∈ digitZeros, start ≤ char.toNat ∧ char.toNat < start + 10) := by
  unfold isDigit digitValue?
  by_cases ascii : char.toNat < 0x80
  · rw [if_pos ascii]
    by_cases digit : 0x30 ≤ char.toNat ∧ char.toNat ≤ 0x39
    · simp [digit]
    · have notBeyond : ¬ 0x80 ≤ char.toNat := Nat.not_le.mpr ascii
      simp [digit, notBeyond]
  · have beyond : 0x80 ≤ char.toNat := Nat.not_lt.mp ascii
    have notAscii : ¬ (0x30 ≤ char.toNat ∧ char.toNat ≤ 0x39) := by omega
    rw [if_neg ascii, Option.isSome_map, List.find?_isSome]
    simp only [Bool.and_eq_true, decide_eq_true_eq, notAscii, beyond, true_and, false_or]

theorem isBlank_iff (char : Char) :
    isBlank char = true ↔
      (char.toNat = 0x20 ∨ (0x09 ≤ char.toNat ∧ char.toNat ≤ 0x0d) ∨
        (0x1c ≤ char.toNat ∧ char.toNat ≤ 0x1f)) ∨
        (0x80 ≤ char.toNat ∧
          ∃ range ∈ blankRanges, range.first ≤ char.toNat ∧ char.toNat ≤ range.last) := by
  unfold isBlank
  by_cases ascii : char.toNat < 0x80
  · have notBeyond : ¬ 0x80 ≤ char.toNat := Nat.not_le.mpr ascii
    simp [ascii, notBeyond, or_assoc]
  · have beyond : 0x80 ≤ char.toNat := Nat.not_lt.mp ascii
    rw [if_neg ascii, CodeRange.anyHolds_iff]
    constructor
    · exact fun held => Or.inr ⟨beyond, held⟩
    · rintro (other | ⟨_, held⟩)
      · omega
      · exact held

theorem blankRanges_outside_digits : ∀ range ∈ blankRanges,
    0x39 < range.first ∧ ∀ start ∈ digitZeros, range.last < start ∨ start + 10 ≤ range.first := by
  decide +kernel

theorem isBlank_of_isDigit {char : Char} (digit : isDigit char = true) : isBlank char = false := by
  rw [← Bool.not_eq_true, isBlank_iff]
  rw [isDigit_iff] at digit
  rintro (ascii | ⟨beyond, range, member, lower, upper⟩)
  · omega
  · obtain ⟨afterDigits, disjoint⟩ := blankRanges_outside_digits range member
    rcases digit with ascii | ⟨_, start, startMember, fromZero, toNine⟩
    · omega
    · rcases disjoint start startMember with before | after <;> omega

theorem blankRanges_outside_words : ∀ range ∈ blankRanges, ∀ other ∈ wordRanges,
    range.last < other.first ∨ other.last < range.first := by
  decide +kernel

theorem isWordChar_up_to_space : ∀ code < 0x21, isWordChar (Char.ofNat code) = false := by
  decide +kernel

theorem isWordChar_of_isBlank {char : Char} (blank : isBlank char = true) :
    isWordChar char = false := by
  rcases (isBlank_iff char).mp blank with ascii | ⟨beyond, range, member, lower, upper⟩
  · rw [← Char.ofNat_toNat char]
    exact isWordChar_up_to_space char.toNat (by omega)
  · unfold isWordChar
    rw [if_neg (by omega), ← Bool.not_eq_true, CodeRange.anyHolds_iff]
    rintro ⟨other, otherMember, first, last⟩
    rcases blankRanges_outside_words range member other otherMember with before | after <;> omega

/-! ### Characters without case -/

/-- A character that no row of a case mapping reaches is mapped to itself. -/
theorem ShiftRow.apply_of_outside (rows : List ShiftRow) (char : Char)
    (outside : ∀ row ∈ rows, char.toNat < row.first ∨ row.last < char.toNat) :
    ShiftRow.apply rows char = char := by
  have noRow : rows.find? (·.holds char.toNat) = none := by
    rw [List.find?_eq_none]
    intro row member
    simp only [ShiftRow.holds, Bool.and_eq_true, decide_eq_true_eq]
    rcases outside row member with before | after <;> omega
  rw [ShiftRow.apply, noRow]

theorem toLower_of_not_upper {char : Char} (notUpper : ¬ (0x41 ≤ char.toNat ∧ char.toNat ≤ 0x5a)) :
    char.toLower = char := by
  unfold Char.toLower
  rw [dif_neg]
  exact fun upper => notUpper ⟨UInt32.le_iff_toNat_le.mp upper.1, UInt32.le_iff_toNat_le.mp upper.2⟩

theorem lowerRows_outside_digits : ∀ start ∈ digitZeros,
    0x130 < start ∧ ∀ row ∈ lowerRows, start + 10 ≤ row.first ∨ row.last < start := by
  decide +kernel

theorem lowerRows_outside_blanks : ∀ range ∈ blankRanges,
    (range.last < 0x130 ∨ 0x130 < range.first) ∧
      ∀ row ∈ lowerRows, range.last < row.first ∨ row.last < range.first := by
  decide +kernel

theorem lowerChar_of_isDigit {char : Char} (digit : isDigit char = true) :
    lowerChar char = [char] := by
  unfold lowerChar
  rcases (isDigit_iff char).mp digit with ascii | ⟨beyond, start, member, fromZero, toNine⟩
  · rw [if_pos (by omega), toLower_of_not_upper (by omega)]
  · obtain ⟨afterDotted, outside⟩ := lowerRows_outside_digits start member
    rw [if_neg (by omega), if_neg (by omega), ShiftRow.apply_of_outside]
    intro row rowMember
    rcases outside row rowMember with before | after <;> omega

theorem lowerChar_of_isBlank {char : Char} (blank : isBlank char = true) :
    lowerChar char = [char] := by
  unfold lowerChar
  rcases (isBlank_iff char).mp blank with ascii | ⟨beyond, range, member, lower, upper⟩
  · rw [if_pos (by omega), toLower_of_not_upper (by omega)]
  · obtain ⟨notDotted, outside⟩ := lowerRows_outside_blanks range member
    rw [if_neg (by omega), if_neg (by omega), ShiftRow.apply_of_outside]
    intro row rowMember
    rcases outside row rowMember with before | after <;> omega

/-- A text of characters that lower case leaves alone is in lower case. -/
theorem lower_eq_self (text : List Char) (fixed : ∀ char ∈ text, lowerChar char = [char]) :
    lower text = text := by
  induction text with
  | nil => rfl
  | cons char rest inductionHypothesis =>
    rw [lower, List.flatMap_cons, fixed char List.mem_cons_self]
    exact congrArg (char :: ·)
      (inductionHypothesis fun other member => fixed other (List.mem_cons_of_mem _ member))

/-! ### Texts that differ in case -/

theorem toNat_toLower_of_upper {char : Char} (upper : 0x41 ≤ char.toNat ∧ char.toNat ≤ 0x5a) :
    char.toLower.toNat = char.toNat + 32 := by
  unfold Char.toLower
  rw [dif_pos ⟨UInt32.le_iff_toNat_le.mpr upper.1, UInt32.le_iff_toNat_le.mpr upper.2⟩]
  change (char.val + ('a'.val - 'A'.val)).toNat = char.val.toNat + 32
  rw [UInt32.toNat_add]
  have bound : char.val.toNat ≤ 0x5a := upper.2
  change (char.val.toNat + 32) % 2 ^ 32 = char.val.toNat + 32
  omega

theorem toLower_ascii_iff (char : Char) : char.toLower.toNat < 0x80 ↔ char.toNat < 0x80 := by
  by_cases upper : 0x41 ≤ char.toNat ∧ char.toNat ≤ 0x5a
  · rw [toNat_toLower_of_upper upper]
    omega
  · rw [toLower_of_not_upper upper]

theorem lower_of_ascii (text : List Char) (ascii : ∀ char ∈ text, char.toNat < 0x80) :
    lower text = text.map Char.toLower := by
  induction text with
  | nil => rfl
  | cons char rest inductionHypothesis =>
    rw [lower, List.flatMap_cons, lowerChar, if_pos (ascii char List.mem_cons_self), List.map_cons]
    exact congrArg (char.toLower :: ·)
      (inductionHypothesis fun other member => ascii other (List.mem_cons_of_mem _ member))

/-- The texts differ in the case of ASCII letters at most. -/
def SameLetters (first second : String) : Prop :=
  first.toList.map Char.toLower = second.toList.map Char.toLower

instance (first second : String) : Decidable (SameLetters first second) :=
  inferInstanceAs (Decidable (_ = _))

/-- A text that differs from an ASCII text in the case of letters at most has the same lower case.
-/
theorem lower_of_sameLetters {first second : String} (same : SameLetters first second)
    (ascii : second.toList.all (fun char => char.toNat < 0x80) = true) :
    lower first.toList = second.toList.map Char.toLower := by
  rw [← same]
  apply lower_of_ascii
  intro char member
  have lowered : char.toLower ∈ second.toList.map Char.toLower :=
    same ▸ List.mem_map_of_mem member
  obtain ⟨other, otherMember, equal⟩ := List.mem_map.mp lowered
  rw [← toLower_ascii_iff, ← equal, toLower_ascii_iff]
  exact of_decide_eq_true (List.all_eq_true.mp ascii other otherMember)

end OpeningHours.Text
