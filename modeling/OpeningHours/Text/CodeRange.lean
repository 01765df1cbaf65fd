/-
A class of characters is kept as a list of closed ranges of code points, and a case mapping as a
list of rows, each of which shifts every character of a regular run by the same distance. Both are
looked up by walking the list.
-/

namespace OpeningHours.Text

/-- The code points from `first` to `last`, both included. -/
structure CodeRange where
  first : Nat
  last : Nat

namespace CodeRange

def holds (range : CodeRange) (code : Nat) : Bool :=
  decide (range.first ≤ code) && decide (code ≤ range.last)

/-- One of the ranges holds the code point. -/
def anyHolds (ranges : List CodeRange) (code : Nat) : Bool :=
  ranges.any (·.holds code)

theorem holds_iff (range : CodeRange) (code : Nat) :
    range.holds code = true ↔ range.first ≤ code ∧ code ≤ range.last := by
  simp [holds]

theorem anyHolds_iff (ranges : List CodeRange) (code : Nat) :
    anyHolds ranges code = true ↔ ∃ range ∈ ranges, range.first ≤ code ∧ code ≤ range.last := by
  simp [anyHolds, holds]

end CodeRange

/-- The code points `first`, `first + step`, … up to `last`, each shifted by `shift`. -/
structure ShiftRow where
  first : Nat
  last : Nat
  step : Nat
  shift : Int

namespace ShiftRow

def holds (row : ShiftRow) (code : Nat) : Bool :=
  decide (row.first ≤ code) && decide (code ≤ row.last) &&
    decide ((code - row.first) % row.step = 0)

/-- The character that the first row holding `char` shifts it to; `char` itself when none does. -/
def apply (rows : List ShiftRow) (char : Char) : Char :=
  match rows.find? (·.holds char.toNat) with
  | some row => Char.ofNat (char.toNat + row.shift).toNat
  | none => char

end ShiftRow

end OpeningHours.Text
