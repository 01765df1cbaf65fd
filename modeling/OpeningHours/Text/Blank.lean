import OpeningHours.Text.CodeRange

/-
White space, in the sense in which hours texts are trimmed and clock times may be spaced out: the
separators of Unicode, the line and paragraph separators, and the control characters that stand for
tabs, line breaks and information separators. A zero-width space is not among them.
-/

namespace OpeningHours.Text

/-- The white space outside ASCII. -/
def blankRanges : List CodeRange :=
  [⟨0x85, 0x85⟩, ⟨0xa0, 0xa0⟩, ⟨0x1680, 0x1680⟩, ⟨0x2000, 0x200a⟩, ⟨0x2028, 0x2029⟩,
   ⟨0x202f, 0x202f⟩, ⟨0x205f, 0x205f⟩, ⟨0x3000, 0x3000⟩]

/-- White space. -/
def isBlank (char : Char) : Bool :=
  if char.toNat < 0x80 then
    char.toNat = 0x20 || (0x09 ≤ char.toNat && char.toNat ≤ 0x0d) ||
      (0x1c ≤ char.toNat && char.toNat ≤ 0x1f)
  else CodeRange.anyHolds blankRanges char.toNat

/-- White space that may surround a numeral: the information separators may not. -/
def isPadding (char : Char) : Bool :=
  isBlank char && !(0x1c ≤ char.toNat && char.toNat ≤ 0x1f)

/-- The text without the white space at its start. -/
def stripStart (text : List Char) : List Char :=
  text.dropWhile isBlank

/-- The text without the white space at its two ends. -/
def strip (text : List Char) : List Char :=
  (stripStart (stripStart text).reverse).reverse

/-- A text of white space only, the empty text included. -/
def allBlank (text : List Char) : Bool :=
  text.all isBlank

/-- The text without the white space at its two ends. -/
def trimmed (text : String) : String :=
  String.ofList (strip text.toList)

theorem stripStart_eq_nil_iff (text : List Char) : stripStart text = [] ↔ allBlank text = true := by
  induction text with
  | nil => simp [stripStart, allBlank]
  | cons char rest inductionHypothesis =>
    rw [stripStart, allBlank, List.dropWhile_cons, List.all_cons]
    cases isBlank char with
    | true =>
      rw [if_pos rfl, Bool.true_and]
      exact inductionHypothesis
    | false => simp

/-- Nothing is left of a text exactly when it is white space only. -/
theorem strip_eq_nil_iff (text : List Char) : strip text = [] ↔ allBlank text = true := by
  constructor
  · intro empty
    have inner : allBlank (stripStart text).reverse = true := by
      rw [← stripStart_eq_nil_iff]
      simpa [strip] using empty
    rw [← stripStart_eq_nil_iff]
    cases front : stripStart text with
    | nil => rfl
    | cons char rest =>
      have headKept : isBlank char = false := by
        have := List.head?_dropWhile_not isBlank text
        rw [show text.dropWhile isBlank = char :: rest from front] at this
        simpa using this
      rw [front] at inner
      simp [allBlank, headKept] at inner
  · intro blank
    rw [strip, (stripStart_eq_nil_iff text).mpr blank]
    rfl

end OpeningHours.Text
