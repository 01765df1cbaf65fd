import Mathlib.Data.List.DropRight
import OpeningHours.Text.Blank

/-
White space at the ends of a text. What is left when it is taken away begins and ends with other
characters, so taking it away a second time changes nothing.
-/

namespace OpeningHours.Text

theorem strip_eq (text : List Char) : strip text = (stripStart text).rdropWhile isBlank := rfl

theorem stripStart_of_unblank {char : Char} (unblank : isBlank char = false) (rest : List Char) :
    stripStart (char :: rest) = char :: rest := by
  rw [stripStart, List.dropWhile_cons, unblank, if_neg Bool.false_ne_true]

/-- Nothing is left at the start of a text that has been stripped at both ends. -/
theorem stripStart_strip (text : List Char) : stripStart (strip text) = strip text := by
  have parts : strip text ++ (stripStart text).rtakeWhile isBlank = text.dropWhile isBlank :=
    List.rdropWhile_append_rtakeWhile
  cases left : strip text with
  | nil => rfl
  | cons char rest =>
    have begins := List.head?_dropWhile_not isBlank text
    rw [← parts, left] at begins
    exact stripStart_of_unblank begins rest

theorem strip_strip (text : List Char) : strip (strip text) = strip text := by
  rw [strip_eq (strip text), stripStart_strip, strip_eq, List.rdropWhile_idempotent]

theorem trimmed_trimmed (text : String) : trimmed (trimmed text) = trimmed text := by
  rw [trimmed, trimmed, String.toList_ofList, strip_strip]

/-- What is left of a text that is not blank is not blank. -/
theorem allBlank_strip {text : List Char} (unblank : allBlank text = false) :
    allBlank (strip text) = false := by
  rw [← Bool.not_eq_true, ← strip_eq_nil_iff] at unblank ⊢
  rwa [strip_strip]

end OpeningHours.Text
