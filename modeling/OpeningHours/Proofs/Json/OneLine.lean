import OpeningHours.Proofs.Json.ReadBack
import OpeningHours.Proofs.Text.OneLine

/-
JSON that is written on one line stays on it. Texts are the only part of a value that could hold a
character that ends a line, and all control characters of a text are written by other characters.
-/

namespace OpeningHours.Json

open Text

/-! ### Texts -/

theorem uncontrolled_hexadecimal :
    ∀ code < 0x20, Uncontrolled (Quoted.hexadecimal 4 code) := by
  decide +kernel

theorem uncontrolled_escapeChar (char : Char) : Uncontrolled (escapeChar char) := by
  by_cases short : char ∈ shortlyEscaped
  · have all : (shortlyEscaped.all fun char => decide (Uncontrolled (escapeChar char))) = true := by
      decide
    exact of_decide_eq_true (List.all_eq_true.mp all char short)
  · rw [escapeChar_of_not_mem short]
    by_cases control : char.toNat < 0x20
    · rw [if_pos control]
      exact .cons (by decide) (.cons (by decide) (uncontrolled_hexadecimal _ control))
    · rw [if_neg control]
      exact .cons (Nat.not_lt.mp control) .nil

theorem uncontrolled_writeText (text : String) : Uncontrolled (writeText text) := by
  have body : Uncontrolled (text.toList.flatMap escapeChar) := by
    intro char member
    obtain ⟨source, _, member⟩ := List.mem_flatMap.mp member
    exact uncontrolled_escapeChar source char member
  exact .append (.cons (by decide) body) (.cons (by decide) .nil)

/-! ### Numbers -/

theorem uncontrolled_layOut {number : Decimal.Digits} (digits : Uncontrolled number.digits) :
    Uncontrolled (Decimal.layOut number) := by
  unfold Decimal.layOut
  split
  · split
    · exact ((Uncontrolled.append (by decide) (uncontrolled_zeros _))).append digits
    · refine .append (.append (.append (digits.of_subset (List.take_subset _ _))
        (uncontrolled_zeros _)) (by decide)) ?_
      split
      · decide
      · exact digits.of_subset (List.drop_subset _ _)
  · have exponent : Uncontrolled
        (Numeral.padZeros 2 (Numeral.ofNat (number.place - 1).natAbs)) :=
      .of_digits (Numeral.padZeros_all_isDigit 2 (Numeral.ofNat_all_isDigit _))
    refine .append (.append ?_ (.cons (by decide) (.cons ?_ .nil))) exponent
    · split
      · next first second rest parts =>
        rw [parts] at digits
        obtain ⟨one, others⟩ := List.forall_mem_cons.mp digits
        exact .cons one (.cons (by decide) others)
      · exact digits
    · split <;> decide

theorem uncontrolled_shortestDigits (point : Decimal.GridPoint) :
    Uncontrolled (Decimal.shortestDigits point).digits := by
  have stripped (multiple : Nat) : Uncontrolled
      ((Numeral.ofNat multiple).reverse.dropWhile fun char => decide (char = '0')).reverse :=
    .of_subset (List.IsPrefix.subset <| List.rdropWhile_prefix _ _) (uncontrolled_ofNat multiple)
  exact stripped _

theorem uncontrolled_withSign {text : List Char} (negative : Bool)
    (uncontrolled : Uncontrolled text) : Uncontrolled (Decimal.withSign negative text) := by
  cases negative
  · exact uncontrolled
  · exact .cons (by decide) uncontrolled

theorem uncontrolled_writeReal (value : Double) : Uncontrolled (writeReal value) := by
  cases value with
  | finite negative size =>
    refine uncontrolled_withSign negative ?_
    unfold Decimal.sizeText
    split
    · decide
    · exact uncontrolled_layOut (uncontrolled_shortestDigits _)
  | infinite negative => exact uncontrolled_withSign negative (by decide)
  | undefined => decide

/-! ### Values -/

mutual

theorem uncontrolled_write : ∀ value : Json, Uncontrolled (write value)
  | .null => by decide
  | .bool value => by cases value <;> decide
  | .int value => uncontrolled_ofInt value
  | .real value => uncontrolled_writeReal value
  | .string value => uncontrolled_writeText value
  | .array items =>
    .append (.cons (by decide) (uncontrolled_writeItems items)) (by decide)
  | .object fields =>
    .append (.cons (by decide) (uncontrolled_writeFields fields)) (by decide)

theorem uncontrolled_writeItems : ∀ items : List Json, Uncontrolled (writeItems items)
  | [] => .nil
  | [item] => uncontrolled_write item
  | item :: next :: rest =>
    .append (.append (uncontrolled_write item) (by decide)) (uncontrolled_writeItems (next :: rest))

theorem uncontrolled_writeFields :
    ∀ fields : List (String × Json), Uncontrolled (writeFields fields)
  | [] => .nil
  | [(name, value)] =>
    .append (.append (uncontrolled_writeText name) (by decide)) (uncontrolled_write value)
  | (name, value) :: next :: rest =>
    .append (.append (.append (.append (uncontrolled_writeText name) (by decide))
      (uncontrolled_write value)) (by decide)) (uncontrolled_writeFields (next :: rest))

end

/-- A value on one line holds no newline. -/
theorem newline_not_mem_toLine (value : Json) : '\n' ∉ (toLine value).toList := by
  rw [toLine, String.toList_ofList]
  exact (uncontrolled_write value).newline_not_mem

end OpeningHours.Json
