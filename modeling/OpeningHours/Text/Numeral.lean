import OpeningHours.Text.Blank
import OpeningHours.Text.Digit

/-
Decimal numerals. A whole number is written with a minus sign where it is negative and without
leading zeros. Reading is more liberal: white space at the ends, a sign of either kind, digits of
any script and single underscores between digits are all taken, and a text of any other form is
refused. A row of more than 4300 digits is refused before what follows it is looked at.
-/

namespace OpeningHours.Text.Numeral

/-- A natural number in decimal. -/
def ofNat (number : Nat) : List Char :=
  Nat.toDigits 10 number

/-- A whole number in decimal. -/
def ofInt (number : Int) : List Char :=
  if number < 0 then '-' :: ofNat number.natAbs else ofNat number.natAbs

/-- A whole number in decimal. -/
def toText (number : Int) : String :=
  String.ofList (ofInt number)

/-- The text preceded by as many zeros as bring it to the given width. -/
def padZeros (width : Nat) (digits : List Char) : List Char :=
  List.replicate (width - digits.length) '0' ++ digits

/-- The number that a row of digit values denotes. -/
def ofDigitValues (values : List Nat) : Nat :=
  values.foldl (fun number value => 10 * number + value) 0

/-- The number that a row of digits denotes; a character that is no digit counts as a zero. -/
def value (digits : List Char) : Nat :=
  ofDigitValues (digits.map fun char => (digitValue? char).getD 0)

/-- The values of a row of digits with single underscores allowed between them. -/
def digitValues? : List Char → Option (List Nat)
  | [] => none
  | [char] => (digitValue? char).map ([·])
  | char :: '_' :: rest => do
    let first ← digitValue? char
    let others ← digitValues? rest
    return first :: others
  | char :: rest => do
    let first ← digitValue? char
    let others ← digitValues? rest
    return first :: others

/-- Why a text is not read as a whole number. -/
inductive Fault where
  | malformed (text : List Char)
  | tooLong (digits : Nat)
  deriving DecidableEq, Repr

/-- The sign at the front of a numeral, as a factor, and what follows it. -/
def splitSign : List Char → Int × List Char
  | '-' :: rest => (-1, rest)
  | '+' :: rest => (1, rest)
  | text => (1, text)

/-- A numeral of more digits than this is refused. -/
def digitLimit : Nat := 4300

/-- A character of a row of digits, between which underscores may stand. -/
def isRowChar (char : Char) : Bool :=
  isDigit char || char = '_'

/-- The whole number that a text denotes. -/
def read (text : List Char) : Except Fault Int :=
  let (sign, unsigned) := splitSign (text.dropWhile isPadding)
  match digitValues? (unsigned.takeWhile isRowChar) with
  | none => .error (.malformed text)
  | some values =>
    if digitLimit < values.length then .error (.tooLong values.length)
    else if (unsigned.dropWhile isRowChar).all isPadding then .ok (sign * ofDigitValues values)
    else .error (.malformed text)

/-- A row of digits without underscores yields the values of its digits. -/
theorem digitValues?_of_all_digits (digits : List Char) (nonempty : digits ≠ [])
    (all : ∀ char ∈ digits, isDigit char = true) :
    digitValues? digits = some (digits.map fun char => (digitValue? char).getD 0) := by
  induction digits with
  | nil => exact absurd rfl nonempty
  | cons char rest inductionHypothesis =>
    obtain ⟨first, read⟩ := Option.isSome_iff_exists.mp (all char List.mem_cons_self)
    cases rest with
    | nil => simp [digitValues?, read]
    | cons next more =>
      have others := inductionHypothesis (by simp)
        fun other member => all other (List.mem_cons_of_mem _ member)
      have nextIsDigit := all next (by simp)
      have noUnderscore : next ≠ '_' := by
        rintro rfl
        exact absurd nextIsDigit (by decide)
      rw [digitValues?]
      · simp [read, others]
      · simp
      · intro others equal
        exact noUnderscore (List.cons.inj equal).1

end OpeningHours.Text.Numeral
