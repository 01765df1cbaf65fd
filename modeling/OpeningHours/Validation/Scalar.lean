import OpeningHours.Text.Scan
import OpeningHours.Validation.Basic

/-
Checks of values without parts. Whole numbers are also taken from truth values, from numbers without
a fraction and from numerals; truth values also from zero and one and from a few words; weekdays
from whatever gives their numbers; texts only from texts.

A numeral is first read as it stands, in the strict form in which numbers are written, and only if
that fails is it tidied and read once more.
-/

namespace OpeningHours.Validation

open Text

/-! ### Strict numerals -/

/-- Why a text is no numeral of a whole number. -/
inductive NumeralFault where
  | malformed
  | tooLong
  deriving DecidableEq, Repr

/-- The number of a numeral in strict form: a minus sign if need be, and digits without leading
zeros. A row of more characters than the limit is refused before what follows it is looked at. -/
def strictNumber (text : List Char) : Except NumeralFault Int :=
  let negative := decide (text.head? = some '-')
  let unsigned := if negative then text.drop 1 else text
  let digits := unsigned.takeWhile Char.isDigit
  match digits with
  | [] => .error .malformed
  | first :: _ =>
    if first = '0' ∧ 1 < digits.length then .error .malformed
    else if Numeral.digitLimit < text.length - unsigned.length + digits.length then .error .tooLong
    else if digits.length < unsigned.length then .error .malformed
    else if negative then .ok (-(Numeral.value digits : Int))
    else .ok (Numeral.value digits)

/-! ### Tidying numerals -/

/-- A digit that may stand at the front of a numeral. -/
def isLeadingDigit (char : Char) : Bool :=
  '1' ≤ char && char ≤ '9'

/-- What leading zeros are followed by, any number of underscores being passed over with them: a
digit or a minus sign, or a point, before which the last character is kept. The last character is
kept also where nothing follows. -/
def afterLeadingZeros (last : Char) : List Char → Option (List Char)
  | [] => some [last]
  | char :: rest =>
    if char = '0' || char = '_' then afterLeadingZeros char rest
    else if char = '.' then some (last :: char :: rest)
    else if isLeadingDigit char || char = '-' then some (char :: rest)
    else none

/-- The text without leading zeros, if it begins with a digit. -/
def dropLeadingZeros : List Char → Option (List Char)
  | [] => none
  | char :: rest =>
    if char = '0' then afterLeadingZeros char rest
    else if isLeadingDigit char then some (char :: rest)
    else none

/-- The text up to its first point, where only zeros follow the point and there is at least one. -/
def dropZeroFraction (text : List Char) : List Char :=
  let whole := text.takeWhile (· ≠ '.')
  let fraction := (text.drop whole.length).drop 1
  if !fraction.isEmpty && fraction.all (· = '0') then whole else text

/-- The text without its underscores, where they stand one by one between other characters. -/
def dropUnderscores (text : List Char) : List Char :=
  if text.head? = some '_' || text.getLast? = some '_' || occursIn ['_', '_'] text then text
  else text.filter (· ≠ '_')

/-- The text without the white space at its two ends. -/
def stripPadding (text : List Char) : List Char :=
  ((text.dropWhile isPadding).reverse.dropWhile isPadding).reverse

/-- A numeral without its sign brought to the strict form, as far as that can be done: leading
zeros, a fraction of zeros and underscores are taken away. -/
def tidyUnsigned (text : List Char) : Option (List Char) :=
  (dropLeadingZeros text).map fun kept => dropUnderscores (dropZeroFraction kept)

/-- A numeral brought to the strict form: white space at its ends and a plus sign are taken away as
well, and a minus sign is kept. Only one sign is taken. -/
def tidyNumeral (text : List Char) : Option (List Char) :=
  match stripPadding text with
  | '+' :: rest => tidyUnsigned rest
  | '-' :: rest => (tidyUnsigned rest).map ('-' :: ·)
  | rest => tidyUnsigned rest

/-- The whole number that a numeral stands for. That its digits are too many is told only of a
numeral that needs no tidying. -/
def numeralValue (text : List Char) : Except NumeralFault Int :=
  match strictNumber text with
  | .ok value => .ok value
  | .error .tooLong => .error .tooLong
  | .error .malformed =>
    match (tidyNumeral text).map strictNumber with
    | some (.ok value) => .ok value
    | _ => .error .malformed

/-! ### Whole numbers -/

/-- Numbers that are this large, with either sign, are no longer counted in one machine word. -/
def wordLimit : Int := 9223372036854775808

/-- A whole number taken from one of double precision, which has to fit a machine word. -/
def integerOfDouble (value : Double) : Checked Int :=
  match value.toRat? with
  | none => reject .notFinite
  | some exact =>
    if exact.den ≠ 1 then reject .fractionalInteger
    else if -wordLimit < exact.num ∧ exact.num < wordLimit then .ok exact.num
    else reject .tooManyDigits

/-- A whole number. -/
def integer : Json → Checked Int
  | .int value => .ok value
  | .bool value => .ok (if value then 1 else 0)
  | .real value => integerOfDouble value
  | .string text =>
    match numeralValue text.toList with
    | .ok value => .ok value
    | .error .malformed => reject .unreadableInteger
    | .error .tooLong => reject .tooManyDigits
  | _ => reject .notInteger

/-- The whole number fits a machine word. -/
def fitsWord (value : Int) : Bool :=
  decide (-wordLimit ≤ value) && decide (value < wordLimit)

/-- A minute of the day. -/
def minuteOfDay (value : Json) : Checked { minute : Nat // minute ≤ lastMinuteOfDay } := do
  let minute ← integer value
  if negative : minute < 0 then reject (.belowMinimum 0)
  else if large : (lastMinuteOfDay : Int) < minute then reject (.aboveMaximum lastMinuteOfDay)
  else .ok ⟨minute.toNat, by omega⟩

/-! ### Names and truth values -/

/-- A weekday by its number. What gives no number is no weekday, but a number that no machine word
holds is refused as such. -/
def weekday (value : Json) : Checked Weekday :=
  match integer value with
  | .error _ => reject .notWeekday
  | .ok number =>
    if fitsWord number then
      match Weekday.ofNumber? number with
      | some day => .ok day
      | none => reject .notWeekday
    else reject .tooManyDigits

/-- A meal by its name. -/
def meal : Json → Checked Meal
  | .string name =>
    match Meal.ofName? name with
    | some meal => .ok meal
    | none => reject .notMeal
  | _ => reject .notMeal

def trueWords : List String := ["1", "on", "t", "true", "y", "yes"]

def falseWords : List String := ["0", "off", "f", "false", "n", "no"]

/-- The truth value that zero and one stand for. -/
def booleanOfInteger (value : Int) : Checked Bool :=
  if value = 0 then .ok false else if value = 1 then .ok true else reject .unreadableBoolean

/-- A truth value; the words for it may be in any case. A number counts only if it is a whole number
that fits a machine word. -/
def boolean : Json → Checked Bool
  | .bool value => .ok value
  | .int value => if fitsWord value then booleanOfInteger value else reject .notBoolean
  | .real value =>
    match integerOfDouble value with
    | .ok value => booleanOfInteger value
    | .error _ => reject .notBoolean
  | .string text =>
    let word := String.ofList (text.toList.map Char.toLower)
    if word ∈ trueWords then .ok true
    else if word ∈ falseWords then .ok false
    else reject .unreadableBoolean
  | _ => reject .notBoolean

/-- A text. -/
def string : Json → Checked String
  | .string value => .ok value
  | _ => reject .notText

/-- A text that may be missing. -/
def stringOrNull : Json → Checked (Option String)
  | .null => .ok none
  | value => (string value).map some

end OpeningHours.Validation
