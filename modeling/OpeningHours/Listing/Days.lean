import OpeningHours.DaySet
import OpeningHours.Text.Blank
import OpeningHours.Text.Scan
import OpeningHours.Text.Word

/-
The days that an hours listing names. Four sources add to them: the full name of a day anywhere in
the text, a range between two spelled days, a phrase for Monday to Friday, and the short names of
the two weekend days. A listing that names no day applies every day, unless it holds a piece of a
day's name that none of the sources could make out: then the days are unknown.
-/

namespace OpeningHours.Listing

open Text

/-- A spelling of a weekday. -/
structure DayWord where
  spelling : List Char
  day : Weekday
  deriving DecidableEq

/-- The spellings that a range of days may use. Of two spellings of which one begins with the other,
the one that is listed first is preferred. -/
def dayWords : List DayWord :=
  [⟨"sunday".toList, .sunday⟩, ⟨"monday".toList, .monday⟩, ⟨"tuesday".toList, .tuesday⟩,
   ⟨"wednesday".toList, .wednesday⟩, ⟨"thursday".toList, .thursday⟩, ⟨"friday".toList, .friday⟩,
   ⟨"saturday".toList, .saturday⟩, ⟨"sun".toList, .sunday⟩, ⟨"mon".toList, .monday⟩,
   ⟨"tues".toList, .tuesday⟩, ⟨"tue".toList, .tuesday⟩, ⟨"wed".toList, .wednesday⟩,
   ⟨"thurs".toList, .thursday⟩, ⟨"thur".toList, .thursday⟩, ⟨"thu".toList, .thursday⟩,
   ⟨"fri".toList, .friday⟩, ⟨"sat".toList, .saturday⟩]

/-- A spelled weekday that stands as a word of its own, perhaps in the plural, perhaps with a dot.
-/
def dayScan : Scan DayWord :=
  .andThen (.boundary isWordChar) fun _ =>
  .andThen (.firstOf (dayWords.map fun word =>
    .andThen (.word word.spelling) fun _ => .done word)) fun word =>
  .andThen (.optional (.word ['s'])) fun _ =>
  .andThen (.boundary isWordChar) fun _ =>
  .andThen (.optional (.word ['.'])) fun _ =>
  .done word

/-- What stands between the two days of a range, white space apart. -/
def rangeWords : List (List Char) :=
  [['-'], ['–'], "to".toList, "through".toList, "thru".toList]

/-- A range between two spelled weekdays. -/
def dayRangeScan : Scan (DayWord × DayWord) :=
  .andThen dayScan fun first =>
  .andThen (.run isBlank) fun _ =>
  .andThen (.firstOf (rangeWords.map .word)) fun _ =>
  .andThen (.run isBlank) fun _ =>
  .andThen dayScan fun last =>
  .done (first, last)

/-- The full names of the days, as they stand in a text in lower case. -/
def fullNames : List DayWord :=
  [⟨"sunday".toList, .sunday⟩, ⟨"monday".toList, .monday⟩, ⟨"tuesday".toList, .tuesday⟩,
   ⟨"wednesday".toList, .wednesday⟩, ⟨"thursday".toList, .thursday⟩, ⟨"friday".toList, .friday⟩,
   ⟨"saturday".toList, .saturday⟩]

/-- The short names that stand for a day wherever they occur. -/
def shortNames : List DayWord :=
  [⟨"sat".toList, .saturday⟩, ⟨"sun".toList, .sunday⟩]

/-- Phrases for Monday to Friday. -/
def weekdayPhrases : List (List Char) :=
  ["mon-fri".toList, "monday-friday".toList, "weekday".toList]

/-- Pieces of day names. -/
def dayFragments : List (List Char) :=
  ["mon".toList, "tue".toList, "wed".toList, "thu".toList, "fri".toList, "sat".toList,
   "sun".toList, "weekday".toList, "weekend".toList]

/-- The days whose spelling occurs in the text. -/
def spelledDays (words : List DayWord) (text : List Char) : DaySet :=
  .ofList ((words.filter fun word => occursIn word.spelling text).map (·.day))

/-- The days of all the ranges in the text. -/
def rangedDays (text : List Char) : DaySet :=
  .unions ((Scan.findAll dayRangeScan text).map fun found =>
    DaySet.fromTo found.value.1.day found.value.2.day)

/-- All days that the text names. -/
def namedDays (text : List Char) : DaySet :=
  spelledDays fullNames text ∪ rangedDays text ∪
    (if anyOccursIn weekdayPhrases text then .mondayToFriday else .empty) ∪
    spelledDays shortNames text

/-- The days on which a listing applies; `none` when it speaks of days that cannot be made out. -/
def applicability? (text : List Char) : Option Applicability :=
  match Applicability.ofDays? (namedDays text) with
  | some applicability => some applicability
  | none => if anyOccursIn dayFragments text then none else some .everyDay

end OpeningHours.Listing
