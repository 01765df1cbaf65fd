import OpeningHours.Listing.Days
import OpeningHours.Listing.TimeRange
import OpeningHours.Text.LowerCase

/-
How an hours listing is read. The text is brought to lower case and offered to six readings, each of
which either makes a schedule of it or passes; the first schedule counts. A text that all of them
pass over, or that is blank, is not recognized.
-/

namespace OpeningHours.Listing

open Text

/-- Phrases for being always open. -/
def roundTheClockPhrases : List (List Char) :=
  ["24/7".toList, "24 hours".toList, "always open".toList]

/-- Phrases for being closed. -/
def closedPhrases : List (List Char) :=
  ["temporarily closed".toList, "permanently closed".toList]

/-- Phrases that announce daily times. -/
def dailyPhrases : List (List Char) :=
  ["daily:".toList, "daily ".toList]

/-- A reading of a text in lower case: the schedule made of it, or `none` to pass it on. -/
abbrev Reading : Type := List Char → Option Schedule

def readRoundTheClock : Reading := fun text =>
  if anyOccursIn roundTheClockPhrases text then some .roundTheClock else none

def readClosed : Reading := fun text =>
  if anyOccursIn closedPhrases text then some .closed else none

/-- The time given for a meal at the first place where the meal is followed by a clock time. -/
def mealTime? (text : List Char) (meal : Meal) : Option MealTime := do
  let found ← Scan.search (mealScan meal) text
  let minute ← found.value.minuteOfDay?
  if valid : minute ≤ lastMinuteOfDay then some ⟨meal, minute, valid⟩ else none

def readMeals : Reading := fun text =>
  if anyOccursIn dailyPhrases text then
    match Meal.all.filterMap (mealTime? text) with
    | [] => none
    | times => some (.meals times)
  else none

/-- The window of the first range introduced as a daily one. -/
def readDailyWindow : Reading := fun text => do
  let found ← Scan.search dailyRangeScan text
  let window ← found.value.window?
  return .window window .everyDay

/-- The window of the first range of clock times, on the days that the text names. -/
def readWindow : Reading := fun text => do
  let found ← Scan.search timeRangeScan text
  let window ← found.value.window?
  let days ← applicability? text
  return .window window days

def readDayOnly : Reading := fun text =>
  if anyOccursIn weekdayPhrases text then some (.dayOnly .weekdays) else none

/-- The readings in the order in which they are tried. -/
def readings : List Reading :=
  [readRoundTheClock, readClosed, readMeals, readDailyWindow, readWindow, readDayOnly]

/-- The schedule that a text in any case comes to. -/
def schedule (text : List Char) : Schedule :=
  if allBlank text then .unrecognized
  else
    match readings.findSome? (· (lower text)) with
    | some schedule => schedule
    | none => .unrecognized

end OpeningHours.Listing

namespace OpeningHours.Schedule

/-- The schedule that an hours text comes to; a missing text is not recognized. -/
def ofText : Option String → Schedule
  | none => .unrecognized
  | some text => Listing.schedule text.toList

end OpeningHours.Schedule
