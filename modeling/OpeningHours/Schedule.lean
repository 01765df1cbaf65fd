import OpeningHours.CivilTime
import OpeningHours.DaySet

/-
What an hours listing comes to: open round the clock, closed, open for meals, open within a window
of the day on certain days, open on certain days at unstated times, or nothing that is understood.
A window lies within one day and closes after it opens; both are part of the type, so a schedule
that exists can always be compared with a civil time.
-/

namespace OpeningHours

/-- A part of one day, from the opening minute up to the closing minute, which no longer belongs
to it. -/
structure TimeWindow where
  opening : Nat
  closing : Nat
  opening_lt_closing : opening < closing
  closing_le : closing ≤ lastMinuteOfDay
  deriving DecidableEq

namespace TimeWindow

/-- The window between two minutes of a day, unless it would be empty or run past midnight. -/
def ofMinutes? (opening closing : Nat) : Option TimeWindow :=
  if valid : opening < closing ∧ closing ≤ lastMinuteOfDay then
    some ⟨opening, closing, valid.1, valid.2⟩
  else none

/-- The minute lies within the window. -/
def contains (window : TimeWindow) (minute : Int) : Bool :=
  decide (window.opening ≤ minute) && decide (minute < window.closing)

end TimeWindow

inductive Meal where
  | breakfast
  | lunch
  | dinner
  deriving DecidableEq, Repr

namespace Meal

/-- The meals in the order of the day. -/
def all : List Meal :=
  [breakfast, lunch, dinner]

def name : Meal → String
  | breakfast => "breakfast"
  | lunch => "lunch"
  | dinner => "dinner"

def ofName? (name : String) : Option Meal :=
  all.find? fun meal => decide (meal.name = name)

end Meal

/-- A meal and the minute of the day at which it is served. -/
structure MealTime where
  meal : Meal
  minute : Nat
  minute_le : minute ≤ lastMinuteOfDay
  deriving DecidableEq

/-- What an hours listing comes to. -/
inductive Schedule where
  | roundTheClock
  | closed
  | meals (times : List MealTime)
  | window (window : TimeWindow) (days : Applicability)
  | dayOnly (days : Applicability)
  | unrecognized
  deriving DecidableEq

/-- The sorts of schedule there are. -/
inductive ScheduleKind where
  | roundTheClock
  | closed
  | meals
  | window
  | dayOnly
  | unrecognized
  deriving DecidableEq, Repr

namespace ScheduleKind

def all : List ScheduleKind :=
  [roundTheClock, closed, meals, window, dayOnly, unrecognized]

def name : ScheduleKind → String
  | roundTheClock => "twenty_four_seven"
  | closed => "explicitly_closed"
  | meals => "meal_schedule"
  | window => "window"
  | dayOnly => "day_only"
  | unrecognized => "unrecognized"

def ofName? (name : String) : Option ScheduleKind :=
  all.find? fun kind => decide (kind.name = name)

end ScheduleKind

namespace Schedule

def kind : Schedule → ScheduleKind
  | roundTheClock => .roundTheClock
  | closed => .closed
  | meals _ => .meals
  | window _ _ => .window
  | dayOnly _ => .dayOnly
  | unrecognized => .unrecognized

end Schedule

end OpeningHours
