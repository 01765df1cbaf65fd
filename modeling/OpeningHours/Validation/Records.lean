import OpeningHours.Status.Basic
import OpeningHours.Validation.Scalar

/-
Checks of the records that hours are spoken of in: civil times, windows, sets of days, schedules and
statuses. A schedule is told by its tag, and the path to a problem inside it starts with that tag.
-/

namespace OpeningHours.Validation

/-- A weekday and a minute of that day. -/
def civilTime : Json → Checked CivilTime :=
  record "CivilTime" fun fields =>
    (both (required "weekday" weekday fields)
      (required "minutes_since_midnight" minuteOfDay fields)).map
      fun (day, minute) => ⟨day, minute.val, minute.property⟩

/-- An hour and a minute of a weekday, which may be any numbers as long as they come to a minute of
the day together. -/
def hourOfWeekday (day : Weekday) (hour minute : Int) : Checked CivilTime :=
  civilTime (.object
    [("weekday", .int day.index), ("minutes_since_midnight", .int (hour * 60 + minute))])

/-- A window that closes after it opens. -/
def timeWindow : Json → Checked TimeWindow :=
  record "TimeWindow" fun fields => do
    let (opening, closing) ←
      both (required "open_minutes" minuteOfDay fields)
        (required "close_minutes" minuteOfDay fields)
    if order : opening.val < closing.val then
      .ok ⟨opening.val, closing.val, order, closing.property⟩
    else reject .closesBeforeOpening

/-- A list of days by their numbers, taken as a set. -/
def daySet : Json → Checked DaySet
  | .array items => (each weekday items).map DaySet.ofList
  | _ => reject .notDaySet

/-- The days on which a listing applies. -/
def applicability : Json → Checked Applicability :=
  record "Applicability" fun fields => do
    let days ← required "days" daySet fields
    match Applicability.ofDays? days with
    | some applicability => .ok applicability
    | none => reject .noDays

/-- A meal and the time at which it is served. -/
def mealTime : Json → Checked MealTime :=
  record "MealTime" fun fields =>
    (both (required "meal" meal fields) (required "minute_of_day" minuteOfDay fields)).map
      fun (meal, minute) => ⟨meal, minute.val, minute.property⟩

/-- A list of meal times. -/
def mealTimes : Json → Checked (List MealTime)
  | .array items => each mealTime items
  | _ => reject .notMealList

/-- The parts of a schedule of a known kind. -/
def scheduleOfKind (kind : ScheduleKind) (fields : List (String × Json)) : Checked Schedule :=
  match kind with
  | .roundTheClock => .ok .roundTheClock
  | .closed => .ok .closed
  | .meals => (optional "meals" [] mealTimes fields).map .meals
  | .window =>
    (both (required "window" timeWindow fields) (required "applicability" applicability fields)).map
      fun (window, days) => .window window days
  | .dayOnly => (required "applicability" applicability fields).map .dayOnly
  | .unrecognized => .ok .unrecognized

/-- A schedule, told by its tag. -/
def schedule : Json → Checked Schedule
  | .object fields =>
    match Json.fieldOf? "kind" fields with
    | none => reject .tagMissing
    | some tag =>
      match tag.string?.bind ScheduleKind.ofName? with
      | some kind => within (.field kind.name) (scheduleOfKind kind fields)
      | none => reject (.tagUnknown tag)
  | _ => reject .notTagged

/-- The one of two names under which a field is given. Where both are, or neither is, it is the
first. -/
def givenName (name other : String) (fields : List (String × Json)) : String :=
  if (Json.fieldOf? name fields).isNone && (Json.fieldOf? other fields).isSome then other else name

/-- A status. Each field may go by its name in either of two spellings, of which the one without
underscores counts first. -/
def openStatus : Json → Checked OpenStatus :=
  record "OpenStatus" fun fields =>
    let isOpen := givenName "isOpen" "is_open" fields
    let untilOpen := givenName "timeUntilOpen" "time_until_open" fields
    let nextOpening := givenName "nextOpenTime" "next_open_time" fields
    (both (required isOpen boolean fields) <|
      both (required "status" string fields) <|
        both (optional untilOpen none stringOrNull fields)
          (optional nextOpening none stringOrNull fields)).map
      fun (isOpen, phrase, untilOpen, nextOpening) => ⟨isOpen, phrase, untilOpen, nextOpening⟩

end OpeningHours.Validation
