import OpeningHours.Proofs.Listing.ClockTime
import OpeningHours.Proofs.Listing.Days
import OpeningHours.Proofs.Listing.Reading
import OpeningHours.Proofs.Status.Judging
import OpeningHours.Proofs.Text.Numerals
import OpeningHours.Listing.Reading
import OpeningHours.Validation.Written

/-
Reading a listing never goes wrong. Here the readings are given once more with every step checked:
digits are read as numerals, days are looked up by the first letters of the words that were found,
and windows, meals and sets of days are made by checking the records of their parts. Numerals may be
malformed, letters may begin no weekday, and records may have problems; only a bad window counts as
no window, all else would break the reading off. What the scans find rules all of this out: their
digits are rows of one or two digits, their words are spellings of days, and a minute that comes to
be recorded lies within the day. So the checked reading of every text succeeds, with the schedule
that the text comes to.
-/

namespace OpeningHours

/-- The bounds that the schedule of a text keeps to: a window lies within the day and applies on
some day, days without times are Monday to Friday, and meals are some of the day's, each at most
once and in the order of the day. -/
def Schedule.WellFormed : Schedule → Prop
  | .window hours days =>
    hours.opening < hours.closing ∧ hours.closing ≤ lastMinuteOfDay ∧ ∃ day, day ∈ days.days
  | .dayOnly days => days.days = .mondayToFriday
  | .meals times =>
    times ≠ [] ∧ (times.map (·.meal)).Sublist Meal.all ∧
      ∀ time ∈ times, time.minute ≤ lastMinuteOfDay
  | .roundTheClock | .closed | .unrecognized => True

namespace Listing

open Text

/-- What may break a reading off. -/
inductive ReadingFault where
  | numeral (fault : Numeral.Fault)
  | notDayPrefix (letters : List Char)
  | invalid (problems : List Validation.Problem)

/-- A step of a reading that may break it off. -/
abbrev Attempt (Value : Type) : Type := Except ReadingFault Value

namespace Attempt

/-! ### Clock times and windows -/

/-- A step that does not fail hands its result to the next one. -/
theorem ok_bind {Value Next : Type} (value : Value) (next : Value → Attempt Next) :
    (Except.ok value >>= next) = next value := rfl

/-- The minute of the day that a clock time names, its figures being read as numerals. -/
def minute (clock : ClockText) : Attempt (Option Nat) :=
  (readMinuteOfDay clock.hour clock.minute clock.mark).mapError .numeral

/-- The record of a window between two minutes. -/
def windowRecord (opening closing : Nat) : Json :=
  .object [("open_minutes", countRecord opening), ("close_minutes", countRecord closing)]

/-- The window of a range, if its record passes the check. -/
def window (range : ClockRange) : Attempt (Option TimeWindow) := do
  let opening ← minute range.opening
  let closing ← minute range.closing
  match opening, closing with
  | some opening, some closing =>
    match Validation.timeWindow (windowRecord opening closing) with
    | .ok window => return some window
    | .error _ => return none
  | _, _ => return none

/-! ### Meals -/

/-- The record of a meal at a minute. -/
def mealRecord (meal : Meal) (minute : Nat) : Json :=
  .object [("meal", .string meal.name), ("minute_of_day", countRecord minute)]

/-- The time given for a meal. Its record has to pass the check. -/
def mealTime (text : List Char) (meal : Meal) : Attempt (Option MealTime) :=
  match Scan.search (mealScan meal) text with
  | none => return none
  | some found => do
    match ← minute found.value with
    | none => return none
    | some minute =>
      let time ← (Validation.mealTime (mealRecord meal minute)).mapError .invalid
      return some time

/-! ### Days -/

/-- The first three letters of the days, in lower case. -/
def dayPrefixes : List (List Char × Weekday) :=
  Weekday.all.map fun day => ((day.name.toList.map Char.toLower).take 3, day)

/-- The day that a word begins to name. -/
def dayOfWord (word : List Char) : Attempt Weekday :=
  match dayPrefixes.lookup (word.take 3) with
  | some day => .ok day
  | none => .error (.notDayPrefix (word.take 3))

/-- The days of a range between two words. -/
def rangeDays (range : DayWord × DayWord) : Attempt DaySet := do
  let first ← dayOfWord range.1.spelling
  let last ← dayOfWord range.2.spelling
  return .fromTo first last

/-- All days that the text names. -/
def namedDays (text : List Char) : Attempt DaySet := do
  let ranged ← (Scan.findAll dayRangeScan text).mapM fun found => rangeDays found.value
  return spelledDays fullNames text ∪ .unions ranged ∪
    (if anyOccursIn weekdayPhrases text then .mondayToFriday else .empty) ∪
    spelledDays shortNames text

/-- The record of a set of days. -/
def daysRecord (days : DaySet) : Json :=
  .object [("days", .array (days.toList.map fun day => countRecord day.index))]

/-- The days of a set as those on which a listing applies. Their record has to pass the check. -/
def applicable (days : DaySet) : Attempt Applicability :=
  (Validation.applicability (daysRecord days)).mapError .invalid

/-- The days on which a listing applies; `none` when it speaks of days that cannot be made out. -/
def applicability (text : List Char) : Attempt (Option Applicability) := do
  let days ← namedDays text
  if days ≠ .empty then return some (← applicable days)
  else if anyOccursIn dayFragments text then return none
  else return some (← applicable .everyDay)

/-! ### Readings -/

/-- A reading that may break off. -/
abbrev Reading : Type := List Char → Attempt (Option Schedule)

def meals : Reading := fun text => do
  if anyOccursIn dailyPhrases text then
    let times ← Meal.all.mapM (mealTime text)
    match times.reduceOption with
    | [] => return none
    | times => return some (.meals times)
  else return none

def dailyWindow : Reading := fun text =>
  match Scan.search dailyRangeScan text with
  | none => return none
  | some found => do
    match ← window found.value with
    | none => return none
    | some window => return some (.window window (← applicable .everyDay))

def anyWindow : Reading := fun text =>
  match Scan.search timeRangeScan text with
  | none => return none
  | some found => do
    match ← window found.value with
    | none => return none
    | some window =>
      match ← applicability text with
      | none => return none
      | some days => return some (.window window days)

def dayOnly : Reading := fun text => do
  if anyOccursIn weekdayPhrases text then return some (.dayOnly (← applicable .mondayToFriday))
  else return none

/-- The readings in the order in which they are tried; two of them have no step that may fail. -/
def readings : List Reading :=
  [fun text => return readRoundTheClock text, fun text => return readClosed text, meals,
   dailyWindow, anyWindow, dayOnly]

/-- The schedule of the first reading that makes one. -/
def firstOf (text : List Char) : List Reading → Attempt Schedule
  | [] => return .unrecognized
  | reading :: rest => do
    match ← reading text with
    | some schedule => return schedule
    | none => firstOf text rest

/-- The schedule that an hours text comes to, read with every step checked. -/
def schedule : Option String → Attempt Schedule
  | none => return .unrecognized
  | some text =>
    if allBlank text.toList then return .unrecognized else firstOf (lower text.toList) readings

end Attempt

/-! ### What the scans find -/

/-- The hour and the minute of the clock time are figures as they are written. -/
def ClockText.IsWritten (clock : ClockText) : Prop :=
  ∃ figures : Figures, clock.hour = figures.hour ∧ clock.minute = figures.minute

theorem hourScan_ways {place : Place} {way : List Char × Place} (member : way ∈ hourScan place) :
    (way.1.length = 1 ∨ way.1.length = 2) ∧ way.1.all isDigit = true := by
  rcases List.mem_append.mp member with isTwo | isOne
  · obtain ⟨two, digits⟩ := Scan.exactly_ways isTwo
    exact ⟨Or.inr two, digits⟩
  · obtain ⟨one, digits⟩ := Scan.exactly_ways isOne
    exact ⟨Or.inl one, digits⟩

/-- However its mark is read, a clock time that is found is made of figures. -/
theorem clockScanWith_ways {mark : Scan (Option ClockMark)} {place : Place}
    {way : ClockText × Place} (member : way ∈ clockScanWith mark place) : way.1.IsWritten := by
  obtain ⟨hour, hourMember, member⟩ := Scan.mem_andThen.mp member
  obtain ⟨_, _, member⟩ := Scan.mem_andThen.mp member
  obtain ⟨minute, minuteMember, member⟩ := Scan.mem_andThen.mp member
  obtain ⟨_, _, member⟩ := Scan.mem_andThen.mp member
  obtain ⟨mark, _, member⟩ := Scan.mem_andThen.mp member
  obtain rfl := List.mem_singleton.mp member
  have figures : ∀ digits ∈ minute.1, digits.length = 2 ∧ digits.all isDigit = true := by
    intro digits isMinute
    rcases Scan.optional_ways minuteMember with missing | ⟨read, readMember, isRead⟩
    · rw [missing] at isMinute
      cases isMinute
    · rw [isRead, Option.mem_some_iff] at isMinute
      rw [← isMinute]
      exact Scan.exactly_ways readMember
  obtain ⟨length, digits⟩ := hourScan_ways hourMember
  exact ⟨⟨hour.1, false, minute.1, length, digits, fun _ isMinute => (figures _ isMinute).1,
    fun _ isMinute => (figures _ isMinute).2⟩, rfl, rfl⟩

theorem rangeScanWith_ways {mark : Scan (Option ClockMark)} {place : Place}
    {way : ClockRange × Place} (member : way ∈ rangeScanWith (clockScanWith mark) place) :
    way.1.opening.IsWritten ∧ way.1.closing.IsWritten := by
  obtain ⟨opening, openingMember, member⟩ := Scan.mem_andThen.mp member
  obtain ⟨_, _, member⟩ := Scan.mem_andThen.mp member
  obtain ⟨closing, closingMember, member⟩ := Scan.mem_andThen.mp member
  obtain rfl := List.mem_singleton.mp member
  exact ⟨clockScanWith_ways openingMember, clockScanWith_ways closingMember⟩

/-- A scan after a word and white space finds what it finds without them. -/
theorem introduced_ways {Value : Type} {word : List Char} {scan : Scan Value} {place : Place}
    {way : Value × Place}
    (member : way ∈ Scan.andThen (.word word)
      (fun _ => .andThen (.run1 isBlank) fun _ => scan) place) :
    ∃ reached, way ∈ scan reached := by
  obtain ⟨_, _, member⟩ := Scan.mem_andThen.mp member
  obtain ⟨gap, _, member⟩ := Scan.mem_andThen.mp member
  exact ⟨gap.2, member⟩

theorem mealScan_ways {meal : Meal} {place : Place} {way : ClockText × Place}
    (member : way ∈ mealScan meal place) : way.1.IsWritten := by
  obtain ⟨_, member⟩ := introduced_ways member
  exact clockScanWith_ways member

theorem dailyRangeScan_ways {place : Place} {way : ClockRange × Place}
    (member : way ∈ dailyRangeScan place) :
    way.1.opening.IsWritten ∧ way.1.closing.IsWritten := by
  obtain ⟨_, member⟩ := introduced_ways member
  exact rangeScanWith_ways member

/-! ### Clock times and windows are read -/

/-- A clock time names no minute beyond the day. -/
theorem ClockText.minuteOfDay?_le {clock : ClockText} {minute : Nat}
    (named : clock.minuteOfDay? = some minute) : minute ≤ lastMinuteOfDay :=
  ((minuteOfDay?_eq_some_iff _ _ _ _).mp named).2.1

namespace Attempt

theorem minute_eq_ok {clock : ClockText} (written : clock.IsWritten) :
    minute clock = .ok clock.minuteOfDay? := by
  obtain ⟨hour, minute, mark⟩ := clock
  obtain ⟨figures, rfl, rfl⟩ := written
  have short {digits : List Char} (length : digits.length = 1 ∨ digits.length = 2) :
      digits ≠ [] ∧ digits.length ≤ Numeral.digitLimit := by
    constructor
    · rintro rfl
      simp at length
    · have limit : 2 ≤ Numeral.digitLimit := by decide
      omega
  have hourRead : Numeral.read figures.hour = .ok (Numeral.value figures.hour) :=
    Numeral.read_of_digits (short figures.hour_length).1 figures.hour_digits
      (short figures.hour_length).2
  have length := figures.minute_length
  have digits := figures.minute_digits
  cases isMinute : figures.minute with
  | none =>
    simp only [Attempt.minute, readMinuteOfDay, hourRead]
    rfl
  | some minute =>
    have two := length minute isMinute
    have minuteRead : Numeral.read minute = .ok (Numeral.value minute) :=
      Numeral.read_of_digits (short (Or.inr two)).1 (digits minute isMinute) (short (Or.inr two)).2
    obtain ⟨tens, units, rfl⟩ := List.length_eq_two.mp two
    simp only [Attempt.minute, readMinuteOfDay, hourRead, minuteRead]
    rfl

/-- The record of a window passes its check exactly when there is a window between its minutes. -/
theorem timeWindow_windowRecord {opening closing : Nat} (first : opening ≤ lastMinuteOfDay)
    (second : closing ≤ lastMinuteOfDay) :
    (Validation.timeWindow (windowRecord opening closing)).toOption =
      TimeWindow.ofMinutes? opening closing := by
  by_cases order : opening < closing
  · rw [TimeWindow.ofMinutes?, dif_pos ⟨order, second⟩]
    exact congrArg Except.toOption
      (Validation.timeWindow_record ⟨opening, closing, order, second⟩)
  · rw [TimeWindow.ofMinutes?, dif_neg fun valid => order valid.1]
    simp [Validation.timeWindow, windowRecord, Validation.record, Validation.required,
      Json.fieldOf?, Validation.minuteOfDay_countRecord first,
      Validation.minuteOfDay_countRecord second, Validation.within, Validation.both, bind,
      Except.bind, order, Validation.reject, Except.toOption]

theorem window_eq_ok {range : ClockRange} (opening : range.opening.IsWritten)
    (closing : range.closing.IsWritten) : window range = .ok range.window? := by
  rw [window, minute_eq_ok opening, minute_eq_ok closing, ClockRange.window?]
  cases first : range.opening.minuteOfDay? with
  | none => rfl
  | some opens =>
    cases second : range.closing.minuteOfDay? with
    | none => rfl
    | some closes =>
      have checked := timeWindow_windowRecord (ClockText.minuteOfDay?_le first)
        (ClockText.minuteOfDay?_le second)
      change _ = Except.ok (TimeWindow.ofMinutes? opens closes)
      rw [← checked]
      change (match Validation.timeWindow (windowRecord opens closes) with
        | .ok window => return some window
        | .error _ => return none) = _
      cases Validation.timeWindow (windowRecord opens closes) <;> rfl

theorem mealTime_eq_ok (text : List Char) (meal : Meal) :
    mealTime text meal = .ok (mealTime? text meal) := by
  rw [mealTime, mealTime?]
  cases search : Scan.search (mealScan meal) text with
  | none => rfl
  | some found =>
    obtain ⟨_, way, member, isFound⟩ := Scan.searchFrom_ways search
    have written : found.value.IsWritten := isFound ▸ mealScan_ways member
    simp only [minute_eq_ok written, Option.bind_eq_bind, Option.bind_some]
    cases named : found.value.minuteOfDay? with
    | none => rfl
    | some minute =>
      have bound := ClockText.minuteOfDay?_le named
      have checked : Validation.mealTime (mealRecord meal minute) = .ok ⟨meal, minute, bound⟩ :=
        Validation.mealTime_record ⟨meal, minute, bound⟩
      rw [Option.bind_some, dif_pos bound]
      simp only [ok_bind, checked]
      rfl

/-! ### Days are read -/

/-- Steps of which none fails can be taken one after another. -/
theorem mapM_eq_ok {Item Value : Type} {step : Item → Attempt Value} {result : Item → Value}
    {items : List Item} (each : ∀ item ∈ items, step item = .ok (result item)) :
    items.mapM step = .ok (items.map result) := by
  induction items with
  | nil => rfl
  | cons item rest inductionHypothesis =>
    rw [List.mapM_cons, each item List.mem_cons_self,
      inductionHypothesis fun other member => each other (List.mem_cons_of_mem _ member)]
    rfl

/-- Every spelling of a day begins with the letters of that day. -/
theorem dayOfWord_spelling : ∀ word ∈ dayWords,
    dayPrefixes.lookup (word.spelling.take 3) = some word.day := by
  decide

theorem dayOfWord_eq_ok {word : DayWord} (known : word ∈ dayWords) :
    dayOfWord word.spelling = .ok word.day := by
  rw [dayOfWord, dayOfWord_spelling word known]

theorem namedDays_eq_ok (text : List Char) : namedDays text = .ok (Listing.namedDays text) := by
  have ranged : (Scan.findAll dayRangeScan text).mapM (fun found => rangeDays found.value) =
      .ok ((Scan.findAll dayRangeScan text).map fun found =>
        DaySet.fromTo found.value.1.day found.value.2.day) := by
    refine mapM_eq_ok fun found member => ?_
    obtain ⟨_, way, wayMember, isFound⟩ := Scan.findAllFrom_ways member
    obtain ⟨firstKnown, lastKnown, _⟩ := dayRangeScan_ways wayMember
    rw [isFound] at firstKnown lastKnown
    rw [rangeDays, dayOfWord_eq_ok firstKnown, dayOfWord_eq_ok lastKnown]
    rfl
  rw [namedDays, ranged]
  rfl

theorem applicable_eq_ok (days : Applicability) : applicable days.days = .ok days :=
  congrArg (Except.mapError ReadingFault.invalid) (Validation.applicability_record days)

theorem applicability_eq_ok (text : List Char) :
    applicability text = .ok (applicability? text) := by
  rw [applicability, applicability?, namedDays_eq_ok]
  cases named : Applicability.ofDays? (Listing.namedDays text) with
  | none =>
    have nothing := Applicability.ofDays?_eq_none_iff.mp named
    rw [ok_bind, if_neg (not_not.mpr nothing)]
    split
    · rfl
    · have everyDay : applicable .everyDay = .ok .everyDay := applicable_eq_ok .everyDay
      rw [everyDay]
      rfl
  | some days =>
    have same := Applicability.ofDays?_eq_some_iff.mp named
    have nonempty : Listing.namedDays text ≠ .empty := fun nothing => by
      rw [Applicability.ofDays?_eq_none_iff.mpr nothing] at named
      cases named
    rw [ok_bind, if_pos nonempty, ← same, applicable_eq_ok]
    rfl

/-! ### Every reading succeeds -/

theorem meals_eq_ok (text : List Char) : meals text = .ok (readMeals text) := by
  rw [meals, readMeals, mapM_eq_ok fun meal _ => mealTime_eq_ok text meal, ok_bind]
  have given : (Meal.all.map (mealTime? text)).reduceOption =
      Meal.all.filterMap (mealTime? text) := by
    change (Meal.all.map (mealTime? text)).filterMap id = _
    rw [List.filterMap_map]
    rfl
  rw [given]
  split
  · cases Meal.all.filterMap (mealTime? text) <;> rfl
  · rfl

theorem dailyWindow_eq_ok (text : List Char) : dailyWindow text = .ok (readDailyWindow text) := by
  rw [dailyWindow, readDailyWindow]
  cases search : Scan.search dailyRangeScan text with
  | none => rfl
  | some found =>
    obtain ⟨_, way, member, isFound⟩ := Scan.searchFrom_ways search
    obtain ⟨opening, closing⟩ := dailyRangeScan_ways member
    rw [isFound] at opening closing
    have everyDay : applicable .everyDay = .ok .everyDay := applicable_eq_ok .everyDay
    simp only [window_eq_ok opening closing, Option.bind_eq_bind, Option.bind_some, ok_bind,
      everyDay]
    cases found.value.window? <;> rfl

theorem anyWindow_eq_ok (text : List Char) : anyWindow text = .ok (readWindow text) := by
  rw [anyWindow, readWindow]
  cases search : Scan.search timeRangeScan text with
  | none => rfl
  | some found =>
    obtain ⟨_, way, member, isFound⟩ := Scan.searchFrom_ways search
    obtain ⟨opening, closing⟩ := rangeScanWith_ways member
    rw [isFound] at opening closing
    simp only [window_eq_ok opening closing, applicability_eq_ok, Option.bind_eq_bind,
      Option.bind_some, ok_bind]
    cases found.value.window? with
    | none => rfl
    | some window => cases applicability? text <;> rfl

theorem dayOnly_eq_ok (text : List Char) : dayOnly text = .ok (readDayOnly text) := by
  have weekdays : applicable .mondayToFriday = .ok .weekdays := applicable_eq_ok .weekdays
  rw [dayOnly, readDayOnly, weekdays]
  split <;> rfl

/-- Readings that succeed one by one succeed in order. -/
theorem firstOf_eq_ok {text : List Char} {attempts : List Reading}
    {readings : List Listing.Reading}
    (each : List.Forall₂ (fun attempt reading => attempt text = .ok (reading text)) attempts
      readings) :
    firstOf text attempts = .ok ((readings.findSome? (· text)).getD .unrecognized) := by
  induction each with
  | nil => rfl
  | @cons attempt reading attempts readings here rest inductionHypothesis =>
    rw [firstOf, here, ok_bind, List.findSome?_cons]
    cases reading text with
    | none => exact inductionHypothesis
    | some schedule => rfl

theorem schedule_eq_ok (text : Option String) : schedule text = .ok (Schedule.ofText text) := by
  cases text with
  | none => rfl
  | some text =>
    rw [schedule, Schedule.ofText, Listing.schedule]
    split
    · rfl
    · have each : List.Forall₂
          (fun attempt reading => attempt (lower text.toList) = .ok (reading (lower text.toList)))
          readings Listing.readings :=
        .cons rfl <| .cons rfl <| .cons (meals_eq_ok _) <| .cons (dailyWindow_eq_ok _) <|
          .cons (anyWindow_eq_ok _) <| .cons (dayOnly_eq_ok _) .nil
      rw [firstOf_eq_ok each]
      cases Listing.readings.findSome? (· (lower text.toList)) <;> rfl

end Attempt

/-! ### What every text comes to -/

theorem wellFormed_of_readMeals {text : List Char} {schedule : Schedule}
    (read : readMeals text = some schedule) : schedule.WellFormed := by
  rw [readMeals] at read
  split at read
  · split at read
    · cases read
    · next times given =>
      obtain rfl := Option.some.inj read
      exact ⟨given, mealTimes_sublist text Meal.all, fun time _ => time.minute_le⟩
  · cases read

theorem wellFormed_window (window : TimeWindow) (days : Applicability) :
    (Schedule.window window days).WellFormed :=
  ⟨window.opening_lt_closing, window.closing_le, days.nonempty⟩

/-- Whatever a reading makes of a text keeps its bounds. -/
theorem wellFormed_of_reading {reading : Reading} (known : reading ∈ readings) {text : List Char}
    {schedule : Schedule} (read : reading text = some schedule) : schedule.WellFormed := by
  simp only [readings, List.mem_cons, List.not_mem_nil, or_false] at known
  rcases known with rfl | rfl | rfl | rfl | rfl | rfl
  · rw [readRoundTheClock] at read
    split at read
    · obtain rfl := Option.some.inj read
      trivial
    · cases read
  · rw [readClosed] at read
    split at read
    · obtain rfl := Option.some.inj read
      trivial
    · cases read
  · exact wellFormed_of_readMeals read
  · obtain ⟨_, _, read⟩ := Option.bind_eq_some_iff.mp read
    obtain ⟨window, _, read⟩ := Option.bind_eq_some_iff.mp read
    obtain rfl := Option.some.inj read
    exact wellFormed_window window .everyDay
  · obtain ⟨_, _, read⟩ := Option.bind_eq_some_iff.mp read
    obtain ⟨window, _, read⟩ := Option.bind_eq_some_iff.mp read
    obtain ⟨days, _, read⟩ := Option.bind_eq_some_iff.mp read
    obtain rfl := Option.some.inj read
    exact wellFormed_window window days
  · rw [readDayOnly] at read
    split at read
    · obtain rfl := Option.some.inj read
      rfl
    · cases read

theorem wellFormed_ofText (text : Option String) : (Schedule.ofText text).WellFormed := by
  cases text with
  | none => trivial
  | some text =>
    rw [Schedule.ofText, Listing.schedule]
    split
    · trivial
    · split
      · next schedule found =>
        obtain ⟨reading, known, read⟩ := List.exists_of_findSome?_eq_some found
        exact wellFormed_of_reading known read
      · trivial

/-- Every text comes to a schedule that keeps its bounds: no step of reading it fails, and none of
judging the schedule at any time. -/
theorem every_text_is_read_and_judged (text : Option String) :
    Attempt.schedule text = .ok (Schedule.ofText text) ∧ (Schedule.ofText text).WellFormed ∧
      ∀ now, (Schedule.ofText text).judge now = .ok (statusAt text now) :=
  ⟨Attempt.schedule_eq_ok text, wellFormed_ofText text, fun now =>
    (Schedule.ofText text).judge_eq_ok now⟩

end Listing

end OpeningHours
