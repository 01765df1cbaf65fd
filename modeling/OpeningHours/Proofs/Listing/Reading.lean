import OpeningHours.Listing.Reading
import OpeningHours.Proofs.Text.Search

/-
How the readings of a listing follow one another. A reading that begins with a word passes over
every text without the word; the two readings of windows come down to the first range that they
find. A text that names no state of being open or closed and no days is therefore settled by these
two, the daily one first.
-/

namespace OpeningHours.Listing

open Text

/-! ### Readings that pass -/

theorem readRoundTheClock_eq_none {text : List Char}
    (absent : anyOccursIn roundTheClockPhrases text = false) : readRoundTheClock text = none := by
  rw [readRoundTheClock, absent]
  rfl

theorem readClosed_eq_none {text : List Char} (absent : anyOccursIn closedPhrases text = false) :
    readClosed text = none := by
  rw [readClosed, absent]
  rfl

theorem readDayOnly_eq_none {text : List Char}
    (absent : anyOccursIn weekdayPhrases text = false) : readDayOnly text = none := by
  rw [readDayOnly, absent]
  rfl

/-- The time of a meal comes down to the first clock time that follows the meal. -/
theorem mealTime?_eq_bind (text : List Char) (meal : Meal) :
    mealTime? text meal =
      ((Scan.search (mealScan meal) text).map (·.value)).bind fun clock =>
        clock.minuteOfDay?.bind fun minute =>
          if valid : minute ≤ lastMinuteOfDay then some ⟨meal, minute, valid⟩ else none := by
  rw [mealTime?]
  cases Scan.search (mealScan meal) text <;> rfl

/-- No meal is read where no meal has a time. -/
theorem readMeals_eq_none_of_no_time {text : List Char}
    (timeless : ∀ meal, mealTime? text meal = none) : readMeals text = none := by
  have noTime : Meal.all.filterMap (mealTime? text) = [] :=
    List.filterMap_eq_nil_iff.mpr fun meal _ => timeless meal
  rw [readMeals, noTime]
  split <;> rfl

/-- No meal is read where no meal is named. -/
theorem readMeals_eq_none_of_no_meal {text : List Char}
    (absent : ∀ meal : Meal, occursIn meal.name.toList text = false) : readMeals text = none := by
  refine readMeals_eq_none_of_no_time fun meal => ?_
  rw [mealTime?, mealScan, Scan.search_word_eq_none _ _ text (absent meal)]
  rfl

/-- Where daily times are announced and a meal has a time, the meals that have one are read. -/
theorem readMeals_of_announced {text : List Char}
    (announced : anyOccursIn dailyPhrases text = true) {meal : Meal}
    (given : (mealTime? text meal).isSome = true) :
    readMeals text = some (.meals (Meal.all.filterMap (mealTime? text))) := by
  obtain ⟨time, found⟩ := Option.isSome_iff_exists.mp given
  have known : meal ∈ Meal.all := by cases meal <;> decide
  rw [readMeals, if_pos announced]
  split
  · next none =>
    have missing := List.filterMap_eq_nil_iff.mp none meal known
    rw [found] at missing
    cases missing
  · rfl

/-- The time found for a meal is a time of that meal. -/
theorem meal_of_mealTime? {text : List Char} {meal : Meal} {time : MealTime}
    (found : mealTime? text meal = some time) : time.meal = meal := by
  obtain ⟨_, _, found⟩ := Option.bind_eq_some_iff.mp found
  obtain ⟨_, _, found⟩ := Option.bind_eq_some_iff.mp found
  split at found
  · exact congrArg MealTime.meal (Option.some.inj found).symm
  · cases found

/-- The meals for which a time is found keep their order. -/
theorem mealTimes_sublist (text : List Char) (meals : List Meal) :
    ((meals.filterMap (mealTime? text)).map (·.meal)).Sublist meals := by
  induction meals with
  | nil => exact List.Sublist.slnil
  | cons meal meals inductionHypothesis =>
    cases found : mealTime? text meal with
    | none =>
      rw [List.filterMap_cons_none found]
      exact inductionHypothesis.cons meal
    | some time =>
      rw [List.filterMap_cons_some found, List.map_cons, meal_of_mealTime? found]
      exact inductionHypothesis.cons_cons meal

/-- A text that does not speak of daily times passes the readings for meals and daily windows. -/
theorem dailyReadings_eq_none {text : List Char} (absent : occursIn "daily".toList text = false) :
    readMeals text = none ∧ readDailyWindow text = none := by
  have begins : ∀ phrase ∈ dailyPhrases, "daily".toList <+: phrase := by decide
  have noPhrase : anyOccursIn dailyPhrases text = false := by
    rw [anyOccursIn_eq_false_iff]
    intro phrase member
    rw [← Bool.not_eq_true, occursIn_iff] at absent ⊢
    exact fun occurs => absent ((begins phrase member).isInfix.trans occurs)
  constructor
  · rw [readMeals, noPhrase]
    rfl
  · rw [readDailyWindow, dailyRangeScan, Scan.search_word_eq_none _ _ text absent]
    rfl

/-! ### Readings of windows -/

theorem readDailyWindow_eq {text : List Char} {range : ClockRange}
    (found : (Scan.search dailyRangeScan text).map (·.value) = some range) :
    readDailyWindow text = range.window?.map fun window => .window window .everyDay := by
  obtain ⟨place, search, rfl⟩ := Option.map_eq_some_iff.mp found
  rw [readDailyWindow, search]
  change (place.value.window?.bind fun window => some (Schedule.window window .everyDay)) = _
  cases place.value.window? <;> rfl

theorem readWindow_eq_bind (text : List Char) :
    readWindow text =
      ((Scan.search timeRangeScan text).map (·.value)).bind fun range =>
        range.window?.bind fun window =>
          (applicability? text).map fun days => .window window days := by
  rw [readWindow]
  cases Scan.search timeRangeScan text with
  | none => rfl
  | some found =>
    change (found.value.window?.bind fun window =>
      (applicability? text).bind fun days => some (Schedule.window window days)) = _
    cases applicability? text <;> rfl

theorem readWindow_eq {text : List Char} {range : ClockRange}
    (found : (Scan.search timeRangeScan text).map (·.value) = some range) :
    readWindow text =
      range.window?.bind fun window =>
        (applicability? text).map fun days => .window window days := by
  rw [readWindow_eq_bind, found, Option.bind_some]

/-- A text that the other readings pass over comes to the daily window, or else to the window. -/
theorem schedule_of_windows {text low : List Char} (lowered : lower text = low)
    (written : allBlank text = false)
    (noState : anyOccursIn (roundTheClockPhrases ++ closedPhrases) low = false)
    (noMeals : readMeals low = none) (noDays : anyOccursIn weekdayPhrases low = false) :
    schedule text = ((readDailyWindow low).or (readWindow low)).getD .unrecognized := by
  rw [anyOccursIn, List.any_append, Bool.or_eq_false_iff] at noState
  rw [schedule, written, lowered]
  simp only [readings, List.findSome?_cons, List.findSome?_nil, Bool.false_eq_true, if_false,
    readRoundTheClock_eq_none noState.1, readClosed_eq_none noState.2, noMeals,
    readDayOnly_eq_none noDays]
  cases readDailyWindow low with
  | some schedule => rfl
  | none => cases readWindow low <;> rfl

end OpeningHours.Listing
