import OpeningHours.Proofs.Listing.Days
import OpeningHours.Proofs.Listing.Reading
import OpeningHours.Proofs.Listing.TimeRange
import OpeningHours.Proofs.Text.Numerals

/-
A range of clock times means the same with the word daily before it as without, unless it closes on
compact figures. A daily range has to close on a mark, so the figures before it are read as they are
written. Any other range may close without one: two of the three figures go to the hour, the third
is not read at all, and the closing time is another one or none.
-/

namespace OpeningHours.Listing

open Text

/-! ### Compact closing times -/

namespace WrittenClock

/-- Compact figures never name the same minute of the day when two of them are taken for the hour.
-/
theorem minuteOfDay?_readOpenly_ne {clock : WrittenClock} (marked : clock.mark.isSome = true)
    (compact : clock.figures.Compact) {total : Nat}
    (named : clock.meant.minuteOfDay? = some total) :
    clock.readOpenly.minuteOfDay? ≠ some total := by
  intro hasty
  obtain ⟨mark, isMark⟩ := Option.isSome_iff_exists.mp marked
  obtain ⟨hour, tens, units, isHour, isMinute, _⟩ := compact.shape
  rw [readOpenly, if_pos compact, ClockText.minuteOfDay?, minuteOfDay?_eq_some_iff] at hasty
  rw [meant, ClockText.minuteOfDay?, minuteOfDay?_eq_some_iff] at named
  simp only [isHour, isMinute, isMark, Option.getD_some, Option.getD_none, List.take_succ_cons,
    List.take_zero, List.singleton_append, Numeral.value_pair,
    Numeral.value_single] at hasty named
  obtain ⟨minuteBound, _, hourOfDay, isHourOfDay, equal⟩ := named
  obtain ⟨_, _, otherHour, isOtherHour, otherEqual⟩ := hasty
  obtain ⟨atLeast, atMost, cases⟩ := hourOfDay?_bounds isHourOfDay
  have hourBound := Numeral.getD_digitValue?_lt_ten hour
  have unitsBound := Numeral.getD_digitValue?_lt_ten units
  have empty : Numeral.value [] = 0 := rfl
  rw [empty] at otherEqual
  rw [namedHour?_none_eq_some_iff] at isOtherHour
  omega

end WrittenClock

/-! ### Plain and daily ranges -/

/-- A character of written ranges or of the word that introduces them as daily ones. -/
def isDailyChar (char : Char) : Bool :=
  isRangeChar char || char ∈ "daily".toList

namespace WrittenRange

variable (range : WrittenRange)

/-- The range as it stands in a text that introduces it as a daily one. -/
def dailyText : List Char :=
  ['d', 'a', 'i', 'l', 'y', ' '] ++ range.text

theorem dailyText_all : range.dailyText.all isDailyChar = true := by
  have within : range.text.all isDailyChar = true := by
    refine List.all_eq_true.mpr fun char member => ?_
    rw [isDailyChar, List.all_eq_true.mp range.text_all char member, Bool.true_or]
  have introduced : ['d', 'a', 'i', 'l', 'y', ' '].all isDailyChar = true := by decide
  rw [dailyText, List.all_append, introduced, within]
  rfl

theorem lower_dailyText : lower range.dailyText = range.dailyText := by
  have introduced : lower ['d', 'a', 'i', 'l', 'y', ' '] = ['d', 'a', 'i', 'l', 'y', ' '] := by
    decide
  rw [dailyText, lower_append, introduced, range.lower_text]

theorem reads_dailyText : Scan.Reads dailyRangeScan range.dailyText range.meant [] := by
  have closes := range.reads (range.closing.reads_marked range.closing_marked [])
  rw [List.append_nil] at closes
  have unblank : range.text.head?.any isBlank = false :=
    Scan.head?_any_eq_false (fun _ => isBlank_of_isDigit) range.text_begins
  have spaced : Scan.Reads (.run1 isBlank) ([' '] ++ range.text) () range.text :=
    .run1 (List.cons_ne_nil ' ' []) (by decide) unblank
  rw [dailyText, dailyRangeScan]
  exact (Scan.Reads.word ['d', 'a', 'i', 'l', 'y'] ([' '] ++ range.text)).andThen
    (spaced.andThen closes)

/-- A range alone comes to the window of what is read of it where marks may be missing. -/
theorem schedule_text :
    schedule range.text =
      (range.readOpenly.window?.map fun window => .window window .everyDay).getD .unrecognized := by
  have absent (words : List (List Char))
      (foreign : ∀ word ∈ words, word.any (fun char => !isRangeChar char) = true) :
      anyOccursIn words range.text = false :=
    anyOccursIn_eq_false_of_foreign range.text_all foreign
  have notDaily : occursIn "daily".toList range.text = false :=
    occursIn_eq_false_of_foreign range.text_all (by decide)
  have found := range.search_timeRange List.any_nil []
  rw [List.append_nil, List.nil_append] at found
  obtain ⟨noMeals, noDailyWindow⟩ := dailyReadings_eq_none notDaily
  rw [schedule_of_windows range.lower_text range.not_allBlank (absent _ (by decide)) noMeals
    (absent _ (by decide)), noDailyWindow, Option.none_or, readWindow_eq found,
    applicability?_of_foreign (absent _ (by decide))]
  cases range.readOpenly.window? <;> rfl

/-- A range introduced as a daily one comes to the window that is meant, and when there is none, to
what it comes to alone. -/
theorem schedule_dailyText :
    schedule range.dailyText =
      ((range.meant.window?.map fun window => .window window .everyDay).or
        (range.readOpenly.window?.map fun window => .window window .everyDay)).getD
          .unrecognized := by
  have absent (words : List (List Char))
      (foreign : ∀ word ∈ words, word.any (fun char => !isDailyChar char) = true) :
      anyOccursIn words range.dailyText = false :=
    anyOccursIn_eq_false_of_foreign range.dailyText_all foreign
  have mealForeign : ∀ meal ∈ Meal.all,
      meal.name.toList.any (fun char => !isDailyChar char) = true := by
    decide
  have noMeals : readMeals range.dailyText = none :=
    readMeals_eq_none_of_no_meal fun meal =>
      occursIn_eq_false_of_foreign range.dailyText_all (mealForeign meal (by cases meal <;> decide))
  have written : allBlank range.dailyText = false := by
    rw [dailyText, allBlank, List.all_append]
    exact Bool.and_eq_false_imp.mpr fun _ => range.not_allBlank
  have foundDaily := Scan.search_of_reads (List.forall_mem_nil _) range.reads_dailyText
  rw [List.nil_append] at foundDaily
  have noDigit : ['d', 'a', 'i', 'l', 'y', ' '].any isDigit = false := by decide
  have found := range.search_timeRange noDigit []
  rw [List.append_nil, ← dailyText] at found
  rw [schedule_of_windows range.lower_dailyText written (absent _ (by decide)) noMeals
    (absent _ (by decide)), readDailyWindow_eq foundDaily, readWindow_eq found,
    applicability?_of_foreign (absent _ (by decide))]
  cases range.readOpenly.window? <;> rfl

/-- With compact closing figures the window that is meant is not the one that is read. -/
theorem window?_readOpenly_ne {range : WrittenRange} (compact : range.closing.figures.Compact)
    {window : TimeWindow} (intended : range.meant.window? = some window) :
    range.readOpenly.window? ≠ some window := by
  intro hasty
  rw [ClockRange.window?_eq_some_iff] at intended hasty
  exact WrittenClock.minuteOfDay?_readOpenly_ne range.closing_marked compact intended.2 hasty.2

/-- A range comes to the same with the word daily before it as without, the same window on every day
or nothing that is understood, unless it has a window and closes on compact figures. -/
theorem daily_agrees_iff (range : WrittenRange) :
    ((Schedule.ofText (some ("daily " ++ String.ofList range.text)) = .unrecognized ∧
        Schedule.ofText (some (String.ofList range.text)) = .unrecognized) ∨
      ∃ window, Schedule.ofText (some ("daily " ++ String.ofList range.text)) =
          .window window .everyDay ∧
        Schedule.ofText (some (String.ofList range.text)) = .window window .everyDay) ↔
      ¬ (range.closing.figures.Compact ∧ range.meant.window?.isSome = true) := by
  have plain : Schedule.ofText (some (String.ofList range.text)) = schedule range.text := by
    rw [Schedule.ofText, String.toList_ofList]
  have daily : Schedule.ofText (some ("daily " ++ String.ofList range.text)) =
      schedule range.dailyText := by
    rw [Schedule.ofText, String.toList_append, String.toList_ofList, String.toList_ofList,
      dailyText]
  rw [daily, plain, schedule_text, schedule_dailyText]
  cases intended : range.meant.window? with
  | none =>
    -- Without a window that is meant, both texts are read as the range alone.
    have agrees : ¬ (range.closing.figures.Compact ∧
        (none : Option TimeWindow).isSome = true) := by simp
    rw [iff_true_right agrees]
    cases range.readOpenly.window? with
    | none => exact Or.inl ⟨rfl, rfl⟩
    | some window => exact Or.inr ⟨window, rfl, rfl⟩
  | some window =>
    by_cases compact : range.closing.figures.Compact
    · have differs : ¬ ¬ (range.closing.figures.Compact ∧ (some window).isSome = true) :=
        not_not_intro ⟨compact, rfl⟩
      rw [iff_false_right differs]
      rintro (⟨unknown, _⟩ | ⟨other, dailyWindow, plainWindow⟩)
      · cases unknown
      · obtain rfl : window = other := (Schedule.window.inj dailyWindow).1
        have hasty := window?_readOpenly_ne compact intended
        cases read : range.readOpenly.window? with
        | none =>
          rw [read] at plainWindow
          cases plainWindow
        | some openly =>
          rw [read] at plainWindow hasty
          exact hasty (congrArg some (Schedule.window.inj plainWindow).1)
    · have agrees : ¬ (range.closing.figures.Compact ∧ (some window).isSome = true) :=
        fun both => compact both.1
      rw [iff_true_right agrees, readOpenly_of_not_compact compact, intended]
      exact Or.inr ⟨window, rfl, rfl⟩

end WrittenRange

/-- From nine in the morning to half past five, with compact closing figures. -/
def nineToHalfPastFive : WrittenRange where
  opening := ⟨⟨['9'], false, none, by decide, by decide, by decide, by decide⟩, [], some .am,
    by decide, by decide⟩
  before := []
  separators := ['-']
  after := []
  closing := ⟨⟨['5'], false, some ['3', '0'], by decide, by decide, by decide, by decide⟩, [],
    some .pm, by decide, by decide⟩
  before_blank := by decide
  separators_written := by decide
  separators_all := by decide
  after_blank := by decide
  closing_marked := by decide

/-- Half past five is read after the word daily, and nothing is understood without it. -/
theorem half_past_five_needs_daily :
    String.ofList nineToHalfPastFive.text = "9am-530pm" ∧
      Schedule.ofText (some "daily 9am-530pm") =
        .window ⟨540, 1050, by decide, by decide⟩ .everyDay ∧
      Schedule.ofText (some "9am-530pm") = .unrecognized := by
  refine ⟨?_, ?_, ?_⟩ <;> decide +kernel

end OpeningHours.Listing
