import Mathlib.Algebra.BigOperators.Group.List.Basic
import Mathlib.Algebra.Ring.Nat
import Mathlib.Data.List.GetD
import OpeningHours.Calendar.Date

/-
The number of a date counts days. What the next day is follows from the lengths of the months and
the rule of leap years alone, and the number of the next day is greater by one; the first of January
1970 has the number zero. So the number of a date is found by counting from there, forwards or
backwards, one day after another. Taking a number apart into cycles, centuries and years, and the
rest into months, leads back to the date that it was made of.
-/

namespace OpeningHours.Calendar

/-! ### Years -/

/-- The length of a year. -/
def yearLength (year : Int) : Nat :=
  if isLeapYear year then 366 else 365

theorem isLeapYear_iff (year : Int) :
    isLeapYear year = true ↔ year % 4 = 0 ∧ (year % 100 ≠ 0 ∨ year % 400 = 0) := by
  simp [isLeapYear]

theorem daysBeforeYear_eq (year : Int) :
    daysBeforeYear year =
      (year - 1) * 365 + (year - 1) / 4 - (year - 1) / 100 + (year - 1) / 400 := rfl

theorem daysBeforeYear_succ (year : Int) :
    daysBeforeYear (year + 1) = daysBeforeYear year + yearLength year := by
  rw [daysBeforeYear_eq, daysBeforeYear_eq, Int.add_sub_cancel, yearLength]
  split
  · next leap =>
    rw [isLeapYear_iff] at leap
    omega
  · next common =>
    rw [isLeapYear_iff] at common
    omega

theorem daysBeforeYear_mono {first second : Int} (le : first ≤ second) :
    daysBeforeYear first ≤ daysBeforeYear second := by
  rw [daysBeforeYear_eq, daysBeforeYear_eq]
  omega

/-- The parts that a number of days is taken apart into: whole cycles of four hundred years, then
centuries, spans of four years, years and days. A year has its day number 365 only if it is the
fourth of a span, and the last span of a century has such a year only in the fourth century. -/
structure YearParts (days : Int) where
  cycles : Int
  centuries : Nat
  spans : Nat
  years : Nat
  day : Nat
  centuries_le : centuries ≤ 3
  spans_le : spans ≤ 24
  years_le : years ≤ 3
  day_le : day ≤ 365
  last_day : day = 365 → years = 3 ∧ (spans = 24 → centuries = 3)
  total : days = cycles * 146097 + centuries * 36524 + spans * 1461 + years * 365 + day

namespace YearParts

variable {days : Int} (parts : YearParts days)

/-- The year in which the day falls. -/
def year : Int :=
  parts.cycles * 400 + parts.centuries * 100 + parts.spans * 4 + parts.years + 1

theorem daysBeforeYear_add_day : daysBeforeYear parts.year + parts.day = days := by
  have fourth : (parts.year - 1) / 4 = parts.cycles * 100 + parts.centuries * 25 + parts.spans := by
    have := parts.years_le
    unfold year
    omega
  have hundredth : (parts.year - 1) / 100 = parts.cycles * 4 + parts.centuries := by
    have := parts.years_le
    have := parts.spans_le
    unfold year
    omega
  have last : (parts.year - 1) / 400 = parts.cycles := by
    have := parts.years_le
    have := parts.spans_le
    have := parts.centuries_le
    unfold year
    omega
  have total := parts.total
  rw [daysBeforeYear_eq, fourth, hundredth, last]
  unfold year
  omega

theorem day_lt : parts.day < yearLength parts.year := by
  have atMost := parts.day_le
  unfold yearLength
  split
  · omega
  · next common =>
    rw [isLeapYear_iff] at common
    by_contra! late
    obtain ⟨fourth, lastSpan⟩ := parts.last_day (by omega)
    have := parts.spans_le
    unfold year at common
    omega

end YearParts

/-- The year of a day, and the day within it, come from taking its number apart. -/
theorem exists_yearParts (days : Int) :
    ∃ parts : YearParts days, Date.yearAndDay days = (parts.year, parts.day) := by
  obtain ⟨inCycle, isInCycle⟩ : ∃ inCycle, inCycle = (days % 146097).toNat := ⟨_, rfl⟩
  obtain ⟨centuries, isCenturies⟩ : ∃ centuries, centuries = min (inCycle / 36524) 3 := ⟨_, rfl⟩
  obtain ⟨inCentury, isInCentury⟩ : ∃ inCentury, inCentury = inCycle - centuries * 36524 := ⟨_, rfl⟩
  obtain ⟨years, isYears⟩ : ∃ years, years = min (inCentury % 1461 / 365) 3 := ⟨_, rfl⟩
  refine ⟨⟨days / 146097, centuries, inCentury / 1461, years, inCentury % 1461 - years * 365,
    ?_, ?_, ?_, ?_, ?_, ?_⟩, ?_⟩
  · omega
  · omega
  · omega
  · omega
  · omega
  · omega
  · subst isYears isInCentury isCenturies isInCycle
    rfl

theorem daysBeforeYear_yearAndDay (days : Int) :
    daysBeforeYear (Date.yearAndDay days).1 + (Date.yearAndDay days).2 = days := by
  obtain ⟨parts, isParts⟩ := exists_yearParts days
  rw [isParts]
  exact parts.daysBeforeYear_add_day

/-- A day falls within its year. -/
theorem yearAndDay_lt (days : Int) :
    (Date.yearAndDay days).2 < yearLength (Date.yearAndDay days).1 := by
  obtain ⟨parts, isParts⟩ := exists_yearParts days
  rw [isParts]
  exact parts.day_lt

/-- The year and the day within it are found again from their number. -/
theorem yearAndDay_daysBeforeYear {year : Int} {day : Nat} (inYear : day < yearLength year) :
    Date.yearAndDay (daysBeforeYear year + day) = (year, day) := by
  have found := daysBeforeYear_yearAndDay (daysBeforeYear year + day)
  have inFound := yearAndDay_lt (daysBeforeYear year + day)
  generalize Date.yearAndDay (daysBeforeYear year + day) = parts at found inFound
  obtain ⟨foundYear, foundDay⟩ := parts
  dsimp only at found inFound
  have sameYear : foundYear = year := by
    rcases Int.lt_trichotomy foundYear year with earlier | same | later
    · have next := daysBeforeYear_succ foundYear
      have := daysBeforeYear_mono (Int.add_one_le_of_lt earlier)
      omega
    · exact same
    · have next := daysBeforeYear_succ year
      have := daysBeforeYear_mono (Int.add_one_le_of_lt later)
      omega
  subst sameYear
  have sameDay : foundDay = day := by omega
  rw [sameDay]

/-! ### Months -/

/-- A day that lies in one of a row of months is found in that month. -/
theorem monthAndDay_eq (lengths : List Nat) (first index day : Nat) (inRow : index < lengths.length)
    (inMonth : day < lengths[index]) :
    Date.monthAndDay lengths first ((lengths.take index).sum + day) = (first + index, day + 1) := by
  induction lengths generalizing first index with
  | nil => cases inRow
  | cons length rest inductionHypothesis =>
    cases index with
    | zero =>
      have inFirst : day < length := inMonth
      rw [List.take_zero, List.sum_nil, Nat.zero_add, Date.monthAndDay, if_pos inFirst]
      rfl
    | succ index =>
      have further : ¬ (((length :: rest).take (index + 1)).sum + day < length) := by
        rw [List.take_succ_cons, List.sum_cons]
        omega
      have left : ((length :: rest).take (index + 1)).sum + day - length =
          (rest.take index).sum + day := by
        rw [List.take_succ_cons, List.sum_cons]
        omega
      rw [Date.monthAndDay, if_neg further, left,
        inductionHypothesis (first + 1) index (Nat.lt_of_succ_lt_succ inRow) inMonth]
      congr 1
      omega

/-- Every day of a row of months lies in one of them. -/
theorem exists_month (lengths : List Nat) {day : Nat} (inRow : day < lengths.sum) :
    ∃ index inMonth, ∃ bound : index < lengths.length,
      inMonth < lengths[index] ∧ day = (lengths.take index).sum + inMonth := by
  induction lengths generalizing day with
  | nil => cases inRow
  | cons length rest inductionHypothesis =>
    by_cases inFirst : day < length
    · exact ⟨0, day, Nat.zero_lt_succ _, inFirst, by simp⟩
    · rw [List.sum_cons] at inRow
      obtain ⟨index, inMonth, bound, isIn, isDay⟩ :=
        inductionHypothesis (show day - length < rest.sum by omega)
      refine ⟨index + 1, inMonth, Nat.succ_lt_succ bound, isIn, ?_⟩
      rw [List.take_succ_cons, List.sum_cons]
      omega

theorem monthLengths_length (year : Int) : (monthLengths year).length = 12 := rfl

theorem sum_monthLengths (year : Int) : (monthLengths year).sum = yearLength year := by
  unfold monthLengths yearLength
  split <;> rfl

theorem daysBeforeMonth_eq (year : Int) (index : Nat) :
    daysBeforeMonth year (1 + index) = ((monthLengths year).take index).sum := by
  rw [daysBeforeMonth, Nat.add_sub_cancel_left]
  exact List.sum_eq_foldl.symm

theorem monthLength_eq (year : Int) (index : Nat) (bound : index < (monthLengths year).length) :
    monthLength year (1 + index) = (monthLengths year)[index] := by
  rw [Nat.add_comm, monthLength, if_neg (Nat.succ_ne_zero index), Nat.add_sub_cancel,
    List.getD_eq_getElem _ _ bound]

theorem daysBeforeMonth_succ (year : Int) (index : Nat)
    (bound : index < (monthLengths year).length) :
    daysBeforeMonth year (1 + (index + 1)) =
      daysBeforeMonth year (1 + index) + monthLength year (1 + index) := by
  rw [daysBeforeMonth_eq, daysBeforeMonth_eq, monthLength_eq year index bound]
  exact List.sum_take_succ (monthLengths year) index bound

/-- The days up to the end of December are those of the year. -/
theorem daysBeforeMonth_thirteen (year : Int) : daysBeforeMonth year 13 = yearLength year := by
  rw [← sum_monthLengths]
  exact daysBeforeMonth_eq year 12

theorem monthLength_pos (year : Int) (index : Nat) (bound : index < (monthLengths year).length) :
    1 ≤ monthLength year (1 + index) := by
  have long : ∀ length ∈ monthLengths year, 1 ≤ length := by
    unfold monthLengths
    split <;> decide
  rw [monthLength_eq year index bound]
  exact long _ (List.getElem_mem bound)

/-- The days before a month are days of the year. -/
theorem daysBeforeMonth_le (year : Int) (index : Nat) :
    daysBeforeMonth year (1 + index) ≤ yearLength year := by
  rw [daysBeforeMonth_eq, ← sum_monthLengths,
    ← List.sum_take_add_sum_drop (monthLengths year) index]
  exact Nat.le_add_right _ _

/-! ### Dates that exist -/

namespace Date

/-- There is such a date. -/
structure Exists (date : Date) : Prop where
  month_pos : 1 ≤ date.month
  month_le : date.month ≤ 12
  day_pos : 1 ≤ date.day
  day_le : date.day ≤ monthLength date.year date.month

/-- The day of a date within its year, counted from zero. -/
def dayOfYear (date : Date) : Nat :=
  daysBeforeMonth date.year date.month + date.day - 1

/-- The place of the month of an existing date among the months of its year. -/
theorem Exists.index {date : Date} (exist : date.Exists) :
    ∃ index, date.month = 1 + index ∧ index < (monthLengths date.year).length := by
  obtain ⟨monthPos, monthLe, _, _⟩ := exist
  refine ⟨date.month - 1, by omega, ?_⟩
  rw [monthLengths_length]
  omega

/-- The number of an existing date from that of the first day of its year. -/
theorem Exists.dayNumber_eq {date : Date} (exist : date.Exists) :
    date.dayNumber = daysBeforeYear date.year + date.dayOfYear - daysBeforeEpoch := by
  have dayPos := exist.day_pos
  unfold dayNumber dayOfYear
  omega

/-- An existing date falls within its year. -/
theorem Exists.dayOfYear_lt {date : Date} (exist : date.Exists) :
    date.dayOfYear < yearLength date.year := by
  obtain ⟨index, isIndex, bound⟩ := exist.index
  have dayPos := exist.day_pos
  have dayLe := exist.day_le
  have next := daysBeforeMonth_succ date.year index bound
  have inYear := daysBeforeMonth_le date.year (index + 1)
  rw [isIndex] at dayLe
  rw [dayOfYear, isIndex]
  omega

/-- The month and the day of an existing date are found again from its day within the year. -/
theorem Exists.monthAndDay_dayOfYear {date : Date} (exist : date.Exists) :
    monthAndDay (monthLengths date.year) 1 date.dayOfYear = (date.month, date.day) := by
  obtain ⟨index, isIndex, bound⟩ := exist.index
  obtain ⟨day, isDay⟩ := Nat.exists_eq_add_of_lt exist.day_pos
  have inMonth : day < (monthLengths date.year)[index] := by
    have dayLe := exist.day_le
    rw [isIndex, monthLength_eq _ index bound] at dayLe
    omega
  have dayOfYear : date.dayOfYear = ((monthLengths date.year).take index).sum + day := by
    rw [Date.dayOfYear, isIndex, daysBeforeMonth_eq]
    omega
  rw [dayOfYear, monthAndDay_eq _ 1 index day bound inMonth, isIndex]
  congr 1
  omega

/-- Every day of a year is the day of an existing date within it. -/
theorem exists_of_dayOfYear {year : Int} {day : Nat} (inYear : day < yearLength year) :
    ∃ date : Date, date.Exists ∧ date.year = year ∧ date.dayOfYear = day := by
  rw [← sum_monthLengths] at inYear
  obtain ⟨index, inMonth, bound, isIn, isDay⟩ := exists_month _ inYear
  have length := monthLength_eq year index bound
  have inYear : index < 12 := bound
  refine ⟨⟨year, 1 + index, inMonth + 1⟩, ⟨?_, ?_, Nat.succ_pos inMonth, ?_⟩, rfl, ?_⟩
  · exact Nat.le_add_right 1 index
  · dsimp only
    omega
  · dsimp only
    rw [length]
    exact isIn
  · rw [dayOfYear, daysBeforeMonth_eq, isDay]
    rfl

/-! ### Dates and their numbers -/

/-- An existing date is found again from its number. -/
theorem Exists.ofDayNumber_dayNumber {date : Date} (exist : date.Exists) :
    ofDayNumber date.dayNumber = date := by
  have parts : yearAndDay (date.dayNumber + daysBeforeEpoch) = (date.year, date.dayOfYear) := by
    rw [exist.dayNumber_eq, Int.sub_add_cancel, yearAndDay_daysBeforeYear exist.dayOfYear_lt]
  rw [ofDayNumber, parts]
  dsimp only
  rw [exist.monthAndDay_dayOfYear]

/-- Every number is that of an existing date. -/
theorem exists_of_dayNumber (number : Int) :
    ∃ date : Date, date.Exists ∧ date.dayNumber = number := by
  obtain ⟨date, exist, year, day⟩ := exists_of_dayOfYear (yearAndDay_lt (number + daysBeforeEpoch))
  refine ⟨date, exist, ?_⟩
  rw [exist.dayNumber_eq, year, day, daysBeforeYear_yearAndDay, Int.add_sub_cancel]

theorem exists_ofDayNumber (number : Int) : (ofDayNumber number).Exists := by
  obtain ⟨date, exist, rfl⟩ := exists_of_dayNumber number
  rw [exist.ofDayNumber_dayNumber]
  exact exist

/-- The date with a number has that number. -/
theorem dayNumber_ofDayNumber (number : Int) : (ofDayNumber number).dayNumber = number := by
  obtain ⟨date, exist, rfl⟩ := exists_of_dayNumber number
  rw [exist.ofDayNumber_dayNumber]

/-! ### Counting days -/

/-- The day after a date. -/
def next (date : Date) : Date :=
  if date.day < monthLength date.year date.month then ⟨date.year, date.month, date.day + 1⟩
  else if date.month < 12 then ⟨date.year, date.month + 1, 1⟩
  else ⟨date.year + 1, 1, 1⟩

theorem Exists.next {date : Date} (exist : date.Exists) : date.next.Exists := by
  obtain ⟨index, isIndex, bound⟩ := exist.index
  have inYear : index < 12 := bound
  unfold Date.next
  split
  · exact ⟨exist.month_pos, exist.month_le, Nat.succ_pos _, ‹_›⟩
  · split
    · next earlier =>
      have further : index + 1 < (monthLengths date.year).length := by
        rw [monthLengths_length]
        omega
      refine ⟨Nat.succ_pos _, earlier, Nat.le_refl 1, ?_⟩
      rw [isIndex]
      exact monthLength_pos date.year (index + 1) further
    · exact ⟨Nat.le_refl 1, Nat.le_add_left 1 11, Nat.le_refl 1,
        monthLength_pos (date.year + 1) 0 (Nat.zero_lt_succ 11)⟩

/-- The number of the next day is greater by one. -/
theorem Exists.dayNumber_next {date : Date} (exist : date.Exists) :
    date.next.dayNumber = date.dayNumber + 1 := by
  obtain ⟨index, isIndex, bound⟩ := exist.index
  have dayLe := exist.day_le
  have nextMonth := daysBeforeMonth_succ date.year index bound
  unfold Date.next
  split
  · unfold dayNumber
    dsimp only
    omega
  · next lastDay =>
    have isLast : date.day = monthLength date.year date.month := by omega
    split
    · unfold dayNumber
      dsimp only
      rw [isLast, isIndex, Nat.add_assoc, nextMonth]
      omega
    · next last =>
      have december : date.month = 12 := Nat.le_antisymm exist.month_le (Nat.not_lt.mp last)
      have isEleven : index = 11 := by omega
      subst isEleven
      have wholeYear : yearLength date.year =
          daysBeforeMonth date.year (1 + 11) + monthLength date.year (1 + 11) := by
        rw [← daysBeforeMonth_thirteen]
        exact nextMonth
      have january : daysBeforeMonth (date.year + 1) 1 = 0 := rfl
      unfold dayNumber
      dsimp only
      rw [daysBeforeYear_succ, january, isLast, isIndex, wholeYear]
      omega

theorem Exists.next_eq_ofDayNumber {date : Date} (exist : date.Exists) :
    date.next = ofDayNumber (date.dayNumber + 1) := by
  rw [← exist.dayNumber_next, exist.next.ofDayNumber_dayNumber]

/-- A date is so many days after the first of January 1970, or before it where the number is
negative: one counts on from day to day, or back. -/
inductive IsDay : Date → Int → Prop
  | epoch : IsDay ⟨1970, 1, 1⟩ 0
  | after {date : Date} {number : Int} (counted : IsDay date number) :
      IsDay date.next (number + 1)
  | before {date : Date} {number : Int} (exist : date.Exists)
      (counted : IsDay date.next (number + 1)) : IsDay date number

theorem exists_epoch : Exists ⟨1970, 1, 1⟩ :=
  ⟨by decide, by decide, by decide, by decide⟩

theorem dayNumber_epoch : dayNumber ⟨1970, 1, 1⟩ = 0 := rfl

theorem isDay_ofDayNumber (number : Int) : IsDay (ofDayNumber number) number := by
  induction number with
  | zero =>
    have epoch : ofDayNumber 0 = ⟨1970, 1, 1⟩ := by
      rw [← dayNumber_epoch, exists_epoch.ofDayNumber_dayNumber]
    exact epoch ▸ .epoch
  | succ number inductionHypothesis =>
    have next := (exists_ofDayNumber (number : Int)).next_eq_ofDayNumber
    rw [dayNumber_ofDayNumber] at next
    rw [← next]
    exact .after inductionHypothesis
  | pred number inductionHypothesis =>
    have next := (exists_ofDayNumber (-(number : Int) - 1)).next_eq_ofDayNumber
    rw [dayNumber_ofDayNumber, Int.sub_add_cancel] at next
    refine .before (exists_ofDayNumber _) ?_
    rw [next, Int.sub_add_cancel]
    exact inductionHypothesis

/-- The number of a date is found by counting days, and only dates that exist are reached. -/
theorem isDay_iff (date : Date) (number : Int) :
    IsDay date number ↔ date.Exists ∧ date.dayNumber = number := by
  constructor
  · intro counted
    induction counted with
    | epoch => exact ⟨exists_epoch, dayNumber_epoch⟩
    | after _ inductionHypothesis =>
      obtain ⟨exist, isNumber⟩ := inductionHypothesis
      exact ⟨exist.next, by rw [exist.dayNumber_next, isNumber]⟩
    | before exist _ inductionHypothesis =>
      have isNumber := inductionHypothesis.2
      rw [exist.dayNumber_next] at isNumber
      exact ⟨exist, by omega⟩
  · rintro ⟨exist, rfl⟩
    have counted := isDay_ofDayNumber date.dayNumber
    rwa [exist.ofDayNumber_dayNumber] at counted

end Date

end OpeningHours.Calendar
