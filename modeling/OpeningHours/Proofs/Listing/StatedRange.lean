import OpeningHours.Proofs.Listing.Clauses

/-
A range of clock times in the midst of a listing. Digits come first in it, so nothing before it is
taken for a part of it; its opening clock time ends at a separator; and its closing clock time ends
with its mark, or, when it has none, where no more figures and no mark come next. The range found in
the listing is therefore the one that stands there, and the window that is read goes from the one
minute of the day to the other, provided that both stand on a clock and come in this order.
-/

namespace OpeningHours.Listing

open Text

namespace WrittenClock

/-! ### Clock times without a mark -/

/-- A clock time without a mark can end before the text: no more figures come next, and no mark
comes next, be it after white space. -/
structure EndsBefore (text : List Char) : Prop where
  noFigure : text.head?.any isFigure = false
  noMark : ∀ mark ∈ [['a', 'm'], ['p', 'm']], ¬ mark <+: stripStart text

/-- A clock time without a mark is read as it is meant where it can end. -/
theorem reads_unmarked {clock : WrittenClock} (unmarked : clock.mark = none)
    (loose : ¬ clock.figures.Compact) {tail : List Char} (ends : EndsBefore tail) :
    Scan.Reads clockScan (clock.text ++ tail) clock.meant (stripStart tail) := by
  have parts : clock.gap ++ tail = (clock.gap ++ tail.takeWhile isBlank) ++ stripStart tail := by
    rw [List.append_assoc, stripStart, List.takeWhile_append_dropWhile]
  have blank : (clock.gap ++ tail.takeWhile isBlank).all isBlank = true := by
    rw [List.all_append, clock.gap_blank, List.all_takeWhile, Bool.true_and]
  have stops : (stripStart tail).head?.any isBlank = false := by
    have outside := List.head?_dropWhile_not isBlank tail
    rw [stripStart]
    cases head : (tail.dropWhile isBlank).head? with
    | none => rfl
    | some char =>
      rw [head] at outside
      simpa using outside
  have noFigure : (clock.gap ++ tail).head?.any isFigure = false :=
    Scan.head?_any_append_eq_false (fun _ => isFigure_of_isBlank) clock.gap_blank ends.noFigure
  have ended : Scan.Reads (endScan (.optional markScan) (clock.figures.hour, clock.figures.minute))
      (clock.gap ++ tail) ⟨clock.figures.hour, clock.figures.minute, none⟩ (stripStart tail) := by
    rw [parts]
    exact (Scan.Reads.run blank stops).andThen
      ((Scan.Reads.optional_none (fails_mark_of_absent ends.noMark)).andThen (.done _ _))
  rw [clockScan, clockScanWith_eq, clock.text_append, meant, unmarked]
  exact clock.figures.reads noFigure ended fun compact => absurd compact loose

/-- A clock time is read as it is meant, unless it is compact or has no mark and could go on. -/
theorem reads_loose {clock : WrittenClock} (loose : ¬ clock.figures.Compact) {tail : List Char}
    (ends : clock.mark = none → EndsBefore tail) :
    ∃ rest, Scan.Reads clockScan (clock.text ++ tail) clock.meant rest := by
  cases isMark : clock.mark with
  | none => exact ⟨_, reads_unmarked isMark loose (ends isMark)⟩
  | some mark =>
    have reads := clock.reads_openly (by rw [isMark, Option.isSome_some]) tail
    rwa [readOpenly_of_not_compact loose] at reads

/-! ### The minute of a clock time -/

/-- The clock time stands on a clock. -/
def InRange (clock : WrittenClock) : Prop :=
  OnClock (Numeral.value clock.figures.hour) (Numeral.value (clock.figures.minute.getD []))
    clock.mark

instance (clock : WrittenClock) : Decidable clock.InRange :=
  inferInstanceAs (Decidable (OnClock _ _ _))

/-- The minute of the day of a clock time. -/
def minute (clock : WrittenClock) : Int :=
  dayMinute (Numeral.value clock.figures.hour) (Numeral.value (clock.figures.minute.getD []))
    clock.mark

theorem minuteOfDay?_eq_some_iff (clock : WrittenClock) (total : Nat) :
    clock.meant.minuteOfDay? = some total ↔ clock.InRange ∧ (total : Int) = clock.minute :=
  minuteOfDay?_eq_some_iff_onClock (Int.natCast_nonneg _) _ _ total

end WrittenClock

/-! ### Ranges in a text -/

/-- A text with a range of clock times in it. No digit comes before the range. Its closing clock
time is not compact, so its minute, if it has one, comes after a colon or two digits of the hour. -/
structure StatedRange where
  passed : List Char
  opening : WrittenClock
  before : List Char
  separators : List Char
  after : List Char
  closing : WrittenClock
  tail : List Char
  passed_plain : passed.any isDigit = false
  before_blank : before.all isBlank = true
  separators_written : separators ≠ []
  separators_all : separators.all isSeparator = true
  after_blank : after.all isBlank = true
  closing_loose : ¬ closing.figures.Compact
  closing_ends : closing.mark = none → WrittenClock.EndsBefore tail

namespace StatedRange

variable (range : StatedRange)

/-- The text as a whole. -/
def text : List Char :=
  range.passed ++ (range.opening.text ++
    (range.before ++ (range.separators ++ (range.after ++ (range.closing.text ++ range.tail)))))

/-- The first range of the text is the one that stands there. -/
theorem firstRange?_text :
    firstRange? range.text = some ⟨range.opening.meant, range.closing.meant⟩ := by
  obtain ⟨rest, closes⟩ := WrittenClock.reads_loose range.closing_loose range.closing_ends
  have reads := range.opening.reads_range range.before_blank range.separators_written
    range.separators_all range.after_blank (range.closing.text_begins range.tail) closes
  have plain := List.any_eq_false.mp range.passed_plain
  exact Scan.search_of_reads (fun char member after =>
    fails_range (Bool.not_eq_true _ ▸ plain char member) after) reads

theorem readWindow_text :
    readWindow range.text =
      (ClockRange.window? ⟨range.opening.meant, range.closing.meant⟩).bind fun window =>
        (applicability? range.text).map fun days => .window window days :=
  readWindow_eq range.firstRange?_text

/-- The range has the window between the minutes of its clock times. -/
theorem window?_eq_some_iff (window : TimeWindow) :
    ClockRange.window? ⟨range.opening.meant, range.closing.meant⟩ = some window ↔
      (range.opening.InRange ∧ (window.opening : Int) = range.opening.minute) ∧
        (range.closing.InRange ∧ (window.closing : Int) = range.closing.minute) := by
  rw [ClockRange.window?_eq_some_iff, range.opening.minuteOfDay?_eq_some_iff,
    range.closing.minuteOfDay?_eq_some_iff]

/-- Two clock times in their order have a window. -/
theorem exists_window (opens : range.opening.InRange) (closes : range.closing.InRange)
    (order : range.opening.minute < range.closing.minute) :
    ∃ window, ClockRange.window? ⟨range.opening.meant, range.closing.meant⟩ = some window := by
  have openingBounds : 0 ≤ range.opening.minute := opens.dayMinute_bounds.1
  have closingBounds : range.closing.minute ≤ lastMinuteOfDay := closes.dayMinute_bounds.2
  refine ⟨⟨range.opening.minute.toNat, range.closing.minute.toNat, by omega, by omega⟩, ?_⟩
  exact (range.window?_eq_some_iff _).mpr
    ⟨⟨opens, Int.toNat_of_nonneg openingBounds⟩, closes, Int.toNat_of_nonneg (by omega)⟩

theorem readWindow_eq_some_iff (schedule : Schedule) :
    readWindow range.text = some schedule ↔
      ∃ window, ClockRange.window? ⟨range.opening.meant, range.closing.meant⟩ = some window ∧
        ∃ days, applicability? range.text = some days ∧ .window window days = schedule := by
  simp only [readWindow_text, Option.bind_eq_some_iff, Option.map_eq_some_iff]

/-- A window is read exactly where both clock times stand on a clock, the second comes after the
first and the days of the text are known; and it goes from the one to the other on these days. -/
theorem window_is_read_as_stated :
    ((readWindow range.text).isSome = true ↔
        range.opening.InRange ∧ range.closing.InRange ∧
          range.opening.minute < range.closing.minute ∧
          (applicability? range.text).isSome = true) ∧
      ∀ schedule, readWindow range.text = some schedule →
        ∃ window days, schedule = .window window days ∧
          (window.opening : Int) = range.opening.minute ∧
          (window.closing : Int) = range.closing.minute ∧
          applicability? range.text = some days := by
  refine ⟨⟨fun read => ?_, ?_⟩, fun schedule read => ?_⟩
  · obtain ⟨schedule, read⟩ := Option.isSome_iff_exists.mp read
    obtain ⟨window, made, days, known, -⟩ := (range.readWindow_eq_some_iff schedule).mp read
    obtain ⟨⟨opens, first⟩, closes, second⟩ := (range.window?_eq_some_iff window).mp made
    have order := window.opening_lt_closing
    exact ⟨opens, closes, by omega, by rw [known, Option.isSome_some]⟩
  · rintro ⟨opens, closes, order, known⟩
    obtain ⟨window, made⟩ := range.exists_window opens closes order
    obtain ⟨days, known⟩ := Option.isSome_iff_exists.mp known
    exact Option.isSome_iff_exists.mpr
      ⟨_, (range.readWindow_eq_some_iff _).mpr ⟨window, made, days, known, rfl⟩⟩
  · obtain ⟨window, made, days, known, same⟩ := (range.readWindow_eq_some_iff schedule).mp read
    obtain ⟨⟨_, first⟩, _, second⟩ := (range.window?_eq_some_iff window).mp made
    exact ⟨window, days, same.symm, first, second, known⟩

end StatedRange

/-- Weekdays from a quarter past eight to a quarter to six, without marks. -/
def weekdayHours : StatedRange where
  passed := "mon-fri: ".toList
  opening := ⟨⟨['8'], true, some ['1', '5'], by decide, by decide, by decide, by decide⟩, [], none,
    List.all_nil, by decide⟩
  before := []
  separators := ['–']
  after := []
  closing := ⟨⟨['1', '7'], true, some ['4', '5'], by decide, by decide, by decide, by decide⟩, [],
    none, List.all_nil, by decide⟩
  tail := " at most".toList
  passed_plain := by decide
  before_blank := List.all_nil
  separators_written := by decide
  separators_all := by decide
  after_blank := List.all_nil
  closing_loose := by decide
  closing_ends := fun _ => ⟨by decide, by decide⟩

theorem weekday_hours_are_read :
    String.ofList weekdayHours.text = "mon-fri: 8:15–17:45 at most" ∧
      readWindow weekdayHours.text = some (.window ⟨495, 1065, by decide, by decide⟩ .weekdays) := by
  have days : applicability? weekdayHours.text = some .weekdays := by decide +kernel
  obtain ⟨reads, states⟩ := weekdayHours.window_is_read_as_stated
  obtain ⟨schedule, read⟩ := Option.isSome_iff_exists.mp
    (reads.mpr ⟨by decide, by decide, by decide, by rw [days, Option.isSome_some]⟩)
  obtain ⟨⟨opening, closing, _, _⟩, applicability, rfl, opens, closes, known⟩ :=
    states schedule read
  have openingMinute : weekdayHours.opening.minute = 495 := by decide
  have closingMinute : weekdayHours.closing.minute = 1065 := by decide
  obtain rfl : opening = 495 := by simp only at opens; omega
  obtain rfl : closing = 1065 := by simp only at closes; omega
  obtain rfl : Applicability.weekdays = applicability := Option.some.inj (days.symm.trans known)
  exact ⟨by decide, read⟩

end OpeningHours.Listing
