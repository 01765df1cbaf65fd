import Mathlib.Data.List.Basic
import OpeningHours.Listing.Clock
import OpeningHours.Proofs.Text.Classes
import OpeningHours.Proofs.Text.FirstReading

/-
How a written clock time is read. The figures come before everything else and are the only part that
can be read in more than one way: an hour of one digit that runs into its minute without a colon is
first read as an hour of two digits, and the digit left over then has to do for what follows. Where
nothing that follows can begin with a digit, that reading comes to nothing and the figures are read
as they are written; a mark that may be missing lets it stand.
-/

namespace OpeningHours.Listing

open Text

/-! ### Written figures -/

/-- The figures of a clock time: an hour of one or two digits, perhaps a colon, and perhaps a minute
of two digits. -/
structure Figures where
  hour : List Char
  colon : Bool
  minute : Option (List Char)
  hour_length : hour.length = 1 ∨ hour.length = 2
  hour_digits : hour.all isDigit = true
  minute_length : ∀ digits ∈ minute, digits.length = 2
  minute_digits : ∀ digits ∈ minute, digits.all isDigit = true

namespace Figures

/-- The part of the figures that follows the hour. -/
def afterHour (figures : Figures) : List Char :=
  (if figures.colon then [':'] else []) ++ figures.minute.getD []

/-- The figures as they stand in a text. -/
def text (figures : Figures) : List Char :=
  figures.hour ++ figures.afterHour

/-- The hour has one digit and runs into the minute. -/
def Compact (figures : Figures) : Prop :=
  figures.hour.length = 1 ∧ figures.colon = false ∧ figures.minute.isSome = true

instance (figures : Figures) : Decidable figures.Compact :=
  inferInstanceAs (Decidable (_ ∧ _))

/-- Compact figures are three digits. -/
theorem Compact.shape {figures : Figures} (compact : figures.Compact) :
    ∃ hour tens units, figures.hour = [hour] ∧ figures.minute = some [tens, units] ∧
      figures.text = [hour, tens, units] ∧ isDigit hour = true ∧ isDigit tens = true ∧
      isDigit units = true := by
  obtain ⟨one, noColon, isSome⟩ := compact
  obtain ⟨hour, isHour⟩ := List.length_eq_one_iff.mp one
  obtain ⟨minute, isMinute⟩ := Option.isSome_iff_exists.mp isSome
  obtain ⟨tens, units, rfl⟩ := List.length_eq_two.mp (figures.minute_length minute isMinute)
  have hourDigit := figures.hour_digits
  have minuteDigits := figures.minute_digits _ isMinute
  simp only [isHour, List.all_cons, List.all_nil, Bool.and_true] at hourDigit
  simp only [List.all_cons, List.all_nil, Bool.and_true, Bool.and_eq_true] at minuteDigits
  refine ⟨hour, tens, units, isHour, isMinute, ?_, hourDigit, minuteDigits⟩
  simp [text, afterHour, isHour, isMinute, noColon]

theorem text_begins (figures : Figures) (tail : List Char) :
    (figures.text ++ tail).head?.any isDigit = true := by
  have digits := figures.hour_digits
  have written := figures.hour_length
  rw [text]
  cases hour : figures.hour with
  | nil => simp [hour] at written
  | cons digit rest =>
    rw [hour, List.all_cons, Bool.and_eq_true] at digits
    exact digits.1

end Figures

/-- A character that could be read as part of the figures before it. -/
def isFigure (char : Char) : Bool :=
  isDigit char || char = ':'

theorem isFigure_of_isBlank {char : Char} (blank : isBlank char = true) :
    isFigure char = false := by
  have notDigit : isDigit char = false := by
    rw [← Bool.not_eq_true]
    intro digit
    rw [isBlank_of_isDigit digit] at blank
    cases blank
  have notColon : char ≠ ':' := by
    rintro rfl
    exact absurd blank (by decide)
  simp [isFigure, notDigit, notColon]

/-! ### Reading figures -/

/-- The minute after an hour. -/
def minuteScan : Scan (Option (List Char)) :=
  .andThen (.optional (.word [':'])) fun _ => .optional (.exactly isDigit 2)

/-- The hour and the minute. -/
def figuresScan : Scan (List Char × Option (List Char)) :=
  .andThen hourScan fun hour => .andThen minuteScan fun minute => .done (hour, minute)

/-- What is read of a clock time after its figures. -/
def endScan (mark : Scan (Option ClockMark)) (figures : List Char × Option (List Char)) :
    Scan ClockText :=
  .andThen (.run isBlank) fun _ => .andThen mark fun mark => .done ⟨figures.1, figures.2, mark⟩

theorem clockScanWith_eq (mark : Scan (Option ClockMark)) :
    clockScanWith mark = .andThen figuresScan (endScan mark) := by
  simp only [clockScanWith, figuresScan, minuteScan, endScan, Scan.andThen_assoc, Scan.done_andThen]

theorem figuresScan_andThen {Next : Type} (next : List Char × Option (List Char) → Scan Next) :
    Scan.andThen figuresScan next =
      .andThen hourScan fun hour => .andThen minuteScan fun minute => next (hour, minute) := by
  simp only [figuresScan, Scan.andThen_assoc, Scan.done_andThen]

namespace Figures

variable {Next : Type} {next : List Char × Option (List Char) → Scan Next}
  {tail rest : List Char} {result : Next}

theorem noDigit_of_noFigure (stops : tail.head?.any isFigure = false) :
    tail.head?.any isDigit = false :=
  Scan.head?_any_eq_false_of_imp (fun char digit => by rw [isFigure, digit, Bool.true_or]) stops

theorem ne_colon_of_isDigit {char : Char} (digit : isDigit char = true) :
    decide (char = ':') = false := by
  rw [decide_eq_false_iff_not]
  rintro rfl
  exact absurd digit (by decide)

theorem minute_all (figures : Figures) : (figures.minute.getD []).all isDigit = true := by
  have digits := figures.minute_digits
  cases written : figures.minute with
  | none => rfl
  | some minute => exact digits minute written

theorem reads_minute (figures : Figures) (stops : tail.head?.any isFigure = false) :
    Scan.Reads minuteScan (figures.afterHour ++ tail) figures.minute tail := by
  have noColon : tail.head?.any (· = ':') = false :=
    Scan.head?_any_eq_false_of_imp (fun char colon => by rw [isFigure, colon, Bool.or_true]) stops
  have minute : Scan.Reads (.optional (.exactly isDigit 2)) (figures.minute.getD [] ++ tail)
      figures.minute tail := by
    have length := figures.minute_length
    have digits := figures.minute_digits
    cases written : figures.minute with
    | none =>
      exact .optional_none (Scan.Fails.exactly [] (by decide) (noDigit_of_noFigure stops))
    | some minute =>
      exact (Scan.Reads.exactly (length minute written) (digits minute written) tail).optional
  rw [afterHour]
  cases figures.colon with
  | true => exact (Scan.Reads.word [':'] _).optional.andThen minute
  | false =>
    refine (Scan.Reads.optional_none (Scan.Fails.word_of_head ?_)).andThen minute
    exact Scan.head?_any_append_eq_false (fun _ => ne_colon_of_isDigit) figures.minute_all noColon

/-- A single digit is no minute. -/
theorem minuteScan_single {digit : Char} (single : isDigit digit = true)
    (stops : tail.head?.any isFigure = false) (before : Option Char) :
    minuteScan ⟨before, digit :: tail⟩ = [(none, ⟨before, digit :: tail⟩)] := by
  have noColon : Scan.Fails (.word [':']) (digit :: tail) :=
    .word_of_head (ne_colon_of_isDigit single)
  have noMinute : Scan.Fails (.exactly isDigit 2) (digit :: tail) :=
    Scan.Fails.exactly [digit] (by simp) (noDigit_of_noFigure stops)
  rw [minuteScan, Scan.andThen_of_single _ (noColon.optional before), noMinute.optional before]

/-- Where the hour has one digit, two digits are read for it in compact figures alone. -/
theorem fails_two_digits (figures : Figures) (one : figures.hour.length = 1)
    (loose : ¬ figures.Compact) (stops : tail.head?.any isFigure = false) :
    Scan.Fails (.exactly isDigit 2) (figures.text ++ tail) := by
  rw [text, List.append_assoc]
  refine Scan.Fails.exactly _ (by omega) ?_
  rw [afterHour]
  cases colon : figures.colon with
  | true => exact (by decide : isDigit ':' = false)
  | false =>
    cases minute : figures.minute with
    | none => exact noDigit_of_noFigure stops
    | some digits => exact absurd ⟨one, colon, by rw [minute, Option.isSome_some]⟩ loose

/-- Figures are read as they are written where nothing that follows them can begin with a digit. -/
theorem reads (figures : Figures) (stops : tail.head?.any isFigure = false)
    (goesOn : Scan.Reads (next (figures.hour, figures.minute)) tail result rest)
    (skips : figures.Compact → ∀ read text, text.head?.any isDigit = true →
      Scan.Fails (next read) text) :
    Scan.Reads (.andThen figuresScan next) (figures.text ++ tail) result rest := by
  have hour (count : Nat) (length : figures.hour.length = count) :
      Scan.Reads (.exactly isDigit count) (figures.text ++ tail) figures.hour
        (figures.afterHour ++ tail) := by
    rw [text, List.append_assoc]
    exact .exactly length figures.hour_digits _
  have onward : Scan.Reads (.andThen minuteScan fun minute => next (figures.hour, minute))
      (figures.afterHour ++ tail) result rest :=
    (figures.reads_minute stops).andThen goesOn
  rw [figuresScan_andThen, hourScan, Scan.orElse_andThen]
  rcases figures.hour_length with one | two
  · refine Scan.Reads.orElse_second ?_ (Scan.Reads.andThen (hour 1 one) onward)
    by_cases compact : figures.Compact
    · -- Two digits are read for the hour first, and nothing goes on with the third.
      obtain ⟨hour, tens, units, _, _, text, hourDigit, tensDigit, unitsDigit⟩ := compact.shape
      have both : [hour, tens].all isDigit = true := by simp [hourDigit, tensDigit]
      have fails : Scan.Fails (.andThen minuteScan fun minute => next ([hour, tens], minute))
          (units :: tail) := by
        refine ⟨fun before => ?_⟩
        rw [Scan.andThen_of_single _ (minuteScan_single unitsDigit stops before)]
        exact (skips compact _ (units :: tail) unitsDigit).none before
      rw [text]
      change Scan.Fails _ ([hour, tens] ++ (units :: tail))
      exact Scan.Fails.exactly_andThen rfl both fails
    · exact (figures.fails_two_digits one compact stops).andThen _
  · exact Scan.Reads.orElse_first (Scan.Reads.andThen (hour 2 two) onward) _

/-- Compact figures are read as an hour of two digits where the digit left over does for what
follows them. -/
theorem Compact.reads {hour tens units : Char} (digits : [hour, tens, units].all isDigit = true)
    (stops : tail.head?.any isFigure = false)
    (goesOn : Scan.Reads (next ([hour, tens], none)) (units :: tail) result rest) :
    Scan.Reads (.andThen figuresScan next) (hour :: tens :: units :: tail) result rest := by
  simp only [List.all_cons, List.all_nil, Bool.and_true, Bool.and_eq_true] at digits
  obtain ⟨hourDigit, tensDigit, unitsDigit⟩ := digits
  have both : [hour, tens].all isDigit = true := by simp [hourDigit, tensDigit]
  have minute : Scan.Reads minuteScan (units :: tail) none (units :: tail) :=
    ⟨fun before => ⟨before, congrArg List.head? (minuteScan_single unitsDigit stops before)⟩⟩
  have onward : Scan.Reads (.andThen minuteScan fun minute => next ([hour, tens], minute))
      (units :: tail) result rest :=
    minute.andThen goesOn
  rw [figuresScan_andThen, hourScan, Scan.orElse_andThen]
  exact Scan.Reads.orElse_first
    (Scan.Reads.andThen (Scan.Reads.exactly rfl both (units :: tail)) onward) _

end Figures

/-! ### Marks -/

/-- A mark as it is written. -/
def markText : Option ClockMark → List Char
  | some .am => ['a', 'm']
  | some .pm => ['p', 'm']
  | _ => []

/-- A character with which a mark begins. -/
def beginsMark (char : Char) : Bool :=
  char = 'a' || char = 'p'

theorem reads_mark {mark : ClockMark} (written : mark ≠ .other) (tail : List Char) :
    Scan.Reads markScan (markText (some mark) ++ tail) mark tail := by
  cases mark with
  | am => exact ⟨fun before => ⟨_, rfl⟩⟩
  | pm => exact ⟨fun before => ⟨_, rfl⟩⟩
  | other => exact absurd rfl written

/-- No mark is read where none comes next. -/
theorem fails_mark_of_absent {text : List Char}
    (absent : ∀ mark ∈ [['a', 'm'], ['p', 'm']], ¬ mark <+: text) : Scan.Fails markScan text := by
  have fails (mark : List Char) (known : mark ∈ [['a', 'm'], ['p', 'm']]) :
      Scan.Fails (.word mark) text :=
    ⟨fun _ => Scan.word_eq_nil (absent mark known)⟩
  refine ⟨fun before => ?_⟩
  rw [markScan, Scan.firstOf, List.flatMap_cons, List.flatMap_singleton,
    ((fails _ List.mem_cons_self).andThen _).none before,
    ((fails _ (List.mem_cons_of_mem _ List.mem_cons_self)).andThen _).none before, List.append_nil]

theorem fails_mark {text : List Char} (stops : text.head?.any beginsMark = false) :
    Scan.Fails markScan text := by
  refine fails_mark_of_absent fun mark known => ?_
  rintro ⟨rest, rfl⟩
  have begins : ∀ mark ∈ [['a', 'm'], ['p', 'm']], (mark ++ rest).head?.any beginsMark = true := by
    simp [beginsMark]
  rw [begins mark known] at stops
  cases stops

theorem not_beginsMark_of_isDigit {char : Char} (digit : isDigit char = true) :
    beginsMark char = false := by
  rw [beginsMark, Bool.or_eq_false_iff, decide_eq_false_iff_not, decide_eq_false_iff_not]
  constructor
  · rintro rfl
    exact absurd digit (by decide)
  · rintro rfl
    exact absurd digit (by decide)

/-- White space and a mark are read after any figures. -/
theorem reads_end {scan : Scan (Option ClockMark)} {mark : ClockMark} (written : mark ≠ .other)
    {gap tail : List Char} (blank : gap.all isBlank = true)
    (reads : Scan.Reads scan (markText (some mark) ++ tail) (some mark) tail)
    (figures : List Char × Option (List Char)) :
    Scan.Reads (endScan scan figures) (gap ++ (markText (some mark) ++ tail))
      ⟨figures.1, figures.2, some mark⟩ tail := by
  have stops : (markText (some mark) ++ tail).head?.any isBlank = false := by
    cases mark with
    | am => exact (by decide : isBlank 'a' = false)
    | pm => exact (by decide : isBlank 'p' = false)
    | other => exact absurd rfl written
  exact (Scan.Reads.run blank stops).andThen (reads.andThen (.done _ tail))

/-! ### Written clock times -/

/-- A clock time as it is written: figures, and perhaps white space and a mark. -/
structure WrittenClock where
  figures : Figures
  gap : List Char
  mark : Option ClockMark
  gap_blank : gap.all isBlank = true
  mark_written : mark ≠ some .other

namespace WrittenClock

/-- The clock time as it stands in a text. -/
def text (clock : WrittenClock) : List Char :=
  clock.figures.text ++ (clock.gap ++ markText clock.mark)

/-- The clock time as it is meant. -/
def meant (clock : WrittenClock) : ClockText :=
  ⟨clock.figures.hour, clock.figures.minute, clock.mark⟩

/-- What is read of the clock time where its mark may be missing: of compact figures two digits go
to the hour, and the mark is not reached. -/
def readOpenly (clock : WrittenClock) : ClockText :=
  if clock.figures.Compact then
    ⟨clock.figures.hour ++ (clock.figures.minute.getD []).take 1, none, none⟩
  else clock.meant

theorem readOpenly_of_not_compact {clock : WrittenClock} (loose : ¬ clock.figures.Compact) :
    clock.readOpenly = clock.meant := by
  rw [readOpenly, if_neg loose]

theorem text_append (clock : WrittenClock) (tail : List Char) :
    clock.text ++ tail = clock.figures.text ++ (clock.gap ++ (markText clock.mark ++ tail)) := by
  rw [text, List.append_assoc, List.append_assoc]

/-- What follows the figures of a marked clock time is no part of them. -/
theorem stops_figures (clock : WrittenClock) {mark : ClockMark} (marked : clock.mark = some mark)
    (tail : List Char) :
    (clock.gap ++ (markText (some mark) ++ tail)).head?.any isFigure = false := by
  have written : mark ≠ .other := fun other => clock.mark_written (other ▸ marked)
  refine Scan.head?_any_append_eq_false (fun _ => isFigure_of_isBlank) clock.gap_blank ?_
  cases mark with
  | am => exact (by decide : isFigure 'a' = false)
  | pm => exact (by decide : isFigure 'p' = false)
  | other => exact absurd rfl written

/-- A marked clock time is read as it is meant where the mark may not be missing. -/
theorem reads_marked (clock : WrittenClock) (marked : clock.mark.isSome = true)
    (tail : List Char) :
    Scan.Reads markedClockScan (clock.text ++ tail) clock.meant tail := by
  obtain ⟨mark, isMark⟩ := Option.isSome_iff_exists.mp marked
  have written : mark ≠ .other := fun other => clock.mark_written (other ▸ isMark)
  rw [markedClockScan, clockScanWith_eq, clock.text_append, meant, isMark]
  refine clock.figures.reads (clock.stops_figures isMark tail)
    (reads_end written clock.gap_blank ((reads_mark written tail).andThen (.done _ tail)) _)
    fun _ read text digit => ?_
  refine .run_andThen (Scan.head?_any_eq_false (fun _ => isBlank_of_isDigit) digit) ?_
  have unmarked := fails_mark (Scan.head?_any_eq_false (fun _ => not_beginsMark_of_isDigit) digit)
  exact (unmarked.andThen _).andThen _

/-- What is read of a marked clock time where the mark may be missing. -/
theorem reads_openly (clock : WrittenClock) (marked : clock.mark.isSome = true)
    (tail : List Char) :
    ∃ rest, Scan.Reads clockScan (clock.text ++ tail) clock.readOpenly rest := by
  obtain ⟨mark, isMark⟩ := Option.isSome_iff_exists.mp marked
  have written : mark ≠ .other := fun other => clock.mark_written (other ▸ isMark)
  have stops := clock.stops_figures isMark tail
  rw [clockScan, clockScanWith_eq, clock.text_append, isMark, readOpenly]
  by_cases compact : clock.figures.Compact
  · rw [if_pos compact]
    obtain ⟨hour, tens, units, isHour, isMinute, isText, hourDigit, tensDigit, unitsDigit⟩ :=
      compact.shape
    have digits : [hour, tens, units].all isDigit = true := by
      simp [hourDigit, tensDigit, unitsDigit]
    have leftOver (after : List Char) :
        Scan.Reads (endScan (.optional markScan) ([hour, tens], none)) (units :: after)
          ⟨[hour, tens], none, none⟩ (units :: after) := by
      have begins : (units :: after).head?.any isDigit = true := unitsDigit
      have unblank := Scan.head?_any_eq_false (fun _ => isBlank_of_isDigit) begins
      have unmarked := Scan.head?_any_eq_false (fun _ => not_beginsMark_of_isDigit) begins
      exact (Scan.Reads.run_none unblank).andThen
        ((Scan.Reads.optional_none (fails_mark unmarked)).andThen (.done _ _))
    rw [isText, isHour, isMinute]
    exact ⟨_, Figures.Compact.reads digits stops (leftOver _)⟩
  · rw [if_neg compact, meant, isMark]
    refine ⟨tail, clock.figures.reads stops ?_ fun isCompact => absurd isCompact compact⟩
    exact reads_end written clock.gap_blank (reads_mark written tail).optional _

end WrittenClock

/-! ### The minute of the day -/

/-- The hour of the day that an hour names with a mark or without one. -/
def namedHour? (mark : Option ClockMark) (hour : Int) : Option Int :=
  match mark with
  | some mark => mark.hourOfDay? hour
  | none => if 23 < hour then none else some hour

theorem minuteOfDay?_eq (hour minute : Int) (mark : Option ClockMark) :
    minuteOfDay? hour minute mark =
      if 59 < minute then none
      else (namedHour? mark hour).bind fun hourOfDay =>
        if 0 ≤ hourOfDay * 60 + minute ∧ hourOfDay * 60 + minute ≤ lastMinuteOfDay then
          some (hourOfDay * 60 + minute).toNat
        else none := by
  cases mark with
  | some mark => rfl
  | none =>
    by_cases late : 23 < hour
    · simp only [minuteOfDay?, namedHour?, if_pos late]
      rfl
    · simp only [minuteOfDay?, namedHour?, if_neg late]
      rfl

/-- A clock time names a minute of the day when its hour names an hour of the day and its minute is
one of an hour. -/
theorem minuteOfDay?_eq_some_iff (hour minute : Int) (mark : Option ClockMark) (total : Nat) :
    minuteOfDay? hour minute mark = some total ↔
      minute ≤ 59 ∧ total ≤ lastMinuteOfDay ∧
        ∃ hourOfDay, namedHour? mark hour = some hourOfDay ∧
          (total : Int) = hourOfDay * 60 + minute := by
  rw [minuteOfDay?_eq]
  by_cases late : 59 < minute
  · have notWithin : ¬ minute ≤ 59 := by omega
    simp [late, notWithin]
  · have within : minute ≤ 59 := by omega
    rw [if_neg late, Option.bind_eq_some_iff]
    simp only [within, true_and]
    constructor
    · rintro ⟨hourOfDay, named, inDay⟩
      split at inDay
      · next bounds =>
        obtain rfl := Option.some.inj inDay
        exact ⟨by omega, hourOfDay, named, by omega⟩
      · cases inDay
    · rintro ⟨bound, hourOfDay, named, equal⟩
      refine ⟨hourOfDay, named, ?_⟩
      rw [if_pos (by omega), ← equal, Int.toNat_natCast]

/-- Without a mark an hour of the day is itself. -/
theorem namedHour?_none_eq_some_iff (hour hourOfDay : Int) :
    namedHour? none hour = some hourOfDay ↔ hour ≤ 23 ∧ hourOfDay = hour := by
  by_cases late : 23 < hour
  · have notWithin : ¬ hour ≤ 23 := by omega
    simp [namedHour?, late, notWithin]
  · have within : hour ≤ 23 := by omega
    simp [namedHour?, late, within, eq_comm]

/-- An hour and a minute stand on a clock: with a mark on the clock of twelve hours, without one on
the clock of twenty-four. -/
def OnClock (hour minute : Int) (mark : Option ClockMark) : Prop :=
  (0 ≤ minute ∧ minute ≤ 59) ∧
    match mark with
    | some _ => 1 ≤ hour ∧ hour ≤ 12
    | none => 0 ≤ hour ∧ hour ≤ 23

instance (hour minute : Int) : (mark : Option ClockMark) → Decidable (OnClock hour minute mark)
  | some _ => inferInstanceAs (Decidable (_ ∧ _))
  | none => inferInstanceAs (Decidable (_ ∧ _))

/-- The hour of the day of an hour on a clock. Twelve o'clock is midnight in the first half of the
day and noon in the second. -/
def dayHour : Option ClockMark → Int → Int
  | some .am, hour => if hour = 12 then 0 else hour
  | some .pm, hour => if hour = 12 then 12 else hour + 12
  | _, hour => hour

/-- The minute of the day of an hour and a minute on a clock. -/
def dayMinute (hour minute : Int) (mark : Option ClockMark) : Int :=
  dayHour mark hour * 60 + minute

theorem hourOfDay?_eq_some_iff (mark : ClockMark) (hour hourOfDay : Int) :
    mark.hourOfDay? hour = some hourOfDay ↔
      (1 ≤ hour ∧ hour ≤ 12) ∧ hourOfDay = dayHour (some mark) hour := by
  unfold ClockMark.hourOfDay?
  by_cases outside : hour < 1 ∨ 12 < hour
  · have notWithin : ¬ (1 ≤ hour ∧ hour ≤ 12) := by omega
    simp [outside, notWithin]
  · have within : 1 ≤ hour ∧ hour ≤ 12 := by omega
    rw [if_neg outside, and_iff_right within]
    cases mark with
    | am => simp only [dayHour, Option.some.injEq, eq_comm]
    | pm =>
      simp only [dayHour, Option.some.injEq]
      split <;> omega
    | other => simp only [dayHour, Option.some.injEq, eq_comm]

theorem dayHour_cases (mark : ClockMark) (hour : Int) :
    dayHour (some mark) hour = hour ∨ (hour ≠ 12 ∧ dayHour (some mark) hour = hour + 12) ∨
      (hour = 12 ∧ dayHour (some mark) hour = 0) := by
  cases mark with
  | am => simp only [dayHour]; split <;> omega
  | pm => simp only [dayHour]; split <;> omega
  | other => exact Or.inl rfl

/-- A mark confines the hour to the twelve-hour clock. -/
theorem hourOfDay?_bounds {mark : ClockMark} {hour hourOfDay : Int}
    (named : mark.hourOfDay? hour = some hourOfDay) :
    1 ≤ hour ∧ hour ≤ 12 ∧
      (hourOfDay = hour ∨ hourOfDay = hour + 12 ∨ (hour = 12 ∧ hourOfDay = 0)) := by
  obtain ⟨within, rfl⟩ := (hourOfDay?_eq_some_iff mark hour hourOfDay).mp named
  have cases := dayHour_cases mark hour
  omega

theorem OnClock.dayMinute_bounds {hour minute : Int} {mark : Option ClockMark}
    (on : OnClock hour minute mark) :
    0 ≤ dayMinute hour minute mark ∧ dayMinute hour minute mark ≤ lastMinuteOfDay := by
  have bound : lastMinuteOfDay = 1439 := rfl
  rw [dayMinute, bound]
  cases mark with
  | none =>
    simp only [OnClock] at on
    simp only [dayHour]
    omega
  | some mark =>
    have cases := dayHour_cases mark hour
    simp only [OnClock] at on
    omega

/-- What stands on a clock is a minute of an hour and a full hour on that clock. -/
theorem onClock_iff (hour minute : Int) (mark : Option ClockMark) :
    OnClock hour minute mark ↔ (0 ≤ minute ∧ minute ≤ 59) ∧ OnClock hour 0 mark := by
  have full : (0 : Int) ≤ 0 ∧ (0 : Int) ≤ 59 := by omega
  cases mark with
  | none => simp only [OnClock, and_iff_right full]
  | some mark => simp only [OnClock, and_iff_right full]

/-- A minute of the day is named exactly where the full hour stands on a clock, the minute is at
most the last of an hour, and the two together are not before the day. -/
theorem minuteOfDay?_eq_some_iff_dayMinute (hour minute : Int) (mark : Option ClockMark)
    (total : Nat) :
    minuteOfDay? hour minute mark = some total ↔
      minute ≤ 59 ∧ OnClock hour 0 mark ∧ (total : Int) = dayMinute hour minute mark := by
  have bound : lastMinuteOfDay = 1439 := rfl
  rw [minuteOfDay?_eq_some_iff, dayMinute, bound]
  cases mark with
  | none =>
    simp only [OnClock, namedHour?_none_eq_some_iff, dayHour]
    constructor
    · rintro ⟨_, _, hourOfDay, ⟨_, rfl⟩, equal⟩
      omega
    · rintro ⟨_, _, equal⟩
      exact ⟨by omega, by omega, hour, ⟨by omega, rfl⟩, equal⟩
  | some mark =>
    have cases := dayHour_cases mark hour
    simp only [OnClock, namedHour?, hourOfDay?_eq_some_iff]
    constructor
    · rintro ⟨small, _, hourOfDay, ⟨within, rfl⟩, equal⟩
      exact ⟨small, ⟨by omega, within⟩, equal⟩
    · rintro ⟨small, ⟨_, within⟩, equal⟩
      exact ⟨small, by omega, _, ⟨within, rfl⟩, equal⟩

/-- With a minute that is not negative, a minute of the day is named exactly by an hour and a minute
that stand on a clock. -/
theorem minuteOfDay?_eq_some_iff_onClock {minute : Int} (natural : 0 ≤ minute) (hour : Int)
    (mark : Option ClockMark) (total : Nat) :
    minuteOfDay? hour minute mark = some total ↔
      OnClock hour minute mark ∧ (total : Int) = dayMinute hour minute mark := by
  rw [minuteOfDay?_eq_some_iff_dayMinute, onClock_iff hour minute, and_iff_right natural, and_assoc]

end OpeningHours.Listing
