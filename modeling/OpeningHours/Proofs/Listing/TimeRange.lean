import OpeningHours.Listing.TimeRange
import OpeningHours.Proofs.Listing.ClockTime

/-
How a written range of clock times is read. The opening clock time is read as it is meant, marked or
not, for a separator has to follow it and no separator begins with a digit. What is read of the
closing clock time is up to the scan that is given for it. A written range is made of few
characters: none of them has a case, and most words lack one of theirs there.
-/

namespace OpeningHours.Listing

open Text

/-! ### Separators -/

/-- A separator is no white space, belongs to no figures and begins no mark. -/
theorem apart_of_isSeparator {char : Char} (separates : isSeparator char = true) :
    isBlank char = false ∧ isFigure char = false ∧ beginsMark char = false := by
  simp only [isSeparator, Bool.or_eq_true, decide_eq_true_eq] at separates
  rcases separates with ((rfl | rfl) | rfl) | rfl <;> decide

theorem not_isSeparator_of_isBlank {char : Char} (blank : isBlank char = true) :
    isSeparator char = false := by
  rw [← Bool.not_eq_true]
  intro separates
  rw [(apart_of_isSeparator separates).1] at blank
  cases blank

theorem not_isSeparator_of_isDigit {char : Char} (digit : isDigit char = true) :
    isSeparator char = false := by
  rw [← Bool.not_eq_true]
  intro separates
  have noFigure := (apart_of_isSeparator separates).2.1
  rw [isFigure, digit, Bool.true_or] at noFigure
  cases noFigure

/-- A run of separators is read with the white space about it. -/
theorem reads_separator {before separators after text : List Char}
    (beforeBlank : before.all isBlank = true) (written : separators ≠ [])
    (all : separators.all isSeparator = true) (afterBlank : after.all isBlank = true)
    (begins : text.head?.any isDigit = true) :
    Scan.Reads separatorScan (before ++ (separators ++ (after ++ text))) () text := by
  have unblank : text.head?.any isBlank = false :=
    Scan.head?_any_eq_false (fun _ => isBlank_of_isDigit) begins
  have noMore : (after ++ text).head?.any isSeparator = false :=
    Scan.head?_any_append_eq_false (fun _ => not_isSeparator_of_isBlank) afterBlank
      (Scan.head?_any_eq_false (fun _ => not_isSeparator_of_isDigit) begins)
  have separated : (separators ++ (after ++ text)).head?.any isBlank = false :=
    Scan.head?_any_eq_false (fun _ separates => (apart_of_isSeparator separates).1)
      (Scan.head?_any_append written all _)
  exact (Scan.Reads.run beforeBlank separated).andThen
    ((Scan.Reads.run1 written all noMore).andThen (.run afterBlank unblank))

/-- A separator does not begin with a digit. -/
theorem fails_separator {text : List Char} (begins : text.head?.any isDigit = true) :
    Scan.Fails separatorScan text :=
  .run_andThen (Scan.head?_any_eq_false (fun _ => isBlank_of_isDigit) begins)
    (.andThen (.run1 (Scan.head?_any_eq_false (fun _ => not_isSeparator_of_isDigit) begins)) _)

/-! ### Opening clock times -/

section

variable {Next : Type} {next : ClockText → Scan Next} {result : Next}
  {before separators after text rest : List Char}

/-- Neither the opening clock time nor anything that follows it goes on with a digit. -/
theorem fails_opening_end (figures : List Char × Option (List Char))
    (begins : text.head?.any isDigit = true) :
    Scan.Fails (.andThen (endScan (.optional markScan) figures) fun opening =>
      .andThen separatorScan fun _ => next opening) text := by
  have unblank := Scan.head?_any_eq_false (fun _ => isBlank_of_isDigit) begins
  have unmarked := Scan.head?_any_eq_false (fun _ => not_beginsMark_of_isDigit) begins
  simp only [endScan, Scan.andThen_assoc, Scan.done_andThen]
  exact .run_andThen unblank
    (.optional_andThen (fails_mark unmarked) ((fails_separator begins).andThen _))

/-- The opening clock time is read as it is meant, and the separators after it are read. -/
theorem WrittenClock.reads_opening (opening : WrittenClock) (beforeBlank : before.all isBlank = true)
    (written : separators ≠ []) (all : separators.all isSeparator = true)
    (afterBlank : after.all isBlank = true) (begins : text.head?.any isDigit = true)
    (goesOn : Scan.Reads (next opening.meant) text result rest) :
    Scan.Reads (.andThen clockScan fun opening => .andThen separatorScan fun _ => next opening)
      (opening.text ++ (before ++ (separators ++ (after ++ text)))) result rest := by
  have separated (gap : List Char) (blank : gap.all isBlank = true) :
      Scan.Reads (.andThen separatorScan fun _ => next opening.meant)
        (gap ++ (separators ++ (after ++ text))) result rest :=
    (reads_separator blank written all afterBlank begins).andThen goesOn
  have apart : (separators ++ (after ++ text)).head?.any isSeparator = true :=
    Scan.head?_any_append written all _
  rw [clockScan, clockScanWith_eq, Scan.andThen_assoc, opening.text_append]
  generalize separators ++ (after ++ text) = onward at separated apart ⊢
  cases isMark : opening.mark with
  | some mark =>
    have known : mark ≠ .other := fun other => opening.mark_written (other ▸ isMark)
    have ended := reads_end known opening.gap_blank
      (reads_mark known (before ++ onward)).optional
      (opening.figures.hour, opening.figures.minute)
    have meant : opening.meant = ⟨opening.figures.hour, opening.figures.minute, some mark⟩ := by
      rw [WrittenClock.meant, isMark]
    rw [meant] at separated
    exact opening.figures.reads (opening.stops_figures isMark _)
      (ended.andThen (separated before beforeBlank)) fun _ figures _ => fails_opening_end figures
  | none =>
    have blank : (opening.gap ++ before).all isBlank = true := by
      rw [List.all_append, opening.gap_blank, beforeBlank, Bool.true_and]
    have unblank := Scan.head?_any_eq_false (fun _ held => (apart_of_isSeparator held).1) apart
    have noFigure := Scan.head?_any_eq_false (fun _ held => (apart_of_isSeparator held).2.1) apart
    have unmarked := Scan.head?_any_eq_false (fun _ held => (apart_of_isSeparator held).2.2) apart
    have meant : opening.meant = ⟨opening.figures.hour, opening.figures.minute, none⟩ := by
      rw [WrittenClock.meant, isMark]
    rw [meant] at separated
    rw [show markText none = [] from rfl, List.nil_append, ← List.append_assoc opening.gap]
    have ended : Scan.Reads (endScan (.optional markScan)
        (opening.figures.hour, opening.figures.minute)) (opening.gap ++ before ++ onward)
        ⟨opening.figures.hour, opening.figures.minute, none⟩ onward :=
      (Scan.Reads.run blank unblank).andThen
        ((Scan.Reads.optional_none (fails_mark unmarked)).andThen (.done _ _))
    have bare := separated [] rfl
    rw [List.nil_append] at bare
    exact opening.figures.reads
      (Scan.head?_any_append_eq_false (fun _ => isFigure_of_isBlank) blank noFigure)
      (ended.andThen bare) fun _ figures _ => fails_opening_end figures

/-- A range closes on what is read of its closing clock time. -/
theorem WrittenClock.reads_range {closing : Scan ClockText} {read : ClockText}
    (opening : WrittenClock) (beforeBlank : before.all isBlank = true) (written : separators ≠ [])
    (all : separators.all isSeparator = true) (afterBlank : after.all isBlank = true)
    (begins : text.head?.any isDigit = true) (closes : Scan.Reads closing text read rest) :
    Scan.Reads (rangeScanWith closing)
      (opening.text ++ (before ++ (separators ++ (after ++ text)))) ⟨opening.meant, read⟩ rest :=
  opening.reads_opening beforeBlank written all afterBlank begins (closes.andThen (.done _ rest))

end

theorem WrittenClock.text_begins (clock : WrittenClock) (tail : List Char) :
    (clock.text ++ tail).head?.any isDigit = true := by
  rw [clock.text_append]
  exact clock.figures.text_begins _

/-! ### Written ranges -/

/-- A range as it is written: two clock times, of which the second is marked, with separators and
perhaps white space between them. -/
structure WrittenRange where
  opening : WrittenClock
  before : List Char
  separators : List Char
  after : List Char
  closing : WrittenClock
  before_blank : before.all isBlank = true
  separators_written : separators ≠ []
  separators_all : separators.all isSeparator = true
  after_blank : after.all isBlank = true
  closing_marked : closing.mark.isSome = true

namespace WrittenRange

/-- The range as it stands in a text. -/
def text (range : WrittenRange) : List Char :=
  range.opening.text ++
    (range.before ++ (range.separators ++ (range.after ++ range.closing.text)))

/-- The range as it is meant. -/
def meant (range : WrittenRange) : ClockRange :=
  ⟨range.opening.meant, range.closing.meant⟩

/-- What is read of the range where the mark of its closing clock time may be missing. -/
def readOpenly (range : WrittenRange) : ClockRange :=
  ⟨range.opening.meant, range.closing.readOpenly⟩

theorem readOpenly_of_not_compact {range : WrittenRange}
    (loose : ¬ range.closing.figures.Compact) : range.readOpenly = range.meant := by
  rw [readOpenly, WrittenClock.readOpenly_of_not_compact loose, meant]

theorem reads {closing : Scan ClockText} {read : ClockText} {tail rest : List Char}
    (range : WrittenRange) (closes : Scan.Reads closing (range.closing.text ++ tail) read rest) :
    Scan.Reads (rangeScanWith closing) (range.text ++ tail) ⟨range.opening.meant, read⟩ rest := by
  have parts : range.text ++ tail = range.opening.text ++
      (range.before ++ (range.separators ++ (range.after ++ (range.closing.text ++ tail)))) := by
    simp only [text, List.append_assoc]
  rw [parts]
  exact range.opening.reads_range range.before_blank range.separators_written
    range.separators_all range.after_blank (range.closing.text_begins tail) closes

end WrittenRange

/-! ### Windows of ranges -/

/-- A range has the window between the two minutes of the day that it names. -/
theorem ClockRange.window?_eq_some_iff (range : ClockRange) (window : TimeWindow) :
    range.window? = some window ↔
      range.opening.minuteOfDay? = some window.opening ∧
        range.closing.minuteOfDay? = some window.closing := by
  constructor
  · intro read
    obtain ⟨opening, opens, read⟩ := Option.bind_eq_some_iff.mp read
    obtain ⟨closing, closes, read⟩ := Option.bind_eq_some_iff.mp read
    unfold TimeWindow.ofMinutes? at read
    split at read
    · rw [← Option.some.inj read]
      exact ⟨opens, closes⟩
    · cases read
  · rintro ⟨opens, closes⟩
    rw [window?, opens, closes]
    exact dif_pos ⟨window.opening_lt_closing, window.closing_le⟩

/-! ### Searching for ranges -/

/-- A range begins with a digit. -/
theorem fails_range {closing : Scan ClockText} {char : Char} (notDigit : isDigit char = false)
    (after : List Char) : Scan.Fails (rangeScanWith closing) (char :: after) := by
  have noDigits (count : Nat) : Scan.Fails (.exactly isDigit (count + 1)) (char :: after) :=
    Scan.Fails.exactly [] count.succ_pos (by exact notDigit)
  have notHour : Scan.Fails hourScan (char :: after) := (noDigits 1).orElse (noDigits 0)
  rw [rangeScanWith, clockScan, clockScanWith]
  exact (notHour.andThen _).andThen _

/-- The first range of a text is found after any characters but digits. -/
theorem WrittenRange.search_timeRange (range : WrittenRange) {passed : List Char}
    (noDigit : passed.any isDigit = false) (tail : List Char) :
    (Scan.search timeRangeScan (passed ++ (range.text ++ tail))).map (·.value) =
      some range.readOpenly := by
  obtain ⟨rest, closes⟩ := range.closing.reads_openly range.closing_marked tail
  rw [List.any_eq_false] at noDigit
  exact Scan.search_of_reads (fun char member after =>
    fails_range (Bool.not_eq_true _ ▸ noDigit char member) after) (range.reads closes)

/-! ### The characters of a range -/

/-- A character of which written ranges are made. -/
def isRangeChar (char : Char) : Bool :=
  isDigit char || isBlank char || isSeparator char || char ∈ [':', 'a', 'p', 'm']

theorem isRangeChar_of_isDigit {char : Char} (digit : isDigit char = true) :
    isRangeChar char = true := by
  simp [isRangeChar, digit]

theorem isRangeChar_of_isBlank {char : Char} (blank : isBlank char = true) :
    isRangeChar char = true := by
  simp [isRangeChar, blank]

theorem isRangeChar_of_isSeparator {char : Char} (separates : isSeparator char = true) :
    isRangeChar char = true := by
  simp [isRangeChar, separates]

/-- Characters of written ranges have no other case that is lower. -/
theorem lowerChar_of_isRangeChar {char : Char} (held : isRangeChar char = true) :
    lowerChar char = [char] := by
  simp only [isRangeChar, isSeparator, Bool.or_eq_true, decide_eq_true_eq, List.mem_cons,
    List.not_mem_nil, or_false] at held
  rcases held with ((digit | blank) | ((rfl | rfl) | rfl) | rfl) | rfl | rfl | rfl | rfl
  · exact lowerChar_of_isDigit digit
  · exact lowerChar_of_isBlank blank
  all_goals decide +kernel

theorem all_isRangeChar {holds : Char → Bool} {text : List Char} (all : text.all holds = true)
    (within : ∀ char, holds char = true → isRangeChar char = true) :
    text.all isRangeChar = true :=
  List.all_eq_true.mpr fun char member => within char (List.all_eq_true.mp all char member)

theorem Figures.text_all (figures : Figures) : figures.text.all isRangeChar = true := by
  have hour := all_isRangeChar figures.hour_digits fun _ => isRangeChar_of_isDigit
  have minute := all_isRangeChar figures.minute_all fun _ => isRangeChar_of_isDigit
  have colon : (if figures.colon then [':'] else []).all isRangeChar = true := by
    cases figures.colon <;> decide
  rw [text, afterHour, List.all_append, List.all_append, hour, colon, minute]
  rfl

theorem markText_all (mark : Option ClockMark) : (markText mark).all isRangeChar = true := by
  match mark with
  | none | some .am | some .pm | some .other => decide

theorem WrittenClock.text_all (clock : WrittenClock) : clock.text.all isRangeChar = true := by
  have gap := all_isRangeChar clock.gap_blank fun _ => isRangeChar_of_isBlank
  rw [text, List.all_append, List.all_append, clock.figures.text_all, gap, markText_all]
  rfl

namespace WrittenRange

theorem text_all (range : WrittenRange) : range.text.all isRangeChar = true := by
  have before := all_isRangeChar range.before_blank fun _ => isRangeChar_of_isBlank
  have separators := all_isRangeChar range.separators_all fun _ => isRangeChar_of_isSeparator
  have after := all_isRangeChar range.after_blank fun _ => isRangeChar_of_isBlank
  rw [text, List.all_append, List.all_append, List.all_append, List.all_append,
    range.opening.text_all, before, separators, after, range.closing.text_all]
  rfl

theorem lower_text (range : WrittenRange) : lower range.text = range.text :=
  lower_eq_self range.text fun char member =>
    lowerChar_of_isRangeChar (List.all_eq_true.mp range.text_all char member)

theorem text_begins (range : WrittenRange) : range.text.head?.any isDigit = true := by
  exact range.opening.text_begins _

theorem not_allBlank (range : WrittenRange) : allBlank range.text = false := by
  have begins := range.text_begins
  cases text : range.text with
  | nil =>
    rw [text] at begins
    cases begins
  | cons digit rest =>
    rw [text] at begins
    rw [allBlank, List.all_cons, isBlank_of_isDigit begins, Bool.false_and]

end WrittenRange

end OpeningHours.Listing
