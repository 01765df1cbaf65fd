import OpeningHours.Proofs.Listing.Days
import OpeningHours.Proofs.Listing.Reading
import OpeningHours.Proofs.Listing.TimeRange
import OpeningHours.Proofs.Text.Margin

/-
White space around a listing. Every reading but one comes to the same whether the listing stands
between margins of white space or not. The exception is the reading for meals, which has to be
announced: one of the announcements ends with a space, and a listing that ends with the word alone
makes it only if a margin supplies the space. So white space around a listing changes nothing,
unless it stands behind that word, the listing names the time of a meal, and nothing else in it
settles the matter before.
-/

namespace OpeningHours.Listing

open Text

/-! ### What is read along -/

theorem unblank_isDigit : Unblank isDigit := by
  intro char blank
  by_contra digit
  rw [Bool.not_eq_false] at digit
  rw [isBlank_of_isDigit digit] at blank
  cases blank

theorem unblank_isSeparator : Unblank isSeparator :=
  fun _ => not_isSeparator_of_isBlank

theorem unblank_isWordChar : Unblank isWordChar :=
  fun _ => isWordChar_of_isBlank

/-- The relation of places is respected by reading what clock times are made of. -/
structure ReadsClocks (Related : Place → Place → Prop) : Prop where
  digit : Scan.Respects Related (.oneChar isDigit)
  letter : ∀ letter ∈ [':', 'a', 'p', 'm'], Scan.Respects Related (.oneChar (· = letter))
  blank : Scan.Respects Related (.run isBlank)
  separator : Scan.Respects Related (.run1 isSeparator)

section

variable {Related : Place → Place → Prop}

theorem ReadsClocks.of_readsAlong (along : Scan.ReadsAlong Related) : ReadsClocks Related where
  digit := along.oneChar unblank_isDigit
  letter := fun letter member => along.oneChar fun char blank => by
    have ink : [':', 'a', 'p', 'm'].any isBlank = false := by decide
    rw [decide_eq_false_iff_not]
    rintro rfl
    exact List.any_eq_false.mp ink char member blank
  blank := along.run isBlank
  separator := along.run1 (along.oneChar unblank_isSeparator)

theorem ReadsClocks.alike (holds : Char → Bool) : ReadsClocks (Scan.Alike holds) :=
  .of_readsAlong (.alike holds)

theorem ReadsClocks.abreast {margin : List Char} (blank : allBlank margin = true) :
    ReadsClocks (Abreast margin) :=
  .of_readsAlong (.abreast blank)

theorem hourScan_respects (reads : ReadsClocks Related) : Scan.Respects Related hourScan :=
  (Scan.Respects.exactly reads.digit 2).orElse (Scan.Respects.exactly reads.digit 1)

theorem markScan_respects (reads : ReadsClocks Related) : Scan.Respects Related markScan := by
  have letters : ∀ word ∈ [['a', 'm'], ['p', 'm']], word ⊆ [':', 'a', 'p', 'm'] := by decide
  have mark (word : List Char) (known : word ∈ [['a', 'm'], ['p', 'm']]) :
      Scan.Respects Related (.word word) :=
    .word fun letter member => reads.letter letter (letters word known member)
  refine .firstOf fun scan member => ?_
  rcases List.mem_pair.mp member with rfl | rfl
  · exact (mark _ List.mem_cons_self).andThen fun _ => .done _
  · exact (mark _ (List.mem_cons_of_mem _ List.mem_cons_self)).andThen fun _ => .done _

theorem clockScanWith_respects (reads : ReadsClocks Related)
    {mark : Scan (Option ClockMark)} (marks : Scan.Respects Related mark) :
    Scan.Respects Related (clockScanWith mark) := by
  have colon : Scan.Respects Related (.word [':']) := by
    refine .word fun letter member => reads.letter letter ?_
    rw [List.mem_singleton.mp member]
    exact List.mem_cons_self
  refine (hourScan_respects reads).andThen fun hour => ?_
  refine colon.optional.andThen fun _ => ?_
  refine (Scan.Respects.exactly reads.digit 2).optional.andThen fun minute => ?_
  exact reads.blank.andThen fun _ => marks.andThen fun _ => .done _

theorem clockScan_respects (reads : ReadsClocks Related) : Scan.Respects Related clockScan :=
  clockScanWith_respects reads (markScan_respects reads).optional

theorem markedClockScan_respects (reads : ReadsClocks Related) :
    Scan.Respects Related markedClockScan :=
  clockScanWith_respects reads ((markScan_respects reads).andThen fun _ => .done _)

theorem rangeScanWith_respects (reads : ReadsClocks Related) {closing : Scan ClockText}
    (closes : Scan.Respects Related closing) : Scan.Respects Related (rangeScanWith closing) := by
  have separator : Scan.Respects Related separatorScan :=
    reads.blank.andThen fun _ => reads.separator.andThen fun _ => reads.blank
  exact (clockScan_respects reads).andThen fun opening => separator.andThen fun _ =>
    closes.andThen fun _ => .done _

end

/-! ### What does not begin with white space -/

theorem clockScanWith_starts (mark : Scan (Option ClockMark)) :
    Scan.StartsUnblank (clockScanWith mark) :=
  ((Scan.StartsUnblank.exactly unblank_isDigit 1).orElse
    (Scan.StartsUnblank.exactly unblank_isDigit 0)).andThen _

theorem rangeScanWith_starts (closing : Scan ClockText) :
    Scan.StartsUnblank (rangeScanWith closing) :=
  (clockScanWith_starts _).andThen _

theorem dayWords_framed : ∀ word ∈ dayWords, Framed word.spelling := by
  decide

theorem dayScan_starts : Scan.StartsUnblank dayScan := by
  refine .boundary_andThen fun _ => (Scan.StartsUnblank.firstOf fun scan member => ?_).andThen _
  obtain ⟨word, wordMember, rfl⟩ := List.mem_map.mp member
  exact (Scan.StartsUnblank.word (dayWords_framed word wordMember).begins).andThen _

theorem dayRangeScan_starts : Scan.StartsUnblank dayRangeScan :=
  dayScan_starts.andThen _

/-! ### Ranges of days -/

/-- White space can follow a spelled day. -/
theorem EndsDay.of_blank {mark : Char} (blank : isBlank mark = true) : EndsDay mark where
  notWord := isWordChar_of_isBlank blank
  notDot := by
    rintro rfl
    exact absurd blank (by decide)
  outside := by
    have ink : ∀ word ∈ dayWords, word.spelling.all isInk = true := by decide
    intro word known member
    have inWord := (isInk_iff mark).mp (List.all_eq_true.mp (ink word known) mark member)
    rw [blank] at inWord
    cases inWord

/-- A spelled day ends before white space that follows it. -/
theorem dayScan_respects {margin : List Char} (blank : allBlank margin = true) :
    Scan.Respects (Abreast margin) dayScan := by
  intro first second related
  cases related with
  | level =>
    cases margin with
    | nil =>
      rw [List.append_nil]
      refine List.forall₂_same.mpr fun way _ => ⟨rfl, ?_⟩
      have unmoved := @Abreast.level [] way.2
      rwa [List.append_nil] at unmoved
    | cons mark margin =>
      have stops := dayScan_stopsAt (.of_blank (allBlank_cons blank).1)
      exact (Scan.stopsAt_iff_respects.mp stops margin first _ rfl).imp
        fun one other same => ⟨same.1, same.2 ▸ .level one.2⟩
  | spent one other =>
    rw [dayScan_starts first (head?_all_isBlank one),
      dayScan_starts second (head?_all_isBlank other)]
    exact .nil

theorem dayRangeScan_respects {margin : List Char} (blank : allBlank margin = true) :
    Scan.Respects (Abreast margin) dayRangeScan := by
  have along := Scan.ReadsAlong.abreast blank
  have ink : ∀ word ∈ rangeWords, word.all isInk = true := by decide
  refine (dayScan_respects blank).andThen fun first => (along.run isBlank).andThen fun _ => ?_
  refine (Scan.Respects.firstOf fun scan member => ?_).andThen fun _ => ?_
  · obtain ⟨word, wordMember, rfl⟩ := List.mem_map.mp member
    exact along.word (ink word wordMember)
  · exact (along.run isBlank).andThen fun _ =>
      (dayScan_respects blank).andThen fun _ => .done _

/-! ### Scans that a word introduces -/

section

variable {Value : Type} {scan : Scan Value} {word : List Char}

theorem introduced_looksBack {holds : Char → Bool} (looks : Scan.LooksBackFor holds scan) :
    Scan.LooksBackFor holds
      (.andThen (.word word) fun _ => .andThen (.run1 isBlank) fun _ => scan) :=
  (Scan.LooksBackFor.word holds word).andThen fun _ =>
    ((Scan.ReadsAlong.alike holds).run1 (Scan.LooksBackFor.oneChar holds isBlank)).andThen
      fun _ => looks

theorem introduced_respects {margin : List Char} (blank : allBlank margin = true)
    (ink : word.all isInk = true)
    (respects : Scan.Respects (Abreast margin) scan) (starts : Scan.StartsUnblank scan) :
    Scan.Respects (Abreast margin)
      (.andThen (.word word) fun _ => .andThen (.run1 isBlank) fun _ => scan) :=
  ((Scan.ReadsAlong.abreast blank).word ink).andThen fun _ =>
    .run1_andThen blank isBlank (fun _ => respects) fun _ => starts.starved

/-- What is searched for behind a word is found between margins as it is found without them. -/
theorem search_introduced_margins (looks : Scan.LooksBackFor isWordChar scan)
    (starts : Scan.StartsUnblank scan) {gap margin : List Char}
    (respects : Scan.Respects (Abreast margin) scan) (gapBlank : allBlank gap = true)
    (blank : allBlank margin = true) (begins : word.head?.any isInk = true)
    (ink : word.all isInk = true) (text : List Char) :
    (Scan.search (.andThen (.word word) fun _ => .andThen (.run1 isBlank) fun _ => scan)
        (gap ++ (text ++ margin))).map (·.value) =
      (Scan.search (.andThen (.word word) fun _ => .andThen (.run1 isBlank) fun _ => scan)
        text).map (·.value) :=
  Scan.search_margins (introduced_looksBack looks) unblank_isWordChar
    ((Scan.StartsUnblank.word begins).andThen _)
    (introduced_respects blank ink respects starts) gapBlank blank text

end

/-! ### Readings between margins -/

theorem lower_of_allBlank {space : List Char} (blank : allBlank space = true) :
    lower space = space :=
  lower_eq_self space fun char member =>
    lowerChar_of_isBlank (List.all_eq_true.mp blank char member)

/-- A text that holds more than white space in lower case is not blank. -/
theorem allBlank_eq_false_of_mem_lower {text : List Char} {char : Char} (member : char ∈ lower text)
    (ink : isBlank char = false) : allBlank text = false := by
  by_contra blank
  rw [Bool.not_eq_false] at blank
  rw [lower_of_allBlank blank] at member
  rw [List.all_eq_true.mp blank char member] at ink
  cases ink

section

variable {gap margin : List Char} (gapBlank : allBlank gap = true)
  (blank : allBlank margin = true) (text : List Char)

include gapBlank blank

theorem mealTime?_margins (meal : Meal) :
    mealTime? (gap ++ (text ++ margin)) meal = mealTime? text meal := by
  have begins : meal.name.toList.head?.any isInk = true := by cases meal <;> decide
  have ink : meal.name.toList.all isInk = true := by cases meal <;> decide
  have same := search_introduced_margins (markedClockScan_respects (.alike isWordChar))
    (clockScanWith_starts _) (markedClockScan_respects (.abreast blank)) gapBlank blank begins
    ink text
  rw [mealTime?_eq_bind, mealTime?_eq_bind]
  exact congrArg (Option.bind · _) same

theorem readDailyWindow_margins :
    readDailyWindow (gap ++ (text ++ margin)) = readDailyWindow text := by
  have begins : "daily".toList.head?.any isInk = true := by decide
  have ink : "daily".toList.all isInk = true := by decide
  have same := search_introduced_margins
    (rangeScanWith_respects (.alike isWordChar) (markedClockScan_respects (.alike isWordChar)))
    (rangeScanWith_starts _)
    (rangeScanWith_respects (.abreast blank) (markedClockScan_respects (.abreast blank))) gapBlank
    blank begins ink text
  have byValue (text : List Char) : readDailyWindow text =
      ((Scan.search dailyRangeScan text).map (·.value)).bind fun range =>
        range.window?.bind fun window => some (.window window .everyDay) := by
    rw [readDailyWindow]
    cases Scan.search dailyRangeScan text <;> rfl
  rw [byValue, byValue]
  exact congrArg (Option.bind · _) same

theorem spelledDays_margins {words : List DayWord} (known : ∀ word ∈ words, word ∈ dayWords) :
    spelledDays words (gap ++ (text ++ margin)) = spelledDays words text := by
  have same : ∀ word ∈ words, occursIn word.spelling (gap ++ (text ++ margin)) =
      occursIn word.spelling text :=
    fun word member =>
      occursIn_margins (dayWords_framed word (known word member)) gapBlank blank text
  rw [spelledDays, spelledDays, List.filter_congr same]

theorem rangedDays_margins : rangedDays (gap ++ (text ++ margin)) = rangedDays text := by
  have same := Scan.findAll_margins dayRangeScan_looksBack unblank_isWordChar dayRangeScan_starts
    (dayRangeScan_respects blank) dayRangeScan_forward gapBlank blank text
  have byValue (text : List Char) : rangedDays text =
      .unions (((Scan.findAll dayRangeScan text).map (·.value)).map fun range =>
        DaySet.fromTo range.1.day range.2.day) := by
    rw [rangedDays, List.map_map]
    rfl
  rw [byValue, byValue, same]

theorem namedDays_margins : namedDays (gap ++ (text ++ margin)) = namedDays text := by
  have phrases : ∀ word ∈ weekdayPhrases, Framed word := by decide
  rw [namedDays, namedDays, rangedDays_margins gapBlank blank,
    anyOccursIn_margins phrases gapBlank blank,
    spelledDays_margins gapBlank blank text
      fun word member => mem_dayWords_of_named word (List.mem_append_left _ member),
    spelledDays_margins gapBlank blank text
      fun word member => mem_dayWords_of_named word (List.mem_append_right _ member)]

theorem applicability?_margins :
    applicability? (gap ++ (text ++ margin)) = applicability? text := by
  have fragments : ∀ word ∈ dayFragments, Framed word := by decide
  rw [applicability?, applicability?, namedDays_margins gapBlank blank,
    anyOccursIn_margins fragments gapBlank blank]

theorem readWindow_margins : readWindow (gap ++ (text ++ margin)) = readWindow text := by
  have same := Scan.search_margins
    (rangeScanWith_respects (.alike isWordChar) (clockScan_respects (.alike isWordChar)))
    unblank_isWordChar (rangeScanWith_starts clockScan)
    (rangeScanWith_respects (.abreast blank) (clockScan_respects (.abreast blank))) gapBlank blank
    text
  rw [readWindow_eq_bind, readWindow_eq_bind, applicability?_margins gapBlank blank]
  exact congrArg (Option.bind · _) same

theorem readDayOnly_margins : readDayOnly (gap ++ (text ++ margin)) = readDayOnly text := by
  have phrases : ∀ word ∈ weekdayPhrases, Framed word := by decide
  rw [readDayOnly, readDayOnly, anyOccursIn_margins phrases gapBlank blank]

theorem readRoundTheClock_margins :
    readRoundTheClock (gap ++ (text ++ margin)) = readRoundTheClock text := by
  have phrases : ∀ word ∈ roundTheClockPhrases, Framed word := by decide
  rw [readRoundTheClock, readRoundTheClock, anyOccursIn_margins phrases gapBlank blank]

theorem readClosed_margins : readClosed (gap ++ (text ++ margin)) = readClosed text := by
  have phrases : ∀ word ∈ closedPhrases, Framed word := by decide
  rw [readClosed, readClosed, anyOccursIn_margins phrases gapBlank blank]

/-- Daily times are announced between margins where the text announces them, and besides where the
text ends with the word for them and a space comes next. -/
theorem anyOccursIn_dailyPhrases_margins :
    anyOccursIn dailyPhrases (gap ++ (text ++ margin)) = true ↔
      anyOccursIn dailyPhrases text = true ∨
        ("daily".toList <:+ text ∧ margin.head? = some ' ') := by
  have word : Framed "daily".toList := by decide
  have withColon : Framed "daily:".toList := by decide
  have spaced : "daily ".toList = "daily".toList ++ [' '] := by decide
  simp only [anyOccursIn, dailyPhrases, List.any_cons, List.any_nil, Bool.or_false, Bool.or_eq_true]
  rw [occursIn_margins withColon gapBlank blank, spaced,
    occursIn_spaced_margins_iff word ' ' gapBlank blank, or_assoc]

theorem readMeals_margins
    (announced :
      anyOccursIn dailyPhrases (gap ++ (text ++ margin)) = anyOccursIn dailyPhrases text) :
    readMeals (gap ++ (text ++ margin)) = readMeals text := by
  have times : mealTime? (gap ++ (text ++ margin)) = mealTime? text :=
    funext fun meal => mealTime?_margins gapBlank blank text meal
  rw [readMeals, readMeals, announced, times]

theorem lower_margins : lower (gap ++ (text ++ margin)) = gap ++ (lower text ++ margin) := by
  rw [lower_append, lower_append, lower_of_allBlank gapBlank, lower_of_allBlank blank]

theorem allBlank_margins : allBlank (gap ++ (text ++ margin)) = allBlank text := by
  have split : allBlank (gap ++ (text ++ margin)) =
      (allBlank gap && (allBlank text && allBlank margin)) := by
    rw [allBlank, List.all_append, List.all_append]
    rfl
  rw [split, gapBlank, blank, Bool.true_and, Bool.and_true]

end

/-! ### Listings between margins -/

/-- The listing, in lower case, ends with the word for daily times and announces none, though it
names the time of a meal and no reading that comes before the one for meals makes anything of it. -/
structure HangingDaily (text : List Char) : Prop where
  ends : "daily".toList <:+ text
  unannounced : anyOccursIn dailyPhrases text = false
  notRoundTheClock : readRoundTheClock text = none
  notClosed : readClosed text = none
  meal : ∃ meal, (mealTime? text meal).isSome = true

theorem HangingDaily.unblank {text : List Char} (hanging : HangingDaily (lower text)) :
    allBlank text = false :=
  allBlank_eq_false_of_mem_lower (hanging.ends.subset (by decide : 'd' ∈ "daily".toList)) (by decide)

/-- A text that is not blank comes to the first schedule that its readings make. -/
theorem schedule_of_unblank {text : List Char} (unblank : allBlank text = false) :
    schedule text =
      ((readRoundTheClock (lower text)).or <| (readClosed (lower text)).or <|
        (readMeals (lower text)).or <| (readDailyWindow (lower text)).or <|
          (readWindow (lower text)).or (readDayOnly (lower text))).getD .unrecognized := by
  have step (reading : Reading) (rest : List Reading) :
      (reading :: rest).findSome? (· (lower text)) =
        (reading (lower text)).or (rest.findSome? (· (lower text))) := by
    rw [List.findSome?_cons]
    cases reading (lower text) <;> rfl
  rw [schedule, unblank, if_neg Bool.false_ne_true, readings, step, step, step, step, step, step,
    List.findSome?_nil, Option.or_none]
  generalize (readRoundTheClock (lower text)).or _ = made
  cases made <;> rfl

/-- The readings that come after the one for meals make no schedule for meals. -/
theorem laterReadings_ne_meals (text : List Char) (times : List MealTime) :
    ((readDailyWindow text).or <| (readWindow text).or (readDayOnly text)).getD .unrecognized ≠
      .meals times := by
  have notDaily : readDailyWindow text ≠ some (.meals times) := by
    intro read
    obtain ⟨_, _, read⟩ := Option.bind_eq_some_iff.mp read
    obtain ⟨_, _, read⟩ := Option.bind_eq_some_iff.mp read
    cases read
  have notWindow : readWindow text ≠ some (.meals times) := by
    intro read
    obtain ⟨_, _, read⟩ := Option.bind_eq_some_iff.mp read
    obtain ⟨_, _, read⟩ := Option.bind_eq_some_iff.mp read
    obtain ⟨_, _, read⟩ := Option.bind_eq_some_iff.mp read
    cases read
  have notDayOnly : readDayOnly text ≠ some (.meals times) := by
    rw [readDayOnly]
    split <;> simp
  cases daily : readDailyWindow text with
  | some schedule =>
    rintro rfl
    exact notDaily daily
  | none =>
    cases window : readWindow text with
    | some schedule =>
      rintro rfl
      exact notWindow window
    | none =>
      cases dayOnly : readDayOnly text with
      | some schedule =>
        rintro rfl
        exact notDayOnly dayOnly
      | none =>
        intro equal
        cases equal

section

variable {gap margin : List Char} (gapBlank : allBlank gap = true)
  (blank : allBlank margin = true) {text : List Char}

include gapBlank blank

/-- Behind a hanging word for daily times a space makes the listing one for meals. -/
theorem schedule_margins_ne (space : margin.head? = some ' ')
    (hanging : HangingDaily (lower text)) :
    schedule (gap ++ (text ++ margin)) ≠ schedule text := by
  have unblank := hanging.unblank
  have announced : anyOccursIn dailyPhrases (gap ++ (lower text ++ margin)) = true :=
    (anyOccursIn_dailyPhrases_margins gapBlank blank (lower text)).mpr
      (Or.inr ⟨hanging.ends, space⟩)
  have noMeals : readMeals (lower text) = none := by
    rw [readMeals, hanging.unannounced]
    rfl
  obtain ⟨meal, given⟩ := hanging.meal
  rw [← mealTime?_margins gapBlank blank] at given
  have meals := readMeals_of_announced announced given
  rw [schedule_of_unblank ((allBlank_margins gapBlank blank text).trans unblank),
    schedule_of_unblank unblank, lower_margins gapBlank blank,
    readRoundTheClock_margins gapBlank blank, readClosed_margins gapBlank blank,
    hanging.notRoundTheClock, hanging.notClosed, noMeals, meals]
  exact (laterReadings_ne_meals (lower text) _).symm

/-- White space around a listing changes nothing where no word for daily times hangs before it. -/
theorem schedule_margins_eq
    (settled : ¬ (margin.head? = some ' ' ∧ HangingDaily (lower text))) :
    schedule (gap ++ (text ++ margin)) = schedule text := by
  have sameBlank := allBlank_margins gapBlank blank text
  cases unblank : allBlank text with
  | true => rw [schedule, schedule, sameBlank, unblank, if_pos rfl, if_pos rfl]
  | false =>
    rw [schedule_of_unblank (sameBlank.trans unblank), schedule_of_unblank unblank,
      lower_margins gapBlank blank, readRoundTheClock_margins gapBlank blank,
      readClosed_margins gapBlank blank, readDailyWindow_margins gapBlank blank,
      readWindow_margins gapBlank blank, readDayOnly_margins gapBlank blank]
    by_cases same : anyOccursIn dailyPhrases (gap ++ (lower text ++ margin)) =
        anyOccursIn dailyPhrases (lower text)
    · rw [readMeals_margins gapBlank blank (lower text) same]
    · -- The margin makes the announcement, so something else must settle the matter.
      have announced := anyOccursIn_dailyPhrases_margins gapBlank blank (lower text)
      have unannounced : anyOccursIn dailyPhrases (lower text) = false := by
        by_contra already
        rw [Bool.not_eq_false] at already
        exact same ((announced.mpr (Or.inl already)).trans already.symm)
      rw [unannounced, Bool.not_eq_false, announced, unannounced] at same
      obtain ⟨ends, space⟩ := same.resolve_left Bool.false_ne_true
      cases roundTheClock : readRoundTheClock (lower text) with
      | some schedule => rfl
      | none =>
        cases closed : readClosed (lower text) with
        | some schedule => rfl
        | none =>
          have timeless (meal : Meal) : mealTime? (lower text) meal = none := by
            by_contra given
            exact settled ⟨space, ends, unannounced, roundTheClock, closed, meal,
              Option.isSome_iff_ne_none.mpr given⟩
          have timelessBetween (meal : Meal) :
              mealTime? (gap ++ (lower text ++ margin)) meal = none :=
            (mealTime?_margins gapBlank blank (lower text) meal).trans (timeless meal)
          rw [readMeals_eq_none_of_no_time timeless, readMeals_eq_none_of_no_time timelessBetween]

end

/-- White space before and after a listing changes nothing that it comes to, unless the listing ends
with a hanging word for daily times and the white space after it begins with a space. -/
theorem ofText_margins_iff {before after : String} (beforeBlank : allBlank before.toList = true)
    (afterBlank : allBlank after.toList = true) (text : String) :
    Schedule.ofText (some (before ++ text ++ after)) = Schedule.ofText (some text) ↔
      ¬ (after.toList.head? = some ' ' ∧ HangingDaily (lower text.toList)) := by
  have parts : (before ++ text ++ after).toList =
      before.toList ++ (text.toList ++ after.toList) := by
    rw [String.toList_append, String.toList_append, List.append_assoc]
  rw [Schedule.ofText, Schedule.ofText, parts]
  constructor
  · rintro same ⟨space, hanging⟩
    exact schedule_margins_ne beforeBlank afterBlank space hanging same
  · exact schedule_margins_eq beforeBlank afterBlank

/-- A range of days and times between a tab and a line feed. -/
theorem week_between_margins :
    allBlank "\t".toList = true ∧ allBlank " \n".toList = true ∧
      Schedule.ofText (some ("\t" ++ "Mon-Fri 9am-5pm" ++ " \n")) =
        Schedule.ofText (some "Mon-Fri 9am-5pm") := by
  refine ⟨by decide, by decide, (ofText_margins_iff (by decide) (by decide) _).mpr ?_⟩
  rintro ⟨_, hanging⟩
  exact absurd hanging.ends (by decide +kernel)

/-- A lunch that is served daily is read as one only with a space at the end. -/
theorem daily_lunch_needs_space :
    allBlank "".toList = true ∧ allBlank " ".toList = true ∧
      Schedule.ofText (some ("" ++ "lunch 12pm daily" ++ " ")) ≠
        Schedule.ofText (some "lunch 12pm daily") := by
  decide +kernel

end OpeningHours.Listing
