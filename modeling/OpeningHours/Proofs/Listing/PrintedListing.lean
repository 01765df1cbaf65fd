import OpeningHours.Proofs.Listing.Days
import OpeningHours.Proofs.Listing.PrintedClock
import OpeningHours.Proofs.Listing.Reading
import OpeningHours.Proofs.Listing.TimeRange

/-
A listing that is put together from the names of days and two printed times of day reads back as the
window between the two times on those days, whatever the case of its letters. The commas part the
names into clauses that name one day each; nothing else in such a text names a day, or says anything
else that a listing could say.
-/

namespace OpeningHours.Listing

open Text

/-! ### Names of days in a line -/

/-- The name of a day in lower case. -/
def lowerName (day : Weekday) : List Char :=
  day.name.toList.map Char.toLower

/-- Names of days with commas between them and a space after the last. -/
def nameLine : List (List Char) → List Char
  | [] => []
  | [name] => name ++ [' ']
  | name :: next :: more => name ++ ',' :: ' ' :: nameLine (next :: more)

theorem nameLine_cons_cons (name next : List Char) (more : List (List Char)) :
    nameLine (name :: next :: more) = name ++ ',' :: ' ' :: nameLine (next :: more) := rfl

/-- A character of a line of names in lower case. -/
def isNameLineChar (char : Char) : Bool :=
  char ∈ ", adefhimnorstuwy".toList

theorem lowerName_all : ∀ day : Weekday, (lowerName day).all isNameLineChar = true := by
  intro day
  cases day <;> decide +kernel

theorem nameLine_all (days : List Weekday) :
    (nameLine (days.map lowerName)).all isNameLineChar = true := by
  have comma : isNameLineChar ',' = true := by decide
  have space : isNameLineChar ' ' = true := by decide
  induction days with
  | nil => rfl
  | cons day more inductionHypothesis =>
    cases more with
    | nil =>
      rw [List.map_singleton, nameLine, List.all_append, lowerName_all, List.all_cons, space]
      rfl
    | cons next more =>
      rw [List.map_cons] at inductionHypothesis
      rw [List.map_cons, List.map_cons, nameLine_cons_cons, List.all_append, lowerName_all,
        List.all_cons, comma, List.all_cons, space, inductionHypothesis]
      rfl

theorem lower_nameLine (names : List (List Char)) :
    lower (nameLine names) = nameLine (names.map lower) := by
  have space : lower [' '] = [' '] := by decide
  have comma : lower [',', ' '] = [',', ' '] := by decide
  induction names with
  | nil => rfl
  | cons name more inductionHypothesis =>
    cases more with
    | nil => rw [List.map_singleton, nameLine, nameLine, lower_append, space]
    | cons next more =>
      have between (text : List Char) : lower (',' :: ' ' :: text) = ',' :: ' ' :: lower text := by
        rw [show ',' :: ' ' :: text = [',', ' '] ++ text from rfl, lower_append, comma]
        rfl
      rw [List.map_cons] at inductionHypothesis
      rw [nameLine_cons_cons, lower_append, between, inductionHypothesis]
      rfl

/-- A line of names is a text with a space after it. -/
theorem nameLine_ends (name : List Char) (more : List (List Char)) :
    ∃ names, nameLine (name :: more) = names ++ [' '] := by
  induction more generalizing name with
  | nil => exact ⟨name, rfl⟩
  | cons next more inductionHypothesis =>
    obtain ⟨names, line⟩ := inductionHypothesis next
    exact ⟨name ++ ',' :: ' ' :: names, by simp [nameLine, line]⟩

/-- A space and a name alone name the day. -/
theorem namedDays_lowerName (day : Weekday) {gap : List Char} (spaced : gap = [] ∨ gap = [' ']) :
    namedDays (gap ++ lowerName day) = .ofList [day] := by
  rcases spaced with rfl | rfl
  · cases day <;> decide +kernel
  · cases day <;> decide +kernel

/-- Where a line of names has something after it that holds no piece of a day's name, the days named
are those of the line. -/
theorem namedDays_nameLine (day : Weekday) (more : List Weekday) {gap rest : List Char}
    (spaced : gap = [] ∨ gap = [' ']) (foreign : anyOccursIn dayFragments rest = false) :
    namedDays (gap ++ (nameLine ((day :: more).map lowerName) ++ rest)) =
      .ofList (day :: more) := by
  induction more generalizing day gap with
  | nil =>
    have line : gap ++ (nameLine ([day].map lowerName) ++ rest) =
        (gap ++ lowerName day) ++ ' ' :: rest := by
      rw [List.map_singleton, nameLine]
      simp
    have unblank : ∀ fragment ∈ dayFragments, ' ' ∉ fragment := by decide
    have blank : gap.all isBlank = true := by
      rcases spaced with rfl | rfl <;> decide
    have single : lowerName day ≠ [] ∧ anyOccursIn dayFragments (lowerName day).tail = false := by
      cases day <;> decide +kernel
    obtain ⟨letter, letters, name⟩ := List.exists_cons_of_ne_nil single.1
    have once : anyOccursIn dayFragments letters = false := by
      have tail := single.2
      rwa [name] at tail
    have unranged : rangedDays ((gap ++ lowerName day) ++ ' ' :: rest) =
        rangedDays (gap ++ lowerName day) := by
      have onceInLine : anyOccursIn dayFragments (letters ++ ' ' :: rest) = false := by
        rw [anyOccursIn_append_cons unblank, once, foreign]
        rfl
      rw [name, List.append_assoc, rangedDays_eq_empty blank letter once]
      exact rangedDays_eq_empty blank letter onceInLine
    rw [line, namedDays_append_blank foreign unranged, namedDays_lowerName day spaced]
  | cons next more inductionHypothesis =>
    have clauses : gap ++ (nameLine ((day :: next :: more).map lowerName) ++ rest) =
        (gap ++ lowerName day) ++
          ',' :: ([' '] ++ (nameLine ((next :: more).map lowerName) ++ rest)) := by
      rw [List.map_cons, List.map_cons, nameLine_cons_cons]
      simp
    rw [clauses, namedDays_append_cons isClauseMark_comma, namedDays_lowerName day spaced,
      inductionHypothesis next (Or.inr rfl)]
    exact DaySet.ext_mem fun other => by simp

/-! ### Printed listings -/

/-- The days of a list, or every day when the list names none. -/
def listedDays : List Weekday → Applicability
  | [] => .everyDay
  | day :: more => ⟨.ofList (day :: more), day, by simp⟩

/-- Names with commas between them and a space after the last. -/
def namesText (names : List String) : String :=
  if names = [] then "" else ", ".intercalate names ++ " "

/-- A listing put together from names of days, two printed minutes of the day and a separator. The
letters of names and minutes may be in any case. -/
structure PrintedListing where
  days : List Weekday
  names : List String
  opening : Nat
  closing : Nat
  opens : String
  closes : String
  before : List Char
  separators : List Char
  after : List Char
  names_print : List.Forall₂ (fun name day => SameLetters name (Weekday.name day)) names days
  opens_prints : SameLetters opens (Phrases.minuteOfDay opening)
  closes_prints : SameLetters closes (Phrases.minuteOfDay closing)
  opening_le : opening ≤ lastMinuteOfDay
  closing_le : closing ≤ lastMinuteOfDay
  before_blank : before.all isBlank = true
  separators_written : separators ≠ []
  separators_all : separators.all isSeparator = true
  after_blank : after.all isBlank = true

theorem namesText_toList (names : List String) :
    (namesText names).toList = nameLine (names.map String.toList) := by
  have line (name : String) (more : List String) :
      (", ".intercalate (name :: more)).toList ++ [' '] =
        nameLine ((name :: more).map String.toList) := by
    induction more generalizing name with
    | nil =>
      rw [String.toList_intercalate, List.map_singleton, List.intercalate_singleton]
      rfl
    | cons next more inductionHypothesis =>
      have rest := inductionHypothesis next
      rw [String.toList_intercalate, List.map_cons] at rest
      rw [String.toList_intercalate, List.map_cons, List.map_cons, List.intercalate_cons_cons,
        nameLine_cons_cons, ← rest]
      simp
  cases names with
  | nil => rfl
  | cons name more =>
    rw [namesText, if_neg (List.cons_ne_nil name more), String.toList_append]
    exact line name more

namespace PrintedListing

variable (listing : PrintedListing)

/-- The listing as a text. -/
def text : String :=
  namesText listing.names ++ listing.opens ++
    String.ofList (listing.before ++ listing.separators ++ listing.after) ++ listing.closes

/-- The range of clock times in the listing, in lower case. -/
def range : WrittenRange where
  opening := printedClock listing.opening
  before := listing.before
  separators := listing.separators
  after := listing.after
  closing := printedClock listing.closing
  before_blank := listing.before_blank
  separators_written := listing.separators_written
  separators_all := listing.separators_all
  after_blank := listing.after_blank
  closing_marked := rfl

/-- The listing in lower case: the names of its days, and its range. -/
def lowText : List Char :=
  nameLine (listing.days.map lowerName) ++ listing.range.text

theorem lower_names :
    (listing.names.map String.toList).map lower = listing.days.map lowerName := by
  have ascii : ∀ day : Weekday, day.name.toList.all (fun char => char.toNat < 0x80) = true := by
    intro day
    cases day <;> decide
  have prints := listing.names_print
  generalize listing.names = names at prints ⊢
  generalize listing.days = days at prints ⊢
  induction prints with
  | nil => rfl
  | cons same _ inductionHypothesis =>
    rw [List.map_cons, List.map_cons, List.map_cons, lower_of_sameLetters same (ascii _),
      inductionHypothesis]
    rfl

theorem lower_clock {text : String} {minute : Nat}
    (prints : SameLetters text (Phrases.minuteOfDay minute)) :
    lower text.toList = (printedClock minute).text := by
  rw [lower_of_sameLetters prints (minuteOfDay_ascii minute), printedClock_text]

theorem lower_text : lower listing.text.toList = listing.lowText := by
  have before := all_isRangeChar listing.before_blank fun _ => isRangeChar_of_isBlank
  have separators := all_isRangeChar listing.separators_all fun _ => isRangeChar_of_isSeparator
  have after := all_isRangeChar listing.after_blank fun _ => isRangeChar_of_isBlank
  have between :
      (listing.before ++ listing.separators ++ listing.after).all isRangeChar = true := by
    rw [List.all_append, List.all_append, before, separators, after]
    rfl
  have fixed := lower_eq_self _ fun char member =>
    lowerChar_of_isRangeChar (List.all_eq_true.mp between char member)
  simp only [text, String.toList_append, String.toList_ofList, lower_append, fixed,
    namesText_toList, lower_nameLine, lower_names, lower_clock listing.opens_prints,
    lower_clock listing.closes_prints]
  simp only [lowText, WrittenRange.text, range, List.append_assoc]

/-! ### What a printed listing does not say -/

theorem not_allBlank : allBlank listing.text.toList = false := by
  rw [← Bool.not_eq_true]
  intro blank
  have fixed : lower listing.text.toList = listing.text.toList :=
    lower_eq_self _ fun char member => lowerChar_of_isBlank (List.all_eq_true.mp blank char member)
  rw [← fixed, lower_text, lowText, allBlank, List.all_append, Bool.and_eq_true] at blank
  exact absurd blank.2 (Bool.not_eq_true _ ▸ listing.range.not_allBlank)

/-- A character of a printed listing in lower case. -/
def isLowChar (char : Char) : Bool :=
  isNameLineChar char || isRangeChar char

theorem lowText_all : listing.lowText.all isLowChar = true := by
  have names := nameLine_all listing.days
  have range := listing.range.text_all
  rw [List.all_eq_true] at names range
  refine List.all_eq_true.mpr fun char member => ?_
  rw [isLowChar, Bool.or_eq_true]
  rcases List.mem_append.mp member with inNames | inRange
  · exact Or.inl (names char inNames)
  · exact Or.inr (range char inRange)

theorem says_no_state :
    anyOccursIn (roundTheClockPhrases ++ closedPhrases) listing.lowText = false := by
  have foreign : ∀ phrase ∈ roundTheClockPhrases ++ closedPhrases,
      phrase = "24 hours".toList ∨ phrase.any (fun char => !isLowChar char) = true := by
    decide +kernel
  rw [anyOccursIn_eq_false_iff]
  intro phrase member
  rcases foreign phrase member with rfl | lacking
  · -- The phrase begins with a figure, which no name holds, and the range lacks its letters.
    have noFigure : '2' ∉ nameLine (listing.days.map lowerName) := by
      intro figure
      exact absurd (List.all_eq_true.mp (nameLine_all listing.days) '2' figure) (by decide)
    rw [lowText, show "24 hours".toList = '2' :: "4 hours".toList by decide,
      occursIn_append_of_head_not_mem '2' _ _ _ noFigure]
    exact occursIn_eq_false_of_foreign listing.range.text_all (by decide)
  · exact occursIn_eq_false_of_foreign listing.lowText_all lacking

theorem range_foreign : anyOccursIn dayFragments listing.range.text = false :=
  anyOccursIn_eq_false_of_foreign listing.range.text_all (by decide)

theorem says_no_weekday_phrase : anyOccursIn weekdayPhrases listing.lowText = false := by
  have foreign : ∀ phrase ∈ weekdayPhrases,
      phrase.any (fun char => !isNameLineChar char) = true := by
    decide
  rw [lowText]
  cases days : listing.days with
  | nil => exact anyOccursIn_weekdayPhrases_eq_false listing.range_foreign
  | cons day more =>
    have all := nameLine_all (day :: more)
    rw [List.map_cons] at all ⊢
    obtain ⟨names, line⟩ := nameLine_ends (lowerName day) (more.map lowerName)
    rw [line, List.all_append, Bool.and_eq_true] at all
    rw [line, List.append_assoc, List.singleton_append,
      anyOccursIn_append_blank listing.range_foreign]
    exact anyOccursIn_eq_false_of_foreign all.1 foreign

/-! ### What a printed listing says -/

theorem applicability?_lowText :
    applicability? listing.lowText = some (listedDays listing.days) := by
  rw [lowText]
  cases days : listing.days with
  | nil => exact applicability?_of_foreign listing.range_foreign
  | cons day more =>
    have named := namedDays_nameLine day more (Or.inl rfl) listing.range_foreign
    rw [List.nil_append] at named
    have listed : Applicability.ofDays? (.ofList (day :: more)) = some (listedDays (day :: more)) :=
      Applicability.ofDays?_days (listedDays (day :: more))
    rw [applicability?, named, listed]

theorem search_lowText :
    (Scan.search timeRangeScan listing.lowText).map (·.value) = some listing.range.meant := by
  have noDigit : (nameLine (listing.days.map lowerName)).any isDigit = false := by
    have known : ", adefhimnorstuwy".toList.any isDigit = false := by decide
    rw [List.any_eq_false] at known ⊢
    exact fun char member => known char
      (of_decide_eq_true (List.all_eq_true.mp (nameLine_all listing.days) char member))
  have found := listing.range.search_timeRange noDigit []
  rwa [List.append_nil, WrittenRange.readOpenly_of_not_compact (printedClock_loose _)] at found

theorem window?_range :
    listing.range.meant.window? = TimeWindow.ofMinutes? listing.opening listing.closing := by
  have opens : listing.range.meant.opening.minuteOfDay? = some listing.opening :=
    printedClock_minuteOfDay? listing.opening_le
  have closes : listing.range.meant.closing.minuteOfDay? = some listing.closing :=
    printedClock_minuteOfDay? listing.closing_le
  rw [ClockRange.window?, opens, closes]
  rfl

/-- A printed listing reads back as the window between its two minutes on its days, and as nothing
that is understood when its closing minute does not come after its opening one. -/
theorem ofText_text :
    Schedule.ofText (some listing.text) =
      if order : listing.opening < listing.closing then
        .window ⟨listing.opening, listing.closing, order, listing.closing_le⟩
          (listedDays listing.days)
      else .unrecognized := by
  have notDaily : occursIn "daily".toList listing.lowText = false :=
    occursIn_eq_false_of_foreign listing.lowText_all (by decide)
  obtain ⟨noMeals, noDailyWindow⟩ := dailyReadings_eq_none notDaily
  rw [Schedule.ofText, schedule_of_windows listing.lower_text listing.not_allBlank
    listing.says_no_state noMeals listing.says_no_weekday_phrase, noDailyWindow, Option.none_or,
    readWindow_eq listing.search_lowText, listing.applicability?_lowText, listing.window?_range,
    TimeWindow.ofMinutes?]
  by_cases order : listing.opening < listing.closing
  · rw [dif_pos ⟨order, listing.closing_le⟩, dif_pos order]
    rfl
  · rw [dif_neg fun both => order both.1, dif_neg order]
    rfl

end PrintedListing

/-- Saturdays and Sundays, one of them named twice, from five past nine until noon. -/
def weekendMornings : PrintedListing where
  days := [.saturday, .sunday, .saturday]
  names := ["SATURDAY", "sunday", "Saturday"]
  opening := 545
  closing := 720
  opens := "9:05 am"
  closes := "12 pM"
  before := [' ']
  separators := ['t', 'o']
  after := []
  names_print := .cons (by decide) (.cons (by decide) (.cons (by decide) .nil))
  opens_prints := by decide
  closes_prints := by decide
  opening_le := Nat.le_of_ble_eq_true rfl
  closing_le := Nat.le_of_ble_eq_true rfl
  before_blank := rfl
  separators_written := List.cons_ne_nil 't' ['o']
  separators_all := rfl
  after_blank := rfl

theorem weekend_mornings_read_back :
    weekendMornings.text = "SATURDAY, sunday, Saturday 9:05 am to12 pM" ∧
      Schedule.ofText (some weekendMornings.text) =
        .window ⟨545, 720, by decide, by decide⟩
          ⟨.ofList [.saturday, .sunday], .saturday, by decide⟩ := by
  have days : listedDays weekendMornings.days =
      ⟨.ofList [.saturday, .sunday], .saturday, by decide⟩ := by
    decide
  have read := weekendMornings.ofText_text
  rw [days, dif_pos (by decide)] at read
  exact ⟨by decide, read⟩

end OpeningHours.Listing
