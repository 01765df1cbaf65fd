import Mathlib.Data.List.Nodup
import OpeningHours.Proofs.Listing.Margin
import OpeningHours.Proofs.Listing.PrintedClock

/-
A listing that announces daily times and gives printed times of day for meals reads back as these
meals, in whatever order they stand and whatever else is said between them, as long as no other text
speaks of a meal. Each meal is searched for by its name. No name of a meal begins with a letter that
stands further on in one, and none holds the last letter of a printed time or the colon of the
announcement, so a name occurs only where it was written; and what follows it there is its time.
-/

namespace OpeningHours.Listing

open Text

/-! ### Clauses for meals -/

/-- A meal of a listing as it is written: its name, a printed minute of the day, and more text. The
letters of the name and the minute may be in any case. -/
structure MealClause where
  meal : Meal
  minute : Nat
  name : String
  clock : String
  filler : String
  name_prints : SameLetters name meal.name
  clock_prints : SameLetters clock (Phrases.minuteOfDay minute)
  minute_le : minute ≤ lastMinuteOfDay
  filler_mealless : ∀ meal : Meal, occursIn meal.name.toList (lower filler.toList) = false

namespace MealClause

variable (clause : MealClause)

/-- The clause as a text. -/
def text : String :=
  clause.name ++ " " ++ clause.clock ++ clause.filler

/-- What the clause says. -/
def served : MealTime :=
  ⟨clause.meal, clause.minute, clause.minute_le⟩

/-- The clause in lower case. -/
def lowText : List Char :=
  clause.meal.name.toList ++
    ([' '] ++ ((printedClock clause.minute).text ++ lower clause.filler.toList))

theorem lower_text : lower clause.text.toList = clause.lowText := by
  have ascii : ∀ meal : Meal, meal.name.toList.all (fun char => char.toNat < 0x80) = true ∧
      meal.name.toList.map Char.toLower = meal.name.toList := by
    intro meal
    cases meal <;> decide
  have name : lower clause.name.toList = clause.meal.name.toList := by
    rw [lower_of_sameLetters clause.name_prints (ascii _).1, (ascii _).2]
  have clock : lower clause.clock.toList = (printedClock clause.minute).text := by
    rw [lower_of_sameLetters clause.clock_prints (minuteOfDay_ascii _), printedClock_text]
  have space : lower " ".toList = [' '] := by decide
  simp only [text, String.toList_append, lower_append, name, clock, space, lowText,
    List.append_assoc]

/-! ### Where the names of meals occur -/

theorem lowText_begins (meal : Meal) :
    ∃ letter rest, clause.lowText = letter :: rest ∧ letter ∉ meal.name.toList.tail := by
  have apart : ∀ meal other : Meal,
      ∃ letter rest, other.name.toList = letter :: rest ∧ letter ∉ meal.name.toList.tail := by
    intro meal other
    cases other <;> cases meal <;> exact ⟨_, _, rfl, by decide⟩
  obtain ⟨letter, rest, name, outside⟩ := apart meal clause.meal
  exact ⟨letter, rest ++ _, by rw [lowText, name]; rfl, outside⟩

/-- A printed time of day ends with a letter that no name of a meal holds. -/
theorem printedClock_ends (minute : Nat) :
    ∃ front, (printedClock minute).text = front ++ ['m'] ∧ front.all isRangeChar = true := by
  obtain ⟨front, text⟩ : ∃ front, (printedClock minute).text = front ++ ['m'] := by
    by_cases afternoon : 12 ≤ minute / 60
    · refine ⟨(printedClock minute).figures.text ++ [' ', 'p'], ?_⟩
      simp [WrittenClock.text, printedClock, afternoon, markText]
    · refine ⟨(printedClock minute).figures.text ++ [' ', 'a'], ?_⟩
      simp [WrittenClock.text, printedClock, afternoon, markText]
  have all := (printedClock minute).text_all
  rw [text, List.all_append, Bool.and_eq_true] at all
  exact ⟨front, text, all.1⟩

/-- A clause speaks of its own meal only. -/
theorem occursIn_lowText {meal : Meal} (other : clause.meal ≠ meal) :
    occursIn meal.name.toList clause.lowText = false := by
  have shape : ∀ meal other : Meal, other ≠ meal →
      occursIn meal.name.toList other.name.toList = false ∧
        meal.name.toList.any (fun char => !isRangeChar char) = true ∧
        ' ' ∉ meal.name.toList ∧ 'm' ∉ meal.name.toList := by
    intro meal other
    cases other <;> cases meal <;> decide
  obtain ⟨notName, foreign, noSpace, noM⟩ := shape meal clause.meal other
  obtain ⟨front, clock, all⟩ := printedClock_ends clause.minute
  have parts : clause.lowText =
      clause.meal.name.toList ++ ' ' :: (front ++ 'm' :: lower clause.filler.toList) := by
    rw [lowText, clock]
    simp
  rw [parts, occursIn_append_cons _ _ _ _ noSpace, occursIn_append_cons _ _ _ _ noM, notName,
    occursIn_eq_false_of_foreign all foreign, clause.filler_mealless]
  rfl

/-- A clause is found where no other text speaks of its meal before it. -/
theorem search_meal {front : List Char}
    (first : occursIn clause.meal.name.toList front = false) (rest : List Char) :
    (Scan.search (mealScan clause.meal) (front ++ (clause.lowText ++ rest))).map (·.value) =
      some (printedClock clause.minute).meant := by
  have once : ∀ meal : Meal, ∃ letter more, meal.name.toList.dropLast = letter :: more ∧
      letter ∉ meal.name.toList.tail ∧
        occursIn meal.name.toList meal.name.toList.dropLast = false := by
    intro meal
    cases meal <;> exact ⟨_, _, rfl, by decide, by decide⟩
  obtain ⟨letter, more, begins, outside, incomplete⟩ := once clause.meal
  have notEarlier :
      occursIn clause.meal.name.toList (front ++ clause.meal.name.toList.dropLast) = false := by
    rw [begins] at incomplete ⊢
    rw [occursIn_append_of_not_mem_tail outside, first, incomplete]
    rfl
  have text : clause.lowText ++ rest = clause.meal.name.toList ++
      ([' '] ++ ((printedClock clause.minute).text ++ (lower clause.filler.toList ++ rest))) := by
    rw [lowText]
    simp only [List.append_assoc]
  have unblank : ((printedClock clause.minute).text ++
      (lower clause.filler.toList ++ rest)).head?.any isBlank = false :=
    Scan.head?_any_eq_false (fun _ => isBlank_of_isDigit)
      ((printedClock clause.minute).text_begins _)
  rw [text]
  exact Scan.search_word_of_reads notEarlier
    ((Scan.Reads.run1 (List.cons_ne_nil ' ' []) (by decide) unblank).andThen
      ((printedClock clause.minute).reads_marked rfl _))

end MealClause

/-- The first clause for a meal gives its time. -/
theorem mealTime?_clauses {meal : Meal} {front : List Char}
    (absent : occursIn meal.name.toList front = false) (clauses : List MealClause) :
    mealTime? (front ++ clauses.flatMap (·.lowText)) meal =
      (clauses.find? fun clause => decide (clause.meal = meal)).map (·.served) := by
  induction clauses generalizing front with
  | nil =>
    rw [List.flatMap_nil, List.append_nil, mealTime?_eq_bind, mealScan,
      Scan.search_word_eq_none _ _ front absent]
    rfl
  | cons clause clauses inductionHypothesis =>
    by_cases same : clause.meal = meal
    · subst same
      rw [List.flatMap_cons, mealTime?_eq_bind, clause.search_meal absent, Option.bind_some,
        printedClock_minuteOfDay? clause.minute_le, Option.bind_some, dif_pos clause.minute_le,
        List.find?_cons, decide_eq_true rfl]
      rfl
    · obtain ⟨letter, rest, begins, outside⟩ := clause.lowText_begins meal
      have onward : occursIn meal.name.toList (front ++ clause.lowText) = false := by
        rw [begins, occursIn_append_of_not_mem_tail outside, ← begins, absent,
          clause.occursIn_lowText same]
        rfl
      rw [List.flatMap_cons, ← List.append_assoc, inductionHypothesis onward,
        List.find?_cons_of_neg (by simpa using same)]

/-! ### Listings for meals -/

/-- A listing that announces daily times and then speaks of one or more meals, of each of them once.
-/
structure MealListing where
  announcement : String
  lead : String
  clauses : List MealClause
  announces : SameLetters announcement "Daily:"
  lead_mealless : ∀ meal : Meal, occursIn meal.name.toList (lower lead.toList) = false
  clauses_written : clauses ≠ []
  meals_differ : (clauses.map (·.meal)).Nodup

namespace MealListing

variable (listing : MealListing)

/-- The listing as a text. -/
def text : String :=
  listing.announcement ++ listing.lead ++ String.join (listing.clauses.map (·.text))

/-- What comes before the clauses, in lower case. -/
def lowFront : List Char :=
  "daily:".toList ++ lower listing.lead.toList

theorem lowFront_eq : listing.lowFront = "daily:".toList ++ lower listing.lead.toList := rfl

theorem lower_text :
    lower listing.text.toList = listing.lowFront ++ listing.clauses.flatMap (·.lowText) := by
  have announcement : lower listing.announcement.toList = "daily:".toList := by
    rw [lower_of_sameLetters listing.announces (by decide)]
    decide
  have joined (clauses : List MealClause) :
      lower (String.join (clauses.map (·.text))).toList = clauses.flatMap (·.lowText) := by
    induction clauses with
    | nil => rfl
    | cons clause clauses inductionHypothesis =>
      rw [List.map_cons, String.join_cons, String.toList_append, lower_append, clause.lower_text,
        inductionHypothesis, List.flatMap_cons]
  rw [text, String.toList_append, String.toList_append, lower_append, lower_append, announcement,
    joined listing.clauses, lowFront_eq]

theorem lowFront_mealless (meal : Meal) : occursIn meal.name.toList listing.lowFront = false := by
  have shape : ∀ meal : Meal, ':' ∉ meal.name.toList ∧
      occursIn meal.name.toList "daily".toList = false := by
    intro meal
    cases meal <;> decide
  obtain ⟨noColon, notAnnounced⟩ := shape meal
  have parts : listing.lowFront = "daily".toList ++ ':' :: lower listing.lead.toList := rfl
  rw [parts, occursIn_append_cons _ _ _ _ noColon, notAnnounced, listing.lead_mealless]
  rfl

/-- The time found for a meal is the one that its clause gives. -/
theorem mealTime?_eq_some_iff (meal : Meal) (time : MealTime) :
    mealTime? (lower listing.text.toList) meal = some time ↔
      ∃ clause ∈ listing.clauses, clause.meal = meal ∧ clause.served = time := by
  rw [listing.lower_text, mealTime?_clauses (listing.lowFront_mealless meal),
    Option.map_eq_some_iff]
  constructor
  · rintro ⟨clause, found, served⟩
    exact ⟨clause, List.mem_of_find?_eq_some found, by simpa using List.find?_some found,
      served⟩
  · rintro ⟨clause, member, same, served⟩
    -- The first clause for the meal is this one, since no two clauses are for one meal.
    cases found : listing.clauses.find? fun clause => decide (clause.meal = meal) with
    | none =>
      exact absurd (decide_eq_true same) (List.find?_eq_none.mp found clause member)
    | some first =>
      have ofMeal : first.meal = meal := by simpa using List.find?_some found
      have only : first = clause :=
        List.inj_on_of_nodup_map listing.meals_differ (List.mem_of_find?_eq_some found) member
          (ofMeal.trans same.symm)
      exact ⟨first, rfl, only ▸ served⟩

/-- A listing for meals reads back as the meals of its clauses with their minutes, in the order of
the day, if it does not say that it is always open or closed. -/
theorem meals_read_back
    (noState : anyOccursIn (roundTheClockPhrases ++ closedPhrases) (lower listing.text.toList) =
      false) :
    ∃ times, Schedule.ofText (some listing.text) = .meals times ∧
      (times.map (·.meal)).Sublist Meal.all ∧
      ∀ time, time ∈ times ↔ ∃ clause ∈ listing.clauses, clause.served = time := by
  have begins : lower listing.text.toList =
      "daily:".toList ++ (lower listing.lead.toList ++ listing.clauses.flatMap (·.lowText)) := by
    rw [listing.lower_text, lowFront_eq, List.append_assoc]
  have announced : anyOccursIn dailyPhrases (lower listing.text.toList) = true := by
    refine List.any_eq_true.mpr ⟨"daily:".toList, by decide, ?_⟩
    rw [begins, occursIn_iff]
    exact (List.prefix_append _ _).isInfix
  have unblank : allBlank listing.text.toList = false := by
    refine allBlank_eq_false_of_mem_lower ?_ (by decide : isBlank 'd' = false)
    rw [begins]
    exact List.mem_append_left _ (by decide)
  obtain ⟨clause, member⟩ := List.exists_mem_of_ne_nil _ listing.clauses_written
  have given : (mealTime? (lower listing.text.toList) clause.meal).isSome = true :=
    Option.isSome_iff_exists.mpr
      ⟨clause.served, (listing.mealTime?_eq_some_iff _ _).mpr ⟨clause, member, rfl, rfl⟩⟩
  rw [anyOccursIn, List.any_append, Bool.or_eq_false_iff] at noState
  refine ⟨Meal.all.filterMap (mealTime? (lower listing.text.toList)), ?_,
    mealTimes_sublist _ Meal.all, fun time => ?_⟩
  · rw [Schedule.ofText, schedule_of_unblank unblank, readRoundTheClock_eq_none noState.1,
      readClosed_eq_none noState.2, readMeals_of_announced announced given]
    rfl
  · rw [List.mem_filterMap]
    constructor
    · rintro ⟨meal, _, found⟩
      obtain ⟨clause, member, _, served⟩ := (listing.mealTime?_eq_some_iff _ _).mp found
      exact ⟨clause, member, served⟩
    · rintro ⟨clause, member, served⟩
      have known : clause.meal ∈ Meal.all := by cases clause.meal <;> decide
      exact ⟨clause.meal, known,
        (listing.mealTime?_eq_some_iff _ _).mpr ⟨clause, member, rfl, served⟩⟩

end MealListing

/-- Dinner before breakfast, and between them a range of clock times on another day. -/
def dinnerFirst : MealListing where
  announcement := "Daily:"
  lead := " "
  clauses := [
    { meal := .dinner
      minute := 1050
      name := "Dinner"
      clock := "5:30 PM"
      filler := "; buffet on Sunday 11am-2pm; "
      name_prints := by decide
      clock_prints := by decide
      minute_le := Nat.le_of_ble_eq_true rfl
      filler_mealless := fun meal => by cases meal <;> decide },
    { meal := .breakfast
      minute := 0
      name := "breakfast"
      clock := "12 am"
      filler := ""
      name_prints := by decide
      clock_prints := by decide
      minute_le := Nat.le_of_ble_eq_true rfl
      filler_mealless := fun meal => by cases meal <;> decide }]
  announces := by decide
  lead_mealless := fun meal => by cases meal <;> decide
  clauses_written := by decide
  meals_differ := by decide

theorem dinner_first_reads_back :
    dinnerFirst.text =
        "Daily: Dinner 5:30 PM; buffet on Sunday 11am-2pm; breakfast 12 am" ∧
      anyOccursIn (roundTheClockPhrases ++ closedPhrases) (lower dinnerFirst.text.toList) = false ∧
      ∃ times, Schedule.ofText (some dinnerFirst.text) = .meals times ∧
        (times.map (·.meal)).Sublist Meal.all ∧
        ∀ time, time ∈ times ↔ ∃ clause ∈ dinnerFirst.clauses, clause.served = time :=
  ⟨by decide, by decide +kernel, dinnerFirst.meals_read_back (by decide +kernel)⟩

end OpeningHours.Listing
