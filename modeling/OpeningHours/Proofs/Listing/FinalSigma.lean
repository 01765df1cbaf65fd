import OpeningHours.Proofs.Listing.Margin
import OpeningHours.Proofs.Text.Parallel
import OpeningHours.Settings

/-
The two small forms of the letter sigma. Which of them a capital sigma becomes depends on where in a
word it stands, and lower case here has but one. No reading tells the two forms apart: both are
letters of a word, and nothing that is looked for has either of them. So a text comes to the same
schedule and a setting to the same value, whichever form stands for a capital sigma at each place.
-/

namespace OpeningHours

open Text

/-! ### The two forms -/

namespace Text

/-- The small form of sigma that stands within a word, and the one that stands at its end. -/
def smallSigmas : List Char := ['σ', 'ς']

/-- The characters are the same, or both are small forms of sigma. -/
def SigmaAlike (one other : Char) : Prop :=
  one = other ∨ (one ∈ smallSigmas ∧ other ∈ smallSigmas)

/-- The second text is the first one in lower case, where each capital sigma becomes one of its
small forms. -/
inductive LowersTo : List Char → List Char → Prop
  | nil : LowersTo [] []
  | cons (char : Char) {text lowered : List Char} (rest : LowersTo text lowered) :
      LowersTo (char :: text) (lowerChar char ++ lowered)
  | finalSigma {text lowered : List Char} (rest : LowersTo text lowered) :
      LowersTo ('Σ' :: text) ('ς' :: lowered)

/-- Lower case as it is here is one of the ways. -/
theorem lowersTo_lower (text : List Char) : LowersTo text (lower text) := by
  induction text with
  | nil => exact .nil
  | cons char text inductionHypothesis => exact .cons char inductionHypothesis

theorem SigmaAlike.refl (char : Char) : SigmaAlike char char :=
  .inl rfl

theorem LowersTo.alike {text lowered : List Char} (lowersTo : LowersTo text lowered) :
    List.Forall₂ SigmaAlike lowered (lower text) := by
  induction lowersTo with
  | nil => exact .nil
  | cons char _ inductionHypothesis =>
    exact List.rel_append (List.forall₂_same.mpr fun other _ => .refl other) inductionHypothesis
  | finalSigma _ inductionHypothesis =>
    have small : SigmaAlike 'ς' 'σ' := .inr (by decide)
    exact .cons small inductionHypothesis

theorem overlooks_of_both {holds : Char → Bool} (both : holds 'σ' = holds 'ς') :
    Overlooks SigmaAlike holds := by
  rintro one other (rfl | ⟨oneSmall, otherSmall⟩)
  · rfl
  · rcases List.mem_pair.mp oneSmall with rfl | rfl <;>
      rcases List.mem_pair.mp otherSmall with rfl | rfl
    · rfl
    · exact both
    · exact both.symm
    · rfl

theorem separates_of_neither {holds : Char → Bool}
    (neither : smallSigmas.any holds = false) : Separates SigmaAlike holds := by
  rintro one other (rfl | ⟨oneSmall, -⟩) held
  · rfl
  · exact absurd held (List.any_eq_false.mp neither one oneSmall)

theorem isSingular_of_not_mem {char : Char} (other : char ∉ smallSigmas) :
    IsSingular SigmaAlike char := by
  rintro one another (rfl | ⟨oneSmall, anotherSmall⟩)
  · rfl
  · constructor
    · rintro rfl
      exact absurd oneSmall other
    · rintro rfl
      exact absurd anotherSmall other

/-- No letter of the word is a small form of sigma. -/
def lacksSigma (word : List Char) : Bool :=
  word.all fun char => decide (char ∉ smallSigmas)

theorem isSingular_of_lacksSigma {word : List Char} (lacks : lacksSigma word = true) :
    ∀ char ∈ word, IsSingular SigmaAlike char :=
  fun char member => isSingular_of_not_mem (of_decide_eq_true (List.all_eq_true.mp lacks char member))

end Text

namespace Listing

/-! ### Scans -/

theorem ReadsClocks.sigma : ReadsClocks (Parallel SigmaAlike) where
  digit := .oneChar_parallel (overlooks_of_both (by decide +kernel))
    (separates_of_neither (by decide +kernel))
  letter letter member :=
    have singular := isSingular_of_lacksSigma (by decide) letter member
    .oneChar_parallel singular.overlooks singular.separates
  blank := .run_parallel (overlooks_of_both (by decide +kernel))
  separator :=
    (Scan.Respects.oneChar_parallel (overlooks_of_both (by decide))
      (separates_of_neither (by decide))).andThen fun _ =>
        .run_parallel (overlooks_of_both (by decide))

/-- What is introduced by a word and white space. -/
theorem introduced_sigma {Value : Type} {word : List Char} {scan : Scan Value}
    (lacks : lacksSigma word = true)
    (respects : Scan.Respects (Parallel SigmaAlike) scan) :
    Scan.Respects (Parallel SigmaAlike)
      (.andThen (.word word) fun _ => .andThen (.run1 isBlank) fun _ => scan) := by
  have spaced : Scan.Respects (Parallel SigmaAlike) (.run1 isBlank) :=
    (Scan.Respects.oneChar_parallel (overlooks_of_both (by decide +kernel))
      (separates_of_neither (by decide +kernel))).andThen fun _ => ReadsClocks.sigma.blank
  exact (Scan.Respects.word_parallel (isSingular_of_lacksSigma lacks)).andThen fun _ =>
    spaced.andThen fun _ => respects

theorem dayScan_sigma : Scan.Respects (Parallel SigmaAlike) dayScan := by
  have boundary : Scan.Respects (Parallel SigmaAlike) (.boundary isWordChar) :=
    .boundary_parallel (overlooks_of_both (by decide +kernel))
  have word {read : List Char} (lacks : lacksSigma read = true) :
      Scan.Respects (Parallel SigmaAlike) (.word read) :=
    .word_parallel (isSingular_of_lacksSigma lacks)
  have spellings : dayWords.all (lacksSigma ·.spelling) = true := by decide
  refine boundary.andThen fun _ => ?_
  refine (Scan.Respects.firstOf fun scan member => ?_).andThen fun day => ?_
  · obtain ⟨day, known, rfl⟩ := List.mem_map.mp member
    exact (word (List.all_eq_true.mp spellings day known)).andThen fun _ => .done day
  · have plural : lacksSigma ['s'] = true := by decide
    have dot : lacksSigma ['.'] = true := by decide
    exact (word plural).optional.andThen fun _ => boundary.andThen fun _ =>
      (word dot).optional.andThen fun _ => .done day

theorem dayRangeScan_sigma : Scan.Respects (Parallel SigmaAlike) dayRangeScan := by
  have links : rangeWords.all lacksSigma = true := by decide
  refine dayScan_sigma.andThen fun first => ReadsClocks.sigma.blank.andThen fun _ => ?_
  refine (Scan.Respects.firstOf fun scan member => ?_).andThen fun _ => ?_
  · obtain ⟨word, known, rfl⟩ := List.mem_map.mp member
    exact .word_parallel (isSingular_of_lacksSigma (List.all_eq_true.mp links word known))
  · exact ReadsClocks.sigma.blank.andThen fun _ =>
      dayScan_sigma.andThen fun last => .done (first, last)

/-! ### Readings -/

section

variable {text second : List Char} (alike : List.Forall₂ SigmaAlike text second)

include alike

theorem anyOccursIn_sigma {words : List (List Char)}
    (lack : words.all lacksSigma = true) : anyOccursIn words text = anyOccursIn words second :=
  anyOccursIn_parallel
    (fun word member => isSingular_of_lacksSigma (List.all_eq_true.mp lack word member)) alike

theorem spelledDays_sigma {words : List DayWord}
    (lack : words.all (lacksSigma ·.spelling) = true) :
    spelledDays words text = spelledDays words second := by
  have same : ∀ word ∈ words, occursIn word.spelling text = occursIn word.spelling second :=
    fun word member =>
      occursIn_parallel (isSingular_of_lacksSigma (List.all_eq_true.mp lack word member)) alike
  rw [spelledDays, spelledDays, List.filter_congr same]

theorem applicability?_sigma : applicability? text = applicability? second := by
  rw [applicability?, applicability?, namedDays, namedDays, rangedDays, rangedDays,
    Scan.findAll_parallel dayRangeScan_sigma alike, spelledDays_sigma alike (by decide),
    spelledDays_sigma alike (by decide), anyOccursIn_sigma alike (by decide),
    anyOccursIn_sigma alike (by decide)]

theorem mealTime?_sigma (meal : Meal) : mealTime? text meal = mealTime? second meal := by
  have lacks : lacksSigma meal.name.toList = true := by cases meal <;> decide
  have respects : Scan.Respects (Parallel SigmaAlike) (mealScan meal) :=
    introduced_sigma lacks (markedClockScan_respects .sigma)
  rw [mealTime?, mealTime?, Scan.search_parallel respects alike]

theorem readDailyWindow_sigma : readDailyWindow text = readDailyWindow second := by
  have respects : Scan.Respects (Parallel SigmaAlike) dailyRangeScan :=
    introduced_sigma (by decide)
      (rangeScanWith_respects .sigma (markedClockScan_respects .sigma))
  rw [readDailyWindow, readDailyWindow, Scan.search_parallel respects alike]

theorem readWindow_sigma : readWindow text = readWindow second := by
  have respects : Scan.Respects (Parallel SigmaAlike) timeRangeScan :=
    rangeScanWith_respects .sigma (clockScan_respects .sigma)
  rw [readWindow, readWindow, Scan.search_parallel respects alike, applicability?_sigma alike]

/-- No reading tells the small forms of sigma apart. -/
theorem reading_sigma : ∀ reading ∈ readings, reading text = reading second := by
  simp only [readings, List.forall_mem_cons]
  refine ⟨?_, ?_, ?_, readDailyWindow_sigma alike, readWindow_sigma alike, ?_,
    List.forall_mem_nil _⟩
  · rw [readRoundTheClock, readRoundTheClock, anyOccursIn_sigma alike (by decide)]
  · rw [readClosed, readClosed, anyOccursIn_sigma alike (by decide)]
  · have times : mealTime? text = mealTime? second := funext fun meal => mealTime?_sigma alike meal
    rw [readMeals, readMeals, anyOccursIn_sigma alike (by decide), times]
  · rw [readDayOnly, readDayOnly, anyOccursIn_sigma alike (by decide)]

end

/-- A text that is not blank comes to the same schedule, whichever small form stands for each
capital sigma in it. -/
theorem schedule_of_lowersTo {text lowered : List Char} (unblank : allBlank text = false)
    (lowersTo : LowersTo text lowered) :
    schedule text = (readings.findSome? (· lowered)).getD .unrecognized := by
  have made : readings.map (· lowered) = readings.map (· (lower text)) :=
    List.map_congr_left (reading_sigma lowersTo.alike)
  have same : readings.findSome? (· lowered) = readings.findSome? (· (lower text)) := by
    have first (text : List Char) :
        readings.findSome? (· text) = (readings.map (· text)).findSome? id := by
      rw [List.findSome?_map]
      rfl
    rw [first, first, made]
  rw [schedule, unblank, if_neg Bool.false_ne_true, same]
  cases readings.findSome? (· (lower text)) <;> rfl

end Listing

/-- The setting is on or off, whichever small form stands for each capital sigma in its value. -/
theorem Environment.logsUnrecognized_of_lowersTo {value : String} {lowered : List Char}
    (timezone : Option String) (lowersTo : LowersTo (strip value.toList) lowered) :
    logsUnrecognized ⟨timezone, some value⟩ = true ↔ lowered ∈ affirmatives := by
  have lack : affirmatives.all lacksSigma = true := by decide
  have same : ∀ word ∈ affirmatives, lowered = word ↔ lower (strip value.toList) = word :=
    fun word member => eq_word_iff_parallel
      (isSingular_of_lacksSigma (List.all_eq_true.mp lack word member)) lowersTo.alike
  rw [logsUnrecognized, decide_eq_true_iff]
  constructor
  · intro member
    exact (same _ member).mpr rfl ▸ member
  · intro member
    exact (same _ member).mp rfl ▸ member

end OpeningHours
