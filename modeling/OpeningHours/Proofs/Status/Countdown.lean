import OpeningHours.Proofs.Text.Numerals
import OpeningHours.Status.Phrases

/-
What a countdown tells. The phrases that say how long it is until opening or until closing can be
read back: their first two words say what is counted down to, and the words behind these give a span
of time, be it in minutes, as one hour, or in hours with the minutes that remain. However a phrase
puts its span, the span comes to the number of minutes that the phrase was made for. So no two
numbers share a phrase, and no phrase counts down to both opening and closing.
-/

namespace OpeningHours.Phrases

open Text

/-! ### Reading a countdown -/

/-- What is counted down to, and how many minutes are left. -/
inductive Countdown where
  | toOpening (minutes : Int)
  | toClosing (minutes : Int)
  deriving DecidableEq, Repr

/-- The words of a phrase, which stand between single spaces. -/
def words (phrase : String) : List String :=
  (phrase.toList.splitOn ' ').map String.ofList

/-- The whole number that a word denotes, however many digits it has. -/
def number? (word : String) : Option Int :=
  let (sign, digits) := Numeral.splitSign word.toList
  (Numeral.digitValues? digits).map fun values => sign * Numeral.ofDigitValues values

/-- How many of a unit a word such as `3h` speaks of. -/
def count? (unit : Char) (word : String) : Option Int :=
  if word.toList.getLast? = some unit then number? (String.ofList word.toList.dropLast) else none

/-- The minutes that the words of a span of time come to. -/
def spanMinutes? : List String → Option Int
  | [count, "min"] => number? count
  | [count, "hour"] => (number? count).map (60 * ·)
  | [hours] => (count? 'h' hours).map (60 * ·)
  | [hours, minutes] => do return 60 * (← count? 'h' hours) + (← count? 'm' minutes)
  | _ => none

/-- What the first two words of a phrase count down to. -/
def aim? : String → String → Option (Int → Countdown)
  | "Opens", "in" => some .toOpening
  | "Closes", "in" => some .toClosing
  | "Open", "for" => some .toClosing
  | _, _ => none

/-- The countdown that a phrase tells, if it tells one. -/
def countdown? (phrase : String) : Option Countdown :=
  match words phrase with
  | first :: second :: span => do return (← aim? first second) (← spanMinutes? span)
  | _ => none

/-! ### Words -/

theorem words_append_space (front rest : String) :
    words (front ++ " " ++ rest) = words front ++ words rest := by
  have text : (front ++ " " ++ rest).toList = front.toList ++ ' ' :: rest.toList := by
    rw [String.toList_append, String.toList_append, List.append_assoc]
    rfl
  rw [words, text, List.splitOn, List.splitOnP_append_cons _ _ (by decide), List.map_append]
  rfl

theorem words_of_unspaced {word : String} (unspaced : ' ' ∉ word.toList) :
    words word = [word] := by
  have apart : ∀ char ∈ word.toList, (char == ' ') = false := by
    intro char member
    rw [beq_eq_false_iff_ne]
    rintro rfl
    exact unspaced member
  rw [words, List.splitOn, List.splitOnP_eq_singleton apart, List.map_singleton,
    String.ofList_toList]

/-! ### Numbers and units -/

theorem space_not_mem_toText (number : Int) : ' ' ∉ (Numeral.toText number).toList := by
  have digits : ' ' ∉ Numeral.ofNat number.natAbs := fun member =>
    absurd (List.all_eq_true.mp (Numeral.ofNat_all_isDigit _) _ member) (by decide)
  rw [Numeral.toText, String.toList_ofList, Numeral.ofInt]
  split
  · exact List.not_mem_cons_of_ne_of_not_mem (by decide) digits
  · exact digits

/-- A written number denotes itself. -/
theorem number?_toText (number : Int) : number? (Numeral.toText number) = some number := by
  have digits := Numeral.all_isDigit_of_ascii (Numeral.ofNat_all_isDigit number.natAbs)
  have values := Numeral.digitValues?_of_all_digits _ (Numeral.ofNat_ne_nil number.natAbs)
    (List.all_eq_true.mp digits)
  have size := Numeral.value_ofNat number.natAbs
  rw [Numeral.value] at size
  rw [number?, Numeral.toText, String.toList_ofList, Numeral.ofInt]
  by_cases negative : number < 0
  · have signed : -1 * (number.natAbs : Int) = number := by omega
    simp only [if_pos negative, Numeral.splitSign, values, Option.map_some, size, signed]
  · have signed : 1 * (number.natAbs : Int) = number := by omega
    simp only [if_neg negative, Numeral.splitSign_of_digits digits, values, Option.map_some, size,
      signed]

/-- A number with a unit behind it. -/
def measure (number : Int) (unit : Char) : String :=
  Numeral.toText number ++ String.singleton unit

theorem count?_measure (number : Int) (unit : Char) :
    count? unit (measure number unit) = some number := by
  have text : (measure number unit).toList = (Numeral.toText number).toList ++ [unit] := by
    rw [measure, String.toList_append, String.toList_singleton]
  rw [count?, text, if_pos List.getLast?_concat, List.dropLast_concat, String.ofList_toList,
    number?_toText]

theorem words_measure (number : Int) {unit : Char} (unspaced : unit ≠ ' ') :
    words (measure number unit) = [measure number unit] := by
  refine words_of_unspaced fun member => ?_
  rw [measure, String.toList_append, List.mem_append, String.toList_singleton,
    List.mem_singleton] at member
  rcases member with inNumber | isUnit
  · exact space_not_mem_toText number inNumber
  · exact unspaced isUnit.symm

/-! ### Spans of time -/

theorem spanMinutes?_minutes (count : Int) :
    spanMinutes? (words (Numeral.toText count ++ " min")) = some count := by
  have split : words (Numeral.toText count ++ " min") = [Numeral.toText count, "min"] := by
    rw [show " min" = " " ++ "min" from rfl, ← String.append_assoc, words_append_space,
      words_of_unspaced (space_not_mem_toText count)]
    rfl
  rw [split]
  exact number?_toText count

theorem spanMinutes?_one_hour : spanMinutes? (words "1 hour") = some 60 := by
  decide

/-- A word that counts minutes is neither of the words that stand alone behind a number. -/
theorem measure_minutes_ne (minutes : Int) :
    measure minutes 'm' ≠ "min" ∧ measure minutes 'm' ≠ "hour" := by
  have counts := count?_measure minutes 'm'
  constructor
  · intro same
    rw [same] at counts
    exact absurd counts (by simp [show count? 'm' "min" = none by decide])
  · intro same
    rw [same] at counts
    exact absurd counts (by simp [show count? 'm' "hour" = none by decide])

/-- Hours and minutes in short come to all their minutes, also where none are shown. -/
theorem spanMinutes?_hoursAndMinutes (hours : Int) {minutes : Int} (natural : 0 ≤ minutes) :
    spanMinutes? (words (hoursAndMinutes hours minutes)) = some (60 * hours + minutes) := by
  rw [hoursAndMinutes]
  by_cases some : 0 < minutes
  · have text : Numeral.toText hours ++ "h " ++ Numeral.toText minutes ++ "m" =
        measure hours 'h' ++ " " ++ measure minutes 'm' := by
      rw [show "h " = String.singleton 'h' ++ " " from rfl,
        show "m" = String.singleton 'm' from rfl, measure, measure]
      simp only [String.append_assoc]
    rw [if_pos some, text, words_append_space, words_measure hours (by decide),
      words_measure minutes (by decide), List.singleton_append, spanMinutes?, count?_measure,
      count?_measure]
    · rfl
    · exact (measure_minutes_ne minutes).1
    · exact (measure_minutes_ne minutes).2
  · obtain rfl : minutes = 0 := by omega
    have text : Numeral.toText hours ++ "h" = measure hours 'h' := rfl
    rw [if_neg some, text, words_measure hours (by decide), spanMinutes?, count?_measure,
      Option.map_some, Int.add_zero]

/-! ### Phrases -/

/-- Two words with an aim put it before the span that follows them. -/
theorem countdown?_append {front first second : String} {aim : Int → Countdown}
    (split : words front = [first, second]) (known : aim? first second = some aim)
    (span : String) :
    countdown? (front ++ " " ++ span) = (spanMinutes? (words span)).map aim := by
  rw [countdown?, words_append_space, split]
  simp only [List.cons_append, List.nil_append, known, Option.bind_eq_bind, Option.bind_some]
  cases spanMinutes? (words span) <;> rfl

theorem countdown?_opens_in (span : String) :
    countdown? ("Opens in " ++ span) = (spanMinutes? (words span)).map .toOpening :=
  countdown?_append (show words "Opens in" = ["Opens", "in"] by decide) rfl span

theorem countdown?_closes_in (span : String) :
    countdown? ("Closes in " ++ span) = (spanMinutes? (words span)).map .toClosing :=
  countdown?_append (show words "Closes in" = ["Closes", "in"] by decide) rfl span

theorem countdown?_open_for (span : String) :
    countdown? ("Open for " ++ span) = (spanMinutes? (words span)).map .toClosing :=
  countdown?_append (show words "Open for" = ["Open", "for"] by decide) rfl span

/-- How long it is until opening is read off the phrase for it. -/
theorem countdown?_untilOpen (minutes : Int) :
    countdown? (untilOpen minutes) = some (.toOpening minutes) := by
  have natural : 0 ≤ minutes % 60 := Int.emod_nonneg minutes (by decide)
  have whole : 60 * (minutes / 60) + minutes % 60 = minutes := Int.mul_ediv_add_emod minutes 60
  simp only [untilOpen]
  split
  · next noHour =>
    have rest : minutes % 60 = minutes := by omega
    rw [rest, String.append_assoc, countdown?_opens_in, spanMinutes?_minutes, Option.map_some]
  split
  · next oneHour =>
    obtain rfl : minutes = 60 := by omega
    exact (countdown?_opens_in "1 hour").trans (congrArg _ spanMinutes?_one_hour)
  · rw [countdown?_opens_in, spanMinutes?_hoursAndMinutes _ natural, whole, Option.map_some]

/-- How long it is until closing is read off the phrase for it. -/
theorem countdown?_untilClose (minutes : Int) :
    countdown? (untilClose minutes) = some (.toClosing minutes) := by
  have natural : 0 ≤ minutes % 60 := Int.emod_nonneg minutes (by decide)
  have whole : 60 * (minutes / 60) + minutes % 60 = minutes := Int.mul_ediv_add_emod minutes 60
  simp only [untilClose]
  split
  · rw [String.append_assoc, countdown?_closes_in, spanMinutes?_minutes, Option.map_some]
  split
  · next oneHour =>
    obtain rfl : minutes = 60 := by omega
    exact (countdown?_closes_in "1 hour").trans (congrArg _ spanMinutes?_one_hour)
  next notOneHour =>
  split
  · next hour =>
    -- Beyond a full hour some minutes remain, so this is one hour and these minutes in short.
    have short : "Closes in 1h " ++ Numeral.toText (minutes % 60) ++ "m" =
        "Closes in " ++ hoursAndMinutes (minutes / 60) (minutes % 60) := by
      rw [hoursAndMinutes, if_pos (by omega), hour]
      rfl
    rw [short, countdown?_closes_in, spanMinutes?_hoursAndMinutes _ natural, whole,
      Option.map_some]
  · rw [countdown?_open_for, spanMinutes?_hoursAndMinutes _ natural, whole, Option.map_some]

example : untilClose 200 = "Open for 3h 20m" ∧
    countdown? "Open for 3h 20m" = some (.toClosing 200) := by
  decide

/-- Different numbers of minutes have different phrases, phrases until opening differ from phrases
until closing, and the number of minutes is read off either. -/
theorem countdowns_tell_their_minutes (first second : Int) :
    (untilOpen first = untilOpen second ↔ first = second) ∧
      (untilClose first = untilClose second ↔ first = second) ∧
      untilOpen first ≠ untilClose second ∧
      countdown? (untilOpen first) = some (.toOpening first) ∧
      countdown? (untilClose first) = some (.toClosing first) := by
  refine ⟨⟨fun same => ?_, congrArg untilOpen⟩, ⟨fun same => ?_, congrArg untilClose⟩,
    fun same => ?_, countdown?_untilOpen first, countdown?_untilClose first⟩
  · have told := congrArg countdown? same
    rw [countdown?_untilOpen, countdown?_untilOpen] at told
    exact Countdown.toOpening.inj (Option.some.inj told)
  · have told := congrArg countdown? same
    rw [countdown?_untilClose, countdown?_untilClose] at told
    exact Countdown.toClosing.inj (Option.some.inj told)
  · have told := congrArg countdown? same
    rw [countdown?_untilOpen, countdown?_untilClose] at told
    cases told

end OpeningHours.Phrases
