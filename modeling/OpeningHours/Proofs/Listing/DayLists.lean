import OpeningHours.Proofs.Listing.Margin
import OpeningHours.Proofs.Listing.PrintedListing

/-
A list of days denotes the days of its items and no others. An item is the name of a day, one of the
two short names of the weekend, or a range between two spelled days, and commas stand between the
items. The commas part the list into clauses, so that only a single item has to be looked at. In a
range four sources add days: the range itself, and besides the names, the short names and the
phrases for Monday to Friday that happen to stand in its text. What these add are the two ends of
the range or, between Monday and Friday, the days that it holds anyway.
-/

namespace OpeningHours

/-! ### The way from one day to another -/

/-- The days met on the way forward from one day to another, both of them included. -/
inductive Weekday.MetOnWay (first last : Weekday) : Weekday → Prop
  | start : MetOnWay first last first
  | onward {day : Weekday} (met : MetOnWay first last day) (before : day ≠ last) :
      MetOnWay first last (day.later 1)

theorem Weekday.daysTo_later (day : Weekday) {days : Nat} (small : days < 7) :
    day.daysTo (day.later days) = days := by
  have bound := day.index_lt_seven
  rw [daysTo, index_later]
  omega

theorem DaySet.mem_fromTo (first last day : Weekday) :
    day ∈ fromTo first last ↔ ∃ days ≤ first.daysTo last, first.later days = day := by
  simp only [fromTo, mem_ofList, List.mem_map, List.mem_range, Nat.lt_add_one_iff]

/-- A range holds exactly the days met on the way. -/
theorem DaySet.mem_fromTo_iff_metOnWay (first last day : Weekday) :
    day ∈ fromTo first last ↔ Weekday.MetOnWay first last day := by
  have small : first.daysTo last < 7 := Nat.mod_lt _ (by decide)
  rw [mem_fromTo]
  constructor
  · rintro ⟨days, within, rfl⟩
    induction days with
    | zero =>
      rw [Weekday.later_zero]
      exact .start
    | succ days inductionHypothesis =>
      have before : first.later days ≠ last := by
        rintro rfl
        rw [Weekday.daysTo_later first (by omega)] at within
        omega
      rw [← Weekday.later_later]
      exact .onward (inductionHypothesis (by omega)) before
  · intro met
    induction met with
    | start => exact ⟨0, Nat.zero_le _, Weekday.later_zero first⟩
    | onward _ before inductionHypothesis =>
      obtain ⟨days, within, rfl⟩ := inductionHypothesis
      have short : days ≠ first.daysTo last := by
        rintro rfl
        exact before (Weekday.later_daysTo first last)
      exact ⟨days + 1, by omega, (Weekday.later_later first days 1).symm⟩

namespace Listing

open Text

/-! ### Items of a list -/

/-- The numbers of letters to which the name of a day may be cut short in a range. -/
def cutLengths : Weekday → List Nat
  | .tuesday => [3, 4]
  | .thursday => [3, 4, 5]
  | _ => [3]

/-- The spellings of a day in a range: its name, and its name cut short. -/
def spellingsOf (day : Weekday) : List (List Char) :=
  lowerName day :: (cutLengths day).map (lowerName day).take

/-- The ending of a word in the plural. -/
def pluralEnding (plural : Bool) : List Char :=
  if plural then ['s'] else []

/-- A day as it is spelled in a range, perhaps in the plural, perhaps with a dot. -/
structure SpelledDay where
  day : Weekday
  spelling : List Char
  plural : Bool
  dotted : Bool
  known : spelling ∈ spellingsOf day

def SpelledDay.text (spelled : SpelledDay) : List Char :=
  spelled.spelling ++ pluralEnding spelled.plural ++ if spelled.dotted then ['.'] else []

/-- The dashes that link the days of a range. -/
def dashes : List (List Char) :=
  [['-'], ['–']]

/-- The words that link the days of a range. -/
def linkingWords : List (List Char) :=
  ["to".toList, "through".toList, "thru".toList]

/-- What stands between the two days of a range: a dash, with or without white space around it, or a
word between white space. -/
structure RangeLink where
  before : List Char
  word : List Char
  after : List Char
  before_blank : allBlank before = true
  after_blank : allBlank after = true
  known : word ∈ dashes ∨ word ∈ linkingWords ∧ before ≠ [] ∧ after ≠ []

def RangeLink.text (link : RangeLink) : List Char :=
  link.before ++ (link.word ++ link.after)

/-- An item of a list of days. -/
inductive DayItem where
  | name (day : Weekday) (plural : Bool)
  | weekend (day : Weekday) (isWeekend : day = .saturday ∨ day = .sunday)
  | range (first : SpelledDay) (link : RangeLink) (last : SpelledDay)

namespace DayItem

def text : DayItem → List Char
  | name day plural => lowerName day ++ pluralEnding plural
  | weekend day _ => (lowerName day).take 3
  | range first link last => first.text ++ (link.text ++ last.text)

/-- The day is one of those that the item names. -/
def Names (other : Weekday) : DayItem → Prop
  | name day _ => other = day
  | weekend day _ => other = day
  | range first _ last => Weekday.MetOnWay first.day last.day other

end DayItem

/-- The text is a list of the items, with commas between them and perhaps white space around the
commas. -/
inductive IsDayList : List DayItem → List Char → Prop
  | single (item : DayItem) : IsDayList [item] item.text
  | more (item : DayItem) {before after text : List Char} {items : List DayItem}
      (beforeBlank : allBlank before = true) (afterBlank : allBlank after = true)
      (onward : IsDayList items text) :
      IsDayList (item :: items) (item.text ++ before ++ ',' :: (after ++ text))

/-! ### What a spelled day reads -/

/-- A spelled day that stands alone is read to its end, by preference as a spelling of its day. -/
theorem dayScan_alone : ∀ day : Weekday, ∀ spelling ∈ spellingsOf day, ∀ plural dotted : Bool,
    ((dayScan ⟨none, spelling ++ pluralEnding plural ++ if dotted then ['.'] else []⟩).head?.map
      fun way => (way.1.day, way.2.after)) = some (day, []) := by
  intro day
  cases day <;> decide +kernel

/-- What occurs in a spelled day is a spelling of that day, and neither a hyphen nor a phrase for
several days. -/
theorem spelled_says_day : ∀ day : Weekday, ∀ spelling ∈ spellingsOf day, ∀ plural dotted : Bool,
    (∀ word ∈ dayWords,
      occursIn word.spelling (spelling ++ pluralEnding plural ++ if dotted then ['.'] else []) =
        true → word.day = day) ∧
    '-' ∉ (spelling ++ pluralEnding plural ++ if dotted then ['.'] else []) ∧
    occursIn "weekday".toList (spelling ++ pluralEnding plural ++ if dotted then ['.'] else []) =
      false := by
  intro day
  cases day <;> decide +kernel

theorem namedDays_name (day : Weekday) (plural : Bool) :
    namedDays (lowerName day ++ pluralEnding plural) = .ofList [day] := by
  cases day <;> cases plural <;> decide +kernel

theorem namedDays_weekend (day : Weekday) (isWeekend : day = .saturday ∨ day = .sunday) :
    namedDays ((lowerName day).take 3) = .ofList [day] := by
  rcases isWeekend with rfl | rfl <;> decide +kernel

/-! ### Reading a range -/

namespace SpelledDay

variable (spelled : SpelledDay)

theorem reading : ∃ word last, word.day = spelled.day ∧
    (dayScan ⟨none, spelled.text⟩).head? = some (word, ⟨last, []⟩) := by
  obtain ⟨⟨word, last, after⟩, head, sees⟩ := Option.map_eq_some_iff.mp
    (dayScan_alone spelled.day spelled.spelling spelled.known spelled.plural spelled.dotted)
  obtain ⟨sameDay, rfl⟩ := Prod.mk.inj sees
  exact ⟨word, last, sameDay, head⟩

/-- A spelled day is read to its end where a character comes next that can follow it. -/
theorem reading_before {mark : Char} (ends : EndsDay mark) (rest : List Char) :
    ∃ word last, word.day = spelled.day ∧
      (dayScan ⟨none, spelled.text ++ mark :: rest⟩).head? =
        some (word, ⟨last, mark :: rest⟩) := by
  obtain ⟨word, last, sameDay, head⟩ := spelled.reading
  have stops := dayScan_stopsAt ends ⟨none, spelled.text⟩ rest
  rw [Place.extended] at stops
  refine ⟨word, last, sameDay, ?_⟩
  rw [stops, List.head?_map, head]
  rfl

/-- A spelled day at the end of a text is read where it is not the end of a longer word. -/
theorem reading_behind {before : Option Char} (outside : before.any isWordChar = false) :
    ∃ word last, word.day = spelled.day ∧
      (dayScan ⟨before, spelled.text⟩).head? = some (word, ⟨last, []⟩) := by
  obtain ⟨word, last, sameDay, head⟩ := spelled.reading
  have alike : Scan.Alike isWordChar ⟨none, spelled.text⟩ ⟨before, spelled.text⟩ :=
    ⟨rfl, outside.symm⟩
  obtain ⟨⟨reached, _⟩, first, rfl, _⟩ := dayScan_looksBack.head? alike head
  exact ⟨word, reached, sameDay, first⟩

theorem says_day :
    (∀ word ∈ dayWords, occursIn word.spelling spelled.text = true → word.day = spelled.day) ∧
      '-' ∉ spelled.text ∧ occursIn "weekday".toList spelled.text = false :=
  spelled_says_day spelled.day spelled.spelling spelled.known spelled.plural spelled.dotted

theorem begins : spelled.text.head?.any isBlank = false := by
  have lettered : ∀ day : Weekday, ∀ spelling ∈ spellingsOf day,
      spelling ≠ [] ∧ spelling.head?.any isBlank = false := by
    intro day
    cases day <;> decide
  obtain ⟨written, notBlank⟩ := lettered spelled.day spelled.spelling spelled.known
  rw [text, List.append_assoc, List.head?_append_of_ne_nil _ written]
  exact notBlank

end SpelledDay

theorem rangeWordScan_reading : ∀ word ∈ rangeWords, ∀ before rest,
    (Scan.firstOf (rangeWords.map .word) ⟨before, word ++ rest⟩).head? =
      some ((), Place.past before word rest) := by
  intro word known before rest
  simp only [rangeWords, List.mem_cons, List.not_mem_nil, or_false] at known
  rcases known with rfl | rfl | rfl | rfl | rfl <;>
    simp [Scan.firstOf, rangeWords, Scan.word, Scan.oneChar, Place.past]

theorem any_isWordChar_of_blank {gap : List Char} (blank : allBlank gap = true)
    {before : Option Char} (outside : gap = [] → before.any isWordChar = false) :
    (gap.getLast?.or before).any isWordChar = false := by
  cases last : gap.getLast? with
  | none => exact outside (List.getLast?_eq_none_iff.mp last)
  | some char =>
    exact isWordChar_of_isBlank
      (List.all_eq_true.mp blank char (List.mem_of_getLast? last))

namespace RangeLink

variable (link : RangeLink)

theorem word_known : link.word ∈ rangeWords := by
  have all : ∀ word ∈ dashes ++ linkingWords, word ∈ rangeWords := by decide
  rcases link.known with isDash | ⟨isWord, _⟩
  · exact all _ (List.mem_append_left _ isDash)
  · exact all _ (List.mem_append_right _ isWord)

theorem word_begins (rest : List Char) : (link.word ++ rest).head?.any isBlank = false := by
  have begin : ∀ word ∈ rangeWords, word ≠ [] ∧ word.head?.any isBlank = false := by decide
  obtain ⟨written, unblank⟩ := begin link.word link.word_known
  rw [List.head?_append_of_ne_nil _ written]
  exact unblank

/-- A link begins with a character that can follow a spelled day. -/
theorem begins : ∃ mark rest, link.text = mark :: rest ∧ EndsDay mark := by
  obtain ⟨before, word, after, beforeBlank, _, known⟩ := link
  cases before with
  | cons space before => exact ⟨space, _, rfl, .of_blank (allBlank_cons beforeBlank).1⟩
  | nil =>
    have ends : EndsDay '-' ∧ EndsDay '–' := by
      constructor <;> constructor <;> decide +kernel
    rcases known with isDash | ⟨_, spaced, _⟩
    · rcases List.mem_pair.mp isDash with rfl | rfl
      · exact ⟨'-', after, rfl, ends.1⟩
      · exact ⟨'–', after, rfl, ends.2⟩
    · exact absurd rfl spaced

/-- No word reaches to the end of a link. -/
theorem ends (before : Option Char) :
    (link.after.getLast?.or (link.word.getLast?.or before)).any isWordChar = false := by
  refine any_isWordChar_of_blank link.after_blank fun tight => ?_
  have notWord : isWordChar '-' = false ∧ isWordChar '–' = false := by decide +kernel
  rcases link.known with isDash | ⟨_, _, spaced⟩
  · rcases List.mem_pair.mp isDash with isHyphen | isEnDash
    · simp [isHyphen, notWord.1]
    · simp [isEnDash, notWord.2]
  · exact absurd tight spaced

/-- A link is read to its end, and what comes next is read where no word comes before it. -/
theorem reading {Value : Type} (next : Scan Value) {rest : List Char}
    (begins : rest.head?.any isBlank = false) (before : Option Char) :
    ∃ last : Option Char, last.any isWordChar = false ∧
      ∀ way, (next ⟨last, rest⟩).head? = some way →
        (Scan.andThen (.run isBlank) (fun _ => .andThen (.firstOf (rangeWords.map .word)) fun _ =>
          .andThen (.run isBlank) fun _ => next) ⟨before, link.text ++ rest⟩).head? = some way := by
  have front := Scan.run_append isBlank before link.before (link.word ++ (link.after ++ rest))
    link.before_blank (link.word_begins _)
  have middle := rangeWordScan_reading link.word link.word_known
    (link.before.getLast?.or before) (link.after ++ rest)
  have back := Scan.run_append isBlank (link.word.getLast?.or (link.before.getLast?.or before))
    link.after rest link.after_blank begins
  refine ⟨link.after.getLast?.or (link.word.getLast?.or (link.before.getLast?.or before)),
    link.ends _, fun way head => ?_⟩
  rw [text, List.append_assoc, List.append_assoc]
  refine Scan.head?_andThen (congrArg List.head? front) ?_
  refine Scan.head?_andThen middle ?_
  exact Scan.head?_andThen (congrArg List.head? back) head

end RangeLink

theorem dayRangeScan_reading (first last : SpelledDay) (link : RangeLink) :
    ∃ range place, range.1.day = first.day ∧ range.2.day = last.day ∧
      (dayRangeScan ⟨none, first.text ++ (link.text ++ last.text)⟩).head? =
        some (range, ⟨place, []⟩) := by
  obtain ⟨mark, more, linkText, ends⟩ := link.begins
  obtain ⟨firstWord, between, sameFirst, firstHead⟩ :=
    first.reading_before ends (more ++ last.text)
  obtain ⟨before, outside, onward⟩ := link.reading
    (.andThen dayScan fun lastWord => .done (firstWord, lastWord)) last.begins between
  obtain ⟨lastWord, place, sameLast, lastHead⟩ := last.reading_behind outside
  refine ⟨(firstWord, lastWord), place, sameFirst, sameLast, ?_⟩
  have tail := onward _ (Scan.head?_andThen lastHead rfl)
  rw [linkText, List.cons_append] at tail ⊢
  exact Scan.head?_andThen firstHead tail

/-! ### The days of a range -/

theorem rangedDays_range (first last : SpelledDay) (link : RangeLink) :
    rangedDays (first.text ++ (link.text ++ last.text)) = .fromTo first.day last.day := by
  obtain ⟨range, place, sameFirst, sameLast, head⟩ := dayRangeScan_reading first last link
  have written : first.text ++ (link.text ++ last.text) ≠ [] := by
    obtain ⟨mark, more, linkText, _⟩ := link.begins
    simp [linkText]
  apply DaySet.ext_mem
  intro day
  rw [mem_rangedDays, Scan.findAll_of_whole written head]
  simp [sameFirst, sameLast]

/-! ### Words in a range -/

/-- What can occur in a range and is not a range itself: a word that does not begin or end in white
space, and of which the link holds no part. -/
theorem occursIn_range (first last : SpelledDay) (link : RangeLink) {word : List Char}
    (framed : Framed word) (letters : word.all isWordChar = true)
    (foreign : ∀ linking ∈ linkingWords, occursIn word linking = false) :
    occursIn word (first.text ++ (link.text ++ last.text)) =
      (occursIn word first.text || occursIn word last.text) := by
  have outside {mark : Char} (notWord : isWordChar mark = false) : mark ∉ word := fun member => by
    rw [List.all_eq_true.mp letters mark member] at notWord
    cases notWord
  have blankBefore {gap : List Char} (blank : allBlank gap = true) (text : List Char) :
      occursIn word (gap ++ text) = occursIn word text :=
    occursIn_blank_append framed.begins blank text
  have blankBehind {gap : List Char} (blank : allBlank gap = true) (text : List Char) :
      occursIn word (text ++ gap) = occursIn word text :=
    @occursIn_margins word [] gap framed rfl blank text
  obtain ⟨before, linking, after, beforeBlank, afterBlank, known⟩ := link
  change occursIn word (first.text ++ ((before ++ (linking ++ after)) ++ last.text)) = _
  rcases known with isDash | ⟨isWord, spacedBefore, spacedAfter⟩
  · obtain ⟨mark, rfl, notWord⟩ : ∃ mark, linking = [mark] ∧ isWordChar mark = false := by
      rcases List.mem_pair.mp isDash with rfl | rfl
      · exact ⟨'-', rfl, by decide +kernel⟩
      · exact ⟨'–', rfl, by decide +kernel⟩
    have parts : first.text ++ ((before ++ ([mark] ++ after)) ++ last.text) =
        (first.text ++ before) ++ mark :: (after ++ last.text) := by simp
    rw [parts, occursIn_append_cons _ _ _ _ (outside notWord), blankBehind beforeBlank,
      blankBefore afterBlank]
  · obtain ⟨space, before, rfl⟩ := List.exists_cons_of_ne_nil spacedBefore
    obtain ⟨other, after, rfl⟩ := List.exists_cons_of_ne_nil spacedAfter
    obtain ⟨spaceBlank, beforeBlank⟩ := allBlank_cons beforeBlank
    obtain ⟨otherBlank, afterBlank⟩ := allBlank_cons afterBlank
    have parts : first.text ++ ((space :: before ++ (linking ++ other :: after)) ++ last.text) =
        first.text ++ space :: (before ++ (linking ++ other :: (after ++ last.text))) := by simp
    rw [parts, occursIn_append_cons _ _ _ _ (outside (isWordChar_of_isBlank spaceBlank)),
      blankBefore beforeBlank,
      occursIn_append_cons _ _ _ _ (outside (isWordChar_of_isBlank otherBlank)),
      blankBefore afterBlank, foreign linking isWord, Bool.false_or]

/-- A spelling of a day that occurs in a range names one of its ends. -/
theorem day_of_occursIn_range (first last : SpelledDay) (link : RangeLink) {word : DayWord}
    (known : word ∈ dayWords)
    (occurs : occursIn word.spelling (first.text ++ (link.text ++ last.text)) = true) :
    word.day = first.day ∨ word.day = last.day := by
  have shape : ∀ word ∈ dayWords, word.spelling.all isWordChar = true ∧
      ∀ linking ∈ linkingWords, occursIn word.spelling linking = false := by
    decide +kernel
  obtain ⟨letters, foreign⟩ := shape word known
  rw [occursIn_range first last link (dayWords_framed word known) letters foreign,
    Bool.or_eq_true] at occurs
  exact occurs.imp (first.says_day.1 word known) (last.says_day.1 word known)

/-- Two spellings with a hyphen between them occur only in the range between their days. -/
theorem ends_of_hyphenated (first last : SpelledDay) (link : RangeLink) (front back : DayWord)
    (frontKnown : front ∈ dayWords) (backKnown : back ∈ dayWords)
    (occurs : occursIn (front.spelling ++ '-' :: back.spelling)
      (first.text ++ (link.text ++ last.text)) = true) :
    first.day = front.day ∧ last.day = back.day := by
  have hyphen : '-' ∈ first.text ++ (link.text ++ last.text) :=
    ((occursIn_iff _ _).mp occurs).subset (by simp)
  have unblank {gap : List Char} (blank : allBlank gap = true) : '-' ∉ gap := fun member =>
    absurd (List.all_eq_true.mp blank '-' member) (by decide)
  obtain ⟨before, linking, after, beforeBlank, afterBlank, known⟩ := link
  have isHyphen : linking = ['-'] := by
    have inLinking : '-' ∈ linking := by
      simpa [RangeLink.text, first.says_day.2.1, last.says_day.2.1, unblank beforeBlank,
        unblank afterBlank] using hyphen
    have alone : ∀ word ∈ dashes ++ linkingWords, '-' ∈ word → word = ['-'] := by decide
    rcases known with isDash | ⟨isWord, _⟩
    · exact alone _ (List.mem_append_left _ isDash) inLinking
    · exact alone _ (List.mem_append_right _ isWord) inLinking
  subst isHyphen
  have parts : first.text ++
      (RangeLink.text ⟨before, ['-'], after, beforeBlank, afterBlank, known⟩ ++ last.text) =
        (first.text ++ before) ++ '-' :: (after ++ last.text) := by
    simp [RangeLink.text]
  rw [parts] at occurs
  obtain ⟨inFirst, inLast⟩ := occursIn_across
    (by simp [first.says_day.2.1, unblank beforeBlank])
    (by simp [last.says_day.2.1, unblank afterBlank]) occurs
  rw [occursIn_blank_append (dayWords_framed back backKnown).begins afterBlank] at inLast
  have margin :
      occursIn front.spelling (first.text ++ before) = occursIn front.spelling first.text :=
    @occursIn_margins _ [] _ (dayWords_framed front frontKnown) rfl beforeBlank first.text
  rw [margin] at inFirst
  exact ⟨(first.says_day.1 front frontKnown inFirst).symm,
    (last.says_day.1 back backKnown inLast).symm⟩

/-- A phrase for Monday to Friday occurs only in the range between these two days. -/
theorem ends_of_weekdayPhrase (first last : SpelledDay) (link : RangeLink)
    (occurs : anyOccursIn weekdayPhrases (first.text ++ (link.text ++ last.text)) = true) :
    first.day = .monday ∧ last.day = .friday := by
  obtain ⟨phrase, known, occurs⟩ := List.any_eq_true.mp occurs
  simp only [weekdayPhrases, List.mem_cons, List.not_mem_nil, or_false] at known
  rcases known with rfl | rfl | rfl
  · exact ends_of_hyphenated first last link ⟨"mon".toList, .monday⟩ ⟨"fri".toList, .friday⟩
      (by decide) (by decide) occurs
  · exact ends_of_hyphenated first last link ⟨"monday".toList, .monday⟩ ⟨"friday".toList, .friday⟩
      (by decide) (by decide) occurs
  · have framed : Framed "weekday".toList := by decide
    rw [occursIn_range first last link framed (by decide +kernel) (by decide),
      first.says_day.2.2, last.says_day.2.2] at occurs
    cases occurs

/-- A range between two spelled days names the days that it holds. -/
theorem namedDays_range (first last : SpelledDay) (link : RangeLink) :
    namedDays (first.text ++ (link.text ++ last.text)) = .fromTo first.day last.day := by
  have isFirst : first.day ∈ DaySet.fromTo first.day last.day :=
    (DaySet.mem_fromTo _ _ _).mpr ⟨0, Nat.zero_le _, Weekday.later_zero _⟩
  have isLast : last.day ∈ DaySet.fromTo first.day last.day :=
    (DaySet.mem_fromTo _ _ _).mpr ⟨_, Nat.le_refl _, Weekday.later_daysTo _ _⟩
  have spelled {words : List DayWord} (known : ∀ word ∈ words, word ∈ fullNames ++ shortNames)
      {day : Weekday} (named : day ∈ spelledDays words (first.text ++ (link.text ++ last.text))) :
      day ∈ DaySet.fromTo first.day last.day := by
    obtain ⟨word, member, occurs, rfl⟩ := (mem_spelledDays _ _ _).mp named
    rcases day_of_occursIn_range first last link
      (mem_dayWords_of_named word (known word member)) occurs with same | same
    · exact same ▸ isFirst
    · exact same ▸ isLast
  apply DaySet.ext_mem
  intro day
  rw [mem_namedDays, rangedDays_range]
  constructor
  · rintro (named | ranged | ⟨phrase, weekday⟩ | named)
    · exact spelled (fun _ => List.mem_append_left _) named
    · exact ranged
    · obtain ⟨isMonday, isFriday⟩ := ends_of_weekdayPhrase first last link phrase
      have same : DaySet.fromTo .monday .friday = .mondayToFriday := by decide
      rwa [isMonday, isFriday, same]
    · exact spelled (fun _ => List.mem_append_right _) named
  · exact fun ranged => Or.inr (Or.inl ranged)

/-! ### Lists of days -/

theorem DayItem.mem_namedDays_iff (item : DayItem) (day : Weekday) :
    day ∈ namedDays item.text ↔ item.Names day := by
  cases item with
  | name named plural =>
    rw [text, namedDays_name]
    simp [Names]
  | weekend named isWeekend =>
    rw [text, namedDays_weekend named isWeekend]
    simp [Names]
  | range first link last =>
    rw [text, namedDays_range, DaySet.mem_fromTo_iff_metOnWay]
    rfl

/-- The days that a list names are those that its items name. -/
theorem IsDayList.mem_namedDays_iff {items : List DayItem} {text : List Char}
    (list : IsDayList items text) (day : Weekday) :
    day ∈ namedDays text ↔ ∃ item ∈ items, item.Names day := by
  induction list with
  | single item =>
    rw [item.mem_namedDays_iff]
    simp
  | @more item before after text items beforeBlank afterBlank _ inductionHypothesis =>
    have front : namedDays (item.text ++ before) = namedDays item.text :=
      @namedDays_margins [] _ rfl beforeBlank item.text
    have back : namedDays (after ++ text) = namedDays text := by
      have margins := @namedDays_margins _ [] afterBlank rfl text
      rwa [List.append_nil] at margins
    rw [namedDays_append_cons isClauseMark_comma, DaySet.mem_union, front, back,
      item.mem_namedDays_iff, inductionHypothesis]
    simp

theorem IsDayList.exists_named {items : List DayItem} {text : List Char}
    (list : IsDayList items text) : ∃ day, day ∈ namedDays text := by
  have first (item : DayItem) : ∃ day, item.Names day := by
    cases item with
    | name day plural => exact ⟨day, rfl⟩
    | weekend day isWeekend => exact ⟨day, rfl⟩
    | range first link last => exact ⟨first.day, .start⟩
  have member : ∃ item, item ∈ items := by
    cases list with
    | single item => exact ⟨item, List.mem_cons_self⟩
    | more item => exact ⟨item, List.mem_cons_self⟩
  obtain ⟨item, member⟩ := member
  obtain ⟨day, named⟩ := first item
  exact ⟨day, (list.mem_namedDays_iff day).mpr ⟨item, member, named⟩⟩

/-- A list of days applies on the days that its items name, and on no others. -/
theorem day_list_applies_on_its_days {items : List DayItem} {text : List Char}
    (list : IsDayList items text) :
    ∃ applicability, applicability? text = some applicability ∧
      ∀ day, day ∈ applicability.days ↔ ∃ item ∈ items, item.Names day := by
  have made := Applicability.ofDays?_days ⟨namedDays text, list.exists_named⟩
  refine ⟨⟨namedDays text, list.exists_named⟩, ?_, list.mem_namedDays_iff⟩
  rw [applicability?, made]

/-- The range "thurs. through sat". -/
def lateWeek : DayItem :=
  .range ⟨.thursday, "thurs".toList, false, true, by decide⟩
    ⟨[' '], "through".toList, [' '], rfl, rfl, by decide⟩
    ⟨.saturday, "sat".toList, false, false, by decide⟩

/-- A day in the plural and a range of three days, spelled in three ways. -/
theorem tuesdays_and_late_week_apply :
    IsDayList [.name .tuesday true, lateWeek] "tuesdays, thurs. through sat".toList ∧
      ∃ applicability,
        applicability? "tuesdays, thurs. through sat".toList = some applicability ∧
        ∀ day, day ∈ applicability.days ↔
          ∃ item ∈ [DayItem.name .tuesday true, lateWeek], item.Names day := by
  have list : IsDayList [.name .tuesday true, lateWeek] "tuesdays, thurs. through sat".toList :=
    @IsDayList.more (.name .tuesday true) [] [' '] _ _ rfl rfl (.single lateWeek)
  exact ⟨list, day_list_applies_on_its_days list⟩

end Listing

end OpeningHours
