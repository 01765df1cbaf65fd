import OpeningHours.Listing.Days
import OpeningHours.Proofs.Text.Clauses

/-
The days that a listing names are those that its clauses name: a comma or a semicolon is no part of
any spelling, so no day is named across it, and none is lost by it. A text without any piece of a
day's name names no day and so applies every day, and a single piece is not enough for a range of
days.
-/

namespace OpeningHours.Listing

open Text

/-! ### Marks between clauses -/

/-- The character can end a clause: it is no part of a word, and no range of days and no white space
may hold it. -/
structure IsClauseMark (mark : Char) : Prop where
  notWord : isWordChar mark = false
  notBlank : isBlank mark = false
  notDot : mark ≠ '.'
  notHyphen : mark ≠ '-'
  notDash : mark ≠ '–'

theorem isClauseMark_comma : IsClauseMark ',' := by
  constructor <;> decide +kernel

/-- No word of letters and hyphens holds a mark between clauses. -/
theorem IsClauseMark.not_mem {mark : Char} (clause : IsClauseMark mark) {word : List Char}
    (letters : word.all (fun char => isWordChar char || char = '-' || char = '–') = true) :
    mark ∉ word := by
  intro member
  have held := List.all_eq_true.mp letters mark member
  simp [clause.notWord, clause.notHyphen, clause.notDash] at held

theorem dayWords_letters : ∀ word ∈ dayWords,
    word.spelling.all (fun char => isWordChar char || char = '-' || char = '–') = true := by
  decide +kernel

theorem rangeWords_letters : ∀ word ∈ rangeWords,
    word.all (fun char => isWordChar char || char = '-' || char = '–') = true := by
  decide +kernel

theorem weekdayPhrases_letters : ∀ word ∈ weekdayPhrases,
    word.all (fun char => isWordChar char || char = '-' || char = '–') = true := by
  decide +kernel

/-- The words that name a day wherever they stand are spellings of a day. -/
theorem mem_dayWords_of_named : ∀ word ∈ fullNames ++ shortNames, word ∈ dayWords := by
  decide

/-! ### Ranges of days in clauses -/

/-- The character can follow a spelled day: it is no part of a word, no dot and in no spelling. -/
structure EndsDay (mark : Char) : Prop where
  notWord : isWordChar mark = false
  notDot : mark ≠ '.'
  outside : ∀ word ∈ dayWords, mark ∉ word.spelling

theorem IsClauseMark.endsDay {mark : Char} (clause : IsClauseMark mark) : EndsDay mark where
  notWord := clause.notWord
  notDot := clause.notDot
  outside := fun word member => clause.not_mem (dayWords_letters word member)

/-- A spelled day stops at a mark that can follow it. -/
theorem dayScan_stopsAt {mark : Char} (ends : EndsDay mark) : Scan.StopsAt mark dayScan := by
  refine (Scan.StopsAt.boundary ends.notWord).andThen fun _ => ?_
  refine (Scan.StopsAt.firstOf fun scan member => ?_).andThen fun word => ?_
  · obtain ⟨word, wordMember, rfl⟩ := List.mem_map.mp member
    exact (Scan.StopsAt.word (ends.outside word wordMember)).andThen fun _ => .done mark word
  · have notPlural : mark ∉ ['s'] := by
      rw [List.mem_singleton]
      rintro rfl
      exact absurd ends.notWord (by decide +kernel)
    have notEnd : mark ∉ ['.'] := by simp [ends.notDot]
    exact (Scan.StopsAt.word notPlural).optional.andThen fun _ =>
      (Scan.StopsAt.boundary ends.notWord).andThen fun _ =>
        (Scan.StopsAt.word notEnd).optional.andThen fun _ => .done mark word

theorem dayRangeScan_stopsAt {mark : Char} (clause : IsClauseMark mark) :
    Scan.StopsAt mark dayRangeScan := by
  have stops : Scan.StopsAt mark dayScan := dayScan_stopsAt clause.endsDay
  refine stops.andThen fun first => ?_
  refine (Scan.StopsAt.run clause.notBlank).andThen fun _ => ?_
  refine (Scan.StopsAt.firstOf fun scan member => ?_).andThen fun _ => ?_
  · obtain ⟨word, wordMember, rfl⟩ := List.mem_map.mp member
    exact .word (clause.not_mem (rangeWords_letters word wordMember))
  · exact (Scan.StopsAt.run clause.notBlank).andThen fun _ =>
      stops.andThen fun last => .done mark (first, last)

theorem dayScan_looksBack : Scan.LooksBackFor isWordChar dayScan := by
  refine (Scan.LooksBackFor.boundary isWordChar).andThen fun _ => ?_
  refine (Scan.Respects.firstOf fun scan member => ?_).andThen fun word => ?_
  · obtain ⟨word, _, rfl⟩ := List.mem_map.mp member
    exact (Scan.LooksBackFor.word isWordChar _).andThen fun _ => .done word
  · exact (Scan.LooksBackFor.word isWordChar ['s']).optional.andThen fun _ =>
      (Scan.LooksBackFor.boundary isWordChar).andThen fun _ =>
        (Scan.LooksBackFor.word isWordChar ['.']).optional.andThen fun _ => .done word

theorem dayRangeScan_looksBack : Scan.LooksBackFor isWordChar dayRangeScan := by
  refine dayScan_looksBack.andThen fun first => ?_
  refine (Scan.LooksBackFor.run isWordChar isBlank).andThen fun _ => ?_
  refine (Scan.Respects.firstOf fun scan member => ?_).andThen fun _ => ?_
  · obtain ⟨word, _, rfl⟩ := List.mem_map.mp member
    exact Scan.LooksBackFor.word isWordChar word
  · exact (Scan.LooksBackFor.run isWordChar isBlank).andThen fun _ =>
      dayScan_looksBack.andThen fun last => .done (first, last)

/-! ### What a spelled day reads -/

/-- A spelled day is one of the spellings, and what is left comes after it. -/
theorem dayScan_ways {place : Place} {way : DayWord × Place} (member : way ∈ dayScan place) :
    way.1 ∈ dayWords ∧
      ∃ rest, place.after = way.1.spelling ++ rest ∧ way.2.after <:+ rest := by
  obtain ⟨start, startMember, member⟩ := Scan.mem_andThen.mp member
  obtain ⟨read, readMember, member⟩ := Scan.mem_andThen.mp member
  rw [Scan.boundary_ways startMember] at readMember
  obtain ⟨scan, scanMember, readMember⟩ := List.mem_flatMap.mp readMember
  obtain ⟨word, wordMember, rfl⟩ := List.mem_map.mp scanMember
  obtain ⟨spelled, spelledMember, readMember⟩ := Scan.mem_andThen.mp readMember
  rw [Scan.done_apply, List.mem_singleton] at readMember
  subst readMember
  have endsDay (word : DayWord) : Scan.GoesForward
      (.andThen (.optional (.word ['s'])) fun _ => .andThen (.boundary isWordChar) fun _ =>
        .andThen (.optional (.word ['.'])) fun _ => .done word) :=
    (Scan.GoesForward.word ['s']).optional.andThen fun _ =>
      (Scan.GoesForward.boundary isWordChar).andThen fun _ =>
        (Scan.GoesForward.word ['.']).optional.andThen fun _ => .done word
  have forward := endsDay word spelled.2 way member
  obtain ⟨_, _, member⟩ := Scan.mem_andThen.mp member
  obtain ⟨_, _, member⟩ := Scan.mem_andThen.mp member
  obtain ⟨_, _, member⟩ := Scan.mem_andThen.mp member
  rw [Scan.done_apply, List.mem_singleton] at member
  have same : way.1 = word := congrArg Prod.fst member
  rw [same]
  exact ⟨wordMember, spelled.2.after, Scan.word_ways spelledMember, forward⟩

theorem dayScan_forward : Scan.GoesForward dayScan := by
  intro place way member
  obtain ⟨_, rest, begins, forward⟩ := dayScan_ways member
  rw [begins]
  exact forward.trans (List.suffix_append _ rest)

theorem rangeWordScan_forward : Scan.GoesForward (.firstOf (rangeWords.map .word)) := by
  refine .firstOf fun scan member => ?_
  obtain ⟨word, _, rfl⟩ := List.mem_map.mp member
  exact .word word

theorem dayRangeScan_forward : Scan.GoesForward dayRangeScan :=
  dayScan_forward.andThen fun first => (Scan.GoesForward.run isBlank).andThen fun _ =>
    rangeWordScan_forward.andThen fun _ => (Scan.GoesForward.run isBlank).andThen fun _ =>
      dayScan_forward.andThen fun last => .done (first, last)

/-- A range of days begins with a spelled day and holds another one further on. -/
theorem dayRangeScan_ways {place : Place} {way : (DayWord × DayWord) × Place}
    (member : way ∈ dayRangeScan place) :
    way.1.1 ∈ dayWords ∧ way.1.2 ∈ dayWords ∧
      ∃ rest, place.after = way.1.1.spelling ++ rest ∧ way.1.2.spelling <:+: rest := by
  obtain ⟨first, firstMember, member⟩ := Scan.mem_andThen.mp member
  obtain ⟨firstIsDay, rest, begins, forward⟩ := dayScan_ways firstMember
  obtain ⟨gap, gapMember, member⟩ := Scan.mem_andThen.mp member
  obtain ⟨between, betweenMember, member⟩ := Scan.mem_andThen.mp member
  obtain ⟨nextGap, nextGapMember, member⟩ := Scan.mem_andThen.mp member
  obtain ⟨last, lastMember, member⟩ := Scan.mem_andThen.mp member
  obtain ⟨lastIsDay, more, lastBegins, _⟩ := dayScan_ways lastMember
  rw [Scan.done_apply, List.mem_singleton] at member
  have onward : nextGap.2.after <:+ rest :=
    ((Scan.GoesForward.run isBlank _ _ nextGapMember).trans
      (rangeWordScan_forward _ _ betweenMember)).trans
        ((Scan.GoesForward.run isBlank _ _ gapMember).trans forward)
  subst member
  exact ⟨firstIsDay, lastIsDay, rest, begins,
    (List.prefix_append _ _).isInfix.trans (lastBegins ▸ onward.isInfix)⟩

/-! ### The days of clauses -/

theorem mem_spelledDays (day : Weekday) (words : List DayWord) (text : List Char) :
    day ∈ spelledDays words text ↔
      ∃ word ∈ words, occursIn word.spelling text = true ∧ word.day = day := by
  simp [spelledDays, and_assoc]

theorem mem_rangedDays (day : Weekday) (text : List Char) :
    day ∈ rangedDays text ↔
      ∃ range ∈ (Scan.findAll dayRangeScan text).map (·.value),
        day ∈ DaySet.fromTo range.1.day range.2.day := by
  simp [rangedDays, DaySet.mem_unions]

theorem mem_namedDays (day : Weekday) (text : List Char) :
    day ∈ namedDays text ↔
      day ∈ spelledDays fullNames text ∨ day ∈ rangedDays text ∨
        (anyOccursIn weekdayPhrases text = true ∧ day ∈ DaySet.mondayToFriday) ∨
        day ∈ spelledDays shortNames text := by
  have phrases : day ∈ (if anyOccursIn weekdayPhrases text then DaySet.mondayToFriday else .empty) ↔
      anyOccursIn weekdayPhrases text = true ∧ day ∈ DaySet.mondayToFriday := by
    split
    · next held => simp [held]
    · next held => simp [held]
  rw [namedDays, DaySet.mem_union, DaySet.mem_union, DaySet.mem_union, phrases, or_assoc, or_assoc]

theorem spelledDays_append_cons {mark : Char} (clause : IsClauseMark mark) (words : List DayWord)
    (known : ∀ word ∈ words, word ∈ dayWords) (first rest : List Char) :
    spelledDays words (first ++ mark :: rest) =
      spelledDays words first ∪ spelledDays words rest := by
  have split (word : DayWord) (member : word ∈ words) :
      occursIn word.spelling (first ++ mark :: rest) =
        (occursIn word.spelling first || occursIn word.spelling rest) :=
    occursIn_append_cons _ first rest mark
      (clause.not_mem (dayWords_letters word (known word member)))
  apply DaySet.ext_mem
  intro day
  rw [DaySet.mem_union, mem_spelledDays, mem_spelledDays, mem_spelledDays]
  rw [← exists_or]
  refine exists_congr fun word => ?_
  rw [← and_or_left, ← or_and_right]
  refine and_congr_right fun member => ?_
  rw [split word member, Bool.or_eq_true]

/-- Nothing is left at the end of a text that could begin a range of days. -/
theorem dayRangeScan_nil (before : Option Char) : dayRangeScan ⟨before, []⟩ = [] := by
  rw [List.eq_nil_iff_forall_not_mem]
  intro way member
  obtain ⟨known, _, rest, begins, _⟩ := dayRangeScan_ways member
  have written : ∀ word ∈ dayWords, word.spelling ≠ [] := by decide
  exact written _ known (List.append_eq_nil_iff.mp begins.symm).1

theorem rangedDays_append_cons {mark : Char} (clause : IsClauseMark mark)
    (first rest : List Char) :
    rangedDays (first ++ mark :: rest) = rangedDays first ∪ rangedDays rest := by
  apply DaySet.ext_mem
  intro day
  rw [DaySet.mem_union, mem_rangedDays, mem_rangedDays, mem_rangedDays,
    Scan.findAll_append_cons (dayRangeScan_stopsAt clause) dayRangeScan_looksBack clause.notWord
      dayRangeScan_nil]
  simp only [List.mem_append, or_and_right, exists_or]

/-- The days that a text names are those that its clauses name. -/
theorem namedDays_append_cons {mark : Char} (clause : IsClauseMark mark)
    (first rest : List Char) :
    namedDays (first ++ mark :: rest) = namedDays first ∪ namedDays rest := by
  have full : ∀ word ∈ fullNames, word ∈ dayWords :=
    fun word member => mem_dayWords_of_named word (List.mem_append_left _ member)
  have short : ∀ word ∈ shortNames, word ∈ dayWords :=
    fun word member => mem_dayWords_of_named word (List.mem_append_right _ member)
  have phrases : ∀ phrase ∈ weekdayPhrases, mark ∉ phrase :=
    fun phrase member => clause.not_mem (weekdayPhrases_letters phrase member)
  apply DaySet.ext_mem
  intro day
  rw [DaySet.mem_union, mem_namedDays, mem_namedDays, mem_namedDays,
    spelledDays_append_cons clause fullNames full, spelledDays_append_cons clause shortNames short,
    rangedDays_append_cons clause, anyOccursIn_append_cons phrases, Bool.or_eq_true,
    DaySet.mem_union, DaySet.mem_union, DaySet.mem_union]
  tauto

/-! ### Texts with few pieces of day names -/

theorem fragment_of_dayWord : ∀ word ∈ dayWords, ∃ fragment ∈ dayFragments,
    fragment <+: word.spelling := by
  decide

theorem fragment_of_weekdayPhrase : ∀ phrase ∈ weekdayPhrases, ∃ fragment ∈ dayFragments,
    fragment <+: phrase := by
  decide

/-- A word that begins with a piece of a day's name does not occur where no such piece does. -/
theorem occursIn_eq_false_of_fragment {word fragment text : List Char}
    (known : fragment ∈ dayFragments) (begins : fragment <+: word)
    (foreign : anyOccursIn dayFragments text = false) : occursIn word text = false := by
  have absent := (anyOccursIn_eq_false_iff dayFragments text).mp foreign fragment known
  rw [← Bool.not_eq_true, occursIn_iff] at absent ⊢
  exact fun occurs => absent (begins.isInfix.trans occurs)

theorem occursIn_dayWord_eq_false {word : DayWord} {text : List Char} (known : word ∈ dayWords)
    (foreign : anyOccursIn dayFragments text = false) : occursIn word.spelling text = false := by
  obtain ⟨fragment, member, begins⟩ := fragment_of_dayWord word known
  exact occursIn_eq_false_of_fragment member begins foreign

theorem anyOccursIn_weekdayPhrases_eq_false {text : List Char}
    (foreign : anyOccursIn dayFragments text = false) :
    anyOccursIn weekdayPhrases text = false := by
  rw [anyOccursIn_eq_false_iff]
  intro phrase member
  obtain ⟨fragment, known, begins⟩ := fragment_of_weekdayPhrase phrase member
  exact occursIn_eq_false_of_fragment known begins foreign

/-- A range of days needs a piece of a day's name beyond its first letter. -/
theorem rangedDays_eq_empty_of_single {text : List Char}
    (single : ∀ char rest, char :: rest <:+ text →
      isBlank char = true ∨ anyOccursIn dayFragments rest = false) :
    rangedDays text = .empty := by
  have fails : ∀ before rest, rest <:+ text → dayRangeScan ⟨before, rest⟩ = [] := by
    intro before rest suffix
    rw [List.eq_nil_iff_forall_not_mem]
    intro way member
    obtain ⟨firstKnown, lastKnown, onward, begins, occurs⟩ := dayRangeScan_ways member
    have lettered : ∀ word ∈ dayWords,
        word.spelling ≠ [] ∧ word.spelling.head?.any isBlank = false := by
      decide
    obtain ⟨written, notBlank⟩ := lettered _ firstKnown
    obtain ⟨char, more, spelled⟩ := List.exists_cons_of_ne_nil written
    change rest = _ at begins
    rw [spelled] at begins notBlank
    subst begins
    rcases single char (more ++ onward) suffix with blank | foreign
    · rw [List.head?_cons, Option.any_some, blank] at notBlank
      cases notBlank
    · have absent := occursIn_dayWord_eq_false lastKnown foreign
      rw [← Bool.not_eq_true, occursIn_iff] at absent
      exact absent (occurs.trans (List.suffix_append more onward).isInfix)
  rw [rangedDays, Scan.findAll, Scan.findAllFrom_eq_nil dayRangeScan 0 none text fails]
  rfl

/-- White space and a letter, with no piece of a day's name after it, hold no range of days. -/
theorem rangedDays_eq_empty {gap rest : List Char} (blank : gap.all isBlank = true) (letter : Char)
    (foreign : anyOccursIn dayFragments rest = false) :
    rangedDays (gap ++ letter :: rest) = .empty := by
  refine rangedDays_eq_empty_of_single fun char more suffix => ?_
  induction gap with
  | nil =>
    right
    rcases List.suffix_cons_iff.mp suffix with whole | inRest
    · rw [(List.cons.inj whole).2]
      exact foreign
    · exact anyOccursIn_eq_false_of_suffix ((List.suffix_cons char more).trans inRest) foreign
  | cons space gap inductionHypothesis =>
    rw [List.all_cons, Bool.and_eq_true] at blank
    rcases List.suffix_cons_iff.mp suffix with whole | inRest
    · rw [(List.cons.inj whole).1]
      exact Or.inl blank.1
    · exact inductionHypothesis blank.2 inRest

theorem spelledDays_eq_empty {words : List DayWord} {text : List Char}
    (known : ∀ word ∈ words, word ∈ dayWords) (foreign : anyOccursIn dayFragments text = false) :
    spelledDays words text = .empty := by
  apply DaySet.ext_mem
  intro day
  rw [mem_spelledDays, iff_false_right (DaySet.not_mem_empty day)]
  rintro ⟨word, member, occurs, _⟩
  rw [occursIn_dayWord_eq_false (known word member) foreign] at occurs
  cases occurs

/-- A text without any piece of a day's name names no day. -/
theorem namedDays_eq_empty {text : List Char} (foreign : anyOccursIn dayFragments text = false) :
    namedDays text = .empty := by
  have unranged : rangedDays text = .empty :=
    rangedDays_eq_empty_of_single fun char rest suffix =>
      Or.inr (anyOccursIn_eq_false_of_suffix ((List.suffix_cons char rest).trans suffix) foreign)
  have unspelled (words : List DayWord) (named : ∀ word ∈ words, word ∈ fullNames ++ shortNames) :
      spelledDays words text = .empty :=
    spelledDays_eq_empty (fun word member => mem_dayWords_of_named word (named word member)) foreign
  apply DaySet.ext_mem
  intro day
  rw [mem_namedDays, unranged, anyOccursIn_weekdayPhrases_eq_false foreign,
    unspelled fullNames fun _ => List.mem_append_left _,
    unspelled shortNames fun _ => List.mem_append_right _]
  simp

theorem applicability?_of_foreign {text : List Char}
    (foreign : anyOccursIn dayFragments text = false) : applicability? text = some .everyDay := by
  have nameless : Applicability.ofDays? .empty = none := by decide
  rw [applicability?, namedDays_eq_empty foreign, nameless, foreign]
  rfl

theorem anyOccursIn_append_blank {first rest : List Char}
    (foreign : anyOccursIn dayFragments rest = false) :
    anyOccursIn weekdayPhrases (first ++ ' ' :: rest) = anyOccursIn weekdayPhrases first := by
  have unblank : ∀ phrase ∈ weekdayPhrases, ' ' ∉ phrase := by decide
  rw [anyOccursIn_append_cons unblank, anyOccursIn_weekdayPhrases_eq_false foreign, Bool.or_false]

/-- Words after a blank that hold no piece of a day's name add no day, if they make no range. -/
theorem namedDays_append_blank {first rest : List Char}
    (foreign : anyOccursIn dayFragments rest = false)
    (unranged : rangedDays (first ++ ' ' :: rest) = rangedDays first) :
    namedDays (first ++ ' ' :: rest) = namedDays first := by
  have unblank : ∀ word ∈ dayWords, ' ' ∉ word.spelling := by decide
  have unspelled (words : List DayWord) (named : ∀ word ∈ words, word ∈ fullNames ++ shortNames) :
      spelledDays words (first ++ ' ' :: rest) = spelledDays words first := by
    have same (word : DayWord) (member : word ∈ words) :
        occursIn word.spelling (first ++ ' ' :: rest) = occursIn word.spelling first := by
      have known := mem_dayWords_of_named word (named word member)
      rw [occursIn_append_cons _ _ _ _ (unblank word known),
        occursIn_dayWord_eq_false known foreign, Bool.or_false]
    rw [spelledDays, spelledDays, List.filter_congr same]
  rw [namedDays, namedDays, unranged, anyOccursIn_append_blank foreign,
    unspelled fullNames fun _ => List.mem_append_left _,
    unspelled shortNames fun _ => List.mem_append_right _]

end OpeningHours.Listing
