import OpeningHours.Proofs.Listing.Margin

/-
Listings made of two clauses with a semicolon between them. A semicolon stands in no spelling of a
day and in no clock time, so nothing is read across it. The days of the listing are those of both
clauses together, the range of clock times is the first one that either clause holds, and the order
of the clauses matters to the range alone: whichever clause it stands in, it holds on the days that
are named in any of them.
-/

namespace OpeningHours.Listing

open Text

theorem isClauseMark_semicolon : IsClauseMark ';' := by
  constructor <;> decide +kernel

/-! ### The first range of clock times -/

/-- The first range of clock times in a text. -/
def firstRange? (text : List Char) : Option ClockRange :=
  (Scan.search timeRangeScan text).map (·.value)

/-- A clock time is read the same before a character that no range holds as at the end of a text. -/
theorem ReadsClocks.extended {mark : Char} (outside : isRangeChar mark = false)
    (rest : List Char) :
    ReadsClocks (fun place extended => Place.extended mark rest place = extended) := by
  simp only [isRangeChar, Bool.or_eq_false_iff, decide_eq_false_iff_not] at outside
  obtain ⟨⟨⟨notDigit, notBlank⟩, notSeparator⟩, noLetter⟩ := outside
  constructor
  · exact Scan.stopsAt_iff_respects.mp (.oneChar notDigit) rest
  · intro letter member
    have other : mark ≠ letter := by
      rintro rfl
      simp only [List.mem_cons] at member noLetter
      tauto
    exact Scan.stopsAt_iff_respects.mp (.oneChar (decide_eq_false other)) rest
  · exact Scan.stopsAt_iff_respects.mp (.run notBlank) rest
  · exact Scan.stopsAt_iff_respects.mp
      ((Scan.StopsAt.oneChar notSeparator).andThen fun _ => .run notSeparator) rest

theorem timeRangeScan_stopsAt {mark : Char} (outside : isRangeChar mark = false) :
    Scan.StopsAt mark timeRangeScan :=
  Scan.stopsAt_iff_respects.mpr fun rest =>
    rangeScanWith_respects (.extended outside rest) (clockScan_respects (.extended outside rest))

/-- The first range of two clauses is that of the first clause, or else that of the second. -/
theorem firstRange?_append_cons {mark : Char} (outside : isRangeChar mark = false)
    (first rest : List Char) :
    firstRange? (first ++ mark :: rest) = (firstRange? first).or (firstRange? rest) :=
  Scan.search_append_cons (timeRangeScan_stopsAt outside)
    (rangeScanWith_respects (.alike isRangeChar) (clockScan_respects (.alike isRangeChar))) outside
    (fun before => rangeScanWith_starts clockScan ⟨before, []⟩ rfl) first rest

/-! ### The days of the clauses -/

theorem applicability?_eq_none_iff (text : List Char) :
    applicability? text = none ↔
      namedDays text = .empty ∧ anyOccursIn dayFragments text = true := by
  rw [applicability?, ← Applicability.ofDays?_eq_none_iff]
  cases Applicability.ofDays? (namedDays text) with
  | none => simp
  | some days => simp

/-- A listing applies on the days that it names, or on every day when it names none and holds no
piece of a day's name. -/
theorem applicability?_eq_some_iff (text : List Char) (applicability : Applicability) :
    applicability? text = some applicability ↔
      (namedDays text = .empty ∧ anyOccursIn dayFragments text = false ∧
          applicability = .everyDay) ∨
        (namedDays text ≠ .empty ∧ applicability.days = namedDays text) := by
  rw [applicability?, ← Applicability.ofDays?_eq_some_iff, ne_eq,
    ← Applicability.ofDays?_eq_none_iff]
  cases Applicability.ofDays? (namedDays text) with
  | none =>
    cases anyOccursIn dayFragments text with
    | true => simp
    | false => simp [@eq_comm _ applicability]
  | some days => simp

theorem dayFragments_unmarked : ∀ fragment ∈ dayFragments, ';' ∉ fragment := by
  decide

/-- Two clauses name the days that either of them names and hold the first range of clock times that
either of them holds. -/
theorem clauses_compose (first rest : List Char) :
    namedDays (first ++ ';' :: rest) = namedDays first ∪ namedDays rest ∧
      (applicability? (first ++ ';' :: rest) = none ↔
        (namedDays first = .empty ∧ namedDays rest = .empty) ∧
          (anyOccursIn dayFragments first = true ∨ anyOccursIn dayFragments rest = true)) ∧
      (∀ applicability, applicability? (first ++ ';' :: rest) = some applicability ↔
        ((namedDays first = .empty ∧ namedDays rest = .empty) ∧
            (anyOccursIn dayFragments first = false ∧ anyOccursIn dayFragments rest = false) ∧
            applicability = .everyDay) ∨
          (¬ (namedDays first = .empty ∧ namedDays rest = .empty) ∧
            applicability.days = namedDays first ∪ namedDays rest)) ∧
      firstRange? (first ++ ';' :: rest) = (firstRange? first).or (firstRange? rest) ∧
      applicability? (first ++ ';' :: rest) = applicability? (rest ++ ';' :: first) ∧
      readWindow (first ++ ';' :: rest) =
        ((firstRange? first).or (firstRange? rest)).bind fun range =>
          range.window?.bind fun window =>
            (applicability? (first ++ ';' :: rest)).map fun days => .window window days := by
  have named (first rest : List Char) :
      namedDays (first ++ ';' :: rest) = namedDays first ∪ namedDays rest :=
    namedDays_append_cons isClauseMark_semicolon first rest
  have pieces (first rest : List Char) : anyOccursIn dayFragments (first ++ ';' :: rest) =
      (anyOccursIn dayFragments first || anyOccursIn dayFragments rest) :=
    anyOccursIn_append_cons dayFragments_unmarked first rest
  have outside : isRangeChar ';' = false := by decide
  have ranges := firstRange?_append_cons outside first rest
  refine ⟨named first rest, ?_, fun applicability => ?_, ranges, ?_, ?_⟩
  · rw [applicability?_eq_none_iff, named, pieces, DaySet.union_eq_empty_iff, Bool.or_eq_true]
  · rw [applicability?_eq_some_iff, named, pieces, ne_eq, DaySet.union_eq_empty_iff,
      Bool.or_eq_false_iff]
  · have swapped : namedDays (first ++ ';' :: rest) = namedDays (rest ++ ';' :: first) := by
      rw [named, named]
      exact DaySet.ext_mem fun day => by rw [DaySet.mem_union, DaySet.mem_union, or_comm]
    rw [applicability?, applicability?, swapped, pieces, pieces, Bool.or_comm]
  · rw [readWindow_eq_bind]
    exact congrArg (Option.bind · _) ranges

end OpeningHours.Listing
