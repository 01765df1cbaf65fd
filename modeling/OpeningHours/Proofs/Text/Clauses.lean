import OpeningHours.Proofs.Text.Relations

/-
Texts made of clauses. A mark such as a comma stands between two clauses, and no scan that takes the
mark for none of its characters is ever led past it: what it reads before the mark it reads in the
first clause alone, and what it reads after the mark it reads in the rest alone. So the readings
found in a text are those of its clauses, one clause after the other.
-/

namespace OpeningHours.Text

/-- The place in a text that goes on with a mark and more after what came before. -/
def Place.extended (mark : Char) (rest : List Char) (place : Place) : Place :=
  ⟨place.before, place.after ++ mark :: rest⟩

namespace Scan

variable {Value Next : Type}

/-! ### Scans that stop at a mark -/

/-- The scan has the same ways before a mark as before the end of the text. -/
def StopsAt (mark : Char) (scan : Scan Value) : Prop :=
  ∀ place rest, scan (place.extended mark rest) =
    (scan place).map fun way => (way.1, way.2.extended mark rest)

/-- To stop at a mark is to respect the relation of a place to the one that goes on with it. -/
theorem stopsAt_iff_respects {mark : Char} {scan : Scan Value} :
    StopsAt mark scan ↔
      ∀ rest, Respects (fun place extended => place.extended mark rest = extended) scan := by
  constructor
  · rintro stops rest place _ rfl
    rw [stops place rest, List.forall₂_map_right_iff]
    exact List.forall₂_same.mpr fun _ _ => ⟨rfl, rfl⟩
  · intro respects place rest
    rw [eq_comm, ← List.forall₂_eq_eq_eq, List.forall₂_map_left_iff]
    exact (respects rest place _ rfl).imp fun _ _ same => Prod.ext same.1 same.2

theorem StopsAt.done (mark : Char) (value : Value) : StopsAt mark (done value) :=
  fun _ _ => rfl

theorem StopsAt.andThen {mark : Char} {scan : Scan Value} {next : Value → Scan Next}
    (first : StopsAt mark scan) (second : ∀ value, StopsAt mark (next value)) :
    StopsAt mark (andThen scan next) :=
  stopsAt_iff_respects.mpr fun rest => (stopsAt_iff_respects.mp first rest).andThen fun value =>
    stopsAt_iff_respects.mp (second value) rest

theorem StopsAt.firstOf {mark : Char} {scans : List (Scan Value)}
    (each : ∀ scan ∈ scans, StopsAt mark scan) : StopsAt mark (firstOf scans) :=
  stopsAt_iff_respects.mpr fun rest => .firstOf fun scan member =>
    stopsAt_iff_respects.mp (each scan member) rest

theorem StopsAt.optional {mark : Char} {scan : Scan Value} (stops : StopsAt mark scan) :
    StopsAt mark (optional scan) :=
  stopsAt_iff_respects.mpr fun rest => (stopsAt_iff_respects.mp stops rest).optional

theorem StopsAt.oneChar {mark : Char} {holds : Char → Bool} (outside : holds mark = false) :
    StopsAt mark (oneChar holds) := by
  rintro ⟨before, after⟩ rest
  cases after with
  | nil => exact oneChar_eq_nil outside
  | cons char after =>
    by_cases held : holds char = true
    · change Scan.oneChar holds ⟨before, char :: (after ++ mark :: rest)⟩ = _
      rw [oneChar_of_holds holds before _ held, oneChar_of_holds holds before _ held]
      rfl
    · have stops : holds char = false := by simpa using held
      change Scan.oneChar holds ⟨before, char :: (after ++ mark :: rest)⟩ = _
      have here : Scan.oneChar holds ⟨before, char :: after⟩ = [] := oneChar_eq_nil stops
      rw [here]
      exact oneChar_eq_nil stops

theorem StopsAt.run {mark : Char} {holds : Char → Bool} (outside : holds mark = false) :
    StopsAt mark (run holds) := by
  have same (before : Option Char) (after rest : List Char) :
      runPlace holds before (after ++ mark :: rest) =
        (runPlace holds before after).extended mark rest := by
    induction after generalizing before with
    | nil => simp [runPlace, Place.extended, outside]
    | cons char after inductionHypothesis =>
      rw [List.cons_append, runPlace, runPlace]
      split
      · exact inductionHypothesis (some char)
      · rfl
  intro place rest
  exact congrArg (fun reached => [((), reached)]) (same place.before place.after rest)

theorem StopsAt.word {mark : Char} {read : List Char} (outside : mark ∉ read) :
    StopsAt mark (word read) := by
  refine stopsAt_iff_respects.mpr fun rest => .word fun char member => ?_
  have other : mark ≠ char := fun same => outside (same ▸ member)
  exact stopsAt_iff_respects.mp (.oneChar (decide_eq_false other)) rest

theorem StopsAt.boundary {mark : Char} {holds : Char → Bool} (outside : holds mark = false) :
    StopsAt mark (boundary holds) := by
  intro place rest
  have sameNext :
      (place.extended mark rest).after.head?.any holds = place.after.head?.any holds := by
    obtain ⟨before, after⟩ := place
    cases after with
    | nil => exact outside
    | cons char after => rfl
  rw [boundary_apply, boundary_apply, sameNext]
  change (if place.before.any holds != _ then _ else _) = _
  split <;> rfl

/-! ### Scans that look back for a class -/

/-- The same text follows, and what came before is alike in belonging to a class or not. -/
def Alike (holds : Char → Bool) (first second : Place) : Prop :=
  first.after = second.after ∧ first.before.any holds = second.before.any holds

/-- Of what came before, the scan sees only whether it belongs to a class. -/
abbrev LooksBackFor (holds : Char → Bool) (scan : Scan Value) : Prop :=
  Respects (Alike holds) scan

theorem LooksBackFor.oneChar (holds reads : Char → Bool) :
    LooksBackFor holds (oneChar reads) := by
  rintro ⟨_, after⟩ ⟨_, _⟩ ⟨rfl, _⟩
  cases after with
  | nil => exact .nil
  | cons char after =>
    change List.Forall₂ _ (if reads char then _ else _) (if reads char then _ else _)
    split
    · exact .cons ⟨rfl, rfl, rfl⟩ .nil
    · exact .nil

theorem LooksBackFor.run (holds reads : Char → Bool) : LooksBackFor holds (run reads) := by
  rintro ⟨before, after⟩ ⟨otherBefore, _⟩ ⟨rfl, alike⟩
  refine .cons ⟨rfl, ?_⟩ .nil
  cases after with
  | nil => exact ⟨rfl, alike⟩
  | cons char after =>
    change Alike holds (if reads char then _ else _) (if reads char then _ else _)
    split
    · exact ⟨rfl, rfl⟩
    · exact ⟨rfl, alike⟩

theorem LooksBackFor.word (holds : Char → Bool) (read : List Char) :
    LooksBackFor holds (word read) :=
  Respects.word fun char _ => LooksBackFor.oneChar holds (· = char)

theorem LooksBackFor.boundary (holds : Char → Bool) : LooksBackFor holds (boundary holds) := by
  rintro ⟨before, after⟩ ⟨otherBefore, _⟩ ⟨rfl, alike⟩
  change before.any holds = otherBefore.any holds at alike
  change List.Forall₂ _ (if before.any holds != _ then _ else _)
    (if otherBefore.any holds != _ then _ else _)
  rw [alike]
  split
  · exact .cons ⟨rfl, rfl, alike⟩ .nil
  · exact .nil

/-! ### The readings found in clauses -/

theorem findAllFrom_cons_of_nil {scan : Scan Value} {before : Option Char} {char : Char}
    {text : List Char} (position : Nat) (none : scan ⟨before, char :: text⟩ = []) :
    findAllFrom scan position 0 before (char :: text) =
      findAllFrom scan (position + 1) 0 (some char) text := by
  rw [findAllFrom, none]

/-- What is found does not depend on how places are numbered. -/
theorem findAllFrom_values (scan : Scan Value) (position other skip : Nat)
    (before : Option Char) (text : List Char) :
    (findAllFrom scan position skip before text).map (·.value) =
      (findAllFrom scan other skip before text).map (·.value) := by
  induction text generalizing position other skip before with
  | nil => rfl
  | cons char text inductionHypothesis =>
    cases skip with
    | succ skip => exact inductionHypothesis _ _ skip (some char)
    | zero =>
      rw [findAllFrom, findAllFrom]
      cases scan ⟨before, char :: text⟩ with
      | nil => exact inductionHypothesis _ _ 0 (some char)
      | cons way ways =>
        rw [List.map_cons, List.map_cons]
        exact congrArg (way.1 :: ·) (inductionHypothesis _ _ _ (some char))

theorem findAllFrom_values_of_alike {holds : Char → Bool} {scan : Scan Value}
    (looks : LooksBackFor holds scan) (position : Nat) {before other : Option Char}
    (alike : before.any holds = other.any holds) (text : List Char) :
    (findAllFrom scan position 0 before text).map (·.value) =
      (findAllFrom scan position 0 other text).map (·.value) := by
  cases text with
  | nil => rfl
  | cons char text =>
    have same := looks ⟨before, char :: text⟩ ⟨other, char :: text⟩ ⟨rfl, alike⟩
    rw [findAllFrom, findAllFrom]
    generalize scan ⟨before, char :: text⟩ = ways at same
    generalize scan ⟨other, char :: text⟩ = otherWays at same
    cases same with
    | nil => rfl
    | cons first rest =>
      obtain ⟨sameValue, sameAfter, _⟩ := first
      simp only [sameValue, sameAfter]

theorem findAllFrom_append_cons {mark : Char} {scan : Scan Value} (stops : StopsAt mark scan)
    (reads : ∀ before, scan ⟨before, []⟩ = []) (position skip : Nat) (before : Option Char)
    (first rest : List Char) (within : skip ≤ first.length) :
    (findAllFrom scan position skip before (first ++ mark :: rest)).map (·.value) =
      (findAllFrom scan position skip before first).map (·.value) ++
        (findAllFrom scan position 0 (some mark) rest).map (·.value) := by
  induction first generalizing position skip before with
  | nil =>
    obtain rfl : skip = 0 := Nat.le_zero.mp within
    have atMark : scan ⟨before, mark :: rest⟩ = [] := by
      have same := stops ⟨before, []⟩ rest
      rwa [reads before] at same
    rw [List.nil_append, findAllFrom_cons_of_nil position atMark]
    exact findAllFrom_values scan _ _ 0 (some mark) rest
  | cons char first inductionHypothesis =>
    cases skip with
    | succ skip =>
      rw [List.cons_append, findAllFrom, findAllFrom,
        inductionHypothesis _ skip (some char) (Nat.le_of_succ_le_succ within),
        findAllFrom_values scan (position + 1) position 0 (some mark) rest]
    | zero =>
      have same : scan ⟨before, char :: (first ++ mark :: rest)⟩ =
          (scan ⟨before, char :: first⟩).map fun way => (way.1, way.2.extended mark rest) :=
        stops ⟨before, char :: first⟩ rest
      rw [List.cons_append, findAllFrom, findAllFrom, same]
      cases scan ⟨before, char :: first⟩ with
      | nil =>
        rw [List.map_nil]
        simp only
        rw [inductionHypothesis _ 0 (some char) (Nat.zero_le _),
          findAllFrom_values scan (position + 1) position 0 (some mark) rest]
      | cons way ways =>
        have width : (char :: (first ++ mark :: rest)).length -
            (way.2.extended mark rest).after.length =
              (char :: first).length - way.2.after.length := by
          simp only [Place.extended, List.length_cons, List.length_append]
          omega
        have short : (char :: first).length - way.2.after.length - 1 ≤ first.length := by
          rw [List.length_cons]
          omega
        simp only [List.map_cons, width, List.cons_append]
        rw [inductionHypothesis _ _ (some char) short,
          findAllFrom_values scan (position + 1) position 0 (some mark) rest]

/-- The readings found in two clauses are those of the first and after them those of the second. -/
theorem findAll_append_cons {mark : Char} {holds : Char → Bool} {scan : Scan Value}
    (stops : StopsAt mark scan) (looks : LooksBackFor holds scan) (outside : holds mark = false)
    (reads : ∀ before, scan ⟨before, []⟩ = []) (first rest : List Char) :
    (findAll scan (first ++ mark :: rest)).map (·.value) =
      (findAll scan first).map (·.value) ++ (findAll scan rest).map (·.value) := by
  have alike : Option.any holds (some mark) = Option.any holds none := outside
  unfold findAll
  rw [findAllFrom_append_cons stops reads 0 0 none first rest (Nat.zero_le _),
    findAllFrom_values_of_alike looks 0 alike rest]

/-- Where nothing is read at the end of a text, a search finds the first of all readings. -/
theorem search_eq_head?_findAll {scan : Scan Value} (reads : ∀ before, scan ⟨before, []⟩ = [])
    (text : List Char) : search scan text = (findAll scan text).head? := by
  have everywhere (position : Nat) (before : Option Char) (text : List Char) :
      searchFrom scan position before text = (findAllFrom scan position 0 before text).head? := by
    induction text generalizing position before with
    | nil => rw [searchFrom, reads before, findAllFrom, List.head?_nil]
    | cons char text inductionHypothesis =>
      rw [searchFrom, findAllFrom]
      cases scan ⟨before, char :: text⟩ with
      | nil => exact inductionHypothesis (position + 1) (some char)
      | cons way ways => rfl
  exact everywhere 0 none text

/-- A search in two clauses finds what it finds in the first, and otherwise what it finds in the
second. -/
theorem search_append_cons {mark : Char} {holds : Char → Bool} {scan : Scan Value}
    (stops : StopsAt mark scan) (looks : LooksBackFor holds scan) (outside : holds mark = false)
    (reads : ∀ before, scan ⟨before, []⟩ = []) (first rest : List Char) :
    (search scan (first ++ mark :: rest)).map (·.value) =
      ((search scan first).map (·.value)).or ((search scan rest).map (·.value)) := by
  simp only [search_eq_head?_findAll reads, ← List.head?_map]
  rw [findAll_append_cons stops looks outside reads, List.head?_append]

end Scan

end OpeningHours.Text
