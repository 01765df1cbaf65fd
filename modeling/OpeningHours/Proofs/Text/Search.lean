import Mathlib.Data.List.Basic
import OpeningHours.Text.Scan

/-
What a scan reads, and what a search finds. Single characters, runs and words are read in one way or
in none, and a sequence reads what its parts read one after the other. Whatever is read, reading
goes on in the text that was left. A search passes over the places at which its scan has no way, and
a word is found in a text only where all its characters are.
-/

namespace OpeningHours.Text

/-- The place reached by reading `read` from a place after `before`. -/
def Place.past (before : Option Char) (read rest : List Char) : Place :=
  ⟨read.getLast?.or before, rest⟩

@[simp] theorem Place.past_nil (before : Option Char) (rest : List Char) :
    Place.past before [] rest = ⟨before, rest⟩ := rfl

@[simp] theorem Place.past_cons (before : Option Char) (char : Char) (read rest : List Char) :
    Place.past before (char :: read) rest = Place.past (some char) read rest := by
  cases read with
  | nil => rfl
  | cons next more => simp [Place.past, List.getLast?_cons]

namespace Scan

variable {Value Next : Type}

/-! ### Going on -/

theorem andThen_of_single {scan : Scan Value} {place reached : Place} {value : Value}
    (next : Value → Scan Next) (only : scan place = [(value, reached)]) :
    andThen scan next place = next value reached := by
  rw [andThen_apply, only, List.flatMap_singleton]

theorem andThen_of_nil {scan : Scan Value} {place : Place} (next : Value → Scan Next)
    (none : scan place = []) : andThen scan next place = [] := by
  rw [andThen_apply, none, List.flatMap_nil]

theorem mem_andThen {scan : Scan Value} {next : Value → Scan Next} {place : Place}
    {way : Next × Place} :
    way ∈ andThen scan next place ↔ ∃ first ∈ scan place, way ∈ next first.1 first.2 := by
  rw [andThen_apply, List.mem_flatMap]

theorem andThen_assoc {Last : Type} (scan : Scan Value) (next : Value → Scan Next)
    (last : Next → Scan Last) :
    andThen (andThen scan next) last = andThen scan fun value => andThen (next value) last :=
  funext fun _ => List.flatMap_assoc

theorem done_andThen (value : Value) (next : Value → Scan Next) :
    andThen (done value) next = next value :=
  funext fun place => andThen_of_single next (done_apply value place)

/-- A sequence goes on from the first way of its first part when its second part can. -/
theorem head?_andThen {scan : Scan Value} {next : Value → Scan Next} {place reached : Place}
    {value : Value} {result : Next × Place} (first : (scan place).head? = some (value, reached))
    (goesOn : (next value reached).head? = some result) :
    (andThen scan next place).head? = some result := by
  obtain ⟨others, ways⟩ := List.head?_eq_some_iff.mp first
  rw [andThen_apply, ways, List.flatMap_cons, List.head?_append, goesOn, Option.some_or]

/-! ### Single characters, runs and words -/

theorem oneChar_of_holds (holds : Char → Bool) (before : Option Char) {char : Char}
    (rest : List Char) (held : holds char = true) :
    oneChar holds ⟨before, char :: rest⟩ = [(char, ⟨some char, rest⟩)] :=
  if_pos held

/-- A character of a class is not read where none of the class comes next. -/
theorem oneChar_eq_nil {holds : Char → Bool} {place : Place}
    (stops : place.after.head?.any holds = false) : oneChar holds place = [] := by
  obtain ⟨before, after⟩ := place
  cases after with
  | nil => rfl
  | cons char rest =>
    have outside : holds char = false := stops
    simp [oneChar, outside]

theorem runPlace_append (holds : Char → Bool) (before : Option Char) (read rest : List Char)
    (all : read.all holds = true) (stops : rest.head?.any holds = false) :
    runPlace holds before (read ++ rest) = Place.past before read rest := by
  induction read generalizing before with
  | nil =>
    cases rest with
    | nil => rfl
    | cons char rest =>
      have outside : holds char = false := stops
      simp [runPlace, outside]
  | cons char read inductionHypothesis =>
    rw [List.all_cons, Bool.and_eq_true] at all
    rw [List.cons_append, runPlace, if_pos all.1, inductionHypothesis (some char) all.2,
      Place.past_cons]

/-- A run reads all that belongs to its class. -/
theorem run_append (holds : Char → Bool) (before : Option Char) (read rest : List Char)
    (all : read.all holds = true) (stops : rest.head?.any holds = false) :
    run holds ⟨before, read ++ rest⟩ = [((), Place.past before read rest)] := by
  rw [run, runPlace_append holds before read rest all stops]

theorem run1_append (holds : Char → Bool) (before : Option Char) (read rest : List Char)
    (nonempty : read ≠ []) (all : read.all holds = true)
    (stops : rest.head?.any holds = false) :
    run1 holds ⟨before, read ++ rest⟩ = [((), Place.past before read rest)] := by
  cases read with
  | nil => exact absurd rfl nonempty
  | cons char read =>
    rw [List.all_cons, Bool.and_eq_true] at all
    rw [run1, List.cons_append, andThen_of_single _ (oneChar_of_holds holds before _ all.1),
      run_append holds _ read rest all.2 stops, Place.past_cons]

theorem run1_eq_nil {holds : Char → Bool} {place : Place}
    (stops : place.after.head?.any holds = false) : run1 holds place = [] := by
  rw [run1, andThen_of_nil _ (oneChar_eq_nil stops)]

theorem word_append (read : List Char) (before : Option Char) (rest : List Char) :
    word read ⟨before, read ++ rest⟩ = [((), Place.past before read rest)] := by
  induction read generalizing before with
  | nil => rfl
  | cons char read inductionHypothesis =>
    rw [word, List.cons_append,
      andThen_of_single _ (oneChar_of_holds _ before _ (decide_eq_true rfl)),
      inductionHypothesis (some char), Place.past_cons]

/-- Where a word is read, the text begins with it. -/
theorem word_ways {read : List Char} {place : Place} {way : Unit × Place}
    (member : way ∈ word read place) : place.after = read ++ way.2.after := by
  induction read generalizing place with
  | nil =>
    rw [word, done_apply, List.mem_singleton] at member
    rw [member, List.nil_append]
  | cons char read inductionHypothesis =>
    obtain ⟨before, after⟩ := place
    rw [word, mem_andThen] at member
    obtain ⟨first, firstMember, rest⟩ := member
    cases after with
    | nil => cases firstMember
    | cons other after =>
      by_cases same : other = char
      · rw [oneChar_of_holds _ before _ (decide_eq_true same), List.mem_singleton] at firstMember
        rw [firstMember] at rest
        have inner := inductionHypothesis rest
        rw [same, List.cons_append]
        exact congrArg (char :: ·) inner
      · rw [oneChar_eq_nil (by simpa using same)] at firstMember
        cases firstMember

theorem word_eq_nil {read : List Char} {place : Place} (other : ¬ read <+: place.after) :
    word read place = [] := by
  rw [List.eq_nil_iff_forall_not_mem]
  exact fun way member => other ⟨way.2.after, (word_ways member).symm⟩

theorem exactly_append (holds : Char → Bool) (before : Option Char) (read rest : List Char)
    (all : read.all holds = true) :
    exactly holds read.length ⟨before, read ++ rest⟩ = [(read, Place.past before read rest)] := by
  induction read generalizing before with
  | nil => rfl
  | cons char read inductionHypothesis =>
    rw [List.all_cons, Bool.and_eq_true] at all
    rw [List.length_cons, exactly, List.cons_append,
      andThen_of_single _ (oneChar_of_holds holds before _ all.1),
      andThen_of_single _ (inductionHypothesis (some char) all.2), done_apply, Place.past_cons]

/-- A row of characters of a class is not read when one of another class breaks it off. -/
theorem exactly_eq_nil (holds : Char → Bool) (count : Nat) (before : Option Char)
    (read rest : List Char) (short : read.length < count)
    (stops : rest.head?.any holds = false) :
    exactly holds count ⟨before, read ++ rest⟩ = [] := by
  induction count generalizing before read with
  | zero => omega
  | succ count inductionHypothesis =>
    rw [exactly]
    cases read with
    | nil => exact andThen_of_nil _ (oneChar_eq_nil stops)
    | cons char read =>
      rw [List.length_cons] at short
      by_cases held : holds char = true
      · rw [List.cons_append, andThen_of_single _ (oneChar_of_holds holds before _ held)]
        exact andThen_of_nil _ (inductionHypothesis (some char) read (by omega))
      · exact andThen_of_nil _ (oneChar_eq_nil (by simpa using held))

/-! ### What is read -/

theorem oneChar_ways {holds : Char → Bool} {place : Place} {way : Char × Place}
    (member : way ∈ oneChar holds place) : holds way.1 = true := by
  obtain ⟨before, after⟩ := place
  cases after with
  | nil => cases member
  | cons char after =>
    by_cases held : holds char = true
    · rw [oneChar_of_holds holds before _ held, List.mem_singleton] at member
      rw [member, held]
    · rw [oneChar_eq_nil (by simpa using held)] at member
      cases member

/-- A row of characters of a class has the length asked for and keeps to the class. -/
theorem exactly_ways {holds : Char → Bool} {count : Nat} {place : Place}
    {way : List Char × Place} (member : way ∈ exactly holds count place) :
    way.1.length = count ∧ way.1.all holds = true := by
  induction count generalizing place way with
  | zero =>
    obtain rfl := List.mem_singleton.mp member
    exact ⟨rfl, rfl⟩
  | succ count inductionHypothesis =>
    obtain ⟨first, firstMember, member⟩ := mem_andThen.mp member
    obtain ⟨rest, restMember, member⟩ := mem_andThen.mp member
    obtain ⟨length, all⟩ := inductionHypothesis restMember
    obtain rfl := List.mem_singleton.mp member
    rw [List.length_cons, length, List.all_cons, oneChar_ways firstMember, all]
    exact ⟨rfl, rfl⟩

/-- A part that may be missing is either missing or read. -/
theorem optional_ways {scan : Scan Value} {place : Place} {way : Option Value × Place}
    (member : way ∈ optional scan place) :
    way.1 = none ∨ ∃ read ∈ scan place, way.1 = some read.1 := by
  rcases List.mem_append.mp member with isRead | isMissing
  · obtain ⟨read, readMember, isRead⟩ := mem_andThen.mp isRead
    obtain rfl := List.mem_singleton.mp isRead
    exact Or.inr ⟨read, readMember, rfl⟩
  · obtain rfl := List.mem_singleton.mp isMissing
    exact Or.inl rfl

/-! ### Ways lead forward -/

/-- Whatever the scan reads, it goes on in the text that was left. -/
def GoesForward (scan : Scan Value) : Prop :=
  ∀ place, ∀ way ∈ scan place, way.2.after <:+ place.after

theorem GoesForward.done (value : Value) : GoesForward (done value) := by
  intro place way member
  obtain rfl := List.mem_singleton.mp member
  exact List.suffix_rfl

theorem GoesForward.andThen {scan : Scan Value} {next : Value → Scan Next}
    (first : GoesForward scan) (second : ∀ value, GoesForward (next value)) :
    GoesForward (andThen scan next) := by
  intro place way member
  obtain ⟨between, firstMember, secondMember⟩ := mem_andThen.mp member
  exact (second _ _ way secondMember).trans (first place between firstMember)

theorem GoesForward.orElse {first second : Scan Value} (one : GoesForward first)
    (other : GoesForward second) : GoesForward (orElse first second) := by
  intro place way member
  rcases List.mem_append.mp member with inFirst | inSecond
  · exact one place way inFirst
  · exact other place way inSecond

theorem GoesForward.firstOf {scans : List (Scan Value)}
    (each : ∀ scan ∈ scans, GoesForward scan) : GoesForward (firstOf scans) := by
  intro place way member
  obtain ⟨scan, scanMember, inScan⟩ := List.mem_flatMap.mp member
  exact each scan scanMember place way inScan

theorem GoesForward.optional {scan : Scan Value} (forward : GoesForward scan) :
    GoesForward (optional scan) :=
  (forward.andThen fun _ => .done _).orElse (.done _)

theorem GoesForward.oneChar (holds : Char → Bool) : GoesForward (oneChar holds) := by
  intro place way member
  obtain ⟨before, after⟩ := place
  cases after with
  | nil => cases member
  | cons char after =>
    by_cases held : holds char = true
    · rw [oneChar_of_holds holds before after held, List.mem_singleton] at member
      rw [member]
      exact List.suffix_cons char after
    · rw [oneChar_eq_nil (by simpa using held)] at member
      cases member

theorem GoesForward.run (holds : Char → Bool) : GoesForward (run holds) := by
  have forward (before : Option Char) (after : List Char) :
      (runPlace holds before after).after <:+ after := by
    induction after generalizing before with
    | nil => exact List.suffix_rfl
    | cons char after inductionHypothesis =>
      rw [runPlace]
      split
      · exact (inductionHypothesis (some char)).trans (List.suffix_cons char after)
      · exact List.suffix_rfl
  intro place way member
  rw [List.mem_singleton.mp member]
  exact forward place.before place.after

theorem GoesForward.word (read : List Char) : GoesForward (word read) :=
  fun _ _ member => ⟨read, (word_ways member).symm⟩

theorem boundary_apply (holds : Char → Bool) (place : Place) :
    boundary holds place =
      if place.before.any holds != place.after.head?.any holds then [((), place)] else [] := rfl

/-- A boundary is where it is found. -/
theorem boundary_ways {holds : Char → Bool} {place : Place} {way : Unit × Place}
    (member : way ∈ boundary holds place) : way.2 = place := by
  rw [boundary_apply] at member
  split at member
  · rw [List.mem_singleton.mp member]
  · cases member

theorem GoesForward.boundary (holds : Char → Bool) : GoesForward (boundary holds) := by
  intro place way member
  have still : way.2.after = place.after := congrArg Place.after (boundary_ways member)
  exact still ▸ List.suffix_rfl

/-! ### Searching -/

/-- A search passes over places at which there is no way and takes the first way at the next. -/
theorem searchFrom_value (scan : Scan Value) (position : Nat) (before : Option Char)
    (passed rest : List Char) (value : Value)
    (fails : ∀ char ∈ passed, ∀ before rest, scan ⟨before, char :: rest⟩ = [])
    (found : ∀ before, ∃ reached, (scan ⟨before, rest⟩).head? = some (value, reached)) :
    (searchFrom scan position before (passed ++ rest)).map (·.value) = some value := by
  induction passed generalizing position before with
  | nil =>
    obtain ⟨reached, first⟩ := found before
    obtain ⟨late, ways⟩ := List.head?_eq_some_iff.mp first
    cases rest with
    | nil => rw [List.nil_append, searchFrom, ways, Option.map_some]
    | cons char rest => rw [List.nil_append, searchFrom, ways, Option.map_some]
  | cons char passed inductionHypothesis =>
    rw [List.cons_append, searchFrom, fails char List.mem_cons_self]
    exact inductionHypothesis (position + 1) (some char)
      fun other member => fails other (List.mem_cons_of_mem _ member)

theorem searchFrom_eq_none (scan : Scan Value) (position : Nat) (before : Option Char)
    (text : List Char) (fails : ∀ before rest, rest <:+ text → scan ⟨before, rest⟩ = []) :
    searchFrom scan position before text = none := by
  induction text generalizing position before with
  | nil => rw [searchFrom, fails before [] List.suffix_rfl]
  | cons char text inductionHypothesis =>
    rw [searchFrom, fails before (char :: text) List.suffix_rfl]
    exact inductionHypothesis (position + 1) (some char)
      fun before rest suffix => fails before rest (suffix.trans (List.suffix_cons char text))

theorem findAllFrom_eq_nil (scan : Scan Value) (position : Nat) (before : Option Char)
    (text : List Char) (fails : ∀ before rest, rest <:+ text → scan ⟨before, rest⟩ = []) :
    findAllFrom scan position 0 before text = [] := by
  induction text generalizing position before with
  | nil => rfl
  | cons char text inductionHypothesis =>
    rw [findAllFrom, fails before (char :: text) List.suffix_rfl]
    exact inductionHypothesis (position + 1) (some char)
      fun before rest suffix => fails before rest (suffix.trans (List.suffix_cons char text))

/-- What a search finds is read in one of the ways of its scan. -/
theorem searchFrom_ways {scan : Scan Value} {position : Nat} {before : Option Char}
    {text : List Char} {found : Found Value}
    (search : searchFrom scan position before text = some found) :
    ∃ place, ∃ way ∈ scan place, way.1 = found.value := by
  induction text generalizing position before with
  | nil =>
    rw [searchFrom] at search
    split at search
    · next value reached ways first =>
      obtain rfl := Option.some.inj search
      exact ⟨_, (value, reached), first ▸ List.mem_cons_self, rfl⟩
    · cases search
  | cons char text inductionHypothesis =>
    rw [searchFrom] at search
    split at search
    · next value reached ways first =>
      obtain rfl := Option.some.inj search
      exact ⟨_, (value, reached), first ▸ List.mem_cons_self, rfl⟩
    · exact inductionHypothesis search

theorem findAllFrom_ways {scan : Scan Value} {position skip : Nat} {before : Option Char}
    {text : List Char} {found : Found Value}
    (member : found ∈ findAllFrom scan position skip before text) :
    ∃ place, ∃ way ∈ scan place, way.1 = found.value := by
  induction text generalizing position skip before with
  | nil => cases member
  | cons char text inductionHypothesis =>
    cases skip with
    | succ skip => exact inductionHypothesis member
    | zero =>
      rw [findAllFrom] at member
      split at member
      · next value reached ways first =>
        rcases List.mem_cons.mp member with here | later
        · exact ⟨_, (value, reached), first ▸ List.mem_cons_self, by rw [here]⟩
        · exact inductionHypothesis later
      · exact inductionHypothesis member

/-- Nothing is found in characters that are still to be passed over. -/
theorem findAllFrom_skip (scan : Scan Value) (position skip : Nat)
    (before : Option Char) (text : List Char) (within : text.length ≤ skip) :
    findAllFrom scan position skip before text = [] := by
  induction text generalizing position skip before with
  | nil => rfl
  | cons char text inductionHypothesis =>
    rw [List.length_cons] at within
    obtain ⟨skip, rfl⟩ : ∃ less, skip = less + 1 := ⟨skip - 1, by omega⟩
    exact inductionHypothesis (position + 1) skip (some char) (by omega)

/-- A reading that takes in the whole text is the only one found. -/
theorem findAll_of_whole {scan : Scan Value} {text : List Char} {value : Value}
    {last : Option Char} (written : text ≠ [])
    (head : (scan ⟨none, text⟩).head? = some (value, ⟨last, []⟩)) :
    (findAll scan text).map (·.value) = [value] := by
  obtain ⟨others, ways⟩ := List.head?_eq_some_iff.mp head
  obtain ⟨char, rest, rfl⟩ := List.exists_cons_of_ne_nil written
  rw [findAll, findAllFrom, ways]
  simp [findAllFrom_skip]

/-- A scan that begins with a word finds nothing in a text without the word. -/
theorem search_word_eq_none (read : List Char) (next : Unit → Scan Value) (text : List Char)
    (absent : occursIn read text = false) : search (andThen (word read) next) text = none := by
  apply searchFrom_eq_none
  intro before rest suffix
  apply andThen_of_nil
  apply word_eq_nil
  intro here
  have occurs := (occursIn_iff read text).mpr (here.isInfix.trans suffix.isInfix)
  rw [absent] at occurs
  cases occurs

end Scan

/-! ### Words within a text -/

/-- A word does not occur in a text that lacks one of its characters. -/
theorem occursIn_eq_false_of_not_mem {word text : List Char} (char : Char) (needed : char ∈ word)
    (missing : char ∉ text) : occursIn word text = false := by
  rw [← Bool.not_eq_true, occursIn_iff]
  exact fun occurs => missing (occurs.subset needed)

/-- A word does not occur across a character that it does not hold. -/
theorem occursIn_append_cons (word first rest : List Char) (mark : Char) (outside : mark ∉ word) :
    occursIn word (first ++ mark :: rest) = (occursIn word first || occursIn word rest) := by
  have notAtMark : ∀ part, part <+: mark :: rest → mark ∉ part → part = [] := by
    intro part here absent
    cases part with
    | nil => rfl
    | cons char part =>
      obtain ⟨rfl, _⟩ := List.cons_prefix_cons.mp here
      exact absurd List.mem_cons_self absent
  rw [Bool.eq_iff_iff, Bool.or_eq_true, occursIn_iff, occursIn_iff, occursIn_iff]
  constructor
  · rw [List.infix_append_iff, List.infix_cons_iff]
    rintro (inFirst | (atMark | inRest) | ⟨left, right, rfl, inFirst, atMark⟩)
    · exact Or.inl inFirst
    · rw [notAtMark word atMark outside]
      exact Or.inl (List.nil_infix)
    · exact Or.inr inRest
    · rw [notAtMark right atMark fun member => outside (List.mem_append_right _ member),
        List.append_nil]
      exact Or.inl inFirst.isInfix
  · rintro (inFirst | inRest)
    · exact inFirst.trans (List.infix_append [] first (mark :: rest))
    · exact inRest.trans ⟨first ++ [mark], [], by simp⟩

/-- A word with a mark in it occurs in a text with one such mark only where its parts do on the two
sides of it. -/
theorem occursIn_across {front back before after : List Char} {mark : Char}
    (notBefore : mark ∉ before) (notAfter : mark ∉ after)
    (occurs : occursIn (front ++ mark :: back) (before ++ mark :: after) = true) :
    occursIn front before = true ∧ occursIn back after = true := by
  obtain ⟨early, late, whole⟩ := (occursIn_iff _ _).mp occurs
  have split : (early ++ front) ++ mark :: (back ++ late) = before ++ mark :: after := by
    rw [← whole]
    simp
  obtain ⟨rfl, _, rfl⟩ := (List.append_cons_inj_of_notMem notBefore notAfter).mp split.symm
  exact ⟨(occursIn_iff _ _).mpr (List.suffix_append early front).isInfix,
    (occursIn_iff _ _).mpr (List.prefix_append back late).isInfix⟩

/-- A word does not begin in a part of a text that lacks its first character. -/
theorem occursIn_append_of_head_not_mem (char : Char) (word first rest : List Char)
    (missing : char ∉ first) :
    occursIn (char :: word) (first ++ rest) = occursIn (char :: word) rest := by
  induction first with
  | nil => rfl
  | cons other first inductionHypothesis =>
    rw [List.mem_cons, not_or] at missing
    rw [List.cons_append, occursIn, inductionHypothesis missing.2, List.isPrefixOf_cons_cons,
      beq_eq_false_iff_ne.mpr missing.1, Bool.false_and, Bool.false_or]

/-- A word does not occur across a character that is none of its later ones. -/
theorem occursIn_append_of_not_mem_tail {word : List Char} {mark : Char}
    (outside : mark ∉ word.tail) (first rest : List Char) :
    occursIn word (first ++ mark :: rest) = (occursIn word first || occursIn word (mark :: rest)) := by
  rw [Bool.eq_iff_iff, Bool.or_eq_true, occursIn_iff, occursIn_iff, occursIn_iff,
    List.infix_append_iff]
  constructor
  · rintro (inFirst | inRest | ⟨left, right, rfl, inFirst, atMark⟩)
    · exact Or.inl inFirst
    · exact Or.inr inRest
    · cases right with
      | nil =>
        rw [List.append_nil]
        exact Or.inl inFirst.isInfix
      | cons char right =>
        obtain ⟨rfl, _⟩ := List.cons_prefix_cons.mp atMark
        cases left with
        | nil => exact Or.inr atMark.isInfix
        | cons other left => exact absurd (List.mem_append_right left List.mem_cons_self) outside
  · rintro (inFirst | inRest)
    · exact Or.inl inFirst
    · exact Or.inr (Or.inl inRest)

theorem anyOccursIn_eq_false_iff (words : List (List Char)) (text : List Char) :
    anyOccursIn words text = false ↔ ∀ word ∈ words, occursIn word text = false := by
  simp [anyOccursIn]

theorem anyOccursIn_append_cons {words : List (List Char)} {mark : Char}
    (outside : ∀ word ∈ words, mark ∉ word) (first rest : List Char) :
    anyOccursIn words (first ++ mark :: rest) =
      (anyOccursIn words first || anyOccursIn words rest) := by
  rw [Bool.eq_iff_iff, Bool.or_eq_true, anyOccursIn, anyOccursIn, anyOccursIn, List.any_eq_true,
    List.any_eq_true, List.any_eq_true, ← exists_or]
  refine exists_congr fun word => ?_
  rw [← and_or_left]
  refine and_congr_right fun member => ?_
  rw [occursIn_append_cons word first rest mark (outside word member), Bool.or_eq_true]

/-- What does not occur in a text does not occur in the end of it either. -/
theorem anyOccursIn_eq_false_of_suffix {words : List (List Char)} {rest text : List Char}
    (suffix : rest <:+ text) (absent : anyOccursIn words text = false) :
    anyOccursIn words rest = false := by
  rw [anyOccursIn_eq_false_iff] at absent ⊢
  intro word member
  have missing := absent word member
  rw [← Bool.not_eq_true, occursIn_iff] at missing ⊢
  exact fun occurs => missing (occurs.trans suffix.isInfix)

/-- A word with a character outside a class does not occur in a text that keeps to the class. -/
theorem occursIn_eq_false_of_foreign {holds : Char → Bool} {word text : List Char}
    (keeps : text.all holds = true) (foreign : word.any (fun char => !holds char) = true) :
    occursIn word text = false := by
  obtain ⟨char, needed, outside⟩ := List.any_eq_true.mp foreign
  refine occursIn_eq_false_of_not_mem char needed fun member => ?_
  rw [List.all_eq_true.mp keeps char member] at outside
  cases outside

theorem anyOccursIn_eq_false_of_foreign {holds : Char → Bool} {words : List (List Char)}
    {text : List Char} (keeps : text.all holds = true)
    (foreign : ∀ word ∈ words, word.any (fun char => !holds char) = true) :
    anyOccursIn words text = false := by
  rw [anyOccursIn_eq_false_iff]
  exact fun word member => occursIn_eq_false_of_foreign keeps (foreign word member)

end OpeningHours.Text
