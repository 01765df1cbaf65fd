import OpeningHours.Proofs.Text.Strip
import OpeningHours.Text.Lines

/-
A sheet holds texts, each on a line of its own, and is read back as those texts. Lines may be blank,
texts may have white space around them, a line may end in either of the two usual ways, and the last
one need not end at all; none of this is seen in what is read. The texts must be such that a line
can hold them: there is more to them than white space, none of it is at their ends, and no character
in them ends a line.
-/

namespace OpeningHours.Text

/-! ### Sheets of texts -/

/-- White space that does not end a line. -/
def isSpacing (char : Char) : Bool :=
  isBlank char && !isLineBoundary char

/-- No character of the text ends a line. -/
def Unbroken (text : List Char) : Prop :=
  ∀ char ∈ text, isLineBoundary char = false

instance (text : List Char) : Decidable (Unbroken text) :=
  List.decidableBAll (fun char => isLineBoundary char = false) text

/-- A text that can stand on a line of its own. -/
structure IsEntry (text : List Char) : Prop where
  unblank : allBlank text = false
  stripped : strip text = text
  unbroken : Unbroken text

/-- What ends a line on a sheet. -/
inductive IsLineEnd : List Char → Prop
  | feed : IsLineEnd ['\n']
  | returnFeed : IsLineEnd ['\r', '\n']

/-- The line is blank but for the text on it, if there is one. -/
inductive IsRow : Option (List Char) → List Char → Prop
  | blank {spacing : List Char} (spaced : spacing.all isSpacing = true) : IsRow none spacing
  | entry {before text after : List Char} (isBefore : before.all isSpacing = true)
      (isEntry : IsEntry text) (isAfter : after.all isSpacing = true) :
      IsRow (some text) (before ++ text ++ after)

/-- The content of a sheet that holds the texts in order, at most one on a line. -/
inductive IsSheet : List (List Char) → List Char → Prop
  | last {held : Option (List Char)} {row : List Char} (isRow : IsRow held row) :
      IsSheet held.toList row
  | more {held : Option (List Char)} {row ending content : List Char} {texts : List (List Char)}
      (isRow : IsRow held row) (isEnding : IsLineEnd ending) (sheet : IsSheet texts content) :
      IsSheet (held.toList ++ texts) (row ++ ending ++ content)

/-! ### Rows -/

theorem Unbroken.tail {char : Char} {text : List Char} (unbroken : Unbroken (char :: text)) :
    Unbroken text :=
  fun other member => unbroken other (List.mem_cons_of_mem char member)

theorem Unbroken.append {first second : List Char} (one : Unbroken first)
    (other : Unbroken second) : Unbroken (first ++ second) := fun char member =>
  (List.mem_append.mp member).elim (one char) (other char)

theorem allBlank_of_spacing {spacing : List Char} (spaced : spacing.all isSpacing = true) :
    allBlank spacing = true := by
  rw [allBlank, List.all_eq_true]
  intro char member
  have both := List.all_eq_true.mp spaced char member
  exact (Bool.and_eq_true_iff.mp both).1

theorem unbroken_of_spacing {spacing : List Char} (spaced : spacing.all isSpacing = true) :
    Unbroken spacing := by
  intro char member
  have both := List.all_eq_true.mp spaced char member
  exact (Bool.not_eq_true' _).mp (Bool.and_eq_true_iff.mp both).2

/-- No character of a row ends a line. -/
theorem IsRow.unbroken {held : Option (List Char)} {row : List Char} (isRow : IsRow held row) :
    Unbroken row := by
  cases isRow with
  | blank spaced => exact unbroken_of_spacing spaced
  | entry isBefore isEntry isAfter =>
    have front := (unbroken_of_spacing isBefore).append isEntry.unbroken
    exact front.append (unbroken_of_spacing isAfter)

/-- An entry begins with a character that is not white space. -/
theorem IsEntry.exists_cons {text : List Char} (isEntry : IsEntry text) :
    ∃ char rest, text = char :: rest ∧ isBlank char = false := by
  have bare : stripStart text = text := by
    rw [← isEntry.stripped, stripStart_strip]
  cases text with
  | nil => exact absurd isEntry.unblank (by decide)
  | cons char rest =>
    have begins := List.head?_dropWhile_not isBlank (char :: rest)
    rw [← stripStart, bare] at begins
    exact ⟨char, rest, rfl, begins⟩

/-- White space around an entry is what stripping takes away. -/
theorem IsEntry.strip_between {before text after : List Char} (isEntry : IsEntry text)
    (isBefore : allBlank before = true) (isAfter : allBlank after = true) :
    strip (before ++ text ++ after) = text := by
  have front (rest : List Char) : stripStart (text ++ rest) = text ++ rest := by
    obtain ⟨char, others, rfl, unblank⟩ := isEntry.exists_cons
    exact stripStart_of_unblank unblank (others ++ rest)
  have bare := front []
  rw [List.append_nil] at bare
  have start : stripStart (before ++ text ++ after) = text ++ after := by
    rw [stripStart, List.append_assoc, List.dropWhile_append_of_pos (List.all_eq_true.mp isBefore)]
    exact front after
  have isAfter : ∀ char ∈ after.reverse, isBlank char = true := fun char member =>
    List.all_eq_true.mp isAfter char (List.mem_reverse.mp member)
  rw [strip, start, List.reverse_append, stripStart, List.dropWhile_append_of_pos isAfter]
  have stripped := isEntry.stripped
  rwa [strip, bare] at stripped

/-- A row is kept where it holds a text, and the text is what is left of it. -/
theorem IsRow.kept {held : Option (List Char)} {row : List Char} (isRow : IsRow held row) :
    (if allBlank row then [] else [strip row]) = held.toList := by
  cases isRow with
  | blank spaced =>
    rw [allBlank_of_spacing spaced, if_pos rfl]
    rfl
  | @entry before text after isBefore isEntry isAfter =>
    have unblank : allBlank (before ++ text ++ after) = false := by
      have inner := isEntry.unblank
      rw [allBlank] at inner ⊢
      rw [List.all_append, List.all_append, inner, Bool.and_false, Bool.false_and]
    rw [unblank, isEntry.strip_between (allBlank_of_spacing isBefore) (allBlank_of_spacing isAfter)]
    rfl

/-! ### Cutting a sheet into lines -/

theorem unifyNewlines_cons {char : Char} (other : char ≠ '\r') (rest : List Char) :
    unifyNewlines (char :: rest) = char :: unifyNewlines rest := by
  rw [unifyNewlines, if_neg other]
  rintro rest rfl
  exact absurd rfl other

theorem unifyNewlines_append {row : List Char} (unbroken : Unbroken row)
    (rest : List Char) : unifyNewlines (row ++ rest) = row ++ unifyNewlines rest := by
  induction row with
  | nil => rfl
  | cons char row inductionHypothesis =>
    have other : char ≠ '\r' := by
      rintro rfl
      exact absurd (unbroken '\r' List.mem_cons_self) (by decide)
    rw [List.cons_append, unifyNewlines_cons other, inductionHypothesis unbroken.tail]
    rfl

theorem IsLineEnd.unifyNewlines {ending : List Char} (isEnding : IsLineEnd ending)
    (rest : List Char) : unifyNewlines (ending ++ rest) = '\n' :: unifyNewlines rest := by
  cases isEnding with
  | feed => exact unifyNewlines_cons (by decide) rest
  | returnFeed => rfl

theorem splitLines_row {row : List Char} (unbroken : Unbroken row) :
    splitLines row = if row = [] then [] else [row] := by
  induction row with
  | nil => rfl
  | cons char row inductionHypothesis =>
    rw [splitLines, unbroken char List.mem_cons_self, if_neg Bool.false_ne_true,
      inductionHypothesis unbroken.tail]
    cases row <;> rfl

theorem splitLines_append {row : List Char} (unbroken : Unbroken row) (rest : List Char) :
    splitLines (row ++ '\n' :: rest) = row :: splitLines rest := by
  induction row with
  | nil => rfl
  | cons char row inductionHypothesis =>
    rw [List.cons_append, splitLines, unbroken char List.mem_cons_self, if_neg Bool.false_ne_true,
      inductionHypothesis unbroken.tail]

theorem contentLines_row {held : Option (List Char)} {row : List Char} (isRow : IsRow held row) :
    contentLines row = held.toList := by
  have whole := unifyNewlines_append isRow.unbroken []
  rw [List.append_nil] at whole
  rw [contentLines, whole, unifyNewlines, List.append_nil, splitLines_row isRow.unbroken,
    ← isRow.kept]
  cases row with
  | nil => rfl
  | cons char rest =>
    rw [if_neg (List.cons_ne_nil char rest), List.filter_cons]
    cases allBlank (char :: rest) <;> rfl

theorem contentLines_append {held : Option (List Char)} {row ending : List Char}
    (isRow : IsRow held row) (isEnding : IsLineEnd ending) (content : List Char) :
    contentLines (row ++ ending ++ content) = held.toList ++ contentLines content := by
  rw [contentLines, List.append_assoc, unifyNewlines_append isRow.unbroken, isEnding.unifyNewlines,
    splitLines_append isRow.unbroken, ← isRow.kept, List.filter_cons]
  cases allBlank row <;> rfl

/-- A sheet is read as the texts that it holds. -/
theorem IsSheet.contentLines {texts : List (List Char)} {content : List Char}
    (sheet : IsSheet texts content) : contentLines content = texts := by
  induction sheet with
  | last isRow => exact contentLines_row isRow
  | more isRow isEnding _ inductionHypothesis =>
    rw [contentLines_append isRow isEnding, inductionHypothesis]

/-! ### Entries -/

theorem unbroken_of_mem_splitLines {text line : List Char} (member : line ∈ splitLines text) :
    Unbroken line := by
  induction text generalizing line with
  | nil => cases member
  | cons char rest inductionHypothesis =>
    rw [splitLines] at member
    split at member
    · rcases List.mem_cons.mp member with rfl | member
      · exact List.forall_mem_nil _
      · exact inductionHypothesis member
    · next inside =>
      rw [Bool.not_eq_true] at inside
      split at member
      · rw [List.mem_singleton.mp member]
        exact List.forall_mem_singleton.mpr inside
      · next first others parts =>
        rw [parts] at inductionHypothesis
        rcases List.mem_cons.mp member with rfl | member
        · exact List.forall_mem_cons.mpr ⟨inside, inductionHypothesis List.mem_cons_self⟩
        · exact inductionHypothesis (List.mem_cons_of_mem first member)

theorem Unbroken.strip {text : List Char} (unbroken : Unbroken text) : Unbroken (strip text) := by
  intro char member
  have inner := (List.dropWhile_suffix isBlank).subset (List.mem_reverse.mp member)
  exact unbroken char ((List.dropWhile_suffix isBlank).subset (List.mem_reverse.mp inner))

/-- Whatever a file holds, what is read from it are texts that can stand on lines of their own. -/
theorem isEntry_of_mem_contentLines {content text : List Char}
    (member : text ∈ Text.contentLines content) : IsEntry text := by
  obtain ⟨line, inLines, rfl⟩ := List.mem_map.mp member
  obtain ⟨isLine, kept⟩ := List.mem_filter.mp inLines
  have unblank : allBlank line = false := (Bool.not_eq_true' _).mp kept
  exact ⟨allBlank_strip unblank, strip_strip line, (unbroken_of_mem_splitLines isLine).strip⟩

theorem Unbroken.newline_not_mem {text : List Char} (unbroken : Unbroken text) : '\n' ∉ text :=
  fun member => absurd (unbroken '\n' member) (by decide)

end OpeningHours.Text
