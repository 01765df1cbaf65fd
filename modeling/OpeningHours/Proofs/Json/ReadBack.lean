import Mathlib.Data.List.DropRight
import OpeningHours.Proofs.Json.Numbers

/-
JSON that is written is read back as it was, whether it is written on one line or over several ones.
Each escaped character is read as itself, so a text of any characters is, and numbers are read back
as they were. Of the layout it matters only that there is nothing but white space between the parts
of a value: this is what it means that a text spells a value, and whatever spells a value is read as
that value. Reading is bounded by a depth, for which the length of the text is always enough.
-/

namespace OpeningHours.Json

open Text

/-! ### Escaped texts -/

/-- The code of a control character in four hexadecimal digits. -/
theorem hexadecimal_control : ∀ code < 0x20,
    Quoted.hexadecimal 4 code = ['0', '0', (code / 16).digitChar, (code % 16).digitChar] ∧
      codeUnit? '0' '0' (code / 16).digitChar (code % 16).digitChar = some code := by
  decide +kernel

/-- The piece is read where the character has been written, and stands for it whatever pieces
follow. -/
structure StandsFor (piece : Piece) (char : Char) : Prop where
  read : ∀ rest, readPieces (escapeChar char ++ rest) =
    (readPieces rest).map fun found => (piece :: found.1, found.2)
  joined : ∀ pieces, joinPieces (piece :: pieces) = char :: joinPieces pieces

theorem standsFor_char {char : Char} (read : ∀ rest, readPieces (escapeChar char ++ rest) =
    (readPieces rest).bind fun found => some (.char char :: found.1, found.2)) :
    StandsFor (.char char) char where
  read rest := by
    rw [read]
    cases readPieces rest <;> rfl
  joined _ := rfl

theorem standsFor_control {char : Char} (control : char.toNat < 0x20)
    (escaped : escapeChar char = '\\' :: 'u' :: Quoted.hexadecimal 4 char.toNat) :
    StandsFor (.unit char.toNat) char where
  read rest := by
    obtain ⟨written, read⟩ := hexadecimal_control char.toNat control
    rw [escaped, written]
    change readPieces ('\\' :: 'u' :: _ :: _ :: _ :: _ :: rest) = _
    rw [readPieces, read]
    change (readPieces rest).bind _ = _
    cases readPieces rest <;> rfl
  joined pieces := by
    have high : isHighSurrogate char.toNat = false := by
      rw [isHighSurrogate, decide_eq_false (by omega), Bool.false_and]
    have low : isLowSurrogate char.toNat = false := by
      rw [isLowSurrogate, decide_eq_false (by omega), Bool.false_and]
    have back : Char.ofNat char.toNat = char := Char.ofNat_toNat char
    cases pieces with
    | nil => simp [joinPieces, high, low, back]
    | cons piece pieces => cases piece <;> simp [joinPieces, high, low, back]

theorem standsFor_plain {char : Char} (above : 0x20 ≤ char.toNat) (noQuote : char ≠ Quoted.double)
    (noBackslash : char ≠ '\\') (escaped : escapeChar char = [char]) :
    StandsFor (.char char) char := by
  refine standsFor_char fun rest => ?_
  have unquoted : char.toNat ≠ 0x22 := fun same => noQuote (Char.toNat_inj.mp same)
  rw [escaped, List.singleton_append, readPieces]
  · rw [if_neg unquoted, if_neg (Nat.not_lt.mpr above)]
    rfl
  · rintro _ _ _ _ _ rfl
    exact absurd rfl noBackslash
  · rintro _ _ rfl
    exact absurd rfl noBackslash

/-- The characters that are written by a backslash and one other character. -/
def shortlyEscaped : List Char :=
  [Quoted.double, '\\', '\n', '\r', '\t', Char.ofNat 0x0c, Char.ofNat 0x08]

/-- The other characters are written by their codes or as they are. -/
theorem escapeChar_of_not_mem {char : Char} (long : char ∉ shortlyEscaped) :
    escapeChar char =
      if char.toNat < 0x20 then '\\' :: 'u' :: Quoted.hexadecimal 4 char.toNat else [char] := by
  simp only [shortlyEscaped, List.mem_cons, List.not_mem_nil, or_false, not_or] at long
  obtain ⟨noQuote, noBackslash, noFeed, noReturn, noTab, noFormFeed, noBackspace⟩ := long
  have noFormFeed : char.toNat ≠ 0x0c := fun same => noFormFeed (Char.toNat_inj.mp same)
  have noBackspace : char.toNat ≠ 0x08 := fun same => noBackspace (Char.toNat_inj.mp same)
  rw [escapeChar, if_neg noQuote, if_neg noBackslash, if_neg noFeed, if_neg noReturn, if_neg noTab,
    if_neg noFormFeed, if_neg noBackspace]

theorem exists_standsFor (char : Char) : ∃ piece, StandsFor piece char := by
  by_cases short : char ∈ shortlyEscaped
  · simp only [shortlyEscaped, List.mem_cons, List.not_mem_nil, or_false] at short
    rcases short with rfl | rfl | rfl | rfl | rfl | rfl | rfl
    all_goals exact ⟨_, standsFor_char fun rest => rfl⟩
  · have others := escapeChar_of_not_mem short
    by_cases control : char.toNat < 0x20
    · rw [if_pos control] at others
      exact ⟨_, standsFor_control control others⟩
    · rw [if_neg control] at others
      refine ⟨_, standsFor_plain (Nat.not_lt.mp control) ?_ ?_ others⟩
      · rintro rfl
        exact short (by decide)
      · rintro rfl
        exact short (by decide)

theorem exists_pieces (text rest : List Char) :
    ∃ pieces, readPieces (text.flatMap escapeChar ++ Quoted.double :: rest) = some (pieces, rest) ∧
      joinPieces pieces = text := by
  induction text with
  | nil => exact ⟨[], rfl, rfl⟩
  | cons char text inductionHypothesis =>
    obtain ⟨piece, stands⟩ := exists_standsFor char
    obtain ⟨pieces, read, joined⟩ := inductionHypothesis
    refine ⟨piece :: pieces, ?_, ?_⟩
    · rw [List.flatMap_cons, List.append_assoc, stands.read, read]
      rfl
    · rw [stands.joined, joined]

/-- What is written of a text behind its opening quote is read as the text. -/
theorem readTextBody_escaped (text : String) (rest : List Char) :
    readTextBody (text.toList.flatMap escapeChar ++ Quoted.double :: rest) = some (text, rest) := by
  obtain ⟨pieces, read, joined⟩ := exists_pieces text.toList rest
  rw [readTextBody, read, ← @String.ofList_toList text, ← joined]
  rfl

/-! ### White space -/

/-- There is nothing but white space. -/
def IsSpacing (text : List Char) : Prop :=
  ∀ char ∈ text, isSpace char = true

theorem isSpacing_nil : IsSpacing [] :=
  List.forall_mem_nil _

theorem isSpacing_blank : IsSpacing [' '] := by
  intro char member
  rw [List.mem_singleton.mp member]
  rfl

theorem isSpacing_newLine (level : Nat) : IsSpacing (newLine level) := by
  intro char member
  rcases List.mem_cons.mp member with rfl | member
  · rfl
  · rw [List.eq_of_mem_replicate member]
    rfl

theorem skipSpace_append {spacing : List Char} (isSpacing : IsSpacing spacing)
    (rest : List Char) : skipSpace (spacing ++ rest) = skipSpace rest :=
  List.dropWhile_append_of_pos isSpacing

theorem skipSpace_of_unspaced {char : Char} (unspaced : isSpace char = false) (rest : List Char) :
    skipSpace (char :: rest) = char :: rest := by
  rw [skipSpace, List.dropWhile_cons, unspaced, if_neg Bool.false_ne_true]

/-- A character that is no white space is the next one behind white space. -/
theorem skipSpace_append_cons {spacing : List Char} (isSpacing : IsSpacing spacing) {char : Char}
    (unspaced : isSpace char = false) (rest : List Char) :
    skipSpace (spacing ++ char :: rest) = char :: rest := by
  rw [skipSpace_append isSpacing, skipSpace_of_unspaced unspaced]

theorem skipSpace_skipSpace (text : List Char) : skipSpace (skipSpace text) = skipSpace text :=
  List.dropWhile_idempotent isSpace text

/-- Numbers end at white space, and at what stands behind it in their place. -/
theorem numberEnds_append {spacing : List Char} (isSpacing : IsSpacing spacing) {rest : List Char}
    (ends : NumberEnds rest) : NumberEnds (spacing ++ rest) := by
  cases spacing with
  | nil => exact ends
  | cons first others =>
    rintro char ⟨⟩
    have isSpace := isSpacing first List.mem_cons_self
    simp only [Json.isSpace, Bool.or_eq_true, decide_eq_true_eq] at isSpace
    rcases isSpace with ((rfl | rfl) | rfl) | rfl <;> rfl

theorem numberEnds_cons (char : Char) (stops : goesOn char = false) (rest : List Char) :
    NumberEnds (char :: rest) := by
  rintro first ⟨⟩
  exact stops

/-- White space in front of a value makes no difference. -/
theorem readValue_skipSpace (depth : Nat) (text : List Char) :
    readValue depth (skipSpace text) = readValue depth text := by
  cases depth with
  | zero => rfl
  | succ depth => rw [readValue, readValue, skipSpace_skipSpace]

theorem readValue_append (depth : Nat) {spacing : List Char} (isSpacing : IsSpacing spacing)
    (text : List Char) : readValue depth (spacing ++ text) = readValue depth text := by
  rw [← readValue_skipSpace, skipSpace_append isSpacing, readValue_skipSpace]

theorem readItems_skipSpace (depth : Nat) (text : List Char) :
    readItems depth (skipSpace text) = readItems depth text := by
  cases depth with
  | zero => rfl
  | succ depth => rw [readItems, readItems, readValue_skipSpace]

theorem readFields_skipSpace (depth : Nat) (text : List Char) :
    readFields depth (skipSpace text) = readFields depth text := by
  cases depth with
  | zero => rfl
  | succ depth => rw [readFields, readFields, skipSpace_skipSpace]

/-! ### Steps of the reader -/

section

variable {depth : Nat} {text rest more last : List Char}

theorem readItems_last {item : Json} (read : readValue depth text = some (item, rest))
    (closes : skipSpace rest = ']' :: last) :
    readItems (depth + 1) text = some ([item], last) := by
  rw [readItems, read]
  simp only [Option.bind_eq_bind, Option.bind_some, closes]
  rfl

theorem readItems_more {item : Json} {items : List Json}
    (read : readValue depth text = some (item, rest)) (goesOn : skipSpace rest = ',' :: more)
    (onward : readItems depth more = some (items, last)) :
    readItems (depth + 1) text = some (item :: items, last) := by
  rw [readItems, read]
  simp only [Option.bind_eq_bind, Option.bind_some, goesOn, onward]
  rfl

/-- The field is read from the text, up to what is left of it. -/
def ReadsField (depth : Nat) (text : List Char) (field : String × Json) (rest : List Char) :
    Prop :=
  ∃ body afterName given, skipSpace text = '\x22' :: body ∧
    readTextBody body = some (field.1, afterName) ∧ skipSpace afterName = ':' :: given ∧
    readValue depth given = some (field.2, rest)

theorem readFields_last {field : String × Json} (read : ReadsField depth text field rest)
    (closes : skipSpace rest = '\x7d' :: last) :
    readFields (depth + 1) text = some ([field], last) := by
  obtain ⟨body, afterName, given, opens, named, colon, read⟩ := read
  rw [readFields, opens]
  simp only [named, Option.bind_eq_bind, Option.bind_some, colon, read, closes]
  rfl

theorem readFields_more {field : String × Json} {fields : List (String × Json)}
    (read : ReadsField depth text field rest) (goesOn : skipSpace rest = ',' :: more)
    (onward : readFields depth more = some (fields, last)) :
    readFields (depth + 1) text = some (field :: fields, last) := by
  obtain ⟨body, afterName, given, opens, named, colon, read⟩ := read
  rw [readFields, opens]
  simp only [named, Option.bind_eq_bind, Option.bind_some, colon, read, goesOn, onward]
  rfl

theorem readValue_items {items : List Json} (notClosed : ∀ after, skipSpace rest ≠ ']' :: after)
    (read : readItems depth rest = some (items, last)) :
    readValue (depth + 1) ('[' :: rest) = some (.array items, last) := by
  rw [readValue, skipSpace_of_unspaced rfl]
  split
  case h_4 after same =>
    obtain rfl := (List.cons.inj same).2
    split
    · next after closed => exact absurd closed (notClosed after)
    · rw [readItems_skipSpace, read]
      rfl
  case h_7 noArray _ _ => exact absurd rfl (noArray rest)
  all_goals next same => exact absurd (List.cons.inj same).1 (by decide)

theorem readValue_fields {fields : List (String × Json)}
    (notClosed : ∀ after, skipSpace rest ≠ '\x7d' :: after)
    (read : readFields depth rest = some (fields, last)) :
    readValue (depth + 1) ('\x7b' :: rest) = some (.object fields, last) := by
  rw [readValue, skipSpace_of_unspaced rfl]
  split
  case h_5 after same =>
    obtain rfl := (List.cons.inj same).2
    split
    · next after closed => exact absurd closed (notClosed after)
    · rw [readFields_skipSpace, read]
      rfl
  case h_7 noObject _ => exact absurd rfl (noObject rest)
  all_goals next same => exact absurd (List.cons.inj same).1 (by decide)

theorem readValue_string (value : String) (rest : List Char) :
    readValue (depth + 1) (writeText value ++ rest) = some (.string value, rest) := by
  have body : writeText value ++ rest =
      '\x22' :: (value.toList.flatMap escapeChar ++ Quoted.double :: rest) := by
    rw [writeText, List.cons_append, List.cons_append, List.append_assoc]
    rfl
  rw [body, readValue, skipSpace_of_unspaced rfl]
  change (readTextBody _).map _ = _
  rw [readTextBody_escaped]
  rfl

theorem ne_of_beginsNumber {first char : Char} (begins : beginsNumber first = true)
    (other : beginsNumber char = false) : first ≠ char := by
  rintro rfl
  rw [begins] at other
  cases other

theorem isSpace_of_beginsNumber {first : Char} (begins : beginsNumber first = true) :
    isSpace first = false := by
  have others : first ≠ ' ' ∧ first ≠ '\n' ∧ first ≠ '\r' ∧ first ≠ '\t' :=
    ⟨ne_of_beginsNumber begins rfl, ne_of_beginsNumber begins rfl, ne_of_beginsNumber begins rfl,
      ne_of_beginsNumber begins rfl⟩
  simp [isSpace, others]

/-- What begins as a number does is read as one. -/
theorem readValue_number (begins : ∃ first others, text = first :: others ∧
    beginsNumber first = true) (rest : List Char) :
    readValue (depth + 1) (text ++ rest) = readNumber (text ++ rest) := by
  obtain ⟨first, others, rfl, begins⟩ := begins
  have apart {char : Char} (other : beginsNumber char = false) : first ≠ char :=
    ne_of_beginsNumber begins other
  rw [List.cons_append, readValue, skipSpace_of_unspaced (isSpace_of_beginsNumber begins)]
  split
  · next same => exact absurd (List.cons.inj same).1 (apart rfl)
  · next same => exact absurd (List.cons.inj same).1 (apart rfl)
  · next same => exact absurd (List.cons.inj same).1 (apart rfl)
  · next same => exact absurd (List.cons.inj same).1 (apart rfl)
  · next same => exact absurd (List.cons.inj same).1 (apart rfl)
  · next same => exact absurd (List.cons.inj same).1 (apart rfl)
  · rfl

end

/-! ### Spellings -/

mutual

/-- The text spells the value: a value without parts is written as it is, and between the parts of
another there may be white space. -/
inductive Spells : List Char → Json → Prop
  | null : Spells (writeAtom .null) .null
  | bool (value : Bool) : Spells (writeAtom (.bool value)) (.bool value)
  | int (value : Int) : Spells (writeAtom (.int value)) (.int value)
  | real {value : Double} (onGrid : value.IsOnGrid) : Spells (writeAtom (.real value)) (.real value)
  | string (value : String) : Spells (writeAtom (.string value)) (.string value)
  | noItems : Spells ['[', ']'] (.array [])
  | array {body : List Char} {items : List Json} (spells : SpellsItems body items) :
      Spells ('[' :: (body ++ [']'])) (.array items)
  | noFields : Spells ['\x7b', '\x7d'] (.object [])
  | object {body : List Char} {fields : List (String × Json)} (spells : SpellsFields body fields) :
      Spells ('\x7b' :: (body ++ ['\x7d'])) (.object fields)

/-- The text spells the items of an array, of which there is at least one, with commas between
them. -/
inductive SpellsItems : List Char → List Json → Prop
  | last {before text after : List Char} {item : Json} (front : IsSpacing before)
      (spells : Spells text item) (behind : IsSpacing after) :
      SpellsItems (before ++ (text ++ after)) [item]
  | more {before text rest : List Char} {item : Json} {items : List Json}
      (front : IsSpacing before) (spells : Spells text item) (others : SpellsItems rest items) :
      SpellsItems (before ++ (text ++ ',' :: rest)) (item :: items)

/-- The text spells the fields of an object, of which there is at least one, with commas between
them. -/
inductive SpellsFields : List Char → List (String × Json) → Prop
  | last {before text after : List Char} (name : String) {value : Json}
      (front : IsSpacing before) (spells : Spells text value) (behind : IsSpacing after) :
      SpellsFields (before ++ (writeText name ++ ':' :: ' ' :: (text ++ after))) [(name, value)]
  | more {before text rest : List Char} (name : String) {value : Json}
      {fields : List (String × Json)} (front : IsSpacing before) (spells : Spells text value)
      (others : SpellsFields rest fields) :
      SpellsFields (before ++ (writeText name ++ ':' :: ' ' :: (text ++ ',' :: rest)))
        ((name, value) :: fields)

end

/-- What spells a value begins with a character that neither is white space nor closes an array. -/
theorem Spells.exists_first {text : List Char} {value : Json} (spells : Spells text value) :
    ∃ first others, text = first :: others ∧ isSpace first = false ∧ first ≠ ']' := by
  have number {text : List Char} (begins : ∃ first others, text = first :: others ∧
      beginsNumber first = true) :
      ∃ first others, text = first :: others ∧ isSpace first = false ∧ first ≠ ']' := by
    obtain ⟨first, others, same, begins⟩ := begins
    exact ⟨first, others, same, isSpace_of_beginsNumber begins, ne_of_beginsNumber begins rfl⟩
  cases spells with
  | null => exact ⟨'n', _, rfl, rfl, by decide⟩
  | bool value => cases value <;> exact ⟨_, _, rfl, rfl, by decide⟩
  | int value => exact number (exists_beginsNumber_ofInt value)
  | real onGrid => exact number (exists_beginsNumber_writeReal onGrid)
  | string value => exact ⟨Quoted.double, _, rfl, rfl, by decide⟩
  | noItems => exact ⟨'[', _, rfl, rfl, by decide⟩
  | array spells => exact ⟨'[', _, rfl, rfl, by decide⟩
  | noFields => exact ⟨'\x7b', _, rfl, rfl, by decide⟩
  | object spells => exact ⟨'\x7b', _, rfl, rfl, by decide⟩

/-- Items are not closed at once. -/
theorem SpellsItems.skipSpace_ne {body : List Char} {items : List Json}
    (spells : SpellsItems body items) (rest after : List Char) :
    skipSpace (body ++ rest) ≠ ']' :: after := by
  have opens {before text : List Char} {item : Json} (front : IsSpacing before)
      (spells : Spells text item) (others : List Char) :
      skipSpace (before ++ (text ++ others)) ≠ ']' :: after := by
    obtain ⟨first, more, rfl, unspaced, notClosed⟩ := spells.exists_first
    rw [List.cons_append, skipSpace_append_cons front unspaced]
    exact fun same => notClosed (List.cons.inj same).1
  cases spells with
  | last front spells behind =>
    rw [List.append_assoc, List.append_assoc]
    exact opens front spells _
  | more front spells others =>
    rw [List.append_assoc, List.append_assoc]
    exact opens front spells _

/-- Fields are not closed at once. -/
theorem SpellsFields.skipSpace_ne {body : List Char} {fields : List (String × Json)}
    (spells : SpellsFields body fields) (rest after : List Char) :
    skipSpace (body ++ rest) ≠ '\x7d' :: after := by
  have opens {before : List Char} (front : IsSpacing before) (name : String)
      (others : List Char) :
      skipSpace (before ++ (writeText name ++ others)) ≠ '\x7d' :: after := by
    rw [writeText, List.cons_append, List.cons_append, skipSpace_append_cons front rfl]
    exact fun same => absurd (List.cons.inj same).1 (by decide)
  cases spells with
  | last name front spells behind =>
    rw [List.append_assoc, List.append_assoc]
    exact opens front name _
  | more name front spells others =>
    rw [List.append_assoc, List.append_assoc]
    exact opens front name _

/-- A field is read behind white space. -/
theorem readsField_of_read {before given : List Char} (front : IsSpacing before) (name : String)
    {value : Json} {rest : List Char} {depth : Nat}
    (read : readValue depth given = some (value, rest)) :
    ReadsField depth (before ++ (writeText name ++ ':' :: ' ' :: given)) (name, value) rest := by
  refine ⟨name.toList.flatMap escapeChar ++ Quoted.double :: ':' :: ' ' :: given,
    ':' :: ' ' :: given, ' ' :: given, ?_, readTextBody_escaped _ _,
    skipSpace_of_unspaced rfl _, ?_⟩
  · rw [writeText, List.cons_append, List.cons_append, List.append_assoc]
    exact skipSpace_append_cons front rfl _
  · exact (readValue_append depth isSpacing_blank given).trans read

mutual

/-- Whatever spells a value is read as the value, to any depth that exceeds the length of the text.
-/
theorem Spells.readValue_eq {text : List Char} {value : Json} :
    Spells text value → ∀ (depth : Nat) {rest : List Char}, text.length < depth →
      NumberEnds rest → readValue depth (text ++ rest) = some (value, rest)
  | .null, depth + 1, rest, _, _ => rfl
  | .bool true, depth + 1, rest, _, _ => rfl
  | .bool false, depth + 1, rest, _, _ => rfl
  | .int value, depth + 1, rest, _, ends =>
    (readValue_number (exists_beginsNumber_ofInt value) rest).trans (readNumber_ofInt value ends)
  | .real onGrid, depth + 1, rest, _, ends =>
    (readValue_number (exists_beginsNumber_writeReal onGrid) rest).trans
      (readNumber_writeReal onGrid ends)
  | .string value, depth + 1, rest, _, _ => readValue_string value rest
  | .noItems, depth + 1, rest, _, _ => rfl
  | @Spells.array body _ spells, depth + 1, rest, deep, _ => by
    rw [List.length_cons, List.length_append, List.length_singleton] at deep
    have read := spells.readItems_eq depth rest (by omega)
    rw [List.cons_append, List.append_assoc]
    exact readValue_items (spells.skipSpace_ne _) read
  | .noFields, depth + 1, rest, _, _ => rfl
  | @Spells.object body _ spells, depth + 1, rest, deep, _ => by
    rw [List.length_cons, List.length_append, List.length_singleton] at deep
    have read := spells.readFields_eq depth rest (by omega)
    rw [List.cons_append, List.append_assoc]
    exact readValue_fields (spells.skipSpace_ne _) read

/-- Whatever spells items is read as the items, up to the bracket that closes the array. -/
theorem SpellsItems.readItems_eq {body : List Char} {items : List Json} :
    SpellsItems body items → ∀ (depth : Nat) (rest : List Char), body.length + 1 < depth →
      readItems depth (body ++ ']' :: rest) = some (items, rest)
  | .last front spells behind, depth + 1, rest, deep => by
    simp only [List.length_append] at deep
    have read := (readValue_append depth front _).trans <|
      spells.readValue_eq depth (by omega) (numberEnds_append behind (numberEnds_cons ']' rfl rest))
    rw [List.append_assoc, List.append_assoc]
    exact readItems_last read (skipSpace_append_cons behind rfl rest)
  | @SpellsItems.more _ _ body _ _ front spells others, depth + 1, rest, deep => by
    simp only [List.length_append, List.length_cons] at deep
    have read := (readValue_append depth front _).trans <|
      spells.readValue_eq depth (by omega) (numberEnds_cons ',' rfl (body ++ ']' :: rest))
    have onward := others.readItems_eq depth rest (by omega)
    rw [List.append_assoc, List.append_assoc, List.cons_append]
    exact readItems_more read (skipSpace_of_unspaced rfl _) onward

/-- Whatever spells fields is read as the fields, up to the brace that closes the object. -/
theorem SpellsFields.readFields_eq {body : List Char} {fields : List (String × Json)} :
    SpellsFields body fields → ∀ (depth : Nat) (rest : List Char), body.length + 1 < depth →
      readFields depth (body ++ '\x7d' :: rest) = some (fields, rest)
  | .last name front spells behind, depth + 1, rest, deep => by
    simp only [List.length_append, List.length_cons] at deep
    have read := readsField_of_read front name <|
      spells.readValue_eq depth (by omega)
        (numberEnds_append behind (numberEnds_cons '\x7d' rfl rest))
    simp only [List.append_assoc, List.cons_append]
    exact readFields_last read (skipSpace_append_cons behind rfl rest)
  | @SpellsFields.more _ _ body name _ _ front spells others, depth + 1, rest, deep => by
    simp only [List.length_append, List.length_cons] at deep
    have read := readsField_of_read front name <|
      spells.readValue_eq depth (by omega)
        (numberEnds_cons ',' rfl (body ++ '\x7d' :: rest))
    have onward := others.readFields_eq depth rest (by omega)
    simp only [List.append_assoc, List.cons_append]
    exact readFields_more read (skipSpace_of_unspaced rfl _) onward

end

/-! ### What is written -/

/-- Every number of double precision in the value is one as it stands. -/
inductive IsExact : Json → Prop
  | null : IsExact .null
  | bool (value : Bool) : IsExact (.bool value)
  | int (value : Int) : IsExact (.int value)
  | real {value : Double} (onGrid : value.IsOnGrid) : IsExact (.real value)
  | string (value : String) : IsExact (.string value)
  | array {items : List Json} (each : ∀ item ∈ items, IsExact item) : IsExact (.array items)
  | object {fields : List (String × Json)} (each : ∀ field ∈ fields, IsExact field.2) :
      IsExact (.object fields)

/-- Items on one line. -/
theorem spellsItems_writeItems {items : List Json} (nonempty : items ≠ [])
    (each : ∀ item ∈ items, Spells (write item) item) {before : List Char}
    (front : IsSpacing before) : SpellsItems (before ++ writeItems items) items := by
  induction items generalizing before with
  | nil => exact absurd rfl nonempty
  | cons item items inductionHypothesis =>
    have spells := each item List.mem_cons_self
    cases items with
    | nil =>
      have last := SpellsItems.last front spells isSpacing_nil
      rwa [List.append_nil] at last
    | cons next items =>
      have others := inductionHypothesis (List.cons_ne_nil next items)
        (fun item member => each item (List.mem_cons_of_mem _ member)) isSpacing_blank
      have more := SpellsItems.more front spells others
      simp only [writeItems, List.append_assoc]
      exact more

/-- Items on lines of their own. -/
theorem spellsItems_writeIndentedItems {items : List Json} (nonempty : items ≠ []) (level : Nat)
    (each : ∀ item ∈ items, Spells (writeIndented level item) item) {after : List Char}
    (behind : IsSpacing after) : SpellsItems (writeIndentedItems level items ++ after) items := by
  induction items with
  | nil => exact absurd rfl nonempty
  | cons item items inductionHypothesis =>
    have spells := each item List.mem_cons_self
    cases items with
    | nil =>
      rw [writeIndentedItems, List.append_assoc]
      exact .last (isSpacing_newLine level) spells behind
    | cons next items =>
      have others := inductionHypothesis (List.cons_ne_nil next items)
        fun item member => each item (List.mem_cons_of_mem _ member)
      have more := SpellsItems.more (isSpacing_newLine level) spells others
      simp only [writeIndentedItems, List.append_assoc, List.singleton_append]
      exact more

/-- Fields on one line. -/
theorem spellsFields_writeFields {fields : List (String × Json)} (nonempty : fields ≠ [])
    (each : ∀ field ∈ fields, Spells (write field.2) field.2) {before : List Char}
    (front : IsSpacing before) : SpellsFields (before ++ writeFields fields) fields := by
  induction fields generalizing before with
  | nil => exact absurd rfl nonempty
  | cons field fields inductionHypothesis =>
    have spells := each field List.mem_cons_self
    cases fields with
    | nil =>
      have last := SpellsFields.last field.1 front spells isSpacing_nil
      simpa only [writeFields, List.append_assoc, List.cons_append, List.nil_append,
        List.append_nil] using last
    | cons next fields =>
      have others := inductionHypothesis (List.cons_ne_nil next fields)
        (fun field member => each field (List.mem_cons_of_mem _ member)) isSpacing_blank
      have more := SpellsFields.more field.1 front spells others
      simpa only [writeFields, List.append_assoc, List.cons_append, List.nil_append] using more

/-- Fields on lines of their own. -/
theorem spellsFields_writeIndentedFields {fields : List (String × Json)} (nonempty : fields ≠ [])
    (level : Nat) (each : ∀ field ∈ fields, Spells (writeIndented level field.2) field.2)
    {after : List Char} (behind : IsSpacing after) :
    SpellsFields (writeIndentedFields level fields ++ after) fields := by
  induction fields with
  | nil => exact absurd rfl nonempty
  | cons field fields inductionHypothesis =>
    have spells := each field List.mem_cons_self
    cases fields with
    | nil =>
      have last := SpellsFields.last field.1 (isSpacing_newLine level) spells behind
      simpa only [writeIndentedFields, List.append_assoc, List.cons_append, List.nil_append]
        using last
    | cons next fields =>
      have others := inductionHypothesis (List.cons_ne_nil next fields)
        fun field member => each field (List.mem_cons_of_mem _ member)
      have more := SpellsFields.more field.1 (isSpacing_newLine level) spells others
      simpa only [writeIndentedFields, List.append_assoc, List.cons_append, List.nil_append]
        using more

/-- A value is spelled by what is written of it on one line. -/
theorem IsExact.spells_write {value : Json} (isExact : IsExact value) :
    Spells (write value) value := by
  induction isExact with
  | null => exact .null
  | bool value => exact .bool value
  | int value => exact .int value
  | real onGrid => exact .real onGrid
  | string value => exact .string value
  | @array items each spells =>
    by_cases empty : items = []
    · subst empty
      exact .noItems
    · exact .array (spellsItems_writeItems empty spells isSpacing_nil)
  | @object fields each spells =>
    by_cases empty : fields = []
    · subst empty
      exact .noFields
    · exact .object (spellsFields_writeFields empty spells isSpacing_nil)

/-- A value is spelled by what is written of it over several lines. -/
theorem IsExact.spells_writeIndented {value : Json} (isExact : IsExact value) (level : Nat) :
    Spells (writeIndented level value) value := by
  induction isExact generalizing level with
  | null => exact .null
  | bool value => exact .bool value
  | int value => exact .int value
  | real onGrid => exact .real onGrid
  | string value => exact .string value
  | @array items each spells =>
    by_cases empty : items = []
    · subst empty
      exact .noItems
    · rw [writeIndented]
      · exact .array (spellsItems_writeIndentedItems empty (level + 1)
          (fun item member => spells item member (level + 1)) (isSpacing_newLine level))
      · exact empty
  | @object fields each spells =>
    by_cases empty : fields = []
    · subst empty
      exact .noFields
    · rw [writeIndented]
      · exact .object (spellsFields_writeIndentedFields empty (level + 1)
          (fun field member => spells field member (level + 1)) (isSpacing_newLine level))
      · exact empty

/-- A text that spells a value holds that value and nothing else, white space behind it aside. -/
theorem Spells.read_eq {text : List Char} {value : Json} (spells : Spells text value)
    {after : List Char} (behind : IsSpacing after) : read (text ++ after) = some value := by
  have deep : text.length < (text ++ after).length + 1 := by
    rw [List.length_append]
    omega
  have ends : NumberEnds after := by
    have nothing : NumberEnds [] := by rintro char ⟨⟩
    exact List.append_nil after ▸ numberEnds_append behind nothing
  have nothingElse : skipSpace after = [] := by
    have skipped := skipSpace_append behind []
    rwa [List.append_nil] at skipped
  rw [read, spells.readValue_eq _ deep ends, Option.bind_eq_bind, Option.bind_some]
  exact if_pos nothingElse

/-- The line on which a value is written holds that value and nothing else. -/
theorem ofString?_toLine {value : Json} (isExact : IsExact value) :
    ofString? value.toLine = some value := by
  have read := isExact.spells_write.read_eq isSpacing_nil
  rw [List.append_nil] at read
  rw [ofString?, toLine, String.toList_ofList, read]

/-- The lines in which a value is written hold that value and nothing else. -/
theorem ofString?_toLines {value : Json} (isExact : IsExact value) :
    ofString? (value.toLines ++ "\n") = some value := by
  have newline : IsSpacing ['\n'] := isSpacing_newLine 0
  have written : (value.toLines ++ "\n").toList = writeIndented 0 value ++ ['\n'] := by
    rw [String.toList_append, toLines, String.toList_ofList]
    rfl
  rw [ofString?, written, (isExact.spells_writeIndented 0).read_eq newline]

end OpeningHours.Json
