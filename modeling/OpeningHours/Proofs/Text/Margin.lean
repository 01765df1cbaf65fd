import OpeningHours.Proofs.Text.Classes
import OpeningHours.Proofs.Text.Clauses

/-
White space around a text. A scan that takes up no white space but in runs has the same ways whether
white space follows the text or not, until the text is spent: then it may or may not have taken the
white space in, but there is nothing left for it to read. And a scan that does not begin with white
space passes over what stands before the text. So a search reads the same in a text with margins as
in the text itself, and a word that neither begins nor ends with white space occurs in the one
exactly when it occurs in the other.
-/

namespace OpeningHours.Text

/-! ### White space -/

/-- The class holds no white space. -/
def Unblank (holds : Char → Bool) : Prop :=
  ∀ char, isBlank char = true → holds char = false

/-- A character that is no white space. -/
def isInk (char : Char) : Bool :=
  !isBlank char

theorem isInk_iff (char : Char) : isInk char = true ↔ isBlank char = false := by
  rw [isInk, Bool.not_eq_true']

theorem allBlank_of_suffix {rest text : List Char} (suffix : rest <:+ text)
    (blank : allBlank text = true) : allBlank rest = true :=
  List.all_eq_true.mpr fun char member => List.all_eq_true.mp blank char (suffix.subset member)

theorem allBlank_cons {char : Char} {text : List Char} (blank : allBlank (char :: text) = true) :
    isBlank char = true ∧ allBlank text = true := by
  rwa [allBlank, List.all_cons, Bool.and_eq_true] at blank

theorem head?_all_isBlank {text : List Char} (blank : allBlank text = true) :
    text.head?.all isBlank = true := by
  cases text with
  | nil => rfl
  | cons char text => exact (allBlank_cons blank).1

/-- White space next is no character of a class without white space. -/
theorem head?_any_of_unblank {holds : Char → Bool} (unblank : Unblank holds) {text : List Char}
    (blank : text.head?.all isBlank = true) : text.head?.any holds = false := by
  cases text with
  | nil => rfl
  | cons char text => exact unblank char blank

/-- The same text follows, but for a margin in the second place; or nothing but white space follows
in either. -/
inductive Abreast (margin : List Char) : Place → Place → Prop
  | level (place : Place) : Abreast margin place ⟨place.before, place.after ++ margin⟩
  | spent {first second : Place} (one : allBlank first.after = true)
      (other : allBlank second.after = true) : Abreast margin first second

namespace Scan

variable {Value Next : Type}

/-! ### Scans that do not begin with white space -/

/-- The scan has no way where white space or the end of the text comes next. -/
def StartsUnblank (scan : Scan Value) : Prop :=
  ∀ place, place.after.head?.all isBlank = true → scan place = []

namespace StartsUnblank

theorem oneChar {holds : Char → Bool} (unblank : Unblank holds) : StartsUnblank (oneChar holds) :=
  fun _ blank => oneChar_eq_nil (head?_any_of_unblank unblank blank)

theorem andThen {scan : Scan Value} (starts : StartsUnblank scan) (next : Value → Scan Next) :
    StartsUnblank (andThen scan next) :=
  fun place blank => andThen_of_nil next (starts place blank)

theorem orElse {first second : Scan Value} (one : StartsUnblank first)
    (other : StartsUnblank second) : StartsUnblank (orElse first second) := by
  intro place blank
  rw [orElse_apply, one place blank, other place blank, List.append_nil]

theorem firstOf {scans : List (Scan Value)} (each : ∀ scan ∈ scans, StartsUnblank scan) :
    StartsUnblank (firstOf scans) :=
  fun place blank => List.flatMap_eq_nil_iff.mpr fun scan member => each scan member place blank

theorem word {read : List Char} (begins : read.head?.any isInk = true) :
    StartsUnblank (word read) := by
  cases read with
  | nil => cases begins
  | cons char rest =>
    refine (oneChar fun other blank => decide_eq_false fun same => ?_).andThen _
    rw [same, (isInk_iff char).mp begins] at blank
    cases blank

theorem exactly {holds : Char → Bool} (unblank : Unblank holds) (count : Nat) :
    StartsUnblank (exactly holds (count + 1)) :=
  (oneChar unblank).andThen _

/-- A boundary is no step on the way. -/
theorem boundary_andThen {holds : Char → Bool} {next : Unit → Scan Next}
    (starts : ∀ value, StartsUnblank (next value)) :
    StartsUnblank (Scan.andThen (boundary holds) next) := by
  intro place blank
  rw [List.eq_nil_iff_forall_not_mem]
  intro way member
  obtain ⟨here, hereMember, member⟩ := mem_andThen.mp member
  rw [boundary_ways hereMember, starts here.1 place blank] at member
  cases member

end StartsUnblank

/-! ### Scans that take up white space in runs alone -/

/-- The relation of places is respected by reading characters that are no white space, and by
reading runs. -/
structure ReadsAlong (Related : Place → Place → Prop) : Prop where
  oneChar : ∀ {holds : Char → Bool}, Unblank holds → Respects Related (oneChar holds)
  run : ∀ holds : Char → Bool, Respects Related (run holds)

namespace ReadsAlong

variable {Related : Place → Place → Prop}

theorem alike (holds : Char → Bool) : ReadsAlong (Alike holds) :=
  ⟨fun _ => LooksBackFor.oneChar holds _, LooksBackFor.run holds⟩

theorem word (along : ReadsAlong Related) {read : List Char} (ink : read.all isInk = true) :
    Respects Related (word read) := by
  refine Respects.word fun char member => along.oneChar fun other blank => ?_
  refine decide_eq_false fun same => ?_
  rw [same, (isInk_iff char).mp (List.all_eq_true.mp ink char member)] at blank
  cases blank

theorem run1 (along : ReadsAlong Related) {holds : Char → Bool}
    (one : Respects Related (Scan.oneChar holds)) : Respects Related (run1 holds) :=
  one.andThen fun _ => along.run holds

end ReadsAlong

theorem runPlace_suffix (holds : Char → Bool) (before : Option Char) (text : List Char) :
    (runPlace holds before text).after <:+ text :=
  GoesForward.run holds ⟨before, text⟩ ((), _) List.mem_cons_self

theorem abreast_runPlace {margin : List Char} (blank : allBlank margin = true)
    (holds : Char → Bool) (before : Option Char) (text : List Char) :
    Abreast margin (runPlace holds before text) (runPlace holds before (text ++ margin)) := by
  induction text generalizing before with
  | nil => exact .spent rfl (allBlank_of_suffix (runPlace_suffix holds before margin) blank)
  | cons char text inductionHypothesis =>
    rw [List.cons_append, runPlace, runPlace]
    split
    · exact inductionHypothesis (some char)
    · exact .level ⟨before, char :: text⟩

/-- Places that are abreast stay so. -/
theorem ReadsAlong.abreast {margin : List Char} (blank : allBlank margin = true) :
    ReadsAlong (Abreast margin) where
  oneChar := by
    intro holds unblank first second related
    cases related with
    | level =>
      obtain ⟨before, after⟩ := first
      cases after with
      | nil =>
        have none := StartsUnblank.oneChar unblank ⟨before, margin⟩ (head?_all_isBlank blank)
        rw [List.nil_append, none]
        exact .nil
      | cons char after =>
        by_cases held : holds char = true
        · rw [List.cons_append, oneChar_of_holds holds before after held,
            oneChar_of_holds holds before (after ++ margin) held]
          exact .cons ⟨rfl, .level ⟨some char, after⟩⟩ .nil
        · rw [Bool.not_eq_true] at held
          have none (rest : List Char) : Scan.oneChar holds ⟨before, char :: rest⟩ = [] :=
            oneChar_eq_nil held
          rw [List.cons_append, none, none]
          exact .nil
    | spent one other =>
      rw [StartsUnblank.oneChar unblank first (head?_all_isBlank one),
        StartsUnblank.oneChar unblank second (head?_all_isBlank other)]
      exact .nil
  run := by
    intro holds first second related
    refine .cons ⟨rfl, ?_⟩ .nil
    cases related with
    | level => exact abreast_runPlace blank holds first.before first.after
    | spent one other =>
      exact .spent (allBlank_of_suffix (runPlace_suffix holds first.before first.after) one)
        (allBlank_of_suffix (runPlace_suffix holds second.before second.after) other)

/-! ### Scans that need more than white space -/

/-- The scan has no way where nothing but white space is left. -/
def Starved (scan : Scan Value) : Prop :=
  ∀ place, allBlank place.after = true → scan place = []

theorem StartsUnblank.starved {scan : Scan Value} (starts : StartsUnblank scan) : Starved scan :=
  fun place blank => starts place (head?_all_isBlank blank)

/-- What is starved is so after anything else that was read. -/
theorem Starved.after {scan : Scan Value} {next : Value → Scan Next} (forward : GoesForward scan)
    (starved : ∀ value, Starved (next value)) : Starved (Scan.andThen scan next) := by
  intro place blank
  rw [List.eq_nil_iff_forall_not_mem]
  intro way member
  obtain ⟨first, firstMember, member⟩ := mem_andThen.mp member
  rw [starved first.1 first.2 (allBlank_of_suffix (forward place first firstMember) blank)]
    at member
  cases member

/-- White space in the margin may be read, if it is of no use to what is read next. -/
theorem Respects.oneChar_andThen {margin : List Char} (blank : allBlank margin = true)
    (holds : Char → Bool) {next : Char → Scan Next}
    (onward : ∀ char, Respects (Abreast margin) (next char))
    (starved : ∀ char, Starved (next char)) :
    Respects (Abreast margin) (Scan.andThen (Scan.oneChar holds) next) := by
  have useless := Starved.after (GoesForward.oneChar holds) starved
  intro first second related
  cases related with
  | level =>
    obtain ⟨before, after⟩ := first
    cases after with
    | nil =>
      rw [useless ⟨before, []⟩ rfl, useless ⟨before, [] ++ margin⟩ blank]
      exact .nil
    | cons char after =>
      by_cases held : holds char = true
      · rw [List.cons_append, andThen_of_single next (oneChar_of_holds holds before after held),
          andThen_of_single next (oneChar_of_holds holds before (after ++ margin) held)]
        exact onward char _ _ (.level ⟨some char, after⟩)
      · rw [Bool.not_eq_true] at held
        have none (rest : List Char) : Scan.oneChar holds ⟨before, char :: rest⟩ = [] :=
          oneChar_eq_nil held
        rw [List.cons_append, andThen_of_nil next (none _), andThen_of_nil next (none _)]
        exact .nil
  | spent one other =>
    rw [useless first one, useless second other]
    exact .nil

/-- A run of white space may reach into the margin, if what is read next needs more. -/
theorem Respects.run1_andThen {margin : List Char} (blank : allBlank margin = true)
    (holds : Char → Bool) {next : Unit → Scan Next}
    (onward : ∀ value, Respects (Abreast margin) (next value))
    (starved : ∀ value, Starved (next value)) :
    Respects (Abreast margin) (Scan.andThen (Scan.run1 holds) next) := by
  rw [Scan.run1, andThen_assoc]
  refine .oneChar_andThen blank holds (fun _ => ?_) fun _ => ?_
  · exact ((ReadsAlong.abreast blank).run holds).andThen onward
  · exact .after (GoesForward.run holds) starved

/-! ### Searching between margins -/

/-- What a search finds depends neither on how places are numbered nor, where the scan looks back
for a class alone, on more of what came before. -/
theorem searchFrom_values_of_alike {holds : Char → Bool} {scan : Scan Value}
    (looks : LooksBackFor holds scan) (position other : Nat) {before otherBefore : Option Char}
    (alike : before.any holds = otherBefore.any holds) (text : List Char) :
    (searchFrom scan position before text).map (·.value) =
      (searchFrom scan other otherBefore text).map (·.value) := by
  induction text generalizing position other before otherBefore with
  | nil =>
    have same := looks ⟨before, []⟩ ⟨otherBefore, []⟩ ⟨rfl, alike⟩
    rw [searchFrom, searchFrom]
    generalize scan ⟨before, []⟩ = ways at same
    generalize scan ⟨otherBefore, []⟩ = otherWays at same
    cases same with
    | nil => rfl
    | cons first rest => exact congrArg some first.1
  | cons char text inductionHypothesis =>
    have same := looks ⟨before, char :: text⟩ ⟨otherBefore, char :: text⟩ ⟨rfl, alike⟩
    rw [searchFrom, searchFrom]
    generalize scan ⟨before, char :: text⟩ = ways at same
    generalize scan ⟨otherBefore, char :: text⟩ = otherWays at same
    cases same with
    | nil => exact inductionHypothesis _ _ rfl
    | cons first rest => exact congrArg some first.1

/-- A search passes over white space before a text. -/
theorem searchFrom_blank_append {holds : Char → Bool} {scan : Scan Value}
    (looks : LooksBackFor holds scan) (unblank : Unblank holds) (starts : StartsUnblank scan)
    {gap : List Char} (blank : allBlank gap = true) (position : Nat) {before : Option Char}
    (outside : before.any holds = false) (text : List Char) :
    (searchFrom scan position before (gap ++ text)).map (·.value) =
      (searchFrom scan position before text).map (·.value) := by
  induction gap generalizing position before with
  | nil => rfl
  | cons char gap inductionHypothesis =>
    obtain ⟨isBlank, gapBlank⟩ := allBlank_cons blank
    have charOutside : Option.any holds (some char) = false := unblank char isBlank
    rw [List.cons_append, searchFrom, starts ⟨before, char :: (gap ++ text)⟩ isBlank]
    change (searchFrom scan (position + 1) (some char) (gap ++ text)).map (·.value) = _
    rw [inductionHypothesis gapBlank (position + 1) charOutside]
    exact searchFrom_values_of_alike looks _ _ (charOutside.trans outside.symm) text

/-- A search finds nothing in white space. -/
theorem searchFrom_blank {scan : Scan Value} (starts : StartsUnblank scan) {margin : List Char}
    (blank : allBlank margin = true) (position : Nat) (before : Option Char) :
    searchFrom scan position before margin = none :=
  searchFrom_eq_none scan position before margin fun before rest suffix =>
    starts ⟨before, rest⟩ (head?_all_isBlank (allBlank_of_suffix suffix blank))

/-- A search finds the same before a margin of white space. -/
theorem searchFrom_append_blank {scan : Scan Value} {margin : List Char}
    (respects : Respects (Abreast margin) scan) (starts : StartsUnblank scan)
    (blank : allBlank margin = true) (position : Nat) (before : Option Char) (text : List Char) :
    (searchFrom scan position before (text ++ margin)).map (·.value) =
      (searchFrom scan position before text).map (·.value) := by
  induction text generalizing position before with
  | nil => rw [List.nil_append, searchFrom_blank starts blank, searchFrom_blank starts rfl]
  | cons char text inductionHypothesis =>
    have same := respects ⟨before, char :: text⟩ _ (.level ⟨before, char :: text⟩)
    change List.Forall₂ _ _ (scan ⟨before, char :: (text ++ margin)⟩) at same
    rw [List.cons_append, searchFrom, searchFrom]
    generalize scan ⟨before, char :: text⟩ = ways at same
    generalize scan ⟨before, char :: (text ++ margin)⟩ = otherWays at same
    cases same with
    | nil => exact inductionHypothesis (position + 1) (some char)
    | cons first rest => exact congrArg some first.1.symm

/-- A search finds the same in a text between margins of white space. -/
theorem search_margins {holds : Char → Bool} {scan : Scan Value} (looks : LooksBackFor holds scan)
    (unblank : Unblank holds) (starts : StartsUnblank scan) {gap margin : List Char}
    (respects : Respects (Abreast margin) scan) (gapBlank : allBlank gap = true)
    (blank : allBlank margin = true) (text : List Char) :
    (search scan (gap ++ (text ++ margin))).map (·.value) = (search scan text).map (·.value) := by
  unfold search
  rw [searchFrom_blank_append looks unblank starts gapBlank 0 rfl,
    searchFrom_append_blank respects starts blank]

/-! ### Finding all readings between margins -/

/-- Nothing is found in white space, of however much text before it is passed over. -/
theorem findAllFrom_blank {scan : Scan Value} (starts : StartsUnblank scan) (position skip : Nat)
    (before : Option Char) (text : List Char) (blank : allBlank (text.drop skip) = true) :
    findAllFrom scan position skip before text = [] := by
  induction text generalizing position skip before with
  | nil => rfl
  | cons char text inductionHypothesis =>
    cases skip with
    | succ skip => exact inductionHypothesis (position + 1) skip (some char) blank
    | zero =>
      obtain ⟨isBlank, textBlank⟩ := allBlank_cons blank
      rw [findAllFrom_cons_of_nil position (starts ⟨before, char :: text⟩ isBlank)]
      exact inductionHypothesis (position + 1) 0 (some char) textBlank

/-- What is left when a reading has been passed over is white space if the reading reached it. -/
theorem allBlank_drop_width {char : Char} {text reached : List Char}
    (suffix : reached <:+ char :: text) (blank : allBlank reached = true) :
    allBlank (text.drop ((char :: text).length - reached.length - 1)) = true := by
  rcases List.suffix_cons_iff.mp suffix with rfl | ⟨front, rfl⟩
  · rw [Nat.sub_self]
    exact (allBlank_cons blank).2
  · have width : (char :: (front ++ reached)).length - reached.length - 1 = front.length := by
      rw [List.length_cons, List.length_append]
      omega
    rw [width, List.drop_left]
    exact blank

/-- The same readings are found before a margin of white space. -/
theorem findAllFrom_append_blank {scan : Scan Value} {margin : List Char}
    (respects : Respects (Abreast margin) scan) (starts : StartsUnblank scan)
    (forward : GoesForward scan) (blank : allBlank margin = true) (position skip : Nat)
    (before : Option Char) (text : List Char) :
    (findAllFrom scan position skip before (text ++ margin)).map (·.value) =
      (findAllFrom scan position skip before text).map (·.value) := by
  induction text generalizing position skip before with
  | nil =>
    have dropped := allBlank_of_suffix (List.drop_suffix skip margin) blank
    rw [List.nil_append, findAllFrom_blank starts position skip before margin dropped]
    rfl
  | cons char text inductionHypothesis =>
    cases skip with
    | succ skip => exact inductionHypothesis (position + 1) skip (some char)
    | zero =>
      have same := respects ⟨before, char :: text⟩ _ (.level ⟨before, char :: text⟩)
      have here := forward ⟨before, char :: text⟩
      have there := forward ⟨before, char :: (text ++ margin)⟩
      change List.Forall₂ _ _ (scan ⟨before, char :: (text ++ margin)⟩) at same
      rw [List.cons_append, findAllFrom, findAllFrom]
      generalize scan ⟨before, char :: text⟩ = ways at same here
      generalize scan ⟨before, char :: (text ++ margin)⟩ = otherWays at same there
      cases same with
      | nil => exact inductionHypothesis (position + 1) 0 (some char)
      | @cons way otherWay ways otherWays first rest =>
        obtain ⟨value, reached⟩ := way
        obtain ⟨otherValue, otherReached⟩ := otherWay
        obtain ⟨sameValue, related⟩ := first
        have suffix := here _ List.mem_cons_self
        have otherSuffix := there _ List.mem_cons_self
        obtain rfl : value = otherValue := sameValue
        rw [List.map_cons, List.map_cons]
        refine congrArg (value :: ·) ?_
        change Abreast margin reached otherReached at related
        cases related with
        | level =>
          have width : (char :: (text ++ margin)).length - (reached.after ++ margin).length =
              (char :: text).length - reached.after.length := by
            simp only [List.length_cons, List.length_append]
            omega
          simp only [width]
          exact inductionHypothesis (position + 1) _ (some char)
        | spent one other =>
          -- Both readings ended in white space, so neither text has anything to offer after them.
          rw [findAllFrom_blank starts _ _ _ _ (allBlank_drop_width suffix one),
            findAllFrom_blank starts _ _ _ _ (allBlank_drop_width otherSuffix other)]

theorem findAllFrom_blank_append {holds : Char → Bool} {scan : Scan Value}
    (looks : LooksBackFor holds scan) (unblank : Unblank holds) (starts : StartsUnblank scan)
    {gap : List Char} (blank : allBlank gap = true) (position : Nat) {before : Option Char}
    (outside : before.any holds = false) (text : List Char) :
    (findAllFrom scan position 0 before (gap ++ text)).map (·.value) =
      (findAllFrom scan position 0 before text).map (·.value) := by
  induction gap generalizing position before with
  | nil => rfl
  | cons char gap inductionHypothesis =>
    obtain ⟨isBlank, gapBlank⟩ := allBlank_cons blank
    have charOutside : Option.any holds (some char) = false := unblank char isBlank
    rw [List.cons_append,
      findAllFrom_cons_of_nil position (starts ⟨before, char :: (gap ++ text)⟩ isBlank),
      inductionHypothesis gapBlank (position + 1) charOutside,
      findAllFrom_values scan (position + 1) position]
    exact findAllFrom_values_of_alike looks position (charOutside.trans outside.symm) text

/-- The same readings are found in a text between margins of white space. -/
theorem findAll_margins {holds : Char → Bool} {scan : Scan Value} (looks : LooksBackFor holds scan)
    (unblank : Unblank holds) (starts : StartsUnblank scan) {gap margin : List Char}
    (respects : Respects (Abreast margin) scan) (forward : GoesForward scan)
    (gapBlank : allBlank gap = true) (blank : allBlank margin = true) (text : List Char) :
    (findAll scan (gap ++ (text ++ margin))).map (·.value) =
      (findAll scan text).map (·.value) := by
  unfold findAll
  rw [findAllFrom_blank_append looks unblank starts gapBlank 0 rfl,
    findAllFrom_append_blank respects starts forward blank]

end Scan

/-! ### Words between margins -/

/-- The word has characters that are no white space at both ends. -/
structure Framed (word : List Char) : Prop where
  begins : word.head?.any isInk = true
  ends : word.getLast?.any isInk = true

instance (word : List Char) : Decidable (Framed word) :=
  decidable_of_iff (word.head?.any isInk = true ∧ word.getLast?.any isInk = true)
    ⟨fun both => ⟨both.1, both.2⟩, fun framed => ⟨framed.begins, framed.ends⟩⟩

/-- A word that does not begin with white space does not begin in white space before a text. -/
theorem occursIn_blank_append {word gap : List Char} (begins : word.head?.any isInk = true)
    (blank : allBlank gap = true) (text : List Char) :
    occursIn word (gap ++ text) = occursIn word text := by
  cases word with
  | nil => cases begins
  | cons char rest =>
    refine occursIn_append_of_head_not_mem char rest gap text fun member => ?_
    have isBlank := List.all_eq_true.mp blank char member
    rw [(isInk_iff char).mp begins] at isBlank
    cases isBlank

/-- White space holds no part of a word that ends with another character. -/
theorem not_subset_of_ends {word margin : List Char} (ends : word.getLast?.any isInk = true)
    (blank : allBlank margin = true) : ¬ word ⊆ margin := by
  intro subset
  obtain ⟨char, isLast, ink⟩ := (Option.any_eq_true _ _).mp ends
  have isBlank := List.all_eq_true.mp blank char (subset (List.mem_of_mem_getLast? isLast))
  rw [(isInk_iff char).mp ink] at isBlank
  cases isBlank

/-- A part of a word that stands in a margin of white space does not reach back to a character that
is no white space. -/
theorem prefix_of_back_blank {core tail front back margin : List Char}
    (ends : core.getLast?.any isInk = true) (blank : allBlank margin = true)
    (parts : core ++ tail = front ++ back) (atMargin : back <+: margin) : core <+: front := by
  rcases List.append_eq_append_iff.mp parts with ⟨rest, rfl, _⟩ | ⟨rest, rfl, rfl⟩
  · exact List.prefix_append core rest
  · cases rest with
    | nil => simp
    | cons char others =>
      rw [List.getLast?_append_of_ne_nil front (List.cons_ne_nil char others)] at ends
      have inMargin : char :: others ⊆ margin := fun other member =>
        atMargin.subset (List.mem_append_left tail member)
      exact absurd inMargin (not_subset_of_ends ends blank)

/-- A word with something behind it occurs across a margin of white space only in the text, or where
the word ends the text and what is behind it begins the margin. -/
theorem occursIn_append_margin_iff {core tail margin : List Char}
    (ends : core.getLast?.any isInk = true) (blank : allBlank margin = true)
    (text : List Char) :
    occursIn (core ++ tail) (text ++ margin) = true ↔
      occursIn (core ++ tail) text = true ∨
        ∃ near far, tail = near ++ far ∧ core ++ near <:+ text ∧ far <+: margin := by
  rw [occursIn_iff, occursIn_iff, List.infix_append_iff]
  constructor
  · rintro (inText | inMargin | ⟨front, back, parts, atText, atMargin⟩)
    · exact Or.inl inText
    · have coreInMargin : core ⊆ margin := fun other member =>
        inMargin.subset (List.mem_append_left tail member)
      exact absurd coreInMargin (not_subset_of_ends ends blank)
    · obtain ⟨near, rfl⟩ := prefix_of_back_blank ends blank parts atMargin
      rw [List.append_assoc, List.append_cancel_left_eq] at parts
      exact Or.inr ⟨near, back, parts, atText, atMargin⟩
  · rintro (inText | ⟨near, far, rfl, atText, atMargin⟩)
    · exact Or.inl inText
    · exact Or.inr (Or.inr ⟨core ++ near, far, (List.append_assoc core near far).symm, atText,
        atMargin⟩)

/-- A framed word occurs in a text between margins of white space exactly when it occurs in the
text. -/
theorem occursIn_margins {word gap margin : List Char} (framed : Framed word)
    (gapBlank : allBlank gap = true) (blank : allBlank margin = true) (text : List Char) :
    occursIn word (gap ++ (text ++ margin)) = occursIn word text := by
  rw [occursIn_blank_append framed.begins gapBlank, Bool.eq_iff_iff]
  have across := @occursIn_append_margin_iff word [] margin framed.ends blank text
  rw [List.append_nil] at across
  rw [across, or_iff_left_of_imp]
  rintro ⟨near, far, parts, atText, _⟩
  obtain ⟨rfl, rfl⟩ := List.append_eq_nil_iff.mp parts.symm
  rw [List.append_nil] at atText
  exact (occursIn_iff word text).mpr atText.isInfix

theorem anyOccursIn_margins {words : List (List Char)} (framed : ∀ word ∈ words, Framed word)
    {gap margin : List Char} (gapBlank : allBlank gap = true) (blank : allBlank margin = true)
    (text : List Char) :
    anyOccursIn words (gap ++ (text ++ margin)) = anyOccursIn words text := by
  rw [anyOccursIn, anyOccursIn, Bool.eq_iff_iff, List.any_eq_true, List.any_eq_true]
  refine exists_congr fun word => and_congr_right fun member => ?_
  rw [occursIn_margins (framed word member) gapBlank blank]

/-- A framed word with one character of white space behind it occurs in a text between margins where
it occurs in the text, and besides where the word ends the text and the character comes next. -/
theorem occursIn_spaced_margins_iff {word gap margin : List Char} (framed : Framed word)
    (mark : Char) (gapBlank : allBlank gap = true) (blank : allBlank margin = true)
    (text : List Char) :
    occursIn (word ++ [mark]) (gap ++ (text ++ margin)) = true ↔
      occursIn (word ++ [mark]) text = true ∨ (word <:+ text ∧ margin.head? = some mark) := by
  have begins : (word ++ [mark]).head?.any isInk = true := by
    have framedBegins := framed.begins
    cases word with
    | nil => cases framedBegins
    | cons char rest => exact framedBegins
  rw [occursIn_blank_append begins gapBlank, occursIn_append_margin_iff framed.ends blank]
  constructor
  · rintro (inText | ⟨near, far, parts, atText, atMargin⟩)
    · exact Or.inl inText
    · rcases List.append_eq_singleton_iff.mp parts.symm with ⟨rfl, rfl⟩ | ⟨rfl, rfl⟩
      · rw [List.append_nil] at atText
        obtain ⟨rest, rfl⟩ := atMargin
        exact Or.inr ⟨atText, rfl⟩
      · exact Or.inl ((occursIn_iff _ _).mpr atText.isInfix)
  · rintro (inText | ⟨atText, begins⟩)
    · exact Or.inl inText
    · obtain ⟨rest, rfl⟩ := List.head?_eq_some_iff.mp begins
      refine Or.inr ⟨[], [mark], rfl, ?_, List.prefix_append [mark] rest⟩
      rwa [List.append_nil]

end OpeningHours.Text
