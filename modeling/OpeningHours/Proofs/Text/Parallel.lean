import Mathlib.Data.Option.Basic
import OpeningHours.Proofs.Text.Relations

/-
Texts that differ in some characters only. Where one character stands in the place of another that a
scan does not tell from it, the scan has the same ways, so the same is found at the same places. It
is enough to know this of classes of characters: a class that is looked for has no room for the
difference, and a class that is only looked at may hold both characters or neither.
-/

namespace OpeningHours.Text

variable {Value : Type} {Alike : Char → Char → Prop} {holds : Char → Bool}

/-- The class does not tell characters apart that are alike. -/
def Overlooks (Alike : Char → Char → Prop) (holds : Char → Bool) : Prop :=
  ∀ one other, Alike one other → holds one = holds other

/-- Characters of the class that are alike are the same. -/
def Separates (Alike : Char → Char → Prop) (holds : Char → Bool) : Prop :=
  ∀ one other, Alike one other → holds one = true → one = other

/-- The character is like no other. -/
def IsSingular (Alike : Char → Char → Prop) (char : Char) : Prop :=
  ∀ one other, Alike one other → (one = char ↔ other = char)

theorem IsSingular.overlooks {char : Char} (singular : IsSingular Alike char) :
    Overlooks Alike (· = char) :=
  fun one other alike => decide_eq_decide.mpr (singular one other alike)

theorem IsSingular.separates {char : Char} (singular : IsSingular Alike char) :
    Separates Alike (· = char) := by
  intro one other alike held
  have here := of_decide_eq_true held
  exact here.trans ((singular one other alike).mp here).symm

/-- Two places with characters that are alike, one by one. -/
structure Parallel (Alike : Char → Char → Prop) (first second : Place) : Prop where
  before : Option.Rel Alike first.before second.before
  after : List.Forall₂ Alike first.after second.after

namespace Scan.Respects

theorem oneChar_parallel (overlooks : Overlooks Alike holds) (separates : Separates Alike holds) :
    Respects (Parallel Alike) (oneChar holds) := by
  rintro ⟨before, text⟩ ⟨otherBefore, otherText⟩ ⟨-, after⟩
  cases after with
  | nil => exact .nil
  | @cons one other rest otherRest alike onward =>
    simp only [Scan.oneChar, ← overlooks one other alike]
    split
    · next held =>
      obtain rfl := separates one other alike held
      exact .cons ⟨rfl, .some alike, onward⟩ .nil
    · exact .nil

theorem run_parallel (overlooks : Overlooks Alike holds) :
    Respects (Parallel Alike) (run holds) := by
  rintro ⟨before, text⟩ ⟨otherBefore, otherText⟩ ⟨behind, after⟩
  refine .cons ⟨rfl, ?_⟩ .nil
  change Parallel Alike (runPlace holds before text) (runPlace holds otherBefore otherText)
  change List.Forall₂ Alike text otherText at after
  induction after generalizing before otherBefore with
  | nil => exact ⟨behind, .nil⟩
  | @cons one other rest otherRest alike onward inductionHypothesis =>
    rw [runPlace, runPlace, ← overlooks one other alike]
    split
    · exact inductionHypothesis (some one) (some other) (.some alike)
    · exact ⟨behind, .cons alike onward⟩

theorem boundary_parallel (overlooks : Overlooks Alike holds) :
    Respects (Parallel Alike) (boundary holds) := by
  rintro ⟨before, text⟩ ⟨otherBefore, otherText⟩ parallel
  have behind : before.any holds = otherBefore.any holds := by
    obtain ⟨behind, -⟩ := parallel
    change Option.Rel Alike before otherBefore at behind
    cases behind with
    | none => rfl
    | some alike => exact overlooks _ _ alike
  have ahead : text.head?.any holds = otherText.head?.any holds := by
    obtain ⟨-, after⟩ := parallel
    change List.Forall₂ Alike text otherText at after
    cases after with
    | nil => rfl
    | cons alike _ => exact overlooks _ _ alike
  unfold Scan.boundary
  dsimp only
  rw [behind, ahead]
  split
  · exact .cons ⟨rfl, parallel⟩ .nil
  · exact .nil

theorem word_parallel {read : List Char} (singular : ∀ char ∈ read, IsSingular Alike char) :
    Respects (Parallel Alike) (Scan.word read) :=
  .word fun char member =>
    oneChar_parallel (singular char member).overlooks (singular char member).separates

end Scan.Respects

/-! ### Searching -/

namespace Scan

variable {scan : Scan Value} {text second : List Char} {before other : Option Char}

theorem searchFrom_parallel (respects : Respects (Parallel Alike) scan)
    (behind : Option.Rel Alike before other) (alike : List.Forall₂ Alike text second)
    (position : Nat) :
    searchFrom scan position before text = searchFrom scan position other second := by
  induction alike generalizing before other position with
  | nil =>
    have ways := respects ⟨before, []⟩ ⟨other, []⟩ ⟨behind, .nil⟩
    rw [searchFrom, searchFrom]
    generalize scan ⟨before, []⟩ = found at ways ⊢
    generalize scan ⟨other, []⟩ = otherFound at ways ⊢
    cases ways with
    | nil => rfl
    | cons same _ =>
      obtain ⟨value, -⟩ := same
      dsimp only
      rw [value]
  | @cons one another rest otherRest alike onward inductionHypothesis =>
    have ways := respects ⟨before, one :: rest⟩ ⟨other, another :: otherRest⟩
      ⟨behind, .cons alike onward⟩
    rw [searchFrom, searchFrom]
    generalize scan ⟨before, one :: rest⟩ = found at ways ⊢
    generalize scan ⟨other, another :: otherRest⟩ = otherFound at ways ⊢
    cases ways with
    | nil => exact inductionHypothesis (.some alike) (position + 1)
    | cons same _ =>
      obtain ⟨value, reached⟩ := same
      dsimp only
      rw [value, reached.after.length_eq, List.length_cons, List.length_cons, onward.length_eq]

theorem search_parallel (respects : Respects (Parallel Alike) scan)
    (alike : List.Forall₂ Alike text second) : search scan text = search scan second :=
  searchFrom_parallel respects .none alike 0

theorem findAllFrom_parallel (respects : Respects (Parallel Alike) scan)
    (behind : Option.Rel Alike before other) (alike : List.Forall₂ Alike text second)
    (position skip : Nat) :
    findAllFrom scan position skip before text = findAllFrom scan position skip other second := by
  induction alike generalizing before other position skip with
  | nil => rfl
  | @cons one another rest otherRest alike onward inductionHypothesis =>
    cases skip with
    | succ skip => exact inductionHypothesis (.some alike) (position + 1) skip
    | zero =>
      have ways := respects ⟨before, one :: rest⟩ ⟨other, another :: otherRest⟩
        ⟨behind, .cons alike onward⟩
      rw [findAllFrom, findAllFrom]
      generalize scan ⟨before, one :: rest⟩ = found at ways ⊢
      generalize scan ⟨other, another :: otherRest⟩ = otherFound at ways ⊢
      cases ways with
      | nil => exact inductionHypothesis (.some alike) (position + 1) 0
      | cons same _ =>
        obtain ⟨value, reached⟩ := same
        dsimp only
        rw [value, reached.after.length_eq, List.length_cons, List.length_cons, onward.length_eq,
          inductionHypothesis (.some alike)]

theorem findAll_parallel (respects : Respects (Parallel Alike) scan)
    (alike : List.Forall₂ Alike text second) : findAll scan text = findAll scan second :=
  findAllFrom_parallel respects .none alike 0 0

end Scan

/-! ### Words -/

section

variable {text second : List Char}

/-- A word stands at the front of both texts or of neither, if each of its letters is like no other.
-/
theorem isPrefixOf_parallel {word : List Char} (singular : ∀ char ∈ word, IsSingular Alike char)
    (alike : List.Forall₂ Alike text second) : word.isPrefixOf text = word.isPrefixOf second := by
  induction alike generalizing word with
  | nil => rfl
  | @cons one another rest otherRest alike onward inductionHypothesis =>
    cases word with
    | nil => rfl
    | cons char word =>
      obtain ⟨first, others⟩ := List.forall_mem_cons.mp singular
      have same : (char == one) = (char == another) := by
        rw [Bool.eq_iff_iff, beq_iff_eq, beq_iff_eq, eq_comm, first one another alike, eq_comm]
      rw [List.isPrefixOf, List.isPrefixOf, inductionHypothesis others, same]

/-- Both texts are the word or neither is. -/
theorem eq_word_iff_parallel {word : List Char} (singular : ∀ char ∈ word, IsSingular Alike char)
    (alike : List.Forall₂ Alike text second) : text = word ↔ second = word := by
  induction alike generalizing word with
  | nil => rfl
  | @cons one another rest otherRest alike onward inductionHypothesis =>
    cases word with
    | nil => exact ⟨nofun, nofun⟩
    | cons char word =>
      obtain ⟨first, others⟩ := List.forall_mem_cons.mp singular
      rw [List.cons.injEq, List.cons.injEq, first one another alike, inductionHypothesis others]

theorem occursIn_parallel {word : List Char} (singular : ∀ char ∈ word, IsSingular Alike char)
    (alike : List.Forall₂ Alike text second) : occursIn word text = occursIn word second := by
  induction alike with
  | nil => rfl
  | cons alike onward inductionHypothesis =>
    rw [occursIn, occursIn, inductionHypothesis,
      isPrefixOf_parallel singular (.cons alike onward)]

theorem anyOccursIn_parallel {words : List (List Char)}
    (singular : ∀ word ∈ words, ∀ char ∈ word, IsSingular Alike char)
    (alike : List.Forall₂ Alike text second) :
    anyOccursIn words text = anyOccursIn words second := by
  induction words with
  | nil => rfl
  | cons word words inductionHypothesis =>
    obtain ⟨first, others⟩ := List.forall_mem_cons.mp singular
    have rest := inductionHypothesis others
    rw [anyOccursIn] at rest ⊢
    rw [List.any_cons, rest, occursIn_parallel first alike]
    rfl

end

end OpeningHours.Text
