import Mathlib.Data.List.Forall2
import OpeningHours.Proofs.Text.Search

/-
Scans at two places at once. Two places may differ in what a scan does not look at: in the character
that came before, or in white space that follows at the very end. A scan respects such a relation
when at related places it has the same ways, one by one, and they lead to related places again. Put
together from scans that respect a relation a scan respects it too, so what is left to show is that
single characters, runs and boundaries do.
-/

namespace OpeningHours.Text.Scan

variable {Value Next : Type} {Related : Place → Place → Prop}

/-- At related places the scan reads the same values in the same order and reaches related places.
-/
def Respects (Related : Place → Place → Prop) (scan : Scan Value) : Prop :=
  ∀ first second, Related first second →
    List.Forall₂ (fun one other => one.1 = other.1 ∧ Related one.2 other.2)
      (scan first) (scan second)

namespace Respects

theorem done (value : Value) : Respects Related (done value) :=
  fun _ _ related => .cons ⟨rfl, related⟩ .nil

theorem andThen {scan : Scan Value} {next : Value → Scan Next} (first : Respects Related scan)
    (second : ∀ value, Respects Related (next value)) : Respects Related (andThen scan next) := by
  intro one other related
  refine List.rel_flatMap (first one other related) fun way otherWay ⟨same, onward⟩ => ?_
  change List.Forall₂ _ (next way.1 way.2) (next otherWay.1 otherWay.2)
  rw [same]
  exact second _ _ _ onward

theorem orElse {first second : Scan Value} (one : Respects Related first)
    (other : Respects Related second) : Respects Related (orElse first second) :=
  fun _ _ related => List.rel_append (one _ _ related) (other _ _ related)

theorem firstOf {scans : List (Scan Value)} (each : ∀ scan ∈ scans, Respects Related scan) :
    Respects Related (firstOf scans) := by
  intro one other related
  induction scans with
  | nil => exact .nil
  | cons scan scans inductionHypothesis =>
    exact List.rel_append (each scan List.mem_cons_self one other related)
      (inductionHypothesis fun scan member => each scan (List.mem_cons_of_mem _ member))

theorem optional {scan : Scan Value} (respects : Respects Related scan) :
    Respects Related (optional scan) :=
  (respects.andThen fun _ => .done _).orElse (.done _)

theorem word {read : List Char}
    (each : ∀ char ∈ read, Respects Related (oneChar (· = char))) :
    Respects Related (word read) := by
  induction read with
  | nil => exact .done ()
  | cons char read inductionHypothesis =>
    exact (each char List.mem_cons_self).andThen fun _ =>
      inductionHypothesis fun other member => each other (List.mem_cons_of_mem _ member)

theorem exactly {holds : Char → Bool} (one : Respects Related (oneChar holds)) (count : Nat) :
    Respects Related (exactly holds count) := by
  induction count with
  | zero => exact .done []
  | succ count inductionHypothesis =>
    exact one.andThen fun char => inductionHypothesis.andThen fun rest => .done (char :: rest)

/-- The preferred ways at related places are the same. -/
theorem head? {scan : Scan Value} (respects : Respects Related scan) {first second : Place}
    (related : Related first second) {way : Value × Place} (head : (scan first).head? = some way) :
    ∃ reached, (scan second).head? = some (way.1, reached) ∧ Related way.2 reached := by
  obtain ⟨others, ways⟩ := List.head?_eq_some_iff.mp head
  have same := respects first second related
  rw [ways] at same
  obtain ⟨⟨_, reached⟩, moreOthers, ⟨rfl, onward⟩, _, otherWays⟩ :=
    List.forall₂_cons_left_iff.mp same
  exact ⟨reached, by rw [otherWays, List.head?_cons], onward⟩

end Respects

end OpeningHours.Text.Scan
