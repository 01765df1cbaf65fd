import OpeningHours.Proofs.Text.Numerals

/-
Texts that stay on one line, since none of their characters is a control character. What is put
together from such texts is one of them again, and numbers are written so.
-/

namespace OpeningHours.Text

/-- No character of the text is a control character of ASCII. -/
def Uncontrolled (text : List Char) : Prop :=
  ∀ char ∈ text, 0x20 ≤ char.toNat

instance (text : List Char) : Decidable (Uncontrolled text) :=
  List.decidableBAll (fun char : Char => 0x20 ≤ char.toNat) text

namespace Uncontrolled

variable {text first second : List Char} {char : Char}

theorem nil : Uncontrolled [] :=
  List.forall_mem_nil _

theorem cons (ink : 0x20 ≤ char.toNat) (rest : Uncontrolled text) : Uncontrolled (char :: text) :=
  List.forall_mem_cons.mpr ⟨ink, rest⟩

theorem append (one : Uncontrolled first) (other : Uncontrolled second) :
    Uncontrolled (first ++ second) :=
  List.forall_mem_append.mpr ⟨one, other⟩

theorem of_subset (within : first ⊆ second) (all : Uncontrolled second) : Uncontrolled first :=
  fun _ member => all _ (within member)

theorem of_digits (all : text.all Char.isDigit = true) : Uncontrolled text := fun char member => by
  have bounds := Numeral.toNat_of_isDigit (List.all_eq_true.mp all char member)
  omega

/-- A text that is put together from two others. -/
theorem join {front rest : String} (one : Uncontrolled front.toList)
    (other : Uncontrolled rest.toList) : Uncontrolled (front ++ rest).toList := by
  rw [String.toList_append]
  exact one.append other

theorem newline_not_mem (uncontrolled : Uncontrolled text) : '\n' ∉ text := fun member =>
  absurd (uncontrolled '\n' member) (by decide)

end Uncontrolled

theorem uncontrolled_ofNat (number : Nat) : Uncontrolled (Numeral.ofNat number) :=
  .of_digits (Numeral.ofNat_all_isDigit number)

theorem uncontrolled_ofInt (number : Int) : Uncontrolled (Numeral.ofInt number) := by
  unfold Numeral.ofInt
  split
  · exact .cons (by decide) (uncontrolled_ofNat _)
  · exact uncontrolled_ofNat _

theorem uncontrolled_zeros (count : Nat) : Uncontrolled (List.replicate count '0') :=
  fun _ member => (List.eq_of_mem_replicate member) ▸ (by decide)

theorem uncontrolled_toText (number : Int) : Uncontrolled (Numeral.toText number).toList := by
  rw [Numeral.toText, String.toList_ofList]
  exact uncontrolled_ofInt number

end OpeningHours.Text
