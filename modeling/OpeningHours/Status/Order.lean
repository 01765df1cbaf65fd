import OpeningHours.Status.Basic

/-
The order of statuses: open ones first, then closed ones, then those that are not known. Within a
tier the order stays as it was.
-/

namespace OpeningHours

/-- The three tiers of the order. -/
inductive StatusTier where
  | isOpen
  | isClosed
  | isUnknown
  deriving DecidableEq, Repr

namespace StatusTier

def of : Option OpenStatus → StatusTier
  | none => isUnknown
  | some status => if status.isOpen then isOpen else isClosed

/-- The place of a tier, zero being first. -/
def rank : StatusTier → Nat
  | isOpen => 0
  | isClosed => 1
  | isUnknown => 2

end StatusTier

namespace OpenStatus

/-- The rank of a status, or of its absence. -/
def rankOf (status : Option OpenStatus) : Nat :=
  (StatusTier.of status).rank

/-- Which of two statuses comes first. -/
def order (first second : Option OpenStatus) : Ordering :=
  compare (rankOf first) (rankOf second)

/-- The items ordered by the status that each of them has, those of one tier as they were. -/
def sortBy {Item : Type} (status : Item → Option OpenStatus) (items : List Item) : List Item :=
  items.mergeSort fun first second => decide (rankOf (status first) ≤ rankOf (status second))

/-- The statuses in order. -/
def sort (statuses : List (Option OpenStatus)) : List (Option OpenStatus) :=
  sortBy id statuses

/-- There is a status and it is open. -/
def isKnownOpen (status : Option OpenStatus) : Bool :=
  status.any (·.isOpen)

end OpenStatus

end OpeningHours
