/-
The status of a listing at a civil time: whether it is open, a phrase that says so, and where they
are known the time until it opens and the time at which it opens next. Where nothing is known of a
listing it has no status, which is not the same as being closed.
-/

namespace OpeningHours

structure OpenStatus where
  isOpen : Bool
  phrase : String
  untilOpen : Option String := none
  nextOpening : Option String := none
  deriving DecidableEq, Repr

end OpeningHours
