/-
Reading a text by trial. A scan tried at a place in a text yields the ways of reading on from there,
the preferred way first: one alternative comes before the next. A run of characters of one class is
always read to its end. A search tries a scan at one place after another and takes the first way
found at the first place that has any, so that the whole search is decided by these two orders
alone.

A place remembers the character before it, for the sake of word boundaries.
-/

namespace OpeningHours.Text

/-- A place in a text: the character just before it, if there is one, and what comes after. -/
structure Place where
  before : Option Char
  after : List Char
  deriving DecidableEq

/-- The place at which a text begins. -/
def Place.start (text : List Char) : Place :=
  ⟨none, text⟩

/-- The ways to read on from a place, the preferred one first: what was read, and the place that
was reached. -/
def Scan (Value : Type) : Type :=
  Place → List (Value × Place)

namespace Scan

/-! ### Putting scans together -/

/-- Read nothing. -/
def done {Value : Type} (value : Value) : Scan Value :=
  fun place => [(value, place)]

/-- Go on with a second scan from wherever the first one may end. -/
def andThen {Value Next : Type} (scan : Scan Value) (next : Value → Scan Next) : Scan Next :=
  fun place => (scan place).flatMap fun (value, reached) => next value reached

/-- The ways of the first scan, and after them those of the second. -/
def orElse {Value : Type} (first second : Scan Value) : Scan Value :=
  fun place => first place ++ second place

/-- The ways of each scan of a list in turn. -/
def firstOf {Value : Type} (scans : List (Scan Value)) : Scan Value :=
  fun place => scans.flatMap fun scan => scan place

instance : Monad Scan where
  pure := done
  bind := andThen

/-- One reading if there is any, and otherwise none; the reading is preferred. -/
def optional {Value : Type} (scan : Scan Value) : Scan (Option Value) :=
  orElse (andThen scan fun value => done (some value)) (done none)

/-! ### Reading characters -/

/-- One character of a class. -/
def oneChar (holds : Char → Bool) : Scan Char := fun place =>
  match place.after with
  | char :: rest => if holds char then [(char, ⟨some char, rest⟩)] else []
  | [] => []

/-- The place reached by reading as many characters of a class as there are. -/
def runPlace (holds : Char → Bool) (before : Option Char) : List Char → Place
  | [] => ⟨before, []⟩
  | char :: rest =>
    if holds char then runPlace holds (some char) rest else ⟨before, char :: rest⟩

/-- The longest run of a class, which may be empty. A shorter run is no way of reading on: it would
be of use only if what comes next could begin with a character of the class. -/
def run (holds : Char → Bool) : Scan Unit := fun place =>
  [((), runPlace holds place.before place.after)]

/-- The longest run of a class of at least one character. -/
def run1 (holds : Char → Bool) : Scan Unit :=
  andThen (oneChar holds) fun _ => run holds

/-- A fixed word. -/
def word : List Char → Scan Unit
  | [] => done ()
  | char :: rest => andThen (oneChar (· = char)) fun _ => word rest

/-- Exactly `count` characters of a class. -/
def exactly (holds : Char → Bool) : Nat → Scan (List Char)
  | 0 => done []
  | count + 1 =>
    andThen (oneChar holds) fun char =>
    andThen (exactly holds count) fun rest =>
    done (char :: rest)

/-- A place where a character of the class meets one outside it or an end of the text. -/
def boundary (holds : Char → Bool) : Scan Unit := fun place =>
  if place.before.any holds != place.after.head?.any holds then [((), place)] else []

/-! ### Searching -/

/-- Where a reading was found in a text, by the numbers of characters before its two ends, and what
was read. -/
structure Found (Value : Type) where
  start : Nat
  stop : Nat
  value : Value
  deriving Repr

/-- The preferred reading at the first place that has any, counting places from `position`. -/
def searchFrom {Value : Type} (scan : Scan Value) (position : Nat) (before : Option Char) :
    List Char → Option (Found Value)
  | [] =>
    match scan ⟨before, []⟩ with
    | (value, _) :: _ => some ⟨position, position, value⟩
    | [] => none
  | char :: rest =>
    match scan ⟨before, char :: rest⟩ with
    | (value, reached) :: _ =>
      some ⟨position, position + ((char :: rest).length - reached.after.length), value⟩
    | [] => searchFrom scan (position + 1) (some char) rest

/-- The preferred reading at the first place of the text that has any. -/
def search {Value : Type} (scan : Scan Value) (text : List Char) : Option (Found Value) :=
  searchFrom scan 0 none text

/-- The readings found one after another, each search going on where the reading before it ended;
`skip` characters are still to be passed over before the next place is tried. -/
def findAllFrom {Value : Type} (scan : Scan Value) (position skip : Nat) (before : Option Char) :
    List Char → List (Found Value)
  | [] => []
  | char :: rest =>
    match skip with
    | skip + 1 => findAllFrom scan (position + 1) skip (some char) rest
    | 0 =>
      match scan ⟨before, char :: rest⟩ with
      | (value, reached) :: _ =>
        let width := (char :: rest).length - reached.after.length
        ⟨position, position + width, value⟩ ::
          findAllFrom scan (position + 1) (width - 1) (some char) rest
      | [] => findAllFrom scan (position + 1) 0 (some char) rest

/-- All readings of a text that do not overlap, found from left to right. The scan is to be one that
never reads the empty text. -/
def findAll {Value : Type} (scan : Scan Value) (text : List Char) : List (Found Value) :=
  findAllFrom scan 0 0 none text

/-! ### First readings -/

@[simp] theorem done_apply {Value : Type} (value : Value) (place : Place) :
    done value place = [(value, place)] := rfl

@[simp] theorem andThen_apply {Value Next : Type} (scan : Scan Value) (next : Value → Scan Next)
    (place : Place) :
    andThen scan next place = (scan place).flatMap fun (value, reached) => next value reached := rfl

@[simp] theorem orElse_apply {Value : Type} (first second : Scan Value) (place : Place) :
    orElse first second place = first place ++ second place := rfl

end Scan

/-! ### Words within a text -/

/-- The word stands somewhere in the text. -/
def occursIn (word : List Char) : List Char → Bool
  | [] => word.isEmpty
  | char :: rest => word.isPrefixOf (char :: rest) || occursIn word rest

/-- One of the words stands somewhere in the text. -/
def anyOccursIn (words : List (List Char)) (text : List Char) : Bool :=
  words.any fun word => occursIn word text

/-- A word occurs in a text exactly when it is a block of the text. -/
theorem occursIn_iff (word text : List Char) : occursIn word text = true ↔ word <:+: text := by
  induction text with
  | nil => simp [occursIn]
  | cons char rest inductionHypothesis =>
    rw [occursIn, Bool.or_eq_true, List.isPrefixOf_iff_prefix, inductionHypothesis,
      List.infix_cons_iff]

end OpeningHours.Text
