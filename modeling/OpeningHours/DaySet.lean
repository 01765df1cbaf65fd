import OpeningHours.Weekday

/-
Sets of weekdays, and the days on which a listing applies. A set is known by the days it holds and
nothing else, so two sets that hold the same days are equal, in whatever order the days were named.
The days on which a listing applies are a set with at least one day in it, which is why there is
always a next such day, at most a week ahead.
-/

namespace OpeningHours

@[ext] structure DaySet where
  contains : Weekday → Bool

namespace DaySet

instance : Membership Weekday DaySet where
  mem days day := days.contains day = true

instance (day : Weekday) (days : DaySet) : Decidable (day ∈ days) :=
  inferInstanceAs (Decidable (days.contains day = true))

theorem mem_iff (day : Weekday) (days : DaySet) : day ∈ days ↔ days.contains day = true := Iff.rfl

theorem ext_mem {first second : DaySet} (same : ∀ day, day ∈ first ↔ day ∈ second) :
    first = second := by
  apply DaySet.ext
  funext day
  exact Bool.eq_iff_iff.mpr (same day)

instance : DecidableEq DaySet := fun first second =>
  decidable_of_iff (∀ day ∈ Weekday.all, (day ∈ first ↔ day ∈ second))
    ⟨fun same => ext_mem fun day => same day (Weekday.mem_all day),
      fun equal _ _ => equal ▸ Iff.rfl⟩

/-- The days of the set, Sunday first. -/
def toList (days : DaySet) : List Weekday :=
  Weekday.all.filter days.contains

/-- The set of the days of a list. -/
def ofList (days : List Weekday) : DaySet :=
  ⟨fun day => decide (day ∈ days)⟩

def empty : DaySet :=
  ⟨fun _ => false⟩

/-- All seven days. -/
def everyDay : DaySet :=
  ⟨fun _ => true⟩

def mondayToFriday : DaySet :=
  ofList [.monday, .tuesday, .wednesday, .thursday, .friday]

def union (first second : DaySet) : DaySet :=
  ⟨fun day => first.contains day || second.contains day⟩

instance : Union DaySet := ⟨union⟩

/-- The days of all the sets of a list. -/
def unions (sets : List DaySet) : DaySet :=
  sets.foldr (· ∪ ·) empty

/-- The days met on the way from the first day to the last one, both included, going round the end
of the week where need be. -/
def fromTo (first last : Weekday) : DaySet :=
  ofList ((List.range (first.daysTo last + 1)).map first.later)

@[simp] theorem mem_toList (day : Weekday) (days : DaySet) : day ∈ days.toList ↔ day ∈ days := by
  simp [toList, Weekday.mem_all, mem_iff]

@[simp] theorem mem_ofList (day : Weekday) (days : List Weekday) :
    day ∈ ofList days ↔ day ∈ days := by
  simp [ofList, mem_iff]

@[simp] theorem not_mem_empty (day : Weekday) : day ∉ empty := by
  simp [empty, mem_iff]

@[simp] theorem mem_everyDay (day : Weekday) : day ∈ everyDay := by
  simp [everyDay, mem_iff]

@[simp] theorem mem_union (day : Weekday) (first second : DaySet) :
    day ∈ first ∪ second ↔ day ∈ first ∨ day ∈ second := by
  change (first.contains day || second.contains day) = true ↔ _
  simp [mem_iff]

theorem eq_empty_iff (days : DaySet) : days = empty ↔ ∀ day, day ∉ days := by
  constructor
  · rintro rfl
    exact not_mem_empty
  · exact fun none => ext_mem fun day => iff_of_false (none day) (not_mem_empty day)

theorem union_eq_empty_iff (first second : DaySet) :
    first ∪ second = empty ↔ first = empty ∧ second = empty := by
  simp only [eq_empty_iff, mem_union, not_or, forall_and]

theorem mem_unions (day : Weekday) (sets : List DaySet) :
    day ∈ unions sets ↔ ∃ days ∈ sets, day ∈ days := by
  induction sets with
  | nil => simp [unions]
  | cons days rest inductionHypothesis =>
    change day ∈ days ∪ unions rest ↔ _
    simp [inductionHypothesis]

@[simp] theorem ofList_toList (days : DaySet) : ofList days.toList = days :=
  ext_mem fun day => by simp

end DaySet

/-! ### The days on which a listing applies -/

/-- The days on which a listing applies: at least one. -/
structure Applicability where
  days : DaySet
  nonempty : ∃ day, day ∈ days

/-- How the days of a listing are spoken of. -/
inductive ApplicabilityKind where
  | everyDay
  | weekdays
  | specificDays
  deriving DecidableEq, Repr

namespace Applicability

instance : DecidableEq Applicability := fun first second =>
  decidable_of_iff (first.days = second.days) (by cases first; cases second; simp)

/-- The days as an applicability, unless there are none. -/
def ofDays? (days : DaySet) : Option Applicability :=
  if nonempty : ∃ day ∈ Weekday.all, day ∈ days then
    some ⟨days, nonempty.imp fun _ both => both.2⟩
  else none

@[simp] theorem ofDays?_days (applicability : Applicability) :
    ofDays? applicability.days = some applicability := by
  obtain ⟨day, member⟩ := applicability.nonempty
  rw [ofDays?, dif_pos ⟨day, Weekday.mem_all day, member⟩]

theorem ofDays?_eq_some_iff {days : DaySet} {applicability : Applicability} :
    ofDays? days = some applicability ↔ applicability.days = days := by
  constructor
  · intro made
    unfold ofDays? at made
    split at made
    · exact congrArg Applicability.days (Option.some.inj made).symm
    · cases made
  · rintro rfl
    exact ofDays?_days applicability

/-- Only the empty set makes no applicability. -/
theorem ofDays?_eq_none_iff {days : DaySet} : ofDays? days = none ↔ days = .empty := by
  constructor
  · intro unmade
    refine DaySet.ext_mem fun day => iff_of_false (fun member => ?_) (DaySet.not_mem_empty day)
    have made := ofDays?_days ⟨days, day, member⟩
    rw [unmade] at made
    cases made
  · rintro rfl
    decide

def everyDay : Applicability :=
  ⟨.everyDay, .sunday, by simp⟩

def weekdays : Applicability :=
  ⟨.mondayToFriday, .monday, by decide⟩

def kind (applicability : Applicability) : ApplicabilityKind :=
  if applicability.days = .everyDay then .everyDay
  else if applicability.days = .mondayToFriday then .weekdays
  else .specificDays

/-- How many days after the given one the next applicable day comes, from one to seven. When none of
the six days in between applies it is the given day itself, a week on. -/
def daysUntilNext (applicability : Applicability) (today : Weekday) : Nat :=
  match [1, 2, 3, 4, 5, 6].find? fun days => decide (today.later days ∈ applicability.days) with
  | some days => days
  | none => 7

/-- The next applicable day after the given one. -/
def nextDay (applicability : Applicability) (today : Weekday) : Weekday :=
  today.later (applicability.daysUntilNext today)

/-- Either one of the next six days applies and is the first of them to do so, or none of them
applies and it is a week until the given day comes again. -/
theorem daysUntilNext_cases (applicability : Applicability) (today : Weekday) :
    (0 < applicability.daysUntilNext today ∧ applicability.daysUntilNext today < 7 ∧
        today.later (applicability.daysUntilNext today) ∈ applicability.days ∧
        ∀ days, 0 < days → days < applicability.daysUntilNext today →
          today.later days ∉ applicability.days) ∨
      (applicability.daysUntilNext today = 7 ∧
        ∀ days, 0 < days → days < 7 → today.later days ∉ applicability.days) := by
  unfold daysUntilNext
  rw [show [1, 2, 3, 4, 5, 6] = List.range' 1 6 from rfl]
  split
  · rename_i days first
    obtain ⟨applies, member, earlier⟩ := List.find?_range'_eq_some.mp first
    rw [List.mem_range'_1] at member
    refine Or.inl ⟨by omega, by omega, of_decide_eq_true applies, fun other positive before => ?_⟩
    simpa using earlier other positive before
  · rename_i none
    refine Or.inr ⟨rfl, fun days positive before => ?_⟩
    simpa using List.find?_eq_none.mp none days (List.mem_range'_1.mpr ⟨positive, before⟩)

theorem daysUntilNext_pos (applicability : Applicability) (today : Weekday) :
    0 < applicability.daysUntilNext today := by
  rcases applicability.daysUntilNext_cases today with ⟨positive, _⟩ | ⟨week, _⟩
  · exact positive
  · omega

theorem daysUntilNext_le_seven (applicability : Applicability) (today : Weekday) :
    applicability.daysUntilNext today ≤ 7 := by
  rcases applicability.daysUntilNext_cases today with ⟨_, small, _⟩ | ⟨week, _⟩
  · exact Nat.le_of_lt small
  · exact Nat.le_of_eq week

/-- No day before the next applicable one applies. -/
theorem not_mem_before_next (applicability : Applicability) (today : Weekday) (days : Nat)
    (positive : 0 < days) (before : days < applicability.daysUntilNext today) :
    today.later days ∉ applicability.days := by
  rcases applicability.daysUntilNext_cases today with ⟨_, _, _, earlier⟩ | ⟨week, earlier⟩
  · exact earlier days positive before
  · exact earlier days positive (week ▸ before)

/-- The next applicable day applies. When it is a week off it is the given day, for some day has to
apply and no other one does. -/
theorem nextDay_mem (applicability : Applicability) (today : Weekday) :
    applicability.nextDay today ∈ applicability.days := by
  rcases applicability.daysUntilNext_cases today with ⟨_, _, applies, _⟩ | ⟨week, earlier⟩
  · exact applies
  · obtain ⟨day, member⟩ := applicability.nonempty
    have reached : today.later (today.daysTo day) = day := Weekday.later_daysTo today day
    have small : today.daysTo day < 7 := Nat.mod_lt _ (by decide)
    rw [nextDay, week, Weekday.later_seven]
    by_cases same : today.daysTo day = 0
    · rw [same, Weekday.later_zero] at reached
      rwa [reached]
    · rw [← reached] at member
      exact absurd member (earlier _ (Nat.pos_of_ne_zero same) small)

/-- When it is a week until the next applicable day, the given day applies. -/
theorem mem_of_daysUntilNext_eq_seven (applicability : Applicability) (today : Weekday)
    (week : applicability.daysUntilNext today = 7) : today ∈ applicability.days := by
  have applies := applicability.nextDay_mem today
  rwa [nextDay, week, Weekday.later_seven] at applies

end Applicability

end OpeningHours
