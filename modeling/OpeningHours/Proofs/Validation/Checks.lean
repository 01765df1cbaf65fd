import Mathlib.Data.List.Forall2
import OpeningHours.Validation.Records

/-
What checks admit. Checks are put together from a few pieces: a step into a value, two checks side
by side, the items of a list, a field that must be there or may be missing, and the record as a
whole. Each of the pieces passes exactly when its parts do, and the scalar checks pass exactly what
the check for whole numbers makes a number in the right bounds. A check that does not pass has
something to say: no piece loses the problems of its parts.
-/

namespace OpeningHours

/-! ### Looking up by number and name -/

theorem Weekday.ofNumber?_eq_some_iff {number : Int} {day : Weekday} :
    ofNumber? number = some day ↔ number = day.index := by
  constructor
  · intro made
    rw [ofNumber?] at made
    split at made
    · obtain rfl := Option.some.inj made
      rw [index_ofIndex]
      omega
    · cases made
  · rintro rfl
    exact ofNumber?_index day

/-- What is looked up by its name, among things of different names that are all listed, is the one
that bears the name. -/
theorem find?_name_eq_some_iff {Named : Type} {nameOf : Named → String} {all : List Named}
    (complete : ∀ named, named ∈ all)
    (distinct : ∀ first ∈ all, ∀ second ∈ all, nameOf first = nameOf second → first = second)
    {name : String} {named : Named} :
    (all.find? fun other => decide (nameOf other = name)) = some named ↔ name = nameOf named := by
  constructor
  · intro found
    have sameName := List.find?_some found
    exact (of_decide_eq_true sameName).symm
  · rintro rfl
    cases found : all.find? fun other => decide (nameOf other = nameOf named) with
    | none => simpa using List.find?_eq_none.mp found named (complete named)
    | some other =>
      have sameName := List.find?_some found
      exact congrArg some
        (distinct other (complete other) named (complete named) (of_decide_eq_true sameName))

theorem Meal.ofName?_eq_some_iff {name : String} {meal : Meal} :
    ofName? name = some meal ↔ name = meal.name :=
  find?_name_eq_some_iff (fun meal => by cases meal <;> decide) (by decide)

theorem ScheduleKind.ofName?_eq_some_iff {name : String} {kind : ScheduleKind} :
    ofName? name = some kind ↔ name = kind.name :=
  find?_name_eq_some_iff (fun kind => by cases kind <;> decide) (by decide)

namespace Validation

variable {Value First Second : Type}

/-! ### When pieces pass -/

@[simp] theorem reject_ne_ok (cause : Cause) (value : Value) :
    (reject cause : Checked Value) ≠ .ok value := nofun

@[simp] theorem within_eq_ok_iff {step : Step} {checked : Checked Value} {value : Value} :
    within step checked = .ok value ↔ checked = .ok value := by
  cases checked <;> simp [within]

@[simp] theorem both_eq_ok_iff {first : Checked First} {second : Checked Second}
    {values : First × Second} :
    both first second = .ok values ↔ first = .ok values.1 ∧ second = .ok values.2 := by
  cases first <;> cases second <;> simp [both, Prod.ext_iff]

@[simp] theorem map_eq_ok_iff {checked : Checked First} {make : First → Second} {value : Second} :
    checked.map make = .ok value ↔ ∃ given, checked = .ok given ∧ make given = value := by
  cases checked <;> simp [Except.map]

/-- A check that goes on from another one passes when both do. -/
theorem bind_eq_ok_iff {checked : Checked First} {next : First → Checked Second} {value : Second} :
    (checked >>= next) = .ok value ↔ ∃ given, checked = .ok given ∧ next given = .ok value := by
  cases checked <;> simp [bind, Except.bind]

theorem eachFrom_eq_ok_iff {check : Json → Checked Value} {index : Nat} {items : List Json}
    {values : List Value} :
    eachFrom check index items = .ok values ↔
      List.Forall₂ (fun item value => check item = .ok value) items values := by
  induction items generalizing index values with
  | nil => simp [eachFrom, eq_comm]
  | cons item rest inductionHypothesis =>
    simp only [eachFrom, map_eq_ok_iff, both_eq_ok_iff, within_eq_ok_iff, inductionHypothesis,
      List.forall₂_cons_left_iff]
    constructor
    · rintro ⟨⟨value, others⟩, ⟨isValue, areOthers⟩, rfl⟩
      exact ⟨value, others, isValue, areOthers, rfl⟩
    · rintro ⟨value, others, isValue, areOthers, rfl⟩
      exact ⟨(value, others), ⟨isValue, areOthers⟩, rfl⟩

/-- A list passes when each of its items does. -/
theorem each_eq_ok_iff {check : Json → Checked Value} {items : List Json} {values : List Value} :
    each check items = .ok values ↔
      List.Forall₂ (fun item value => check item = .ok value) items values :=
  eachFrom_eq_ok_iff

/-- A field that must be there passes when it is there and its value does. -/
theorem required_eq_ok_iff {name : String} {check : Json → Checked Value}
    {fields : List (String × Json)} {value : Value} :
    required name check fields = .ok value ↔
      ∃ given, Json.fieldOf? name fields = some given ∧ check given = .ok value := by
  cases found : Json.fieldOf? name fields <;> simp [required, found]

/-- A field that may be missing passes when it is missing or its value passes. -/
theorem optional_eq_ok_iff {name : String} {default : Value} {check : Json → Checked Value}
    {fields : List (String × Json)} {value : Value} :
    optional name default check fields = .ok value ↔
      (Json.fieldOf? name fields = none ∧ value = default) ∨
        ∃ given, Json.fieldOf? name fields = some given ∧ check given = .ok value := by
  cases found : Json.fieldOf? name fields with
  | none => simp [optional, found, eq_comm]
  | some given => simp [optional, found]

/-- Only a record passes, and it passes by its fields. -/
theorem record_eq_ok_iff {model : String} {check : List (String × Json) → Checked Value}
    {given : Json} {value : Value} :
    record model check given = .ok value ↔
      ∃ fields, given = .object fields ∧ check fields = .ok value := by
  cases given <;> simp [record]

/-! ### When values without parts pass -/

theorem minuteOfDay_eq_ok_iff {given : Json}
    {minute : { minute : Nat // minute ≤ lastMinuteOfDay }} :
    minuteOfDay given = .ok minute ↔ integer given = .ok (minute.val : Int) := by
  have bound := minute.property
  rw [minuteOfDay, bind_eq_ok_iff]
  constructor
  · rintro ⟨number, isNumber, passes⟩
    split at passes
    · cases passes
    · next notNegative =>
      split at passes
      · cases passes
      · obtain rfl := Except.ok.inj passes
        rw [isNumber, Int.toNat_of_nonneg (Int.not_lt.mp notNegative)]
  · intro isNumber
    refine ⟨_, isNumber, ?_⟩
    rw [dif_neg (by omega), dif_neg (by omega)]
    simp

/-- A weekday is given by its number. -/
theorem weekday_eq_ok_iff {given : Json} {day : Weekday} :
    weekday given = .ok day ↔ integer given = .ok (day.index : Int) := by
  constructor
  · intro passes
    rw [weekday] at passes
    split at passes
    · cases passes
    · next number isNumber =>
      split at passes
      · split at passes
        · next found =>
          obtain rfl := Except.ok.inj passes
          rw [isNumber, Weekday.ofNumber?_eq_some_iff.mp found]
        · cases passes
      · cases passes
  · intro isNumber
    have small := day.index_lt_seven
    have low : -wordLimit ≤ (day.index : Int) := by
      unfold wordLimit
      omega
    have high : (day.index : Int) < wordLimit := by
      unfold wordLimit
      omega
    have fits : fitsWord day.index = true := by simp [fitsWord, low, high]
    simp only [weekday, isNumber, fits, Weekday.ofNumber?_index]
    rfl

/-- A meal is given by its name. -/
theorem meal_eq_ok_iff {given : Json} {value : Meal} :
    meal given = .ok value ↔ given = .string value.name := by
  constructor
  · intro passes
    unfold meal at passes
    split at passes
    · split at passes
      · next found =>
        obtain rfl := Except.ok.inj passes
        rw [Meal.ofName?_eq_some_iff.mp found]
      · cases passes
    · cases passes
  · rintro rfl
    cases value <;> rfl

/-! ### Checks that do not pass -/

/-- A check that does not pass has problems to name. -/
def Explains (checked : Checked Value) : Prop :=
  checked ≠ .error []

theorem explains_error_iff {problems : List Problem} :
    Explains (.error problems : Checked Value) ↔ problems ≠ [] := by
  simp [Explains]

theorem Explains.ok (value : Value) : Explains (.ok value : Checked Value) := nofun

theorem Explains.reject (cause : Cause) : Explains (reject cause : Checked Value) := nofun

theorem Explains.within {checked : Checked Value} (explains : Explains checked) (step : Step) :
    Explains (within step checked) := by
  cases checked with
  | ok value => exact .ok value
  | error problems =>
    refine explains_error_iff.mpr fun none => explains_error_iff.mp explains ?_
    exact List.map_eq_nil_iff.mp none

theorem Explains.both {first : Checked First} {second : Checked Second} (one : Explains first)
    (other : Explains second) : Explains (both first second) := by
  cases first with
  | ok value =>
    cases second with
    | ok next => exact .ok (value, next)
    | error problems => exact explains_error_iff.mpr (explains_error_iff.mp other)
  | error problems =>
    have some := explains_error_iff.mp one
    cases second with
    | ok next => exact explains_error_iff.mpr some
    | error others => exact explains_error_iff.mpr (List.append_ne_nil_of_left_ne_nil some others)

theorem Explains.map {checked : Checked First} (explains : Explains checked)
    (make : First → Second) : Explains (checked.map make) := by
  cases checked with
  | ok value => exact .ok (make value)
  | error problems => exact explains_error_iff.mpr (explains_error_iff.mp explains)

theorem Explains.bind {checked : Checked First} (explains : Explains checked)
    {next : First → Checked Second} (onward : ∀ value, Explains (next value)) :
    Explains (checked >>= next) := by
  cases checked with
  | ok value => exact onward value
  | error problems => exact explains_error_iff.mpr (explains_error_iff.mp explains)

theorem Explains.each {check : Json → Checked Value} (explains : ∀ item, Explains (check item))
    (items : List Json) : Explains (each check items) := by
  have from_index (index : Nat) : Explains (eachFrom check index items) := by
    induction items generalizing index with
    | nil => exact .ok []
    | cons item rest inductionHypothesis =>
      exact (((explains item).within _).both (inductionHypothesis _)).map _
  exact from_index 0

theorem Explains.required {check : Json → Checked Value}
    (explains : ∀ given, Explains (check given)) (name : String)
    (fields : List (String × Json)) : Explains (required name check fields) := by
  refine Explains.within ?_ _
  split
  · exact explains _
  · exact .reject _

theorem Explains.optional {check : Json → Checked Value}
    (explains : ∀ given, Explains (check given)) (name : String) (default : Value)
    (fields : List (String × Json)) : Explains (optional name default check fields) := by
  unfold Validation.optional
  split
  · exact (explains _).within _
  · exact .ok default

theorem Explains.record {check : List (String × Json) → Checked Value}
    (explains : ∀ fields, Explains (check fields)) (model : String) (given : Json) :
    Explains (record model check given) := by
  unfold Validation.record
  split
  · exact explains _
  · exact .reject _

theorem explains_integer (given : Json) : Explains (integer given) := by
  unfold integer
  split
  · exact .ok _
  · exact .ok _
  · unfold integerOfDouble
    repeat' split
    all_goals first | exact .ok _ | exact .reject _
  · repeat' split
    all_goals first | exact .ok _ | exact .reject _
  · exact .reject _

end Validation

end OpeningHours
