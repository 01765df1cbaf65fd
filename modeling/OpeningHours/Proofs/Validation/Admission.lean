import Mathlib.Data.Set.List
import OpeningHours.Proofs.Status.Judging
import OpeningHours.Proofs.Validation.Checks
import OpeningHours.Validation.Written

/-
The check of schedules admits exactly those that are well formed. A value that is given may spell a
draft of a schedule: it has a tag and the parts that go with it, and its numbers are whole numbers
of any size and sign. Nothing else is known of a draft. Whether it is well formed is told by bounds
on its numbers alone, and the check passes just the values that spell a well-formed draft, with the
schedule that has the numbers of the draft; of every other value it names the problems. What is
written down spells itself, so a schedule that has passed passes again as it is.
-/

namespace OpeningHours.Validation

/-! ### Drafts -/

/-- A schedule as it is spelled out, before anything is known of its numbers. -/
inductive Draft where
  | roundTheClock
  | closed
  | meals (times : List (Meal × Int))
  | window (opening closing : Int) (days : List Int)
  | dayOnly (days : List Int)
  | unrecognized

namespace Draft

/-- The number is a minute of the day. -/
def IsMinute (number : Int) : Prop :=
  0 ≤ number ∧ number ≤ 1439

/-- The numbers are those of weekdays, and there is at least one. -/
def AreWeekdays (numbers : List Int) : Prop :=
  numbers ≠ [] ∧ ∀ number ∈ numbers, 0 ≤ number ∧ number ≤ 6

/-- The numbers of the draft keep their bounds. -/
def WellFormed : Draft → Prop
  | meals times => ∀ time ∈ times, IsMinute time.2
  | window opening closing days =>
    0 ≤ opening ∧ opening < closing ∧ closing ≤ 1439 ∧ AreWeekdays days
  | dayOnly days => AreWeekdays days
  | roundTheClock | closed | unrecognized => True

/-- The days are those that the numbers stand for. -/
def CountDays (numbers : List Int) (days : DaySet) : Prop :=
  ∀ day : Weekday, day ∈ days ↔ (day.index : Int) ∈ numbers

/-- The schedule has the kind and the numbers of the draft. -/
inductive Describes : Draft → Schedule → Prop
  | roundTheClock : Describes roundTheClock .roundTheClock
  | closed : Describes closed .closed
  | unrecognized : Describes unrecognized .unrecognized
  | meals (times : List MealTime) :
      Describes (meals (times.map fun time => (time.meal, (time.minute : Int)))) (.meals times)
  | window {numbers : List Int} (hours : TimeWindow) {days : Applicability}
      (counts : CountDays numbers days.days) :
      Describes (window hours.opening hours.closing numbers) (.window hours days)
  | dayOnly {numbers : List Int} {days : Applicability} (counts : CountDays numbers days.days) :
      Describes (dayOnly numbers) (.dayOnly days)

end Draft

/-! ### Values that spell drafts -/

/-- The field is there and is a whole number. -/
def GivesNumber (fields : List (String × Json)) (name : String) (number : Int) : Prop :=
  ∃ given, Json.fieldOf? name fields = some given ∧ integer given = .ok number

/-- The field is there and is a record with these fields. -/
def GivesRecord (fields : List (String × Json)) (name : String) (inner : List (String × Json)) :
    Prop :=
  Json.fieldOf? name fields = some (.object inner)

/-- The field is there and is a list with these items. -/
def GivesList (fields : List (String × Json)) (name : String) (items : List Json) : Prop :=
  Json.fieldOf? name fields = some (.array items)

/-- The value is the record of a meal and a number. -/
def GivesMeal (given : Json) (time : Meal × Int) : Prop :=
  ∃ fields, given = .object fields ∧ Json.fieldOf? "meal" fields = some (.string time.1.name) ∧
    GivesNumber fields "minute_of_day" time.2

/-- The field of the days on which a listing applies holds a list of numbers. -/
def GivesDays (fields : List (String × Json)) (numbers : List Int) : Prop :=
  ∃ inner items, GivesRecord fields "applicability" inner ∧ GivesList inner "days" items ∧
    List.Forall₂ (fun item number => integer item = .ok number) items numbers

/-- The value is tagged with a kind of schedule and spells a draft of that kind. -/
inductive Spells : Json → Draft → Prop
  | roundTheClock {fields : List (String × Json)}
      (tagged : Json.fieldOf? "kind" fields = some (.string "twenty_four_seven")) :
      Spells (.object fields) .roundTheClock
  | closed {fields : List (String × Json)}
      (tagged : Json.fieldOf? "kind" fields = some (.string "explicitly_closed")) :
      Spells (.object fields) .closed
  | mealsMissing {fields : List (String × Json)}
      (tagged : Json.fieldOf? "kind" fields = some (.string "meal_schedule"))
      (missing : Json.fieldOf? "meals" fields = none) : Spells (.object fields) (.meals [])
  | meals {fields : List (String × Json)} {items : List Json} {times : List (Meal × Int)}
      (tagged : Json.fieldOf? "kind" fields = some (.string "meal_schedule"))
      (given : GivesList fields "meals" items) (each : List.Forall₂ GivesMeal items times) :
      Spells (.object fields) (.meals times)
  | window {fields inner : List (String × Json)} {opening closing : Int} {days : List Int}
      (tagged : Json.fieldOf? "kind" fields = some (.string "window"))
      (given : GivesRecord fields "window" inner) (opens : GivesNumber inner "open_minutes" opening)
      (closes : GivesNumber inner "close_minutes" closing) (applies : GivesDays fields days) :
      Spells (.object fields) (.window opening closing days)
  | dayOnly {fields : List (String × Json)} {days : List Int}
      (tagged : Json.fieldOf? "kind" fields = some (.string "day_only"))
      (applies : GivesDays fields days) : Spells (.object fields) (.dayOnly days)
  | unrecognized {fields : List (String × Json)}
      (tagged : Json.fieldOf? "kind" fields = some (.string "unrecognized")) :
      Spells (.object fields) .unrecognized

/-! ### The record of a draft -/

/-- The days on which a draft applies, as a field. -/
def daysField (days : List Int) : String × Json :=
  ("applicability", .object [("days", .array (days.map .int))])

/-- The fields of a draft beside its tag. -/
def Draft.parts : Draft → List (String × Json)
  | .meals times =>
    [("meals", .array (times.map fun time =>
      .object [("meal", .string time.1.name), ("minute_of_day", .int time.2)]))]
  | .window opening closing days =>
    [("window", .object [("open_minutes", .int opening), ("close_minutes", .int closing)]),
     daysField days]
  | .dayOnly days => [daysField days]
  | .roundTheClock | .closed | .unrecognized => []

def Draft.kind : Draft → String
  | .roundTheClock => "twenty_four_seven"
  | .closed => "explicitly_closed"
  | .meals _ => "meal_schedule"
  | .window _ _ _ => "window"
  | .dayOnly _ => "day_only"
  | .unrecognized => "unrecognized"

/-- A draft written down, with its numbers as they are. -/
def Draft.record (draft : Draft) : Json :=
  .object (("kind", .string draft.kind) :: draft.parts)

/-! ### What the checks of the parts pass -/

/-- Numbers of weekdays are those of a list of weekdays. -/
theorem exists_weekdays {numbers : List Int}
    (bounded : ∀ number ∈ numbers, 0 ≤ number ∧ number ≤ 6) :
    ∃ days : List Weekday, numbers = days.map fun day => (day.index : Int) := by
  have ranged : numbers ∈ Set.range (List.map fun day : Weekday => (day.index : Int)) := by
    rw [Set.range_list_map]
    intro number member
    have bounds := bounded number member
    refine ⟨Weekday.ofIndex number.toNat, ?_⟩
    dsimp only
    rw [Weekday.index_ofIndex]
    omega
  exact ranged.imp fun _ => Eq.symm

theorem countDays_ofList (days : List Weekday) :
    Draft.CountDays (days.map fun day => (day.index : Int)) (.ofList days) := by
  intro day
  rw [DaySet.mem_ofList, List.mem_map]
  constructor
  · exact fun member => ⟨day, member, rfl⟩
  · rintro ⟨other, member, equal⟩
    rwa [← Weekday.index_injective (Int.natCast_inj.mp equal)]

theorem Draft.CountDays.eq {numbers : List Int} {first second : DaySet}
    (one : CountDays numbers first) (other : CountDays numbers second) : first = second :=
  DaySet.ext_mem fun day => (one day).trans (other day).symm

theorem daySet_eq_ok_iff {given : Json} {days : DaySet} :
    daySet given = .ok days ↔
      ∃ items numbers, given = .array items ∧
        List.Forall₂ (fun item number => integer item = .ok number) items numbers ∧
        (∀ number ∈ numbers, 0 ≤ number ∧ number ≤ 6) ∧ Draft.CountDays numbers days := by
  constructor
  · intro passes
    unfold daySet at passes
    split at passes
    · next items =>
      obtain ⟨found, each, rfl⟩ := map_eq_ok_iff.mp passes
      refine ⟨items, _, rfl, ?_, ?_, countDays_ofList found⟩
      · rw [List.forall₂_map_right_iff]
        exact (each_eq_ok_iff.mp each).imp fun _ _ => weekday_eq_ok_iff.mp
      · rintro number member
        obtain ⟨day, -, rfl⟩ := List.mem_map.mp member
        have small := day.index_lt_seven
        omega
    · cases passes
  · rintro ⟨items, numbers, rfl, whole, bounded, counts⟩
    obtain ⟨found, rfl⟩ := exists_weekdays bounded
    rw [List.forall₂_map_right_iff] at whole
    have each : each weekday items = .ok found :=
      each_eq_ok_iff.mpr (whole.imp fun _ _ => weekday_eq_ok_iff.mpr)
    rw [(countDays_ofList found).eq counts |>.symm]
    exact map_eq_ok_iff.mpr ⟨found, each, rfl⟩

/-- There is a day where there is a number of one. -/
theorem Draft.CountDays.exists_mem_iff {numbers : List Int} {days : DaySet}
    (bounded : ∀ number ∈ numbers, 0 ≤ number ∧ number ≤ 6) (counts : CountDays numbers days) :
    (∃ day, day ∈ days) ↔ numbers ≠ [] := by
  obtain ⟨found, rfl⟩ := exists_weekdays bounded
  constructor
  · rintro ⟨day, member⟩ none
    have counted := (counts day).mp member
    rw [none] at counted
    cases counted
  · intro some
    obtain ⟨number, member⟩ := List.exists_mem_of_ne_nil _ some
    obtain ⟨day, -, rfl⟩ := List.mem_map.mp member
    exact ⟨day, (counts day).mpr member⟩

theorem givesDays_iff {fields : List (String × Json)} {days : Applicability} :
    required "applicability" applicability fields = .ok days ↔
      ∃ numbers, GivesDays fields numbers ∧ Draft.AreWeekdays numbers ∧
        Draft.CountDays numbers days.days := by
  have applicability_eq_ok_iff {given : Json} :
      applicability given = .ok days ↔
        ∃ inner, given = .object inner ∧ required "days" daySet inner = .ok days.days := by
    rw [applicability, record_eq_ok_iff]
    refine exists_congr fun inner => and_congr_right fun _ => ?_
    rw [bind_eq_ok_iff]
    constructor
    · rintro ⟨found, isFound, passes⟩
      split at passes
      · next made =>
        obtain rfl := Except.ok.inj passes
        rwa [Applicability.ofDays?_eq_some_iff.mp made]
      · cases passes
    · intro isFound
      refine ⟨days.days, isFound, ?_⟩
      rw [Applicability.ofDays?_days]
  simp only [required_eq_ok_iff, applicability_eq_ok_iff, daySet_eq_ok_iff]
  constructor
  · rintro ⟨_, given, inner, rfl, _, list, items, numbers, rfl, whole, bounded, counts⟩
    have some := (counts.exists_mem_iff bounded).mp days.nonempty
    exact ⟨numbers, ⟨inner, items, given, list, whole⟩, ⟨some, bounded⟩, counts⟩
  · rintro ⟨numbers, ⟨inner, items, given, list, whole⟩, ⟨-, bounded⟩, counts⟩
    exact ⟨_, given, inner, rfl, _, list, items, numbers, rfl, whole, bounded, counts⟩

theorem required_minuteOfDay_eq_ok_iff {name : String} {fields : List (String × Json)}
    {minute : { minute : Nat // minute ≤ lastMinuteOfDay }} :
    required name minuteOfDay fields = .ok minute ↔ GivesNumber fields name minute.val := by
  simp only [required_eq_ok_iff, minuteOfDay_eq_ok_iff, GivesNumber]

/-- A window passes with the minutes that its fields give. -/
theorem timeWindow_eq_ok_iff {given : Json} {hours : TimeWindow} :
    timeWindow given = .ok hours ↔
      ∃ inner, given = .object inner ∧ GivesNumber inner "open_minutes" hours.opening ∧
        GivesNumber inner "close_minutes" hours.closing := by
  rw [timeWindow, record_eq_ok_iff]
  refine exists_congr fun inner => and_congr_right fun _ => ?_
  simp only [bind_eq_ok_iff, both_eq_ok_iff, required_minuteOfDay_eq_ok_iff]
  constructor
  · rintro ⟨⟨opening, closing⟩, ⟨opens, closes⟩, passes⟩
    split at passes
    · obtain rfl := Except.ok.inj passes
      exact ⟨opens, closes⟩
    · cases passes
  · rintro ⟨opens, closes⟩
    have ordered := hours.opening_lt_closing
    have bound := Nat.le_trans (Nat.le_of_lt ordered) hours.closing_le
    refine ⟨⟨⟨hours.opening, bound⟩, ⟨hours.closing, hours.closing_le⟩⟩, ⟨opens, closes⟩, ?_⟩
    exact dif_pos ordered

theorem mealTime_eq_ok_iff {given : Json} {time : MealTime} :
    mealTime given = .ok time ↔ GivesMeal given (time.meal, (time.minute : Int)) := by
  rw [mealTime, record_eq_ok_iff, GivesMeal]
  refine exists_congr fun fields => and_congr_right fun _ => ?_
  simp only [map_eq_ok_iff, both_eq_ok_iff, required_eq_ok_iff, minuteOfDay_eq_ok_iff,
    meal_eq_ok_iff, GivesNumber]
  constructor
  · rintro ⟨⟨meal, minute⟩, ⟨⟨_, named, rfl⟩, served⟩, rfl⟩
    exact ⟨named, served⟩
  · rintro ⟨named, served⟩
    exact ⟨⟨time.meal, time.minute, time.minute_le⟩, ⟨⟨_, named, rfl⟩, served⟩, rfl⟩

theorem mealTimes_eq_ok_iff {given : Json} {times : List MealTime} :
    mealTimes given = .ok times ↔
      ∃ items, given = .array items ∧
        List.Forall₂ GivesMeal items (times.map fun time => (time.meal, (time.minute : Int))) := by
  simp only [List.forall₂_map_right_iff, ← mealTime_eq_ok_iff]
  constructor
  · intro passes
    unfold mealTimes at passes
    split at passes
    · next items => exact ⟨items, rfl, each_eq_ok_iff.mp passes⟩
    · cases passes
  · rintro ⟨items, rfl, each⟩
    exact each_eq_ok_iff.mpr each

/-! ### What the check of schedules passes -/

/-- Meals at minutes of the day are those of a list of meal times. -/
theorem exists_mealTimes {times : List (Meal × Int)}
    (bounded : ∀ time ∈ times, Draft.IsMinute time.2) :
    ∃ made : List MealTime, times = made.map fun time => (time.meal, (time.minute : Int)) := by
  have ranged :
      times ∈ Set.range (List.map fun time : MealTime => (time.meal, (time.minute : Int))) := by
    rw [Set.range_list_map]
    intro time member
    obtain ⟨low, high⟩ := bounded time member
    have bound : time.2.toNat ≤ lastMinuteOfDay := by
      rw [lastMinuteOfDay]
      omega
    exact ⟨⟨time.1, time.2.toNat, bound⟩, Prod.ext rfl (Int.toNat_of_nonneg low)⟩
  exact ranged.imp fun _ => Eq.symm

theorem exists_applicability {numbers : List Int} (bounded : Draft.AreWeekdays numbers) :
    ∃ days : Applicability, Draft.CountDays numbers days.days := by
  obtain ⟨found, rfl⟩ := exists_weekdays bounded.2
  have counts := countDays_ofList found
  exact ⟨⟨.ofList found, (counts.exists_mem_iff bounded.2).mpr bounded.1⟩, counts⟩

/-- A well-formed draft describes a schedule. -/
theorem Draft.WellFormed.exists_schedule {draft : Draft} (wellFormed : draft.WellFormed) :
    ∃ result, draft.Describes result := by
  cases draft with
  | roundTheClock => exact ⟨_, .roundTheClock⟩
  | closed => exact ⟨_, .closed⟩
  | unrecognized => exact ⟨_, .unrecognized⟩
  | meals times =>
    obtain ⟨made, rfl⟩ := exists_mealTimes wellFormed
    exact ⟨_, .meals made⟩
  | window opening closing numbers =>
    obtain ⟨low, ordered, high, weekdays⟩ := wellFormed
    obtain ⟨days, counts⟩ := exists_applicability weekdays
    lift opening to Nat using low
    lift closing to Nat using by omega
    have bound : closing ≤ lastMinuteOfDay := by
      rw [lastMinuteOfDay]
      omega
    exact ⟨_, .window ⟨opening, closing, Int.ofNat_lt.mp ordered, bound⟩ counts⟩
  | dayOnly numbers =>
    obtain ⟨days, counts⟩ := exists_applicability wellFormed
    exact ⟨_, .dayOnly counts⟩

theorem Draft.isMinute (time : MealTime) : IsMinute time.minute := by
  have bound := time.minute_le
  rw [lastMinuteOfDay] at bound
  exact ⟨Int.natCast_nonneg _, by omega⟩

theorem schedule_eq_ok_iff_tagged {given : Json} {result : Schedule} :
    schedule given = .ok result ↔
      ∃ fields kind, given = .object fields ∧
        Json.fieldOf? "kind" fields = some (.string (ScheduleKind.name kind)) ∧
        scheduleOfKind kind fields = .ok result := by
  have tag_iff {tag : Json} {kind : ScheduleKind} :
      tag.string?.bind ScheduleKind.ofName? = some kind ↔ tag = .string kind.name := by
    cases tag <;> simp [Json.string?, ScheduleKind.ofName?_eq_some_iff]
  constructor
  · intro passes
    unfold schedule at passes
    split at passes
    · next fields =>
      split at passes
      · cases passes
      · next tag tagged =>
        split at passes
        · next kind known =>
          rw [tag_iff.mp known] at tagged
          exact ⟨fields, kind, rfl, tagged, within_eq_ok_iff.mp passes⟩
        · cases passes
    · cases passes
  · rintro ⟨fields, kind, rfl, tagged, passes⟩
    simp only [schedule, tagged, tag_iff.mpr rfl, within_eq_ok_iff, passes]

/-- What passes spells a draft that is well formed. -/
theorem exists_draft_of_schedule {given : Json} {result : Schedule}
    (passes : schedule given = .ok result) :
    ∃ draft, Spells given draft ∧ draft.WellFormed ∧ draft.Describes result := by
  obtain ⟨fields, kind, rfl, tagged, passes⟩ := schedule_eq_ok_iff_tagged.mp passes
  cases kind with
  | roundTheClock =>
    obtain rfl := Except.ok.inj passes
    exact ⟨_, .roundTheClock tagged, trivial, .roundTheClock⟩
  | closed =>
    obtain rfl := Except.ok.inj passes
    exact ⟨_, .closed tagged, trivial, .closed⟩
  | unrecognized =>
    obtain rfl := Except.ok.inj passes
    exact ⟨_, .unrecognized tagged, trivial, .unrecognized⟩
  | meals =>
    obtain ⟨times, listed, rfl⟩ := map_eq_ok_iff.mp passes
    obtain ⟨missing, rfl⟩ | ⟨given, there, served⟩ := optional_eq_ok_iff.mp listed
    · exact ⟨_, .mealsMissing tagged missing, nofun, .meals []⟩
    · obtain ⟨items, rfl, each⟩ := mealTimes_eq_ok_iff.mp served
      refine ⟨_, .meals tagged there each, ?_, .meals times⟩
      rintro _ member
      obtain ⟨time, -, rfl⟩ := List.mem_map.mp member
      exact Draft.isMinute time
  | window =>
    obtain ⟨⟨hours, days⟩, parts, rfl⟩ := map_eq_ok_iff.mp passes
    obtain ⟨isWindow, applies⟩ := both_eq_ok_iff.mp parts
    obtain ⟨_, there, isWindow⟩ := required_eq_ok_iff.mp isWindow
    obtain ⟨inner, rfl, opens, closes⟩ := timeWindow_eq_ok_iff.mp isWindow
    obtain ⟨numbers, given, weekdays, counts⟩ := givesDays_iff.mp applies
    have ordered := hours.opening_lt_closing
    have bound := hours.closing_le
    have high : (hours.closing : Int) ≤ 1439 := by
      rw [lastMinuteOfDay] at bound
      omega
    exact ⟨_, .window tagged there opens closes given,
      ⟨Int.natCast_nonneg _, Int.ofNat_lt.mpr ordered, high, weekdays⟩, .window hours counts⟩
  | dayOnly =>
    obtain ⟨days, applies, rfl⟩ := map_eq_ok_iff.mp passes
    obtain ⟨numbers, given, weekdays, counts⟩ := givesDays_iff.mp applies
    exact ⟨_, .dayOnly tagged given, weekdays, .dayOnly counts⟩

/-- What spells a well-formed draft passes. -/
theorem schedule_of_spells {given : Json} {draft : Draft} {result : Schedule}
    (spells : Spells given draft) (wellFormed : draft.WellFormed)
    (describes : draft.Describes result) : schedule given = .ok result := by
  rw [schedule_eq_ok_iff_tagged]
  cases spells with
  | roundTheClock tagged =>
    cases describes
    exact ⟨_, .roundTheClock, rfl, tagged, rfl⟩
  | closed tagged =>
    cases describes
    exact ⟨_, .closed, rfl, tagged, rfl⟩
  | unrecognized tagged =>
    cases describes
    exact ⟨_, .unrecognized, rfl, tagged, rfl⟩
  | mealsMissing tagged missing =>
    generalize none : ([] : List (Meal × Int)) = times at describes
    cases describes with
    | meals made =>
      obtain rfl := List.map_eq_nil_iff.mp none.symm
      exact ⟨_, .meals, rfl, tagged,
        map_eq_ok_iff.mpr ⟨[], optional_eq_ok_iff.mpr (.inl ⟨missing, rfl⟩), rfl⟩⟩
  | meals tagged there each =>
    cases describes with
    | meals made =>
      have served := mealTimes_eq_ok_iff.mpr ⟨_, rfl, each⟩
      exact ⟨_, .meals, rfl, tagged,
        map_eq_ok_iff.mpr ⟨made, optional_eq_ok_iff.mpr (.inr ⟨_, there, served⟩), rfl⟩⟩
  | window tagged there opens closes given =>
    cases describes with
    | window hours counts =>
      obtain ⟨-, -, -, weekdays⟩ := wellFormed
      have isWindow := timeWindow_eq_ok_iff.mpr ⟨_, rfl, opens, closes⟩
      have applies := givesDays_iff.mpr ⟨_, given, weekdays, counts⟩
      exact ⟨_, .window, rfl, tagged, map_eq_ok_iff.mpr ⟨(hours, _),
        both_eq_ok_iff.mpr ⟨required_eq_ok_iff.mpr ⟨_, there, isWindow⟩, applies⟩, rfl⟩⟩
  | dayOnly tagged given =>
    cases describes with
    | dayOnly counts =>
      have applies := givesDays_iff.mpr ⟨_, given, wellFormed, counts⟩
      exact ⟨_, .dayOnly, rfl, tagged, map_eq_ok_iff.mpr ⟨_, applies, rfl⟩⟩

/-- A draft that is written down is spelled by its record. -/
theorem spells_record (draft : Draft) : Spells draft.record draft := by
  have days (numbers : List Int) (kind : String) (front : List (String × Json)) :
      GivesDays (("kind", .string kind) :: front ++ [daysField numbers]) numbers := by
    refine ⟨[("days", .array (numbers.map .int))], numbers.map .int, ?_, rfl, ?_⟩
    · simp [GivesRecord, Json.fieldOf?, daysField]
    · rw [List.forall₂_map_left_iff]
      exact List.forall₂_same.mpr fun _ _ => rfl
  cases draft with
  | roundTheClock => exact .roundTheClock rfl
  | closed => exact .closed rfl
  | unrecognized => exact .unrecognized rfl
  | meals times =>
    refine @Spells.meals _ (times.map _) _ rfl rfl ?_
    rw [List.forall₂_map_left_iff]
    exact List.forall₂_same.mpr fun time _ => ⟨_, rfl, rfl, .int time.2, rfl, rfl⟩
  | window opening closing numbers =>
    exact .window rfl rfl ⟨.int opening, rfl, rfl⟩ ⟨.int closing, rfl, rfl⟩ (days numbers _ [_])
  | dayOnly numbers => exact .dayOnly rfl (days numbers _ [])

/-! ### What the check of schedules refuses -/

theorem explains_minuteOfDay (given : Json) : Explains (minuteOfDay given) := by
  refine (explains_integer given).bind fun number => ?_
  repeat' split
  all_goals first | exact .ok _ | exact .reject _

theorem explains_weekday (given : Json) : Explains (weekday given) := by
  unfold weekday
  repeat' split
  all_goals first | exact .ok _ | exact .reject _

theorem explains_meal (given : Json) : Explains (meal given) := by
  unfold meal
  repeat' split
  all_goals first | exact .ok _ | exact .reject _

theorem explains_timeWindow (given : Json) : Explains (timeWindow given) := by
  refine .record (fun inner => ?_) _ given
  have sides := (Explains.required explains_minuteOfDay "open_minutes" inner).both
    (.required explains_minuteOfDay "close_minutes" inner)
  refine sides.bind fun minutes => ?_
  dsimp only
  split
  · exact .ok _
  · exact .reject _

theorem explains_daySet (given : Json) : Explains (daySet given) := by
  unfold daySet
  split
  · exact (Explains.each explains_weekday _).map _
  · exact .reject _

theorem explains_applicability (given : Json) : Explains (applicability given) := by
  refine .record (fun inner => ?_) _ given
  refine (Explains.required explains_daySet "days" inner).bind fun days => ?_
  split
  · exact .ok _
  · exact .reject _

theorem explains_mealTimes (given : Json) : Explains (mealTimes given) := by
  have time (item : Json) : Explains (mealTime item) :=
    .record (fun fields => ((Explains.required explains_meal "meal" fields).both
      (.required explains_minuteOfDay "minute_of_day" fields)).map _) _ item
  unfold mealTimes
  split
  · exact .each time _
  · exact .reject _

theorem explains_scheduleOfKind (kind : ScheduleKind) (fields : List (String × Json)) :
    Explains (scheduleOfKind kind fields) := by
  have applies := Explains.required explains_applicability "applicability" fields
  cases kind with
  | roundTheClock | closed | unrecognized => exact .ok _
  | meals => exact (Explains.optional explains_mealTimes "meals" [] fields).map _
  | window => exact ((Explains.required explains_timeWindow "window" fields).both applies).map _
  | dayOnly => exact applies.map _

theorem explains_schedule (given : Json) : Explains (schedule given) := by
  unfold schedule
  repeat' split
  · exact .reject _
  · exact (explains_scheduleOfKind _ _).within _
  · exact .reject _
  · exact .reject _

/-! ### The check and what it admits -/

/-- The value passes as a schedule. It spells a well-formed draft of that schedule, the schedule is
judged without a fault at every time, and it is what comes of checking its own record. -/
structure Admitted (given : Json) (result : Schedule) : Prop where
  passes : schedule given = .ok result
  drafted : ∃ draft, Spells given draft ∧ draft.WellFormed ∧ draft.Describes result
  judged : ∀ now, result.judge now = .ok (result.statusAt now)
  rechecked : schedule result.record = .ok result

/-- The value does not pass, for at least one problem is named. No draft that it spells is well
formed. -/
structure Refused (given : Json) : Prop where
  names : ∃ problem others, schedule given = .error (problem :: others)
  undrafted : ∀ draft, Spells given draft → ¬ draft.WellFormed

theorem admitted_of_eq_ok {given : Json} {result : Schedule}
    (passes : schedule given = .ok result) : Admitted given result where
  passes := passes
  drafted := exists_draft_of_schedule passes
  judged := result.judge_eq_ok
  rechecked := schedule_record result

theorem refused_of_eq_error {given : Json} {problems : List Problem}
    (fails : schedule given = .error problems) : Refused given where
  names := by
    have explains := explains_schedule given
    rw [fails, explains_error_iff] at explains
    obtain ⟨problem, others, rfl⟩ := List.exists_cons_of_ne_nil explains
    exact ⟨problem, others, fails⟩
  undrafted draft spells wellFormed := by
    obtain ⟨result, describes⟩ := wellFormed.exists_schedule
    rw [schedule_of_spells spells wellFormed describes] at fails
    cases fails

/-- Every value is refused with problems or admitted as a schedule whose numbers keep their bounds,
every well-formed draft is admitted as the schedule that it describes, and what has been admitted is
admitted again as it is. -/
theorem admits_exactly_well_formed :
    (∀ given, Refused given ∨ ∃ result, Admitted given result) ∧
      (∀ draft : Draft, draft.WellFormed →
        ∃ result, schedule draft.record = .ok result ∧ draft.Describes result) ∧
      ∀ result : Schedule, schedule result.record = .ok result := by
  refine ⟨fun given => ?_, fun draft wellFormed => ?_, schedule_record⟩
  · cases checked : schedule given with
    | ok result => exact .inr ⟨result, admitted_of_eq_ok checked⟩
    | error problems => exact .inl (refused_of_eq_error checked)
  · obtain ⟨result, describes⟩ := wellFormed.exists_schedule
    exact ⟨result, schedule_of_spells (spells_record draft) wellFormed describes, describes⟩

/-- A window in the morning whose numbers are a text with zeros in front, a truth value and a text,
and in which one of the days comes twice. -/
def looseRecord : Json :=
  .object
    [("kind", .string "window"),
     ("window", .object [("open_minutes", .string "0540"), ("close_minutes", .int 720)]),
     ("applicability", .object [("days", .array [.bool true, .string "5", .int 1])])]

/-- The loose record is admitted, for it spells a draft that is well formed. -/
theorem loose_record_is_admitted :
    (Draft.window 540 720 [1, 5, 1]).WellFormed ∧
      Spells looseRecord (.window 540 720 [1, 5, 1]) ∧
      (∃ result, Admitted looseRecord result) ∧
      ∃ result, schedule (Draft.window 540 720 [1, 5, 1]).record = .ok result ∧
        (Draft.window 540 720 [1, 5, 1]).Describes result := by
  have wellFormed : (Draft.window 540 720 [1, 5, 1]).WellFormed :=
    ⟨by decide, by decide, by decide, by decide, by decide⟩
  have whole : List.Forall₂ (fun item number => integer item = .ok number)
      [.bool true, .string "5", .int 1] [1, 5, 1] :=
    .cons rfl (.cons rfl (.cons rfl .nil))
  have spells : Spells looseRecord (.window 540 720 [1, 5, 1]) :=
    .window rfl rfl ⟨_, rfl, rfl⟩ ⟨_, rfl, rfl⟩ ⟨_, _, rfl, rfl, whole⟩
  have admitted := (admits_exactly_well_formed.1 looseRecord).resolve_left
    fun refused => refused.undrafted _ spells wellFormed
  exact ⟨wellFormed, spells, admitted, admits_exactly_well_formed.2.1 _ wellFormed⟩

end OpeningHours.Validation
