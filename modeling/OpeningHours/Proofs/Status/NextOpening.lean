import OpeningHours.Proofs.Status.Openness

/-
What a closed status announces is what an independent search through the week finds. From any time
at which a window is closed, the first open minute ahead is an opening minute less than a week away,
on the same day or on the next day that applies, and the status names that wait, that day and that
time. The one exception is Friday after closing time of a listing for Monday to Friday, which speaks
of the next day although it opens on Monday only.
-/

namespace OpeningHours

namespace Schedule

variable (hours : TimeWindow) (days : Applicability) (now : CivilTime)

/-- The numbers of minutes after which a schedule is open. -/
def waitsUntilOpen (schedule : Schedule) (now : CivilTime) : Set Nat :=
  {minutes | 0 < minutes ∧ OpenStatus.isKnownOpen (schedule.statusAt (now.later minutes)) = true}

theorem mem_waitsUntilOpen_iff (minutes : Nat) :
    minutes ∈ waitsUntilOpen (.window hours days) now ↔
      0 < minutes ∧
        now.weekday.later ((now.minute + minutes) / minutesPerDay) ∈ days.days ∧
        hours.opening ≤ (now.minute + minutes) % minutesPerDay ∧
        (now.minute + minutes) % minutesPerDay < hours.closing := by
  unfold waitsUntilOpen
  rw [Set.mem_ofPred_eq, isKnownOpen_iff_covers]
  rfl

/-! ### The wait on the same day -/

theorem wait_isLeast_of_before (applies : now.weekday ∈ days.days)
    (early : now.minute < hours.opening) :
    IsLeast (waitsUntilOpen (.window hours days) now) (hours.opening - now.minute) := by
  have ordered := hours.opening_lt_closing
  have inDay := hours.closing_le
  unfold lastMinuteOfDay at inDay
  have reached : now.minute + (hours.opening - now.minute) = hours.opening := by omega
  have today : hours.opening / minutesPerDay = 0 := by
    unfold minutesPerDay
    omega
  have atOpening : hours.opening % minutesPerDay = hours.opening := by
    unfold minutesPerDay
    omega
  constructor
  · rw [mem_waitsUntilOpen_iff, reached, today, atOpening, Weekday.later_zero]
    exact ⟨by omega, applies, Nat.le_refl _, ordered⟩
  · intro minutes member
    rw [mem_waitsUntilOpen_iff] at member
    obtain ⟨_, _, opened, _⟩ := member
    have notPast := Nat.mod_le (now.minute + minutes) minutesPerDay
    omega

/-! ### The wait until a later day -/

/-- The minutes from a time on to the opening of the next day that applies. -/
def waitForNextDay : Nat :=
  days.daysUntilNext now.weekday * minutesPerDay + hours.opening - now.minute

/-- The day and the minute reached by waiting for the next day that applies. -/
theorem add_waitForNextDay :
    now.minute + waitForNextDay hours days now =
      days.daysUntilNext now.weekday * minutesPerDay + hours.opening := by
  have later := days.daysUntilNext_pos now.weekday
  have bound := now.minute_le
  unfold waitForNextDay minutesPerDay
  unfold lastMinuteOfDay at bound
  omega

theorem days_of_waitForNextDay :
    (now.minute + waitForNextDay hours days now) / minutesPerDay =
      days.daysUntilNext now.weekday := by
  have ordered := hours.opening_lt_closing
  have inDay := hours.closing_le
  rw [add_waitForNextDay]
  unfold lastMinuteOfDay at inDay
  unfold minutesPerDay
  omega

theorem minute_of_waitForNextDay :
    (now.minute + waitForNextDay hours days now) % minutesPerDay = hours.opening := by
  have ordered := hours.opening_lt_closing
  have inDay := hours.closing_le
  rw [add_waitForNextDay]
  unfold lastMinuteOfDay at inDay
  unfold minutesPerDay
  omega

/-- When nothing more comes of the present day, the first open minute is the opening of the next day
that applies: no day in between applies, and that day is closed before it opens. -/
theorem waitForNextDay_isLeast
    (ended : now.weekday ∈ days.days → hours.closing ≤ now.minute) :
    IsLeast (waitsUntilOpen (.window hours days) now) (waitForNextDay hours days now) := by
  have ordered := hours.opening_lt_closing
  have later := days.daysUntilNext_pos now.weekday
  have bound := now.minute_le
  unfold lastMinuteOfDay at bound
  constructor
  · rw [mem_waitsUntilOpen_iff, days_of_waitForNextDay, minute_of_waitForNextDay]
    refine ⟨?_, days.nextDay_mem now.weekday, Nat.le_refl _, ordered⟩
    unfold waitForNextDay minutesPerDay
    omega
  · intro minutes member
    rw [mem_waitsUntilOpen_iff] at member
    obtain ⟨_, applies, opened, notClosed⟩ := member
    by_contra! sooner
    have total := add_waitForNextDay hours days now
    have split := Nat.div_add_mod (now.minute + minutes) minutesPerDay
    generalize (now.minute + minutes) / minutesPerDay = passed at applies split
    generalize (now.minute + minutes) % minutesPerDay = minute at opened notClosed split
    unfold minutesPerDay at split total
    by_cases today : passed = 0
    · rw [today, Weekday.later_zero] at applies
      have := ended applies
      omega
    · exact days.not_mem_before_next now.weekday passed (Nat.pos_of_ne_zero today) (by omega)
        applies

/-- The wait is less than a week: a whole week on, the present day itself applies and has opened
already. -/
theorem waitForNextDay_lt_week
    (ended : now.weekday ∈ days.days → hours.closing ≤ now.minute) :
    waitForNextDay hours days now < 7 * minutesPerDay := by
  have ordered := hours.opening_lt_closing
  have inDay := hours.closing_le
  have atMost := days.daysUntilNext_le_seven now.weekday
  unfold lastMinuteOfDay at inDay
  unfold waitForNextDay minutesPerDay
  by_cases week : days.daysUntilNext now.weekday = 7
  · have := ended (days.mem_of_daysUntilNext_eq_seven now.weekday week)
    omega
  · omega

/-! ### What is announced -/

/-- The one case in which the day that is announced is not the day on which the window opens next:
a listing for Monday to Friday after closing time on Friday. -/
def FridayEvening : Prop :=
  days.days = .mondayToFriday ∧ now.weekday = .friday ∧ hours.closing ≤ now.minute

theorem days_of_kind_ne_specificDays (general : days.kind ≠ .specificDays) :
    days.days = .everyDay ∨ days.days = .mondayToFriday := by
  unfold Applicability.kind at general
  split at general
  · exact Or.inl ‹_›
  · split at general
    · exact Or.inr ‹_›
    · exact absurd rfl general

/-- Of the days of a listing for all days or for Monday to Friday, each but Friday is followed by
another. -/
theorem daysUntilNext_eq_one (general : days.kind ≠ .specificDays)
    (applies : now.weekday ∈ days.days)
    (notFriday : ¬ (days.days = .mondayToFriday ∧ now.weekday = .friday)) :
    days.daysUntilNext now.weekday = 1 := by
  have tomorrow : now.weekday.later 1 ∈ days.days := by
    rcases days_of_kind_ne_specificDays days general with all | weekdays
    · rw [all]
      exact DaySet.mem_everyDay _
    · rw [weekdays] at applies notFriday ⊢
      have earlier : now.weekday ≠ .friday := fun friday => notFriday ⟨rfl, friday⟩
      generalize now.weekday = today at applies earlier
      revert applies earlier
      cases today <;> decide
  have later := days.daysUntilNext_pos now.weekday
  by_contra further
  exact days.not_mem_before_next now.weekday 1 Nat.one_pos (by omega) tomorrow

/-- The status announces the next day that applies, by its distance and by its name, and calls it
tomorrow where the present day applies too and has just closed. -/
theorem windowStatus_announces_nextDay
    (ended : now.weekday ∈ days.days → hours.closing ≤ now.minute)
    (regular : ¬ FridayEvening hours days now) :
    windowStatus hours days now =
      { isOpen := false
        phrase := "Opens " ++ Phrases.daysUntil (days.daysUntilNext now.weekday) ++ " at " ++
          Phrases.minuteOfDay hours.opening
        untilOpen := none
        nextOpening := some
          ((if days.daysUntilNext now.weekday = 1 ∧ now.weekday ∈ days.days then "Tomorrow"
            else (days.nextDay now.weekday).name) ++ " at " ++
              Phrases.minuteOfDay hours.opening) } := by
  by_cases applies : now.weekday ∈ days.days
  · have later := days.daysUntilNext_pos now.weekday
    rw [windowStatus_after hours days now applies (ended applies)]
    by_cases further : days.kind = .specificDays ∧ 1 < days.daysUntilNext now.weekday
    · have notTomorrow : ¬ (days.daysUntilNext now.weekday = 1 ∧ now.weekday ∈ days.days) :=
        fun tomorrow => absurd tomorrow.1 (by omega)
      rw [if_pos further, if_neg notTomorrow]
      rfl
    · have tomorrow : days.daysUntilNext now.weekday = 1 := by
        by_cases specific : days.kind = .specificDays
        · exact Nat.le_antisymm (Nat.not_lt.mp fun more => further ⟨specific, more⟩) later
        · exact daysUntilNext_eq_one days now specific applies
            fun friday => regular ⟨friday.1, friday.2, ended applies⟩
      rw [if_neg further, if_pos ⟨tomorrow, applies⟩, tomorrow]
      rfl
  · rw [windowStatus_of_not_mem hours days now applies, if_neg fun both => applies both.2]
    rfl

/-- The first open minute ahead of a closed window is less than a week away and is an opening
minute, and the status names the wait, the day and the time of it, Friday evenings of a listing for
Monday to Friday apart. -/
theorem announcement_names_first_open_minute (status : OpenStatus)
    (current : (Schedule.window hours days).statusAt now = some status)
    (closed : status.isOpen = false) :
    ∃ wait : Nat,
      IsLeast (waitsUntilOpen (.window hours days) now) wait ∧
      wait < 7 * minutesPerDay ∧
      (now.later wait).minute = hours.opening ∧
      (¬ FridayEvening hours days now →
        ((now.minute + wait) / minutesPerDay = 0 →
          status.phrase = Phrases.untilOpen wait ∧
          status.untilOpen = some (Phrases.untilOpen wait) ∧
          status.nextOpening = some (Phrases.minuteOfDay hours.opening)) ∧
        (1 ≤ (now.minute + wait) / minutesPerDay →
          status.untilOpen = none ∧
          status.phrase = "Opens " ++
            Phrases.daysUntil ((now.minute + wait) / minutesPerDay : Nat) ++ " at " ++
            Phrases.minuteOfDay hours.opening ∧
          status.nextOpening = some
            ((if (now.minute + wait) / minutesPerDay = 1 ∧ now.weekday ∈ days.days then "Tomorrow"
              else (now.later wait).weekday.name) ++ " at " ++
                Phrases.minuteOfDay hours.opening))) := by
  have outside : ¬ Covers (.window hours days) now := by
    rw [← isOpen_iff_covers now _ status current, closed]
    exact Bool.false_ne_true
  rw [← Option.some_inj.mp current]
  by_cases early : now.weekday ∈ days.days ∧ now.minute < hours.opening
  · obtain ⟨applies, early⟩ := early
    have inDay := hours.closing_le
    have ordered := hours.opening_lt_closing
    unfold lastMinuteOfDay at inDay
    have reached : now.minute + (hours.opening - now.minute) = hours.opening := by omega
    refine ⟨hours.opening - now.minute, wait_isLeast_of_before hours days now applies early,
      ?_, ?_, fun _ => ⟨fun _ => ?_, fun later => ?_⟩⟩
    · unfold minutesPerDay
      omega
    · rw [CivilTime.minute_later, reached]
      unfold minutesPerDay
      omega
    · rw [windowStatus_before hours days now applies early, Int.ofNat_sub (Nat.le_of_lt early)]
      exact ⟨rfl, rfl, rfl⟩
    · rw [reached] at later
      unfold minutesPerDay at later
      omega
  · have ended : now.weekday ∈ days.days → hours.closing ≤ now.minute := by
      intro applies
      by_contra! sooner
      exact outside ⟨applies, Nat.not_lt.mp fun before => early ⟨applies, before⟩, sooner⟩
    have passed := days_of_waitForNextDay hours days now
    refine ⟨waitForNextDay hours days now, waitForNextDay_isLeast hours days now ended,
      waitForNextDay_lt_week hours days now ended, minute_of_waitForNextDay hours days now,
      fun regular => ⟨fun today => ?_, fun _ => ?_⟩⟩
    · have later := days.daysUntilNext_pos now.weekday
      omega
    · rw [windowStatus_announces_nextDay hours days now ended regular, CivilTime.weekday_later,
        passed]
      exact ⟨rfl, rfl, rfl⟩

/-- A window on Saturdays alone, looked at on a Saturday evening, opens next a week on. -/
theorem saturday_evening_announces_next_saturday :
    (Schedule.window ⟨540, 1020, by decide, by decide⟩
        ⟨.ofList [.saturday], .saturday, by decide⟩).statusAt ⟨.saturday, 1080, by decide⟩ =
      some { isOpen := false, phrase := "Opens in 7 days at 9 AM",
             nextOpening := some "Saturday at 9 AM" } ∧
    ∃ wait : Nat,
      IsLeast (waitsUntilOpen (.window ⟨540, 1020, by decide, by decide⟩
        ⟨.ofList [.saturday], .saturday, by decide⟩) ⟨.saturday, 1080, by decide⟩) wait ∧
      wait < 7 * minutesPerDay := by
  have current : (Schedule.window ⟨540, 1020, by decide, by decide⟩
        ⟨.ofList [.saturday], .saturday, by decide⟩).statusAt ⟨.saturday, 1080, by decide⟩ =
      some { isOpen := false, phrase := "Opens in 7 days at 9 AM",
             nextOpening := some "Saturday at 9 AM" } := by
    decide +kernel
  obtain ⟨wait, least, small, _⟩ := announcement_names_first_open_minute _ _ _ _ current rfl
  exact ⟨current, wait, least, small⟩

end Schedule

end OpeningHours
