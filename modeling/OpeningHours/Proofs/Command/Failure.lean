import OpeningHours.Proofs.Command.Course

/-
When a run answers and when it breaks off. A run whose zone is known breaks off if its instant has
no civil time in the zone, be it one that was asked for or the present one, and if the file is asked
for by what is no path. Every other run ends with a report, and its exit code is two exactly when
the zone is missing, the instant unusable or the file unreadable.
-/

namespace OpeningHours.Command

open Text

variable {zones : Calendar.ZoneTable} {environment : Environment} {now : Calendar.Instant}
  {files : Files} {arguments : Arguments}

/-- A run is about one instant. -/
theorem Concerns.unique {given : Option String} {first second : Calendar.Instant}
    (one : Concerns now given first) (other : Concerns now given second) : first = second := by
  cases one with
  | missing =>
    cases other
    rfl
  | empty =>
    cases other with
    | empty => rfl
    | asked nonempty => exact absurd rfl nonempty
  | asked nonempty read =>
    cases other with
    | empty => exact absurd rfl nonempty
    | asked _ reread =>
      rw [read] at reread
      rw [Except.ok.inj reread]

/-- A file asked for by no path yields no texts. -/
theorem NoPath.fileUnreadable {cause : BreakdownCause} (noPath : NoPath arguments.file cause) :
    FileUnreadable files arguments := by
  intro lines gathered
  cases asked : arguments.file with
  | absent =>
    rw [asked] at noPath
    cases noPath
  | withoutPath =>
    rw [asked] at gathered
    cases gathered
  | «at» path =>
    rw [asked] at noPath gathered
    cases noPath with
    | zeroInPath zero =>
      cases gathered with
      | lines noZero => exact absurd zero (Bool.eq_false_iff.mp noZero)

theorem FileTexts.textsAt {path : String} {lines : List String}
    (gathered : FileTexts files (.at path) lines) :
    files.textsAt (.ofText path.toList) = .ok lines := by
  cases gathered with
  | lines _ found decodes => simp only [Files.textsAt, found, decodes]

/-- The choice of a file adds one list of texts. -/
theorem FileTexts.unique {choice : FileChoice} {first second : List String}
    (one : FileTexts files choice first) (other : FileTexts files choice second) :
    first = second := by
  cases choice with
  | absent =>
    cases one
    cases other
    rfl
  | withoutPath => cases one
  | «at» path =>
    have same := other.textsAt
    rw [one.textsAt] at same
    exact Except.ok.inj same

theorem fileUnreadable_of_unread {path : String} {fault : FileFault}
    (asked : arguments.file = .at path)
    (unread : files.textsAt (.ofText path.toList) = .error fault) :
    FileUnreadable files arguments := by
  intro lines gathered
  rw [asked] at gathered
  rw [gathered.textsAt] at unread
  cases unread

theorem instantUnusable_of_malformed {offsetAt : Int → Int} {given : String}
    {fault : Calendar.Fault} (known : zones (arguments.zoneName environment) = some offsetAt)
    (asked : arguments.instant = some given) (nonempty : given ≠ "")
    (malformed : Calendar.DateTime.ofText given = .error fault) :
    InstantUnusable zones environment arguments := by
  refine ⟨offsetAt, given, known, asked, nonempty, fun moment read => ?_⟩
  rw [malformed] at read
  cases read

theorem not_zoneMissing {offsetAt : Int → Int}
    (known : zones (arguments.zoneName environment) = some offsetAt) :
    ¬ ZoneMissing zones environment arguments := by
  intro missing
  rw [ZoneMissing, known] at missing
  cases missing

namespace Settles

variable {civilTime : CivilTime}

theorem zone_known (settles : Settles zones environment now arguments civilTime) :
    ¬ ZoneMissing zones environment arguments := by
  obtain ⟨offsetAt, _, known, _⟩ := settles
  exact not_zoneMissing known

theorem instant_usable (settles : Settles zones environment now arguments civilTime) :
    ¬ InstantUnusable zones environment arguments := by
  obtain ⟨offsetAt, instant, known, concerns, civil⟩ := settles
  rintro ⟨other, given, otherKnown, asked, nonempty, unusable⟩
  rw [known] at otherKnown
  rw [asked] at concerns
  cases concerns with
  | empty => exact nonempty rfl
  | asked _ read =>
    have none := unusable _ read
    rw [← Option.some.inj otherKnown, civil] at none
    cases none

/-- A run has one civil time. -/
theorem unique {other : CivilTime} (settles : Settles zones environment now arguments civilTime)
    (again : Settles zones environment now arguments other) : civilTime = other := by
  obtain ⟨offsetAt, instant, known, concerns, civil⟩ := settles
  obtain ⟨otherOffsetAt, otherInstant, otherKnown, otherConcerns, otherCivil⟩ := again
  rw [known] at otherKnown
  rw [← Option.some.inj otherKnown, ← concerns.unique otherConcerns, civil] at otherCivil
  exact Option.some.inj otherCivil

/-- Where the civil time can be settled a run breaks off for want of a path alone. -/
theorem breaksOff_iff (settles : Settles zones environment now arguments civilTime) :
    BreaksOff zones environment now arguments ↔ ∃ cause, NoPath arguments.file cause := by
  constructor
  · rintro ⟨offsetAt, instant, known, concerns, outside | noPath⟩
    · obtain ⟨other, otherInstant, otherKnown, otherConcerns, civil⟩ := settles
      rw [known] at otherKnown
      rw [← Option.some.inj otherKnown, ← concerns.unique otherConcerns, outside] at civil
      cases civil
    · exact noPath
  · intro noPath
    obtain ⟨offsetAt, instant, known, concerns, _⟩ := settles
    exact ⟨offsetAt, instant, known, concerns, Or.inr noPath⟩

end Settles

/-- A run breaks off exactly under the condition given for it. -/
theorem run_eq_error_iff :
    (∃ breakdown, run zones environment now files arguments = .error breakdown) ↔
      BreaksOff zones environment now arguments := by
  have course := run_course zones environment now files arguments
  generalize run zones environment now files arguments = result at course
  cases course with
  | zoneMissing missing =>
    refine iff_of_false (fun broken => by simp at broken) ?_
    rintro ⟨offsetAt, _, known, _⟩
    rw [missing] at known
    cases known
  | instantMalformed known asked nonempty malformed =>
    refine iff_of_false (fun broken => by simp at broken) ?_
    rintro ⟨_, _, _, concerns, _⟩
    rw [asked] at concerns
    cases concerns with
    | empty => exact nonempty rfl
    | asked _ read =>
      rw [malformed] at read
      cases read
  | outsideCalendar known concerns outside =>
    exact iff_of_true ⟨_, rfl⟩ ⟨_, _, known, concerns, Or.inl outside⟩
  | noPath settles noPath =>
    exact iff_of_true ⟨_, rfl⟩ (settles.breaksOff_iff.mpr ⟨_, noPath⟩)
  | fileUnreadable settles asked noZero unread =>
    refine iff_of_false (fun broken => by simp at broken) fun breaksOff => ?_
    obtain ⟨_, noPath⟩ := settles.breaksOff_iff.mp breaksOff
    rw [asked] at noPath
    cases noPath with
    | zeroInPath zero => exact absurd zero (Bool.eq_false_iff.mp noZero)
  | judged settles gathered =>
    refine iff_of_false (fun broken => by simp at broken) fun breaksOff => ?_
    obtain ⟨_, noPath⟩ := settles.breaksOff_iff.mp breaksOff
    exact noPath.fileUnreadable _ gathered

/-- The exit code of a run that ends with a report. -/
theorem exitCode_of_report {report : Report}
    (ran : run zones environment now files arguments = .ok report) :
    (report.exitCode = 0 ∨ report.exitCode = 2) ∧
      (report.exitCode = 2 ↔ ZoneMissing zones environment arguments ∨
        InstantUnusable zones environment arguments ∨ FileUnreadable files arguments) := by
  have course := run_course zones environment now files arguments
  rw [ran] at course
  cases course with
  | zoneMissing missing => exact ⟨Or.inr rfl, iff_of_true rfl (Or.inl missing)⟩
  | instantMalformed known asked nonempty malformed =>
    have unusable := instantUnusable_of_malformed known asked nonempty malformed
    exact ⟨Or.inr rfl, iff_of_true rfl (Or.inr (Or.inl unusable))⟩
  | fileUnreadable settles asked noZero unread =>
    exact ⟨Or.inr rfl, iff_of_true rfl (Or.inr (Or.inr (fileUnreadable_of_unread asked unread)))⟩
  | judged settles gathered =>
    refine ⟨Or.inl rfl, iff_of_false (fun two => by cases two) ?_⟩
    rintro (missing | unusable | unreadable)
    · exact settles.zone_known missing
    · exact settles.instant_usable unusable
    · exact unreadable _ gathered

theorem execute_of_accepted {line : List String}
    (accepted : Request.ofArguments line = .ok (.judge arguments)) :
    execute zones environment now files line =
      (run zones environment now files arguments).map .report := by
  rw [execute, accepted]

/-- A command line that is accepted, with a civil time and with the texts of its file, leaves the
report of a run that judges all its texts at that time. -/
theorem execute_of_settled {line : List String} {civilTime : CivilTime} {lines : List String}
    (accepted : Request.ofArguments line = .ok (.judge arguments))
    (settles : Settles zones environment now arguments civilTime)
    (gathered : FileTexts files arguments.file lines) :
    execute zones environment now files line =
      .ok (.report (completed (startEvent environment arguments) environment.logsUnrecognized
        arguments.sort arguments.json civilTime (arguments.texts ++ lines))) := by
  have stays : ¬ BreaksOff zones environment now arguments := fun breaksOff => by
    obtain ⟨_, noPath⟩ := settles.breaksOff_iff.mp breaksOff
    exact noPath.fileUnreadable _ gathered
  have course := run_course zones environment now files arguments
  rw [execute_of_accepted accepted]
  generalize run zones environment now files arguments = result at course
  cases course with
  | zoneMissing missing => exact absurd missing settles.zone_known
  | instantMalformed known asked nonempty malformed =>
    exact absurd (instantUnusable_of_malformed known asked nonempty malformed)
      settles.instant_usable
  | outsideCalendar known concerns outside =>
    exact absurd ⟨_, _, known, concerns, Or.inl outside⟩ stays
  | noPath _ noPath => exact absurd (settles.breaksOff_iff.mpr ⟨_, noPath⟩) stays
  | fileUnreadable _ asked _ unread =>
    exact absurd gathered (fileUnreadable_of_unread asked unread lines)
  | judged again regathered =>
    rw [settles.unique again, gathered.unique regathered]
    rfl

/-- A command line that is accepted ends with exit code zero or two, and with two exactly when its
zone, its instant or its file cannot be used, unless it breaks off: that happens where its instant
has no civil time in its zone, or a file is asked for by no path. -/
theorem accepted_line_answers_iff {line : List String}
    (accepted : Request.ofArguments line = .ok (.judge arguments)) :
    (∃ report, execute zones environment now files line = .ok (.report report) ∧
        (report.exitCode = 0 ∨ report.exitCode = 2) ∧
        (report.exitCode = 2 ↔ ZoneMissing zones environment arguments ∨
          InstantUnusable zones environment arguments ∨ FileUnreadable files arguments)) ↔
      ¬ BreaksOff zones environment now arguments := by
  have breaksOff := @run_eq_error_iff zones environment now files arguments
  rw [execute_of_accepted accepted, ← breaksOff]
  cases ran : run zones environment now files arguments with
  | error breakdown =>
    refine iff_of_false ?_ (not_not.mpr ⟨breakdown, rfl⟩)
    rintro ⟨report, returned, _⟩
    cases returned
  | ok report =>
    refine iff_of_true ⟨report, rfl, exitCode_of_report ran⟩ ?_
    rintro ⟨breakdown, broken⟩
    cases broken

/-- Under the present instant in universal time a text is judged and the run answers. -/
theorem text_in_universal_time_is_answered :
    Request.ofArguments ["24/7", "--timezone", "UTC"] =
        .ok (.judge { texts := ["24/7"], timezone := some "UTC" }) ∧
      ∃ report,
        execute Calendar.Zone.table {} ⟨0⟩ [] ["24/7", "--timezone", "UTC"] =
            .ok (.report report) ∧
          (report.exitCode = 0 ∨ report.exitCode = 2) ∧
          (report.exitCode = 2 ↔
            ZoneMissing Calendar.Zone.table {} { texts := ["24/7"], timezone := some "UTC" } ∨
              InstantUnusable Calendar.Zone.table {}
                { texts := ["24/7"], timezone := some "UTC" } ∨
              FileUnreadable [] { texts := ["24/7"], timezone := some "UTC" }) := by
  have accepted : Request.ofArguments ["24/7", "--timezone", "UTC"] =
      .ok (.judge { texts := ["24/7"], timezone := some "UTC" }) := by
    decide
  refine ⟨accepted, (accepted_line_answers_iff accepted).mpr ?_⟩
  rintro ⟨offsetAt, instant, known, concerns, outside | ⟨_, noPath⟩⟩
  · have zone : Calendar.Zone.table
        (Arguments.zoneName { texts := ["24/7"], timezone := some "UTC" } {}) =
          some (Calendar.Zone.fixed "UTC" 0).offsetAt := by
      rfl
    rw [zone] at known
    obtain rfl := Option.some.inj known
    cases concerns
    exact absurd outside (by decide)
  · cases noPath

/-- The last minute of the calendar by universal time lies beyond it in Tokyo: the line is accepted
and the instant unusable, but there is no report. -/
theorem last_minute_breaks_off_in_tokyo :
    Request.ofArguments ["24/7", "--at", "9999-12-31T23:59", "--timezone", "Asia/Tokyo"] =
        .ok (.judge
          { texts := ["24/7"], instant := some "9999-12-31T23:59",
            timezone := some "Asia/Tokyo" }) ∧
      InstantUnusable Calendar.Zone.table {}
        { texts := ["24/7"], instant := some "9999-12-31T23:59", timezone := some "Asia/Tokyo" } ∧
      ¬ ∃ report, execute Calendar.Zone.table {} ⟨0⟩ []
        ["24/7", "--at", "9999-12-31T23:59", "--timezone", "Asia/Tokyo"] =
          .ok (.report report) := by
  refine ⟨by decide, ?_, ?_⟩
  · refine ⟨(Calendar.Zone.fixed "Asia/Tokyo" 32400).offsetAt, _, rfl, rfl, by decide, ?_⟩
    intro moment read
    have denoted : Calendar.DateTime.ofText "9999-12-31T23:59" =
        .ok ⟨⟨9999, 12, 31⟩, 23, 59, 0, 0, none⟩ := by
      decide
    rw [denoted] at read
    obtain rfl := Except.ok.inj read
    decide
  · rintro ⟨report, returned⟩
    have broken : (execute Calendar.Zone.table {} ⟨0⟩ []
        ["24/7", "--at", "9999-12-31T23:59", "--timezone", "Asia/Tokyo"]).toOption.isNone =
          true := by
      decide +kernel
    rw [returned] at broken
    cases broken

end OpeningHours.Command
