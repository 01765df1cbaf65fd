import Mathlib.Data.List.Forall2
import OpeningHours.Proofs.Command.Rows
import OpeningHours.Proofs.Json.ReadBack
import OpeningHours.Validation.Written

/-
What a run prints as JSON tells its rows. The output is the written form of an array, so it is read
back as that array, which has one object for each text. The object holds the text as it was given,
whatever characters are in it, and the status is there as an object whose own check gives back the
status, or as nothing where there is none.
-/

namespace OpeningHours.Command

open Text

variable {zones : Calendar.ZoneTable} {environment : Environment} {now : Calendar.Instant}
  {files : Files} {arguments : Arguments}

/-! ### Rows as records -/

/-- The names of the fields of a status. -/
def statusNames : List String :=
  ["isOpen", "status", "timeUntilOpen", "nextOpenTime"]

/-- The value tells the row: it holds the text, and what it has for the status passes the check of
statuses with that status, or is nothing where the text has none. -/
inductive Tells : Json → String × Option OpenStatus → Prop
  | unknown (text : String) :
      Tells (.object [("hours", .string text), ("status", .null)]) (text, none)
  | known (text : String) {fields : List (String × Json)} {status : OpenStatus}
      (named : fields.map (·.1) = statusNames)
      (passes : Validation.openStatus (.object fields) = .ok status) :
      Tells (.object [("hours", .string text), ("status", .object fields)]) (text, some status)

theorem tells_rowRecord (row : String × Option OpenStatus) : Tells (rowRecord row) row := by
  obtain ⟨text, known⟩ := row
  cases known with
  | none => exact .unknown text
  | some status => exact .known text rfl (Validation.openStatus_record status)

theorem isExact_ofOption (text : Option String) : (Json.ofOption text).IsExact := by
  cases text with
  | none => exact .null
  | some text => exact .string text

theorem isExact_status (status : OpenStatus) : status.record.IsExact := by
  refine .object fun field member => ?_
  simp only [List.mem_cons, List.not_mem_nil, or_false] at member
  rcases member with rfl | rfl | rfl | rfl
  · exact .bool status.isOpen
  · exact .string status.phrase
  · exact isExact_ofOption status.untilOpen
  · exact isExact_ofOption status.nextOpening

theorem isExact_rowRecord (row : String × Option OpenStatus) : (rowRecord row).IsExact := by
  refine .object fun field member => ?_
  simp only [List.mem_cons, List.not_mem_nil, or_false] at member
  rcases member with rfl | rfl
  · exact .string row.1
  · obtain ⟨text, known⟩ := row
    cases known with
    | none => exact .null
    | some status => exact isExact_status status

/-- Rows that are printed as JSON are read back as an array that tells them one by one. -/
theorem printed_json_tells (rows : List (String × Option OpenStatus)) :
    ∃ items, Json.ofString? (printed true rows) = some (.array items) ∧
      List.Forall₂ Tells items rows := by
  have isExact : (Json.array (rows.map rowRecord)).IsExact := by
    refine .array fun item member => ?_
    obtain ⟨row, -, rfl⟩ := List.mem_map.mp member
    exact isExact_rowRecord row
  refine ⟨rows.map rowRecord, ?_, ?_⟩
  · rw [printed, if_pos rfl]
    exact Json.ofString?_toLines isExact
  · rw [List.forall₂_map_left_iff]
    exact List.forall₂_same.mpr fun row _ => tells_rowRecord row

/-! ### Runs that print JSON -/

/-- What a run prints as JSON when it ends with exit code zero is one array that tells its rows in
order: every text of the run as it was given, with its status at the civil time of the run. -/
theorem json_output_tells_rows {line : List String} {report : Report}
    (accepted : Request.ofArguments line = .ok (.judge arguments)) (asks : arguments.json = true)
    (returned : execute zones environment now files line = .ok (.report report))
    (succeeded : report.exitCode = 0) :
    ∃ civilTime lines items, Settles zones environment now arguments civilTime ∧
      FileTexts files arguments.file lines ∧
      Json.ofString? report.output = some (.array items) ∧
      List.Forall₂ Tells items
        (orderedRows arguments.sort (rowsOf civilTime (arguments.texts ++ lines))) := by
  obtain ⟨civilTime, lines, settles, gathered, rfl⟩ :=
    completed_of_exitCode_zero accepted returned succeeded
  obtain ⟨items, read, tells⟩ :=
    printed_json_tells (orderedRows arguments.sort (rowsOf civilTime (arguments.texts ++ lines)))
  refine ⟨civilTime, lines, items, settles, gathered, ?_, tells⟩
  rw [output_of_completed, asks]
  exact read

/-- A text with quotes and a line break and one that is open are told in the order of their
statuses. -/
theorem quoted_text_is_told_behind_open_one :
    Request.ofArguments ["open \"soon\"\n", "24/7", "--json", "--sort", "--timezone", "UTC"] =
        .ok (.judge
          { texts := ["open \"soon\"\n", "24/7"], timezone := some "UTC", sort := true,
            json := true }) ∧
      ∃ report,
        execute Calendar.Zone.table {} ⟨0⟩ []
            ["open \"soon\"\n", "24/7", "--json", "--sort", "--timezone", "UTC"] =
          .ok (.report report) ∧
        report.exitCode = 0 ∧
        ∃ civilTime lines items,
          Settles Calendar.Zone.table {} ⟨0⟩
            { texts := ["open \"soon\"\n", "24/7"], timezone := some "UTC", sort := true,
              json := true } civilTime ∧
          FileTexts [] .absent lines ∧
          Json.ofString? report.output = some (.array items) ∧
          List.Forall₂ Tells items
            (orderedRows true (rowsOf civilTime (["open \"soon\"\n", "24/7"] ++ lines))) := by
  have accepted :
      Request.ofArguments ["open \"soon\"\n", "24/7", "--json", "--sort", "--timezone", "UTC"] =
        .ok (.judge
          { texts := ["open \"soon\"\n", "24/7"], timezone := some "UTC", sort := true,
            json := true }) := by
    decide
  exact ⟨accepted, _, rfl, rfl, json_output_tells_rows accepted rfl rfl rfl⟩

end OpeningHours.Command
