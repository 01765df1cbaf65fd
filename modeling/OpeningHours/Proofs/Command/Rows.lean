import OpeningHours.Proofs.Command.Trace
import OpeningHours.Proofs.Status.Order

/-
The rows of a run. A run that ends with exit code zero has judged all its texts at one civil time
and has printed a row for each of them, in the order in which the texts stand or in that of their
statuses. How a row is printed makes no difference to which rows there are.
-/

namespace OpeningHours.Command

open Text

variable {zones : Calendar.ZoneTable} {environment : Environment} {now : Calendar.Instant}
  {files : Files} {arguments : Arguments}

/-- The rows in the order in which a run prints them: as the texts stand, or the open ones first,
then the closed ones and then the unknown ones, each block as its texts stand. -/
def orderedRows (sorts : Bool) (rows : List (String × Option OpenStatus)) :
    List (String × Option OpenStatus) :=
  if sorts then OpenStatus.tiers (·.2) rows else rows

theorem orderedRows_perm (sorts : Bool) (rows : List (String × Option OpenStatus)) :
    (orderedRows sorts rows).Perm rows := by
  cases sorts with
  | true =>
    rw [orderedRows, if_pos rfl, ← OpenStatus.sortBy_eq_tiers]
    exact List.mergeSort_perm _ _
  | false => exact List.Perm.refl rows

/-- A run that ends with exit code zero has judged all its texts at one civil time. -/
theorem completed_of_exitCode_zero {line : List String} {report : Report}
    (accepted : Request.ofArguments line = .ok (.judge arguments))
    (returned : execute zones environment now files line = .ok (.report report))
    (succeeded : report.exitCode = 0) :
    ∃ civilTime lines, Settles zones environment now arguments civilTime ∧
      FileTexts files arguments.file lines ∧
      report = completed (startEvent environment arguments) environment.logsUnrecognized
        arguments.sort arguments.json civilTime (arguments.texts ++ lines) := by
  have course := run_course zones environment now files arguments
  rw [execute_of_accepted accepted] at returned
  generalize run zones environment now files arguments = result at course returned
  cases course with
  | outsideCalendar | noPath => cases returned
  | zoneMissing | instantMalformed | fileUnreadable =>
    cases returned
    cases succeeded
  | judged settles gathered =>
    cases returned
    exact ⟨_, _, settles, gathered, rfl⟩

theorem output_of_completed (started : Event) (logs sorts json : Bool) (civilTime : CivilTime)
    (texts : List String) :
    (completed started logs sorts json civilTime texts).output =
      printed json (orderedRows sorts (rowsOf civilTime texts)) := by
  have rows : (texts.map (Judgement.of civilTime)).map
      (fun judgement => (judgement.hours, judgement.status)) = rowsOf civilTime texts :=
    List.map_map
  rw [completed, rows, orderedRows, OpenStatus.sortBy_eq_tiers]

end OpeningHours.Command
