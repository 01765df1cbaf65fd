import OpeningHours.Directory
import OpeningHours.Proofs.Command.Trace
import OpeningHours.Proofs.Status.Order

/-
All places where things are ordered by their status keep to one order. Resources are listed in the
three tiers of the order; those that are open, asked for on their own, are the first tier; the
statuses alone are ordered as the resources that have them are; and a run of the command that is to
sort the texts of the resources prints its rows as the resources stand.
-/

namespace OpeningHours.Directory

variable {Resource : Type} (hours : Resource → Option String) (now : CivilTime)

/-- The status of a resource. -/
def statusOf (resource : Resource) : Option OpenStatus :=
  Listing.statusAt (hours resource) now

/-- The row that is printed of a resource which has an hours text. -/
def rowOf (resource : Resource) : Option (String × Option OpenStatus) :=
  (hours resource).map fun text => (text, statusOf hours now resource)

theorem statuses_eq (resources : List Resource) :
    statuses hours now resources =
      resources.map fun resource => (statusOf hours now resource, resource) := rfl

/-- Resources are listed in the order of their statuses. -/
theorem sorted_eq_sortBy (resources : List Resource) :
    sorted hours now resources = OpenStatus.sortBy (statusOf hours now) resources := by
  rw [sorted, statuses_eq,
    OpenStatus.sortBy_map Prod.fst (statusOf hours now)
      (fun resource => (statusOf hours now resource, resource)) fun _ => rfl,
    List.map_map]
  exact List.map_id _

/-- The resources that are open are the first tier. -/
theorem openNow_eq_filter (resources : List Resource) :
    openNow hours now resources =
      resources.filter fun resource => OpenStatus.isKnownOpen (statusOf hours now resource) := by
  rw [openNow, statuses_eq, List.filter_map, List.map_map]
  exact List.map_id _

/-- The rows of a run over the texts of resources. -/
theorem rowsOf_texts (resources : List Resource) :
    Command.rowsOf now (resources.filterMap hours) = resources.filterMap (rowOf hours now) := by
  rw [Command.rowsOf, List.map_filterMap]
  refine List.filterMap_congr fun resource _ => ?_
  unfold rowOf statusOf
  cases hours resource <;> rfl

/-- A run that is to sort the texts of resources prints their rows as the resources stand. -/
theorem output_of_sorted_run {zones : Calendar.ZoneTable} {environment : Environment}
    {instant : Calendar.Instant} {files : Command.Files} {line : List String}
    {arguments : Command.Arguments} {lines : List String} {resources : List Resource}
    (accepted : Command.Request.ofArguments line = .ok (.judge arguments))
    (sorting : arguments.sort = true)
    (settles : Command.Settles zones environment instant arguments now)
    (gathered : Command.FileTexts files arguments.file lines)
    (texts : arguments.texts ++ lines = resources.filterMap hours) :
    ∃ report, Command.execute zones environment instant files line = .ok (.report report) ∧
      report.exitCode = 0 ∧
      report.output = Command.printed arguments.json
        ((sorted hours now resources).filterMap (rowOf hours now)) := by
  refine ⟨_, Command.execute_of_settled accepted settles gathered, rfl, ?_⟩
  have rows : ((arguments.texts ++ lines).map (Command.Judgement.of now)).map
      (fun judgement => (judgement.hours, judgement.status)) =
        resources.filterMap (rowOf hours now) := by
    rw [texts, ← rowsOf_texts, List.map_map]
    rfl
  have status : ∀ resource row, rowOf hours now resource = some row →
      row.2 = statusOf hours now resource := by
    intro resource row isRow
    obtain ⟨text, _, rfl⟩ := Option.map_eq_some_iff.mp isRow
    rfl
  rw [Command.completed, rows, if_pos sorting,
    OpenStatus.sortBy_filterMap Prod.snd (statusOf hours now) (rowOf hours now) status,
    sorted_eq_sortBy]

/-- All orderings are one stable partition: the open resources, the closed ones and those without a
status, each block as it came. The resources asked for because they are open are the first block,
the statuses alone are ordered like the resources, and so are the rows of a run over their texts. -/
theorem orderings_share_one_partition (resources : List Resource) :
    sorted hours now resources =
        resources.filter (fun resource =>
            (statusOf hours now resource).any fun status => status.isOpen) ++
          resources.filter (fun resource =>
            (statusOf hours now resource).any fun status => !status.isOpen) ++
          resources.filter (fun resource => (statusOf hours now resource).isNone) ∧
      (sorted hours now resources).Perm resources ∧
      sorted hours now (sorted hours now resources) = sorted hours now resources ∧
      openNow hours now resources =
        resources.filter (fun resource =>
          (statusOf hours now resource).any fun status => status.isOpen) ∧
      OpenStatus.sort (resources.map (statusOf hours now)) =
        (sorted hours now resources).map (statusOf hours now) ∧
      ∀ zones environment instant files line arguments lines,
        Command.Request.ofArguments line = .ok (.judge arguments) →
        arguments.sort = true →
        Command.Settles zones environment instant arguments now →
        Command.FileTexts files arguments.file lines →
        arguments.texts ++ lines = resources.filterMap hours →
        ∃ report, Command.execute zones environment instant files line = .ok (.report report) ∧
          report.exitCode = 0 ∧
          report.output = Command.printed arguments.json
            ((sorted hours now resources).filterMap (rowOf hours now)) := by
  refine ⟨?_, ?_, ?_, openNow_eq_filter hours now resources, ?_, ?_⟩
  · rw [sorted_eq_sortBy, OpenStatus.sortBy_eq_tiers]
    rfl
  · rw [sorted_eq_sortBy]
    exact OpenStatus.sortBy_perm _ resources
  · rw [sorted_eq_sortBy, sorted_eq_sortBy, OpenStatus.sortBy_sortBy]
  · rw [sorted_eq_sortBy]
    exact OpenStatus.sortBy_map id _ _ (fun _ => rfl) resources
  · intro zones environment instant files line arguments lines accepted sorting settles gathered
      texts
    exact output_of_sorted_run hours now accepted sorting settles gathered texts

/-- Three resources with texts and one without, on a Thursday at midnight: the order of a run over
the three texts is that of the four resources. -/
theorem four_resources_in_order :
    Command.Request.ofArguments
        ["soon", "temporarily closed", "24/7", "--sort", "--timezone", "UTC"] =
      .ok (.judge
        { texts := ["soon", "temporarily closed", "24/7"], timezone := some "UTC",
          sort := true }) ∧
    Command.Settles Calendar.Zone.table {} ⟨0⟩
      { texts := ["soon", "temporarily closed", "24/7"], timezone := some "UTC", sort := true }
      ⟨.thursday, 0, by decide⟩ ∧
    Command.FileTexts [] .absent [] ∧
    sorted id ⟨.thursday, 0, by decide⟩
        [some "soon", none, some "temporarily closed", some "24/7"] =
      [some "24/7", some "temporarily closed", some "soon", none] ∧
    ∃ report,
      Command.execute Calendar.Zone.table {} ⟨0⟩ []
          ["soon", "temporarily closed", "24/7", "--sort", "--timezone", "UTC"] =
        .ok (.report report) ∧
      report.exitCode = 0 ∧
      report.output =
        "OPEN    24/7 - Open 24/7\nCLOSED  temporarily closed - Closed\nUNKNOWN  soon\n" := by
  have accepted : Command.Request.ofArguments
      ["soon", "temporarily closed", "24/7", "--sort", "--timezone", "UTC"] =
        .ok (.judge
          { texts := ["soon", "temporarily closed", "24/7"], timezone := some "UTC",
            sort := true }) := by
    decide
  have settles : Command.Settles Calendar.Zone.table {} ⟨0⟩
      { texts := ["soon", "temporarily closed", "24/7"], timezone := some "UTC", sort := true }
      ⟨.thursday, 0, by decide⟩ :=
    ⟨(Calendar.Zone.fixed "UTC" 0).offsetAt, ⟨0⟩, rfl, .missing, by decide⟩
  obtain ⟨blocks, _, _, _, _, runs⟩ := orderings_share_one_partition id ⟨.thursday, 0, by decide⟩
    [some "soon", none, some "temporarily closed", some "24/7"]
  have order : sorted id ⟨.thursday, 0, by decide⟩
      [some "soon", none, some "temporarily closed", some "24/7"] =
        [some "24/7", some "temporarily closed", some "soon", none] := by
    rw [blocks]
    decide +kernel
  obtain ⟨report, returned, exitCode, output⟩ :=
    runs _ _ _ [] _ _ [] accepted rfl settles .absent (by decide)
  refine ⟨accepted, settles, .absent, order, report, returned, exitCode, ?_⟩
  rw [output, order]
  decide +kernel

end OpeningHours.Directory
