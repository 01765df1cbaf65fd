import OpeningHours.Clock
import OpeningHours.Status.Announcement
import OpeningHours.Status.Order
import OpeningHours.Text.CaseFold

/-
Listings of resources that have hours. All resources of a listing are judged by one civil time. A
resource may be anything from which an hours text can be had, or none.
-/

namespace OpeningHours

namespace Listing

/-- What judging an hours text leaves in the log: a text that is not recognized is noted where the
environment asks for it, unless it is blank. -/
def notices (environment : Environment) (text : Option String) : List Notice :=
  match text with
  | none => []
  | some given =>
    if environment.logsUnrecognized && !Text.allBlank given.toList &&
        decide (Schedule.ofText text = .unrecognized) then
      [.unrecognizedText given]
    else []

/-- The hours text of a resource given as a record. -/
def hoursOf (resource : Json) : Option String :=
  (resource.field? "hours").bind Json.string?

end Listing

namespace Directory

/-- Resources with the status that each of them has. -/
def statuses {Resource : Type} (hours : Resource → Option String) (now : CivilTime)
    (resources : List Resource) : List (Option OpenStatus × Resource) :=
  resources.map fun resource => (Listing.statusAt (hours resource) now, resource)

/-- Open resources first, then closed ones, then those whose status is unknown. -/
def sorted {Resource : Type} (hours : Resource → Option String) (now : CivilTime)
    (resources : List Resource) : List Resource :=
  (OpenStatus.sortBy (·.1) (statuses hours now resources)).map (·.2)

/-- The resources that are open. -/
def openNow {Resource : Type} (hours : Resource → Option String) (now : CivilTime)
    (resources : List Resource) : List Resource :=
  ((statuses hours now resources).filter fun pair => OpenStatus.isKnownOpen pair.1).map (·.2)

/-- What judging the resources leaves in the log. -/
def notices {Resource : Type} (hours : Resource → Option String) (environment : Environment)
    (resources : List Resource) : List Notice :=
  resources.flatMap fun resource => Listing.notices environment (hours resource)

/-! ### Groups -/

/-- A group of resources, and whether one of them is open. -/
structure Group (Resource : Type) where
  title : String
  resources : List Resource
  hasOpen : Bool

/-- The group for everything else, which always comes last. -/
def otherServices : String := "Other Services"

/-- A group judged at a civil time. -/
def judge {Resource : Type} (hours : Resource → Option String) (now : CivilTime)
    (group : String × List Resource) : Group Resource where
  title := group.1
  resources := group.2
  hasOpen := (statuses hours now group.2).any fun pair => OpenStatus.isKnownOpen pair.1

/-- The first group may stand before the second: open groups go first, and among groups of one kind
titles are in order, differences of case aside. -/
def Group.mayPrecede {Resource : Type} (first second : Group Resource) : Bool :=
  if first.hasOpen = second.hasOpen then
    (compare (Text.caseFold first.title.toList) (Text.caseFold second.title.toList)).isLE
  else first.hasOpen

/-- The groups in order, with the group for everything else last. -/
def orderGroups {Resource : Type} (hours : Resource → Option String) (now : CivilTime)
    (groups : List (String × List Resource)) : List (Group Resource) :=
  let ordered := (groups.map (judge hours now)).mergeSort Group.mayPrecede
  ordered.filter (fun group => decide (group.title ≠ otherServices)) ++
    ordered.filter fun group => decide (group.title = otherServices)

end Directory

end OpeningHours
