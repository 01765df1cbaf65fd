import OpeningHours.Directory

/-
Inquiries about opening hours: the status of a text, the resources of a listing in order, those of
them that are open, and groups of resources in order. An inquiry is made with a clock, which is read
once, before anything else is done; all that the inquiry is about is judged by the civil time that
the clock shows.
-/

namespace OpeningHours

/-- An inquiry, with the kind of answer that there is to it. -/
inductive Inquiry (Resource : Type) : Type → Type where
  | status (text : Option String) : Inquiry Resource (Option OpenStatus)
  | sorted (hours : Resource → Option String) (resources : List Resource) :
      Inquiry Resource (List Resource)
  | openNow (hours : Resource → Option String) (resources : List Resource) :
      Inquiry Resource (List Resource)
  | groups (hours : Resource → Option String) (members : List (String × List Resource)) :
      Inquiry Resource (List (Directory.Group Resource))

namespace Inquiry

variable {Resource Answer : Type}

/-- The answer at a civil time. -/
def answer (inquiry : Inquiry Resource Answer) (now : CivilTime) : Answer :=
  match inquiry with
  | status text => Listing.statusAt text now
  | sorted hours resources => Directory.sorted hours now resources
  | openNow hours resources => Directory.openNow hours now resources
  | groups hours members => Directory.orderGroups hours now members

/-- What finding the answer leaves in the log. -/
def notices (inquiry : Inquiry Resource Answer) (environment : Environment) : List Notice :=
  match inquiry with
  | status text => Listing.notices environment text
  | sorted hours resources => Directory.notices hours environment resources
  | openNow hours resources => Directory.notices hours environment resources
  | groups hours members =>
    members.flatMap fun group => Directory.notices hours environment group.2

/-- What an inquiry comes to: the answer, unless the clock is at fault, what was noted in the log
meanwhile, and the surroundings that are left behind. -/
structure Reply (Answer : Type) where
  answer : Except ClockFault Answer
  notices : List Notice
  surroundings : Surroundings

/-- The inquiry made with a clock. -/
def ask (inquiry : Inquiry Resource Answer) (clock : Clock) (zones : Calendar.ZoneTable)
    (surroundings : Surroundings) : Reply Answer :=
  match clock.read zones surroundings with
  | (.ok now, notices, after) =>
    ⟨.ok (inquiry.answer now), notices ++ inquiry.notices after.environment, after⟩
  | (.error fault, notices, after) => ⟨.error fault, notices, after⟩

end Inquiry

end OpeningHours
