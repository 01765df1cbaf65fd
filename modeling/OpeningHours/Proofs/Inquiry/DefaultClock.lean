import OpeningHours.Inquiry
import OpeningHours.Proofs.Command.Course

/-
Inquiries without a clock, made while time goes on, the environment changes and the default clock is
forgotten every now and then. Which zone answers an inquiry depends on the whole history, and the
program remembers of it no more than the clock that it keeps. The invariant says what that clock is
in terms of the history alone: of the zones that inquiries have asked for since the clock was last
forgotten, it is for the first one that is known. A failure adds a name to those that were asked for
and no clock, so it is without consequence; an inquiry made while a clock is kept adds a name behind
the first known one. The time is not part of what is kept, so each inquiry is answered by its own.
-/

namespace OpeningHours

open Text

/-! ### Histories -/

/-- What may happen to a program that stays up: the variable that names the zone is set or unset,
the system's time moves, the default clock is forgotten, an inquiry is made without a clock. -/
inductive Step : Type 1 where
  | setTimezone (timezone : Option String)
  | moveTo (instant : Calendar.Instant)
  | forgetClock
  | ask {Resource Answer : Type} (inquiry : Inquiry Resource Answer)

/-- The surroundings after a step. -/
def Step.after (zones : Calendar.ZoneTable) (surroundings : Surroundings) : Step → Surroundings
  | setTimezone timezone =>
    { surroundings with environment := { surroundings.environment with timezone := timezone } }
  | moveTo instant => { surroundings with systemTime := instant }
  | forgetClock => surroundings.forgetDefaultClock
  | ask inquiry => (inquiry.ask .default zones surroundings).surroundings

/-- The steps that have been taken, the last one first. -/
abbrev History : Type 1 := List Step

namespace History

/-- The surroundings after a history that starts without a default clock and takes the time from the
system. -/
def surroundings (zones : Calendar.ZoneTable) (environment : Environment)
    (began : Calendar.Instant) : History → Surroundings
  | [] => { environment := environment, systemTime := began }
  | step :: before => step.after zones (surroundings zones environment began before)

/-- The instant that the system's time has come to. -/
def instant (began : Calendar.Instant) : History → Calendar.Instant
  | [] => began
  | .moveTo instant :: _ => instant
  | _ :: before => instant began before

/-- The variable that names the zone, as it was set last. -/
def timezone (given : Option String) : History → Option String
  | [] => given
  | .setTimezone timezone :: _ => timezone
  | _ :: before => timezone given before

/-- The name of the zone that the environment asks for: the variable without white space at its ends
if it is not blank, and else the default zone. -/
def zoneName (given : Option String) (history : History) : String :=
  match history.timezone given with
  | some name => if allBlank name.toList then "America/Vancouver" else trimmed name
  | none => "America/Vancouver"

/-- The names of the zones that inquiries have asked for since the clock was last forgotten, in the
order of the inquiries. -/
def namesAsked (given : Option String) : History → List String
  | [] => []
  | .forgetClock :: _ => []
  | .ask _ :: before => namesAsked given before ++ [zoneName given before]
  | _ :: before => namesAsked given before

/-- The names of the zones that will have been asked for once one more inquiry is made. -/
def namesTried (given : Option String) (history : History) : List String :=
  history.namesAsked given ++ [history.zoneName given]

/-- What an inquiry without a clock comes to after a history. -/
def reply {Resource Answer : Type} (zones : Calendar.ZoneTable) (environment : Environment)
    (began : Calendar.Instant) (history : History) (inquiry : Inquiry Resource Answer) :
    Inquiry.Reply Answer :=
  inquiry.ask .default zones (history.surroundings zones environment began)

end History

/-! ### The clock that is kept -/

/-- The default clock for the zone with a name. -/
def clockNamed? (zones : Calendar.ZoneTable) (source : PresentSource) (name : String) :
    Option ZoneClock :=
  (knownZone? zones name).map fun zone => ⟨zone, source⟩

namespace Surroundings

variable (zones : Calendar.ZoneTable) (surroundings : Surroundings)

/-- The default clock that an inquiry is answered by, if there is one: the one that is kept, or else
one for the zone that the environment asks for. -/
def clockAtHand? : Option ZoneClock :=
  surroundings.defaultClock.or
    (clockNamed? zones surroundings.source surroundings.environment.zoneName)

theorem loadZone_zoneName (environment : Environment) :
    loadZone zones (some environment.zoneName) =
      match knownZone? zones environment.zoneName with
      | some zone => .ok zone
      | none => .error (.unknownZone environment.zoneName) := by
  have unblank : nonblank? (some environment.zoneName) = some environment.zoneName :=
    Settings.nonblank?_timezone environment none
  rw [loadZone, Command.findZone_of_nonblank unblank]
  cases knownZone? zones environment.zoneName <;> rfl

/-- A clock is built and noted exactly if none is kept, and kept exactly if its zone is known. -/
theorem useDefaultClock_eq :
    surroundings.useDefaultClock zones =
      ((surroundings.clockAtHand? zones).elim
          (.error (.unknownZone surroundings.environment.zoneName)) .ok,
        if surroundings.defaultClock.isNone then
          [.clockBuilt surroundings.environment.zoneName]
        else [],
        { surroundings with defaultClock := surroundings.clockAtHand? zones }) := by
  obtain ⟨environment, systemTime, source, kept⟩ := surroundings
  cases kept with
  | some clock => rfl
  | none =>
    have named : (Settings.resolve environment none).timezone = environment.zoneName := rfl
    simp only [useDefaultClock, named, loadZone_zoneName, clockAtHand?, clockNamed?, Option.none_or]
    cases knownZone? zones environment.zoneName <;> rfl

/-- The default clock shows the civil time of the clock at hand, if there is one. -/
theorem read_default :
    Clock.default.read zones surroundings =
      ((surroundings.clockAtHand? zones).elim
          (.error (.unknownZone surroundings.environment.zoneName))
          fun clock => clock.read surroundings.systemTime,
        if surroundings.defaultClock.isNone then
          [.clockBuilt surroundings.environment.zoneName]
        else [],
        { surroundings with defaultClock := surroundings.clockAtHand? zones }) := by
  rw [Clock.read, useDefaultClock_eq]
  cases surroundings.clockAtHand? zones with
  | none => rfl
  | some clock => rw [Option.elim_some, Option.elim_some]

end Surroundings

namespace Inquiry

variable {Resource Answer : Type} (zones : Calendar.ZoneTable) (inquiry : Inquiry Resource Answer)
  (clock : Clock) (surroundings : Surroundings)

theorem answer_ask :
    (inquiry.ask clock zones surroundings).answer =
      (clock.read zones surroundings).1.map inquiry.answer := by
  unfold ask
  split <;> next shown => rw [shown]; rfl

/-- An inquiry leaves behind what reading its clock does. -/
theorem surroundings_ask :
    (inquiry.ask clock zones surroundings).surroundings =
      (clock.read zones surroundings).2.2 := by
  unfold ask
  split <;> next shown => rw [shown]

/-- An inquiry leaves in the log what reading its clock does, and then what finding the answer does,
if there is one. -/
theorem notices_ask :
    ∃ found : List Notice,
      found ⊆ inquiry.notices (clock.read zones surroundings).2.2.environment ∧
        (inquiry.ask clock zones surroundings).notices =
          (clock.read zones surroundings).2.1 ++ found := by
  unfold ask
  split
  · next shown =>
    rw [shown]
    exact ⟨_, List.Subset.refl _, rfl⟩
  · next shown =>
    rw [shown]
    exact ⟨[], List.nil_subset _, (List.append_nil _).symm⟩

end Inquiry

/-- The notice is about a clock. -/
def Notice.isOfClock : Notice → Bool
  | clockBuilt _ => true
  | unrecognizedText _ => false

/-- Finding an answer leaves nothing about clocks in the log. -/
theorem Listing.isOfClock_notices {environment : Environment} {text : Option String}
    {notice : Notice} (member : notice ∈ notices environment text) : notice.isOfClock = false := by
  unfold notices at member
  split at member
  case h_1 => cases member
  case h_2 =>
    split at member
    case isTrue => exact List.mem_singleton.mp member ▸ rfl
    case isFalse => cases member

theorem Inquiry.isOfClock_notices {Resource Answer : Type} {inquiry : Inquiry Resource Answer}
    {environment : Environment} {notice : Notice} (member : notice ∈ inquiry.notices environment) :
    notice.isOfClock = false := by
  have listed : ∀ {hours : Resource → Option String} {resources : List Resource},
      notice ∈ Directory.notices hours environment resources → notice.isOfClock = false := by
    intro hours resources member
    obtain ⟨resource, _, noted⟩ := List.mem_flatMap.mp member
    exact Listing.isOfClock_notices noted
  cases inquiry with
  | status text => exact Listing.isOfClock_notices member
  | sorted hours resources => exact listed member
  | openNow hours resources => exact listed member
  | groups hours members =>
    obtain ⟨group, _, noted⟩ := List.mem_flatMap.mp member
    exact listed noted

/-! ### Answers -/

/-- The answer to an inquiry at a civil time: the status of the text, the resources in order, those
that are open, or the groups in order, all of them judged by that time. -/
def Inquiry.IsAnswer {Resource : Type} (now : CivilTime) {Answer : Type} :
    Inquiry Resource Answer → Answer → Prop
  | status text, answer => answer = Listing.statusAt text now
  | sorted hours resources, answer => answer = Directory.sorted hours now resources
  | openNow hours resources, answer => answer = Directory.openNow hours now resources
  | groups hours members, answer => answer = Directory.orderGroups hours now members

theorem Inquiry.isAnswer_answer {Resource Answer : Type} (inquiry : Inquiry Resource Answer)
    (now : CivilTime) : inquiry.IsAnswer now (inquiry.answer now) := by
  cases inquiry <;> rfl

/-- What an inquiry comes to is its answer at the civil time that a zone shows at an instant. -/
def Inquiry.Reply.AnswersAt {Resource Answer : Type} (reply : Inquiry.Reply Answer)
    (inquiry : Inquiry Resource Answer) (offsetAt : Int → Int) (instant : Calendar.Instant) :
    Prop :=
  ∃ civilTime answer, Calendar.civilTimeAt? offsetAt instant = some civilTime ∧
    inquiry.IsAnswer civilTime answer ∧ reply.answer = .ok answer

/-! ### The clock that is kept after a history -/

/-- The instant has a civil time in every zone that is known. -/
def Calendar.Instant.ConvertsIn (instant : Calendar.Instant) (zones : Calendar.ZoneTable) : Prop :=
  ∀ name offsetAt, zones name = some offsetAt →
    ∃ civilTime, Calendar.civilTimeAt? offsetAt instant = some civilTime

namespace History

variable (zones : Calendar.ZoneTable) (environment : Environment) (began : Calendar.Instant)
  (history : History)

/-- The surroundings after a history, told by the history alone: the default clock is kept for the
first known zone among those that were asked for since it was last forgotten. -/
def told : Surroundings where
  environment := ⟨history.timezone environment.timezone, environment.logUnrecognized⟩
  systemTime := history.instant began
  source := .system
  defaultClock := (history.namesAsked environment.timezone).findSome? (clockNamed? zones .system)

theorem zoneName_told :
    (history.told zones environment began).environment.zoneName =
      history.zoneName environment.timezone := by
  unfold History.zoneName Environment.zoneName told
  cases history.timezone environment.timezone with
  | none => rfl
  | some name =>
    dsimp only [nonblank?]
    split <;> rfl

/-- The clock that answers an inquiry is for the first known zone, if there is one, among those that
were asked for before and the one that the inquiry itself asks for. -/
theorem clockAtHand?_told :
    (history.told zones environment began).clockAtHand? zones =
      (history.namesTried environment.timezone).findSome? (clockNamed? zones .system) := by
  rw [Surroundings.clockAtHand?, zoneName_told, namesTried, List.findSome?_append,
    List.findSome?_singleton]
  rfl

/-- One step takes the surroundings from what a history tells of them to what the longer history
tells. -/
theorem after_told (step : Step) :
    step.after zones (history.told zones environment began) =
      History.told zones environment began (step :: history) := by
  cases step with
  | setTimezone timezone => rfl
  | moveTo instant => rfl
  | forgetClock => rfl
  | ask inquiry =>
    rw [Step.after, Inquiry.surroundings_ask, Surroundings.read_default, clockAtHand?_told]
    rfl

theorem surroundings_eq_told :
    history.surroundings zones environment began = history.told zones environment began := by
  induction history with
  | nil => rfl
  | cons step before inductionHypothesis =>
    rw [surroundings, inductionHypothesis, after_told]

end History

/-! ### Answers -/

section

variable {zones : Calendar.ZoneTable} {source : PresentSource} {names : List String}

/-- A clock that is found by one of several names is for the first zone that is known among them. -/
theorem findSome?_clockNamed? {clock : ZoneClock}
    (found : names.findSome? (clockNamed? zones source) = some clock) :
    clock.source = source ∧ zones clock.zone.name = some clock.zone.offsetAt ∧
      names.findSome? zones = some clock.zone.offsetAt := by
  induction names with
  | nil => cases found
  | cons name rest inductionHypothesis =>
    rw [List.findSome?_cons] at found ⊢
    cases known : zones name with
    | none =>
      simp only [clockNamed?, knownZone?, known, Option.map_none] at found
      exact inductionHypothesis found
    | some offsetAt =>
      simp only [clockNamed?, knownZone?, known, Option.map_some, Option.some.injEq] at found
      subst found
      exact ⟨rfl, known, rfl⟩

theorem findSome?_clockNamed?_eq_none_iff :
    names.findSome? (clockNamed? zones source) = none ↔ ∀ name ∈ names, zones name = none := by
  simp only [List.findSome?_eq_none_iff, clockNamed?, knownZone?, Option.map_eq_none_iff]

end

namespace History

variable {zones : Calendar.ZoneTable} {environment : Environment} {began : Calendar.Instant}
  {history : History} {Resource Answer : Type} {inquiry : Inquiry Resource Answer}

/-- An inquiry is answered by the first known zone of those that have been asked for, at the instant
that the system's time has come to. -/
theorem answer_of_known {offsetAt : Int → Int}
    (known : (history.namesTried environment.timezone).findSome? zones = some offsetAt)
    (converts : (history.instant began).ConvertsIn zones) :
    (history.reply zones environment began inquiry).AnswersAt inquiry offsetAt
      (history.instant began) := by
  rw [Inquiry.Reply.AnswersAt, reply, Inquiry.answer_ask, surroundings_eq_told,
    Surroundings.read_default, clockAtHand?_told]
  cases found : (history.namesTried environment.timezone).findSome? (clockNamed? zones .system) with
  | none =>
    have unknown := List.findSome?_eq_none_iff.mpr (findSome?_clockNamed?_eq_none_iff.mp found)
    cases unknown.symm.trans known
  | some clock =>
    obtain ⟨isSystem, isKnown, isFirst⟩ := findSome?_clockNamed? found
    obtain rfl : clock.zone.offsetAt = offsetAt := Option.some.inj (isFirst.symm.trans known)
    obtain ⟨civilTime, isTime⟩ := converts _ _ isKnown
    refine ⟨civilTime, _, isTime, inquiry.isAnswer_answer civilTime, ?_⟩
    have shown : clock.read (history.instant began) = .ok civilTime := by
      rw [ZoneClock.read, isSystem, PresentSource.tell, civilTimeIn, isTime, Option.elim_some]
    rw [Option.elim_some]
    calc (clock.read (history.instant began)).map inquiry.answer
      _ = Except.map inquiry.answer (.ok civilTime) := by rw [shown]
      _ = .ok (inquiry.answer civilTime) := rfl

/-- Where no zone is known of those that have been asked for, the clock is at fault, and none is
kept. -/
theorem answer_of_unknown
    (unknown : ∀ name ∈ history.namesTried environment.timezone, zones name = none) :
    (history.reply zones environment began inquiry).answer =
        .error (.unknownZone (history.zoneName environment.timezone)) ∧
      (history.reply zones environment began inquiry).surroundings.defaultClock = none := by
  have noClock : (history.namesTried environment.timezone).findSome?
      (clockNamed? zones .system) = none :=
    findSome?_clockNamed?_eq_none_iff.mpr unknown
  rw [reply, Inquiry.answer_ask, Inquiry.surroundings_ask, surroundings_eq_told,
    Surroundings.read_default, clockAtHand?_told, noClock, zoneName_told]
  exact ⟨rfl, rfl⟩

/-- The lines about a clock in the log of an inquiry: one if none was kept before. -/
theorem filter_isOfClock_notices :
    (history.reply zones environment began inquiry).notices.filter Notice.isOfClock =
      if (history.surroundings zones environment began).defaultClock.isNone then
        [.clockBuilt (history.zoneName environment.timezone)]
      else [] := by
  obtain ⟨found, subset, noted⟩ :=
    inquiry.notices_ask zones .default (history.surroundings zones environment began)
  have others : found.filter Notice.isOfClock = [] := by
    refine List.filter_eq_nil_iff.mpr fun notice member => ?_
    rw [Inquiry.isOfClock_notices (subset member)]
    exact Bool.false_ne_true
  rw [reply, noted, List.filter_append, others, List.append_nil, Surroundings.read_default,
    surroundings_eq_told, zoneName_told]
  split <;> rfl

/-- An inquiry is answered if it asks for a known zone itself. -/
theorem exists_answersAt_of_known_zone
    (known : (zones (history.zoneName environment.timezone)).isSome)
    (converts : (history.instant began).ConvertsIn zones) :
    ∃ offsetAt, (history.namesTried environment.timezone).findSome? zones = some offsetAt ∧
      (history.reply zones environment began inquiry).AnswersAt inquiry offsetAt
        (history.instant began) := by
  have found : ((history.namesTried environment.timezone).findSome? zones).isSome :=
    List.findSome?_isSome_iff.mpr
      ⟨_, List.mem_append_right _ (List.mem_singleton_self _), known⟩
  obtain ⟨offsetAt, isFirst⟩ := Option.isSome_iff_exists.mp found
  exact ⟨offsetAt, isFirst, answer_of_known isFirst converts⟩

theorem defaultClock_surroundings_eq_none_iff :
    (history.surroundings zones environment began).defaultClock = none ↔
      ∀ name ∈ history.namesAsked environment.timezone, zones name = none := by
  rw [surroundings_eq_told]
  exact findSome?_clockNamed?_eq_none_iff

end History

/-- An inquiry without a clock, made after any history, is answered at the instant that the system's
time has come to, by the first zone that is known among those that inquiries have asked for since
the clock was last forgotten. If none of them is known the clock is at fault and none is kept; an
inquiry that is made later and asks for a known zone is answered none the less. One line about the
clock is left in the log if none was kept before, whatever the inquiry comes to, and else no such
line; none was kept exactly if all zones that had been asked for by then were unknown. -/
theorem inquiry_follows_first_known_zone (zones : Calendar.ZoneTable) (environment : Environment)
    (began : Calendar.Instant) (history : History) {Resource Answer : Type}
    (inquiry : Inquiry Resource Answer) (converts : (history.instant began).ConvertsIn zones) :
    (∀ offsetAt, (history.namesTried environment.timezone).findSome? zones = some offsetAt →
      (history.reply zones environment began inquiry).AnswersAt inquiry offsetAt
        (history.instant began)) ∧
    ((∀ name ∈ history.namesTried environment.timezone, zones name = none) →
      (history.reply zones environment began inquiry).answer =
          .error (.unknownZone (history.zoneName environment.timezone)) ∧
        (history.reply zones environment began inquiry).surroundings.defaultClock = none ∧
        ∀ (later : History) {OtherResource OtherAnswer : Type}
          (again : Inquiry OtherResource OtherAnswer),
          let mended : History := later ++ .ask inquiry :: history
          (zones (mended.zoneName environment.timezone)).isSome →
            (mended.instant began).ConvertsIn zones →
            ∃ offsetAt, (mended.namesTried environment.timezone).findSome? zones = some offsetAt ∧
              (mended.reply zones environment began again).AnswersAt again offsetAt
                (mended.instant began)) ∧
    ((history.reply zones environment began inquiry).notices.filter Notice.isOfClock).map
        Notice.message =
      (if (history.surroundings zones environment began).defaultClock.isNone then
        ["civil clock timezone=" ++ history.zoneName environment.timezone]
      else []) ∧
    ((history.surroundings zones environment began).defaultClock = none ↔
      ∀ name ∈ history.namesAsked environment.timezone, zones name = none) := by
  refine ⟨fun offsetAt known => History.answer_of_known known converts, fun unknown => ?_, ?_,
    History.defaultClock_surroundings_eq_none_iff⟩
  · obtain ⟨faulty, noneKept⟩ := History.answer_of_unknown unknown
    exact ⟨faulty, noneKept, fun later _ _ again known converts =>
      History.exists_answersAt_of_known_zone known converts⟩
  · rw [History.filter_isOfClock_notices]
    split <;> rfl

theorem Calendar.Instant.convertsIn_table {instant : Calendar.Instant}
    (each : ∀ zone ∈ Calendar.Zone.all, (Calendar.civilTimeAt? zone.offsetAt instant).isSome) :
    instant.ConvertsIn Calendar.Zone.table := by
  intro name offsetAt known
  obtain ⟨zone, found, rfl⟩ := Option.map_eq_some_iff.mp known
  exact Option.isSome_iff_exists.mp (each zone (List.mem_of_find?_eq_some found))

/-- A zone that does not exist is asked for in vain, and then Tokyo. While the clock of Tokyo is
kept universal time is asked for, and the shop is judged at noon in Tokyo on the first of January
1970, a Thursday: it stays open for five hours more, where in universal time it would not be open
yet. -/
theorem tokyo_answers_once_it_is_known :
    let shop : Inquiry Unit (Option OpenStatus) := .status (some "9am - 5pm")
    let midnight : Calendar.Instant := ⟨0⟩
    let later : Calendar.Instant := ⟨10800000000⟩
    let history : History :=
      [.moveTo later, .setTimezone (some "UTC"), .ask shop, .setTimezone (some " Asia/Tokyo "),
        .ask shop]
    let environment : Environment := ⟨some "Mars/Olympus", none⟩
    midnight.ConvertsIn Calendar.Zone.table ∧ later.ConvertsIn Calendar.Zone.table ∧
    (History.reply Calendar.Zone.table environment midnight [] shop).answer =
      .error (.unknownZone "Mars/Olympus") ∧
    history.namesTried environment.timezone = ["Mars/Olympus", "Asia/Tokyo", "UTC"] ∧
    (history.reply Calendar.Zone.table environment midnight shop).answer =
      .ok (some ⟨true, "Open for 5h", none, none⟩) := by
  intro shop midnight later history environment
  have midnightConverts : midnight.ConvertsIn Calendar.Zone.table :=
    Calendar.Instant.convertsIn_table (by decide +kernel)
  have laterConverts : later.ConvertsIn Calendar.Zone.table :=
    Calendar.Instant.convertsIn_table (by decide +kernel)
  have tried : history.namesTried environment.timezone = ["Mars/Olympus", "Asia/Tokyo", "UTC"] := by
    decide +kernel
  have first : (history.namesTried environment.timezone).findSome? Calendar.Zone.table =
      some (Calendar.Zone.fixed "Asia/Tokyo" 32400).offsetAt := by
    rw [tried]
    rfl
  obtain ⟨-, faulty, -⟩ := inquiry_follows_first_known_zone Calendar.Zone.table environment
    midnight [] shop midnightConverts
  obtain ⟨answered, -⟩ := inquiry_follows_first_known_zone Calendar.Zone.table environment
    midnight history shop laterConverts
  obtain ⟨civilTime, answer, isTime, isAnswer, replied⟩ := answered _ first
  have noonInTokyo : Calendar.civilTimeAt? (Calendar.Zone.fixed "Asia/Tokyo" 32400).offsetAt later =
      some ⟨.thursday, 720, by decide⟩ := by
    decide +kernel
  obtain rfl := Option.some.inj (isTime.symm.trans noonInTokyo)
  have judged : answer = Listing.statusAt (some "9am - 5pm") ⟨.thursday, 720, by decide⟩ :=
    isAnswer
  have openAtNoon : Listing.statusAt (some "9am - 5pm") ⟨.thursday, 720, by decide⟩ =
      some ⟨true, "Open for 5h", none, none⟩ := by
    decide +kernel
  exact ⟨midnightConverts, laterConverts, (faulty (by decide +kernel)).1, tried,
    replied.trans (congrArg Except.ok (judged.trans openAtNoon))⟩

end OpeningHours
