import OpeningHours.Proofs.Journal.Fields
import OpeningHours.Proofs.Text.Numerals

/-
What becomes of the fields of an event when they are written down. A value of the JSON format comes
through if none of its whole numbers has too many digits and its parts are not nested deeper than
the writer can follow. What is said of a value here is said without regard to the order in which it
is written: the first thing that writing comes upon is of one of two kinds, and there is something
of that kind in the value.
-/

namespace OpeningHours

/-! ### Values -/

namespace Json

/-- The parts of the value are nested no deeper than so many levels. -/
inductive NestsWithin : Nat → Json → Prop
  | null {reach : Nat} : NestsWithin reach .null
  | bool {reach : Nat} (value : Bool) : NestsWithin reach (.bool value)
  | int {reach : Nat} (value : Int) : NestsWithin reach (.int value)
  | real {reach : Nat} (value : Double) : NestsWithin reach (.real value)
  | string {reach : Nat} (value : String) : NestsWithin reach (.string value)
  | array {reach : Nat} {items : List Json} (each : ∀ item ∈ items, NestsWithin reach item) :
      NestsWithin (reach + 1) (.array items)
  | object {reach : Nat} {fields : List (String × Json)}
      (each : ∀ field ∈ fields, NestsWithin reach field.2) :
      NestsWithin (reach + 1) (.object fields)

/-- No whole number in the value has more digits than can be written. -/
inductive HasShortNumerals : Json → Prop
  | null : HasShortNumerals .null
  | bool (value : Bool) : HasShortNumerals (.bool value)
  | int {value : Int} (short : value.natAbs < 10 ^ Text.Numeral.digitLimit) :
      HasShortNumerals (.int value)
  | real (value : Double) : HasShortNumerals (.real value)
  | string (value : String) : HasShortNumerals (.string value)
  | array {items : List Json} (each : ∀ item ∈ items, HasShortNumerals item) :
      HasShortNumerals (.array items)
  | object {fields : List (String × Json)} (each : ∀ field ∈ fields, HasShortNumerals field.2) :
      HasShortNumerals (.object fields)

/-- What writing comes upon, if anything, where parts may be nested too deep and numerals may be too
long. -/
inductive Meets (within short : Prop) : Option WritingFault → Prop
  | nothing (isWithin : within) (isShort : short) : Meets within short none
  | long (isLong : ¬ short) : Meets within short (some (.unwritable .numeralTooLong))
  | deep (isDeep : ¬ within) (error : String) : Meets within short (some (.broken error))

/-- Of two things that are written one after the other, the first one counts. -/
theorem Meets.or {within short otherWithin otherShort : Prop} {found other : Option WritingFault}
    (first : Meets within short found) (second : Meets otherWithin otherShort other) :
    Meets (within ∧ otherWithin) (short ∧ otherShort) (found.or other) := by
  cases first with
  | long isLong => exact .long fun both => isLong both.1
  | deep isDeep error => exact .deep (fun both => isDeep both.1) error
  | nothing isWithin isShort =>
    cases second with
    | nothing otherWithin otherShort => exact .nothing ⟨isWithin, otherWithin⟩ ⟨isShort, otherShort⟩
    | long isLong => exact .long fun both => isLong both.2
    | deep isDeep error => exact .deep (fun both => isDeep both.2) error

theorem Meets.congr {within short otherWithin otherShort : Prop} {found : Option WritingFault}
    (meets : Meets within short found) (sameWithin : within ↔ otherWithin)
    (sameShort : short ↔ otherShort) : Meets otherWithin otherShort found :=
  propext sameWithin ▸ propext sameShort ▸ meets

theorem nestsWithin_array_iff {reach : Nat} {items : List Json} :
    NestsWithin (reach + 1) (.array items) ↔ ∀ item ∈ items, NestsWithin reach item :=
  ⟨fun | .array each => each, .array⟩

theorem nestsWithin_object_iff {reach : Nat} {fields : List (String × Json)} :
    NestsWithin (reach + 1) (.object fields) ↔ ∀ field ∈ fields, NestsWithin reach field.2 :=
  ⟨fun | .object each => each, .object⟩

theorem hasShortNumerals_array_iff {items : List Json} :
    HasShortNumerals (.array items) ↔ ∀ item ∈ items, HasShortNumerals item :=
  ⟨fun | .array each => each, .array⟩

theorem hasShortNumerals_object_iff {fields : List (String × Json)} :
    HasShortNumerals (.object fields) ↔ ∀ field ∈ fields, HasShortNumerals field.2 :=
  ⟨fun | .object each => each, .object⟩

theorem hasShortNumerals_int_iff {value : Int} :
    HasShortNumerals (.int value) ↔
      ¬ Text.Numeral.digitLimit < (Text.Numeral.ofNat value.natAbs).length := by
  have digits := @Nat.length_toDigits_le_iff 10 value.natAbs Text.Numeral.digitLimit (by decide)
    (by decide)
  rw [not_lt]
  exact ⟨fun | .int short => digits.mpr short, fun short => .int (digits.mp short)⟩

mutual

/-- What is said to be met in a value is in it. -/
theorem meets_fault? : ∀ (reach : Nat) (value : Json),
    Meets (NestsWithin reach value) (HasShortNumerals value) (fault? reach value)
  | _, .null => .nothing .null .null
  | _, .bool value => .nothing (.bool value) (.bool value)
  | _, .real value => .nothing (.real value) (.real value)
  | _, .string value => .nothing (.string value) (.string value)
  | _, .int value => by
    rw [fault?]
    split
    · next long => exact .long fun short => hasShortNumerals_int_iff.mp short long
    · next short => exact .nothing (.int value) (hasShortNumerals_int_iff.mpr short)
  | 0, .array items => .deep nofun _
  | reach + 1, .array items =>
    (meets_faultOfItems? reach items).congr nestsWithin_array_iff.symm
      hasShortNumerals_array_iff.symm
  | 0, .object fields => .deep nofun _
  | reach + 1, .object fields =>
    (meets_faultOfFields? reach fields).congr nestsWithin_object_iff.symm
      hasShortNumerals_object_iff.symm

theorem meets_faultOfItems? : ∀ (reach : Nat) (items : List Json),
    Meets (∀ item ∈ items, NestsWithin reach item) (∀ item ∈ items, HasShortNumerals item)
      (faultOfItems? reach items)
  | _, [] => .nothing (List.forall_mem_nil _) (List.forall_mem_nil _)
  | reach, item :: rest =>
    ((meets_fault? reach item).or (meets_faultOfItems? reach rest)).congr
      List.forall_mem_cons.symm List.forall_mem_cons.symm

theorem meets_faultOfFields? : ∀ (reach : Nat) (fields : List (String × Json)),
    Meets (∀ field ∈ fields, NestsWithin reach field.2)
      (∀ field ∈ fields, HasShortNumerals field.2) (faultOfFields? reach fields)
  | _, [] => .nothing (List.forall_mem_nil _) (List.forall_mem_nil _)
  | reach, (name, value) :: rest =>
    ((meets_fault? reach value).or (meets_faultOfFields? reach rest)).congr
      (@List.forall_mem_cons _ (fun field => NestsWithin reach field.2) (name, value) rest).symm
      (@List.forall_mem_cons _ (fun field => HasShortNumerals field.2) (name, value) rest).symm

end

end Json

/-! ### Fields -/

namespace Payload

/-- Writing the value does not break off. -/
def StaysWithin (reach : Nat) : Payload → Prop
  | json value => value.NestsWithin reach
  | unwritable _ => True
  | breaking _ => False

/-- The value can be written down. -/
def IsWritable : Payload → Prop
  | json value => value.HasShortNumerals
  | unwritable _ => False
  | breaking _ => False

/-- The value cannot be written down, and this is why. -/
def FailsBy : Payload → Unwritable → Prop
  | json value, cause => ¬ value.HasShortNumerals ∧ cause = .numeralTooLong
  | unwritable own, cause => cause = own
  | breaking _, _ => False

/-- A value can be written down, or it cannot, or writing it breaks off. -/
inductive Writes (reach : Nat) : Payload → Except WritingFault Json → Prop
  | written {value : Json} (within : StaysWithin reach (.json value))
      (writable : IsWritable (.json value)) : Writes reach (.json value) (.ok value)
  | refused {payload : Payload} {cause : Unwritable} (fails : payload.FailsBy cause) :
      Writes reach payload (.error (.unwritable cause))
  | broken {payload : Payload} (beyond : ¬ payload.StaysWithin reach) (error : String) :
      Writes reach payload (.error (.broken error))

theorem writes_written (reach : Nat) (payload : Payload) :
    payload.Writes reach (payload.written reach) := by
  cases payload with
  | unwritable cause => exact .refused rfl
  | breaking error => exact .broken id error
  | json value =>
    have meets := value.meets_fault? reach
    rw [written]
    generalize value.fault? reach = found at meets ⊢
    cases meets with
    | nothing isWithin isShort => exact .written isWithin isShort
    | long isLong => exact .refused ⟨isLong, rfl⟩
    | deep isDeep error => exact @Writes.broken reach (.json value) isDeep error

end Payload

/-- Fields that can be written down, as they stand in an event. -/
def writtenFields (members : List (String × Json)) : List EventField :=
  members.map fun member => (member.1, .json member.2)

theorem lookup_writtenFields (name : String) (members : List (String × Json)) :
    (writtenFields members).lookup name = (members.lookup name).map .json := by
  induction members with
  | nil => rfl
  | cons member members inductionHypothesis =>
    have step : writtenFields (member :: members) =
        (member.1, .json member.2) :: writtenFields members := rfl
    rw [step, lookup_cons_eq_ite, lookup_cons_eq_ite, inductionHypothesis]
    split <;> rfl

theorem names_writtenFields (members : List (String × Json)) :
    (writtenFields members).map (·.1) = members.map (·.1) := by
  rw [writtenFields, List.map_map]
  rfl

/-- Fields can be written down, or one of them cannot, or writing one of them breaks off. -/
inductive WritesFields (reach : Nat) :
    List EventField → Except WritingFault (List (String × Json)) → Prop
  | written {members : List (String × Json)}
      (within : ∀ member ∈ members, Payload.StaysWithin reach (.json member.2))
      (writable : ∀ member ∈ members, Payload.IsWritable (.json member.2)) :
      WritesFields reach (writtenFields members) (.ok members)
  | refused {fields : List EventField} {field : EventField} {cause : Unwritable}
      (member : field ∈ fields) (fails : field.2.FailsBy cause) :
      WritesFields reach fields (.error (.unwritable cause))
  | broken {fields : List EventField} {field : EventField} (member : field ∈ fields)
      (beyond : ¬ field.2.StaysWithin reach) (error : String) :
      WritesFields reach fields (.error (.broken error))

theorem writesFields_writableFields (reach : Nat) (fields : List EventField) :
    WritesFields reach fields (writableFields reach fields) := by
  induction fields with
  | nil => exact @WritesFields.written reach [] (List.forall_mem_nil _) (List.forall_mem_nil _)
  | cons field rest inductionHypothesis =>
    obtain ⟨name, payload⟩ := field
    have first := payload.writes_written reach
    rw [writableFields]
    generalize payload.written reach = written at first ⊢
    cases first with
    | refused fails => exact .refused List.mem_cons_self fails
    | broken beyond error => exact .broken List.mem_cons_self beyond error
    | @written value within writable =>
      dsimp only
      generalize writableFields reach rest = others at inductionHypothesis ⊢
      cases inductionHypothesis with
      | @written members othersWithin othersWritable =>
        exact @WritesFields.written reach ((name, value) :: members)
          (List.forall_mem_cons.mpr ⟨within, othersWithin⟩)
          (List.forall_mem_cons.mpr ⟨writable, othersWritable⟩)
      | refused member fails => exact .refused (List.mem_cons_of_mem _ member) fails
      | broken member beyond error => exact .broken (List.mem_cons_of_mem _ member) beyond error

namespace Journal

variable {journal : Journal} {fields : List EventField} {readings : Readings}

/-- What fields come to in a log that accepts all lines: they are logged, or there is a complaint
about one of them that cannot be written down, or writing one of them breaks off. -/
inductive Emits (journal : Journal) (readings : Readings) : List EventField → Recorded → Prop
  | logged {members : List (String × Json)}
      (within : ∀ member ∈ members, Payload.StaysWithin journal.reach (.json member.2))
      (writable : ∀ member ∈ members, Payload.IsWritable (.json member.2)) :
      Emits journal readings (writtenFields members)
        (.ok (.logged (Json.toLine (.object members))))
  | refused {fields : List EventField} {field : EventField} {cause : Unwritable}
      (member : field ∈ fields) (fails : field.2.FailsBy cause) :
      Emits journal readings fields
        (.ok (journal.failureLine readings.take.2.next cause.message))
  | broken {fields : List EventField} {field : EventField} (member : field ∈ fields)
      (beyond : ¬ field.2.StaysWithin journal.reach) (error : String) :
      Emits journal readings fields (.error error)

theorem emits_emit (accepting : journal.destination = .accepting) (fields : List EventField)
    (readings : Readings) :
    journal.Emits readings (journal.stamped readings.next fields)
      (journal.emit fields readings).1 := by
  have writes := writesFields_writableFields journal.reach (journal.stamped readings.next fields)
  have stamps : setPayload "timestamp" (.json (.real readings.next))
      (setPayload "trace_id" (.json (.string journal.traceId)) fields) =
        journal.stamped readings.next fields := rfl
  rw [emit, accepting]
  dsimp only [Readings.take]
  rw [stamps]
  generalize journal.stamped readings.next fields = given at writes ⊢
  generalize writableFields journal.reach given = written at writes ⊢
  cases writes with
  | written within writable => exact .logged within writable
  | refused member fails => exact .refused member fails
  | broken member beyond error => exact .broken member beyond error

end Journal

end OpeningHours
