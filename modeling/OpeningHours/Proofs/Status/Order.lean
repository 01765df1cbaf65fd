import Mathlib.Data.List.Basic
import OpeningHours.Status.Order

/-
The order of statuses is a partition into three tiers. Sorting is stable, so the items of one rank
are found in the sorted list as they came; and a list in which the ranks do not decrease is made up
of its tiers, one behind the other. Both together say what the sorted list is, without regard to how
it is sorted: the open items, the closed ones and the unknown ones, each block as it came. All that
is said of the order is derived from this one description.
-/

namespace OpeningHours

/-! ### Stable sorting -/

section

variable {Item : Type} {mayPrecede : Item → Item → Bool}

/-- A stable sort leaves those items as they came of which each may precede each other one. -/
theorem filter_mergeSort_of_alike
    (transitive : ∀ first second third : Item, mayPrecede first second = true →
      mayPrecede second third = true → mayPrecede first third = true)
    (total : ∀ first second : Item, (mayPrecede first second || mayPrecede second first) = true)
    (keep : Item → Bool)
    (alike : ∀ first second : Item, keep first = true → keep second = true →
      mayPrecede first second = true)
    (items : List Item) :
    (items.mergeSort mayPrecede).filter keep = items.filter keep := by
  have ordered : (items.filter keep).Pairwise fun first second => mayPrecede first second = true :=
    List.Pairwise.imp_of_mem
      (fun member other _ => alike _ _ (List.of_mem_filter member) (List.of_mem_filter other))
      (List.pairwise_of_forall fun _ _ => trivial)
  have kept : (items.filter keep).Sublist ((items.mergeSort mayPrecede).filter keep) := by
    have found := (List.sublist_mergeSort transitive total ordered List.filter_sublist).filter keep
    simpa only [List.filter_filter, Bool.and_self] using found
  have sameLength : (items.filter keep).length = ((items.mergeSort mayPrecede).filter keep).length :=
    ((List.mergeSort_perm items mayPrecede).filter keep).length_eq.symm
  exact (kept.eq_of_length sameLength).symm

/-- A list in which no item of a kind comes behind one of another kind is made up of the items of
the kind and of the others behind them. -/
theorem filter_append_filter_not_of_leading {leads : Item → Bool} {items : List Item}
    (leading : items.Pairwise fun first second => leads second = true → leads first = true) :
    items.filter leads ++ items.filter (fun item => !leads item) = items := by
  induction leading with
  | nil => rfl
  | @cons item rest ahead _ inductionHypothesis =>
    cases head : leads item with
    | true =>
      rw [List.filter_cons_of_pos head, List.filter_cons_of_neg (by rw [head]; decide),
        List.cons_append, inductionHypothesis]
    | false =>
      have none : rest.filter leads = [] := by
        refine List.filter_eq_nil_iff.mpr fun other member isLeading => ?_
        rw [ahead other member isLeading] at head
        cases head
      rw [none, List.nil_append] at inductionHypothesis
      rw [List.filter_cons_of_neg (by rw [head]; decide), none, List.nil_append,
        List.filter_cons_of_pos (by rw [head]; rfl), inductionHypothesis]

end

namespace OpenStatus

variable {Item Origin : Type} (status : Item → Option OpenStatus)

/-! ### The tiers -/

/-- There is a status and it is closed. -/
def isKnownClosed (status : Option OpenStatus) : Bool :=
  status.any fun known => !known.isOpen

/-- The test that the statuses of a tier pass, and no others. -/
def belongsTo : StatusTier → Option OpenStatus → Bool
  | .isOpen => isKnownOpen
  | .isClosed => isKnownClosed
  | .isUnknown => Option.isNone

theorem belongsTo_iff (tier : StatusTier) (status : Option OpenStatus) :
    belongsTo tier status = true ↔ rankOf status = tier.rank := by
  cases status with
  | none => cases tier <;> decide
  | some known =>
    cases isOpen : known.isOpen <;> cases tier <;>
      simp [rankOf, StatusTier.of, StatusTier.rank, belongsTo, isKnownOpen, isKnownClosed, isOpen]

theorem isKnownClosed_and_not_open (status : Option OpenStatus) :
    (isKnownClosed status && !isKnownOpen status) = isKnownClosed status := by
  cases status with
  | none => rfl
  | some known => cases isOpen : known.isOpen <;> simp [isKnownClosed, isKnownOpen, isOpen]

theorem not_closed_and_not_open (status : Option OpenStatus) :
    (!isKnownClosed status && !isKnownOpen status) = status.isNone := by
  cases status with
  | none => rfl
  | some known => cases isOpen : known.isOpen <;> simp [isKnownClosed, isKnownOpen, isOpen]

/-- The items as they stand in order: the open ones, the closed ones and the unknown ones, each
block as it came. -/
def tiers (items : List Item) : List Item :=
  items.filter (fun item => isKnownOpen (status item)) ++
    items.filter (fun item => isKnownClosed (status item)) ++
    items.filter fun item => (status item).isNone

theorem rankOf_transitive (first second third : Item)
    (one : decide (rankOf (status first) ≤ rankOf (status second)) = true)
    (other : decide (rankOf (status second) ≤ rankOf (status third)) = true) :
    decide (rankOf (status first) ≤ rankOf (status third)) = true := by
  rw [decide_eq_true_eq] at one other ⊢
  exact Nat.le_trans one other

theorem rankOf_total (first second : Item) :
    (decide (rankOf (status first) ≤ rankOf (status second)) ||
      decide (rankOf (status second) ≤ rankOf (status first))) = true := by
  rw [Bool.or_eq_true, decide_eq_true_eq, decide_eq_true_eq]
  exact Nat.le_total _ _

/-- Sorting leaves the items of one rank as they came. -/
theorem filter_sortBy {keep : Item → Bool} {rank : Nat}
    (ranked : ∀ item, keep item = true → rankOf (status item) = rank) (items : List Item) :
    (sortBy status items).filter keep = items.filter keep := by
  refine filter_mergeSort_of_alike (rankOf_transitive status) (rankOf_total status) keep
    (fun first second one other => ?_) items
  rw [ranked first one, ranked second other]
  exact decide_eq_true (Nat.le_refl rank)

/-- In the order ranks do not decrease. -/
theorem pairwise_sortBy (items : List Item) :
    (sortBy status items).Pairwise fun first second =>
      rankOf (status first) ≤ rankOf (status second) :=
  (List.pairwise_mergeSort (rankOf_transitive status) (rankOf_total status) items).imp
    of_decide_eq_true

/-- A list in which ranks do not decrease consists of its tiers, one behind the other. -/
theorem tiers_eq_self {items : List Item}
    (ordered : items.Pairwise fun first second =>
      rankOf (status first) ≤ rankOf (status second)) :
    tiers status items = items := by
  have openLead : items.Pairwise fun first second =>
      isKnownOpen (status second) = true → isKnownOpen (status first) = true := by
    refine ordered.imp fun {first second} le isOpen => ?_
    have last : rankOf (status second) = 0 := (belongsTo_iff .isOpen _).mp isOpen
    exact (belongsTo_iff .isOpen _).mpr (Nat.le_zero.mp (last ▸ le))
  have closedLead : (items.filter fun item => !isKnownOpen (status item)).Pairwise
      fun first second =>
        isKnownClosed (status second) = true → isKnownClosed (status first) = true := by
    refine (ordered.filter _).imp_of_mem fun {first second} member _ le isClosed => ?_
    have notOpen : rankOf (status first) ≠ 0 := fun zero => by
      have isOpen : isKnownOpen (status first) = true := (belongsTo_iff .isOpen _).mpr zero
      rw [List.mem_filter, isOpen] at member
      exact Bool.false_ne_true member.2
    have last : rankOf (status second) = 1 := (belongsTo_iff .isClosed _).mp isClosed
    have same : rankOf (status first) = 1 := by omega
    exact (belongsTo_iff .isClosed _).mpr same
  have closed : (items.filter fun item => !isKnownOpen (status item)).filter
      (fun item => isKnownClosed (status item)) =
        items.filter fun item => isKnownClosed (status item) := by
    rw [List.filter_filter]
    exact List.filter_congr fun item _ => isKnownClosed_and_not_open (status item)
  have unknown : (items.filter fun item => !isKnownOpen (status item)).filter
      (fun item => !isKnownClosed (status item)) =
        items.filter fun item => (status item).isNone := by
    rw [List.filter_filter]
    exact List.filter_congr fun item _ => not_closed_and_not_open (status item)
  rw [tiers, ← closed, ← unknown, List.append_assoc,
    filter_append_filter_not_of_leading closedLead, filter_append_filter_not_of_leading openLead]

/-- Sorting lists the tiers one behind the other. -/
theorem sortBy_eq_tiers (items : List Item) : sortBy status items = tiers status items := by
  have kept (tier : StatusTier) : (sortBy status items).filter (fun item =>
      belongsTo tier (status item)) = items.filter fun item => belongsTo tier (status item) :=
    filter_sortBy status (fun item => (belongsTo_iff tier (status item)).mp) items
  calc sortBy status items
    _ = tiers status (sortBy status items) := (tiers_eq_self status (pairwise_sortBy _ _)).symm
    _ = tiers status items :=
      congrArg₂ (· ++ ·) (congrArg₂ (· ++ ·) (kept .isOpen) (kept .isClosed)) (kept .isUnknown)

/-! ### What follows from the tiers -/

/-- The order has the same items. -/
theorem sortBy_perm (items : List Item) : (sortBy status items).Perm items :=
  List.mergeSort_perm items _

/-- What is in order stays as it is. -/
theorem sortBy_sortBy (items : List Item) :
    sortBy status (sortBy status items) = sortBy status items := by
  rw [sortBy_eq_tiers, tiers_eq_self status (pairwise_sortBy status items)]

/-- What is made of some of the items, each of them with the status of its origin, stands in the
order of the origins. -/
theorem sortBy_filterMap (origin : Origin → Option OpenStatus) (make : Origin → Option Item)
    (same : ∀ source item, make source = some item → status item = origin source)
    (sources : List Origin) :
    sortBy status (sources.filterMap make) = (sortBy origin sources).filterMap make := by
  have block : ∀ keep : Option OpenStatus → Bool,
      (sources.filterMap make).filter (fun item => keep (status item)) =
        (sources.filter fun source => keep (origin source)).filterMap make := by
    intro keep
    rw [List.filter_filterMap, List.filterMap_filter]
    refine List.filterMap_congr fun source _ => ?_
    cases made : make source with
    | none => simp
    | some item => simp [Option.filter, same source item made]
  rw [sortBy_eq_tiers, sortBy_eq_tiers, tiers, tiers, List.filterMap_append, List.filterMap_append,
    block isKnownOpen, block isKnownClosed, block Option.isNone]

/-- What is made of each of the items stands in the order of the items. -/
theorem sortBy_map (origin : Origin → Option OpenStatus) (make : Origin → Item)
    (same : ∀ source, status (make source) = origin source) (sources : List Origin) :
    sortBy status (sources.map make) = (sortBy origin sources).map make := by
  have made := sortBy_filterMap status origin (some ∘ make)
    (fun source item isMade => Option.some.inj isMade ▸ same source) sources
  rwa [List.filterMap_eq_map] at made

end OpenStatus

end OpeningHours
