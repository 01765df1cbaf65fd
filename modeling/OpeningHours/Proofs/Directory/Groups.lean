import Mathlib.Data.Char
import Mathlib.Data.List.Lex
import Mathlib.Data.List.Nodup
import OpeningHours.Directory
import OpeningHours.Proofs.Directory.Sorted

/-
The order of groups. Which group may stand before another is told by whether they have an open
resource and by their titles without differences of case; this is a total preorder, so a stable sort
by it lists the groups without losing or doubling any, and groups that are alike stay as they came.
The group for everything else is taken out and put at the end, which does not disturb the others.
Where no two titles are alike the preorder leaves only one order, so it does not matter in which
order the groups are given.
-/

namespace OpeningHours.Directory

open Text

/-! ### The order of titles -/

theorem isLE_compare_iff_not_lt (first second : List Char) :
    (compare first second).isLE = true ↔ ¬ second < first := by
  induction first generalizing second with
  | nil => cases second <;> simp
  | cons char rest inductionHypothesis =>
    cases second with
    | nil => simp
    | cons otherChar otherRest =>
      have less : compare char otherChar = .lt ↔ char < otherChar := compareOfLessAndEq_eq_lt
      rw [List.compare_cons_cons, List.not_lt, List.cons_le_cons_iff, Ordering.isLE_then_iff_or,
        inductionHypothesis, List.not_lt, less, Std.compare_eq_iff_eq]

theorem isLE_compare_iff_le (first second : List Char) :
    (compare first second).isLE = true ↔ first ≤ second :=
  (isLE_compare_iff_not_lt first second).trans not_lt

/-- The title of a group without differences of case. -/
def foldedTitle (title : String) : List Char :=
  caseFold title.toList

/-! ### The order of groups -/

section

variable {Resource : Type}

namespace Group

theorem mayPrecede_iff (first second : Group Resource) :
    first.mayPrecede second = true ↔
      (second.hasOpen = true → first.hasOpen = true) ∧
        (first.hasOpen = second.hasOpen → foldedTitle first.title ≤ foldedTitle second.title) := by
  unfold mayPrecede
  split
  · next same =>
    rw [isLE_compare_iff_le]
    exact ⟨fun le => ⟨fun isOpen => same.trans isOpen, fun _ => le⟩, fun both => both.2 same⟩
  · next differ =>
    refine ⟨fun isOpen => ⟨fun _ => isOpen, fun same => absurd same differ⟩, fun both => ?_⟩
    cases isOpen : first.hasOpen with
    | true => rfl
    | false =>
      cases otherOpen : second.hasOpen with
      | true => rw [← isOpen, both.1 otherOpen]
      | false => exact absurd (isOpen.trans otherOpen.symm) differ

theorem mayPrecede_transitive (first second third : Group Resource)
    (one : first.mayPrecede second = true) (other : second.mayPrecede third = true) :
    first.mayPrecede third = true := by
  rw [mayPrecede_iff] at one other ⊢
  refine ⟨fun isOpen => one.1 (other.1 isOpen), fun same => ?_⟩
  -- The group in between is open exactly when the two others are.
  have middle : first.hasOpen = second.hasOpen := by
    cases isOpen : second.hasOpen with
    | true => exact one.1 isOpen
    | false =>
      cases firstOpen : first.hasOpen with
      | false => rfl
      | true => rw [← isOpen, other.1 (same ▸ firstOpen)]
  exact le_trans (one.2 middle) (other.2 (middle.symm.trans same))

theorem mayPrecede_total (first second : Group Resource) :
    (first.mayPrecede second || second.mayPrecede first) = true := by
  rw [Bool.or_eq_true, mayPrecede_iff, mayPrecede_iff]
  by_cases same : first.hasOpen = second.hasOpen
  · refine (le_total (foldedTitle first.title) (foldedTitle second.title)).imp ?_ ?_
    · exact fun le => ⟨fun isOpen => same.trans isOpen, fun _ => le⟩
    · exact fun le => ⟨fun isOpen => same.symm.trans isOpen, fun _ => le⟩
  · cases isOpen : first.hasOpen with
    | true =>
      exact Or.inl ⟨fun _ => rfl, fun equal => absurd (isOpen.trans equal) same⟩
    | false =>
      refine Or.inr ⟨fun impossible => ?_, fun equal => absurd (isOpen.trans equal.symm) same⟩
      cases impossible

/-- Groups that may each stand before the other have titles that differ in case only. -/
theorem foldedTitle_eq_of_mayPrecede {first second : Group Resource}
    (one : first.mayPrecede second = true) (other : second.mayPrecede first = true) :
    foldedTitle first.title = foldedTitle second.title := by
  rw [mayPrecede_iff] at one other
  have same : first.hasOpen = second.hasOpen :=
    Bool.eq_iff_iff.mpr ⟨other.1, one.1⟩
  exact le_antisymm (one.2 same) (other.2 same.symm)

end Group

/-! ### Groups in order -/

variable (hours : Resource → Option String) (now : CivilTime)

/-- The groups judged and sorted, the group for everything else among them. -/
def placed (groups : List (String × List Resource)) : List (Group Resource) :=
  (groups.map (judge hours now)).mergeSort Group.mayPrecede

/-- The group is not the one for everything else. -/
def Group.isRegular (group : Group Resource) : Bool :=
  decide (group.title ≠ otherServices)

theorem orderGroups_eq (groups : List (String × List Resource)) :
    orderGroups hours now groups =
      (placed hours now groups).filter Group.isRegular ++
        (placed hours now groups).filter fun group => !group.isRegular := by
  have others : (fun group : Group Resource => decide (group.title = otherServices)) =
      fun group => !group.isRegular :=
    funext fun group => by simp [Group.isRegular]
  rw [orderGroups, others]
  rfl

theorem placed_perm (groups : List (String × List Resource)) :
    (placed hours now groups).Perm (groups.map (judge hours now)) :=
  List.mergeSort_perm _ _

/-- Ordering groups loses none of them and doubles none. -/
theorem orderGroups_perm (groups : List (String × List Resource)) :
    (orderGroups hours now groups).Perm (groups.map (judge hours now)) := by
  rw [orderGroups_eq]
  exact (List.filter_append_perm _ _).trans (placed_perm hours now groups)

theorem pairwise_placed (groups : List (String × List Resource)) :
    (placed hours now groups).Pairwise fun first second => first.mayPrecede second = true :=
  List.pairwise_mergeSort Group.mayPrecede_transitive Group.mayPrecede_total _

theorem filter_isRegular_orderGroups (groups : List (String × List Resource)) :
    (orderGroups hours now groups).filter Group.isRegular =
      (placed hours now groups).filter Group.isRegular := by
  rw [orderGroups_eq, List.filter_append, List.filter_filter, List.filter_filter]
  simp

/-- A group has an open resource exactly when those of its resources that are open are not none. -/
theorem hasOpen_judge_iff (group : String × List Resource) :
    (judge hours now group).hasOpen = true ↔
      openNow hours now (judge hours now group).resources ≠ [] := by
  rw [openNow_eq_filter, judge, statuses_eq, List.any_map, List.any_eq_true, ne_eq,
    List.filter_eq_nil_iff]
  push Not
  rfl

/-- With titles that are all different the group for everything else is the last one. -/
theorem getLast?_orderGroups {groups : List (String × List Resource)}
    (distinct : (groups.map fun group => group.1).Nodup) {group : Group Resource}
    (member : group ∈ orderGroups hours now groups) (isOther : group.title = otherServices) :
    (orderGroups hours now groups).getLast? = some group := by
  have titles : ((orderGroups hours now groups).map fun group => group.title).Nodup := by
    have perm := (orderGroups_perm hours now groups).map fun group => group.title
    rw [List.map_map] at perm
    exact perm.nodup_iff.mpr distinct
  have found : group ∈ (placed hours now groups).filter fun group => !group.isRegular := by
    refine List.mem_filter.mpr ⟨?_, by simp [Group.isRegular, isOther]⟩
    exact (placed_perm hours now groups).mem_iff.mpr
      ((orderGroups_perm hours now groups).mem_iff.mp member)
  -- The list ends with some group for everything else, and there is but one.
  have atEnd : (orderGroups hours now groups).getLast? =
      ((placed hours now groups).filter fun group => !group.isRegular).getLast? := by
    rw [orderGroups_eq, List.getLast?_append_of_ne_nil _ (List.ne_nil_of_mem found)]
  cases last : ((placed hours now groups).filter fun group => !group.isRegular).getLast? with
  | none => exact absurd (List.getLast?_eq_none_iff.mp last) (List.ne_nil_of_mem found)
  | some final =>
    have finalOther : final.title = otherServices := by
      have others := (List.mem_filter.mp (List.mem_of_getLast? last)).2
      simpa [Group.isRegular] using others
    have finalMember : final ∈ orderGroups hours now groups :=
      List.mem_of_getLast? (atEnd.trans last)
    rw [atEnd, last, List.inj_on_of_nodup_map titles finalMember member
      (finalOther.trans isOther.symm)]

/-- Two regular groups of which the first may stand before the second stay in that order. -/
theorem pair_sublist_orderGroups {groups : List (String × List Resource)}
    {first second : String × List Resource} (ordered : [first, second].Sublist groups)
    (firstRegular : (judge hours now first).isRegular = true)
    (secondRegular : (judge hours now second).isRegular = true)
    (may : (judge hours now first).mayPrecede (judge hours now second) = true) :
    [judge hours now first, judge hours now second].Sublist (orderGroups hours now groups) := by
  have sorted : [judge hours now first, judge hours now second].Sublist
      (placed hours now groups) :=
    List.pair_sublist_mergeSort Group.mayPrecede_transitive Group.mayPrecede_total may
      (ordered.map (judge hours now))
  have regular := sorted.filter Group.isRegular
  rw [List.filter_cons_of_pos firstRegular, List.filter_cons_of_pos secondRegular,
    List.filter_nil] at regular
  rw [orderGroups_eq]
  exact regular.trans (List.sublist_append_left _ _)

/-- With titles that are all different, differences of case apart, the order of the groups that are
given does not matter. -/
theorem orderGroups_of_perm {groups others : List (String × List Resource)}
    (distinct : (groups.map fun group => foldedTitle group.1).Nodup) (perm : others.Perm groups) :
    orderGroups hours now others = orderGroups hours now groups := by
  have titles : ((groups.map (judge hours now)).map fun group => foldedTitle group.title).Nodup := by
    rw [List.map_map]
    exact distinct
  have same : placed hours now others = placed hours now groups := by
    refine List.Perm.eq_of_pairwise (fun first second member other one another => ?_)
      (pairwise_placed hours now others) (pairwise_placed hours now groups) ?_
    · have firstMember := (perm.map (judge hours now)).mem_iff.mp
        ((placed_perm hours now others).mem_iff.mp member)
      exact List.inj_on_of_nodup_map titles firstMember
        ((placed_perm hours now groups).mem_iff.mp other)
        (Group.foldedTitle_eq_of_mayPrecede one another)
    · exact (placed_perm hours now others).trans
        ((perm.map (judge hours now)).trans (placed_perm hours now groups).symm)
  rw [orderGroups_eq, orderGroups_eq, same]

/-- Groups under different titles are listed each once and unchanged, each open exactly when one of
its resources is. The group for everything else comes last; of the others the open ones come first,
within a tier titles do not decrease, and groups that are alike in both stay as they came. Hence the
order in which the groups are given does not matter where their titles differ in more than case. -/
theorem groups_are_ordered (groups : List (String × List Resource))
    (distinct : (groups.map fun group => group.1).Nodup) :
    ((orderGroups hours now groups).map fun group => (group.title, group.resources)).Perm groups ∧
      (∀ group ∈ orderGroups hours now groups,
        group.hasOpen = true ↔ openNow hours now group.resources ≠ []) ∧
      (∀ group ∈ orderGroups hours now groups, group.title = "Other Services" →
        (orderGroups hours now groups).getLast? = some group) ∧
      ((orderGroups hours now groups).filter fun group =>
          decide (group.title ≠ "Other Services")).Pairwise (fun first second =>
        (second.hasOpen = true → first.hasOpen = true) ∧
          (first.hasOpen = second.hasOpen →
            caseFold first.title.toList ≤ caseFold second.title.toList)) ∧
      (∀ first second, [first, second].Sublist groups →
        first.1 ≠ "Other Services" → second.1 ≠ "Other Services" →
        (judge hours now first).hasOpen = (judge hours now second).hasOpen →
        caseFold first.1.toList = caseFold second.1.toList →
        [judge hours now first, judge hours now second].Sublist
          (orderGroups hours now groups)) ∧
      ((groups.map fun group => caseFold group.1.toList).Nodup →
        ∀ others, others.Perm groups →
          orderGroups hours now others = orderGroups hours now groups) := by
  refine ⟨?_, ?_, ?_, ?_, ?_, ?_⟩
  · have perm := (orderGroups_perm hours now groups).map fun group =>
      (group.title, group.resources)
    rw [List.map_map] at perm
    exact perm.trans (List.Perm.of_eq (List.map_id _))
  · intro group member
    obtain ⟨given, _, rfl⟩ := List.mem_map.mp ((orderGroups_perm hours now groups).mem_iff.mp member)
    exact hasOpen_judge_iff hours now given
  · intro group member isOther
    exact getLast?_orderGroups hours now distinct member isOther
  · have ordered := (pairwise_placed hours now groups).filter Group.isRegular
    rw [← filter_isRegular_orderGroups] at ordered
    exact ordered.imp (Group.mayPrecede_iff _ _).mp
  · intro first second ordered firstRegular secondRegular sameTier sameTitle
    refine pair_sublist_orderGroups hours now ordered (decide_eq_true firstRegular)
      (decide_eq_true secondRegular) ((Group.mayPrecede_iff _ _).mpr ⟨?_, ?_⟩)
    · exact fun isOpen => sameTier.trans isOpen
    · intro _
      have same : foldedTitle (judge hours now first).title =
          foldedTitle (judge hours now second).title :=
        sameTitle
      exact same.le
  · intro titles others perm
    exact orderGroups_of_perm hours now titles perm

end

/-- Four groups on a Thursday at midnight: the one for everything else is open and yet the last, and
two titles that differ in case alone stay as they came. -/
theorem four_groups_in_order :
    (["Shelters", "Other Services", "FOOD", "food"] : List String).Nodup ∧
    (orderGroups id ⟨.thursday, 0, by decide⟩
        [("Shelters", [some "9-17", some "24/7"]), ("Other Services", [some "24/7"]),
          ("FOOD", [none]), ("food", [])]).getLast? =
      some ⟨"Other Services", [some "24/7"], true⟩ ∧
    [(⟨"FOOD", [none], false⟩ : Group (Option String)), ⟨"food", [], false⟩].Sublist
      (orderGroups id ⟨.thursday, 0, by decide⟩
        [("Shelters", [some "9-17", some "24/7"]), ("Other Services", [some "24/7"]),
          ("FOOD", [none]), ("food", [])]) := by
  have distinct : (["Shelters", "Other Services", "FOOD", "food"] : List String).Nodup := by decide
  obtain ⟨_, _, last, _, ties, _⟩ :=
    groups_are_ordered id ⟨.thursday, 0, by decide⟩
      [("Shelters", [some "9-17", some "24/7"]), ("Other Services", [some "24/7"]),
        ("FOOD", [none]), ("food", [])] distinct
  refine ⟨distinct, ?_, ?_⟩
  · refine last _ ((orderGroups_perm id _ _).mem_iff.mpr ?_) rfl
    exact List.mem_of_mem_tail (List.mem_cons_self)
  · exact ties ("FOOD", [none]) ("food", []) (by simp) (by decide) (by decide) rfl (by decide)

end OpeningHours.Directory
