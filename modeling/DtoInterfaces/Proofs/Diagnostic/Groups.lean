import DtoInterfaces.Diagnostic.Report
import DtoInterfaces.Proofs.Text.Distinct
import Mathlib.Data.List.Induction

namespace DtoInterfaces.Collector

open Text

/-- The diagnostics of a list that belong to a group. -/
def membersOf (ds : List Diagnostic) (name : Text) : List Diagnostic :=
  ds.filter fun d => groupOf d == name

variable {ds : List Diagnostic} {d : Diagnostic} {name : Text}

theorem mem_membersOf {e : Diagnostic} : e ∈ membersOf ds name ↔ e ∈ ds ∧ groupOf e = name := by
  rw [membersOf, List.mem_filter, beq_iff_eq]

theorem membersOf_append_eq (h : groupOf d = name) :
    membersOf (ds ++ [d]) name = membersOf ds name ++ [d] := by
  simp [membersOf, h]

theorem membersOf_append_ne (h : groupOf d ≠ name) :
    membersOf (ds ++ [d]) name = membersOf ds name := by
  simp [membersOf, h]

theorem membersOf_eq_nil (h : ∀ e ∈ ds, groupOf e ≠ name) : membersOf ds name = [] :=
  List.filter_eq_nil_iff.2 fun e he => by simpa using h e he

/-- The groups of these names, in this order. -/
def groupsOf (ds : List Diagnostic) (names : List Text) : List (Text × List Diagnostic) :=
  names.map fun name => (name, membersOf ds name)

theorem groupsOf_cons (ds : List Diagnostic) (name : Text) (names : List Text) :
    groupsOf ds (name :: names) = (name, membersOf ds name) :: groupsOf ds names := rfl

theorem groupsOf_append_of_notMem {names : List Text} (h : groupOf d ∉ names) :
    groupsOf (ds ++ [d]) names = groupsOf ds names := by
  apply List.map_congr_left
  intro name hname
  rw [membersOf_append_ne]
  rintro rfl
  exact h hname

/-- A diagnostic of a group that is there. -/
theorem addToGroup_groupsOf_of_mem {names : List Text} (hnodup : names.Nodup)
    (h : groupOf d ∈ names) : addToGroup d (groupsOf ds names) = groupsOf (ds ++ [d]) names := by
  induction names with
  | nil => exact absurd h List.not_mem_nil
  | cons name names ih =>
    obtain ⟨hname, hnodup⟩ := List.nodup_cons.1 hnodup
    rw [groupsOf_cons, groupsOf_cons, addToGroup]
    split
    · next heq =>
      rw [membersOf_append_eq heq, groupsOf_append_of_notMem (heq ▸ hname)]
    · next hne =>
      rw [membersOf_append_ne hne, ih hnodup ((List.mem_cons.1 h).resolve_left hne)]

/-- A diagnostic of a group that is new. -/
theorem addToGroup_groupsOf_of_notMem {names : List Text} (hnew : ∀ e ∈ ds, groupOf e ≠ groupOf d)
    (h : groupOf d ∉ names) :
    addToGroup d (groupsOf ds names) = groupsOf (ds ++ [d]) (names ++ [groupOf d]) := by
  induction names with
  | nil => simp [groupsOf, addToGroup, membersOf_append_eq, membersOf_eq_nil hnew]
  | cons name names ih =>
    rw [List.mem_cons, not_or] at h
    rw [List.cons_append, groupsOf_cons, groupsOf_cons, addToGroup, if_neg h.1,
      membersOf_append_ne h.1, ih h.2]

/-- The groups before they are put in order. -/
def unsorted (ds : List Diagnostic) : List (Text × List Diagnostic) :=
  ds.foldl (fun found d => addToGroup d found) []

theorem unsorted_append (ds : List Diagnostic) (d : Diagnostic) :
    unsorted (ds ++ [d]) = addToGroup d (unsorted ds) := by
  rw [unsorted, List.foldl_append]
  rfl

theorem exists_unsorted_eq (ds : List Diagnostic) :
    ∃ names : List Text, unsorted ds = groupsOf ds names ∧ names.Nodup ∧
      ∀ name, name ∈ names ↔ ∃ d ∈ ds, groupOf d = name := by
  induction ds using List.reverseRecOn with
  | nil => exact ⟨[], rfl, List.nodup_nil, by simp⟩
  | append_singleton ds d ih =>
    obtain ⟨names, hunsorted, hnodup, hmem⟩ := ih
    have hmem' (name : Text) :
        (∃ e ∈ ds ++ [d], groupOf e = name) ↔ name ∈ names ∨ name = groupOf d := by
      simp only [List.mem_append, List.mem_singleton, or_and_right, exists_or, exists_eq_left]
      rw [hmem, eq_comm (a := name)]
    rw [unsorted_append, hunsorted]
    by_cases h : groupOf d ∈ names
    · refine ⟨names, addToGroup_groupsOf_of_mem hnodup h, hnodup, fun name => ?_⟩
      rw [hmem']
      exact (or_iff_left_of_imp fun heq => heq ▸ h).symm
    · have hnew : ∀ e ∈ ds, groupOf e ≠ groupOf d := fun e he heq => h ((hmem _).2 ⟨e, he, heq⟩)
      refine ⟨_, addToGroup_groupsOf_of_notMem hnew h, ?_, fun name => ?_⟩
      · refine List.nodup_append.2 ⟨hnodup, List.pairwise_singleton _ _, ?_⟩
        rintro name hname _ hd rfl
        exact h (List.mem_singleton.1 hd ▸ hname)
      · rw [hmem', List.mem_append, List.mem_singleton]

theorem inNameOrder_groupsOf (ds : List Diagnostic) (names : List Text) :
    inNameOrder (groupsOf ds names) =
      groupsOf ds (names.mergeSort fun a b => !decide (b < a)) :=
  (List.map_mergeSort (f := fun name => (name, membersOf ds name)) fun _ _ _ _ => rfl).symm

/-- The names of the groups, and with them the groups themselves. -/
theorem exists_groups_eq (ds : List Diagnostic) :
    ∃ names : List Text, groups ds = groupsOf ds names ∧ names.Pairwise (· < ·) ∧
      ∀ name, name ∈ names ↔ ∃ d ∈ ds, groupOf d = name := by
  obtain ⟨names, hunsorted, hnodup, hmem⟩ := exists_unsorted_eq ds
  refine ⟨names.mergeSort fun a b => !decide (b < a), ?_, pairwise_lt_mergeSort hnodup, fun name =>
    List.mem_mergeSort.trans (hmem name)⟩
  rw [← inNameOrder_groupsOf, ← hunsorted]
  rfl

theorem perm_addToGroup (d : Diagnostic) (found : List (Text × List Diagnostic)) :
    ((addToGroup d found).flatMap Prod.snd).Perm (d :: found.flatMap Prod.snd) := by
  induction found with
  | nil => exact .refl _
  | cons group rest ih =>
    rw [addToGroup]
    split
    · simp only [List.flatMap_cons, List.append_assoc]
      exact List.perm_middle
    · exact (ih.append_left group.2).trans List.perm_middle

theorem perm_groups (ds : List Diagnostic) : ((groups ds).flatMap Prod.snd).Perm ds := by
  refine ((List.mergeSort_perm _ _).flatMap_right _).trans ?_
  change ((unsorted ds).flatMap Prod.snd).Perm ds
  induction ds using List.reverseRecOn with
  | nil => exact .refl _
  | append_singleton ds d ih =>
    rw [unsorted_append]
    exact (perm_addToGroup d _).trans ((ih.cons d).trans (List.perm_append_singleton d ds).symm)

def sizes (found : List (Text × List Diagnostic)) : List (Text × Nat) :=
  found.map fun group => (group.1, group.2.length)

theorem count_sizes (d : Diagnostic) (found : List (Text × List Diagnostic)) :
    count (groupOf d) (sizes found) = sizes (addToGroup d found) := by
  induction found with
  | nil => rfl
  | cons group rest ih =>
    change count _ ((group.1, group.2.length) :: sizes rest) = _
    rw [count, addToGroup]
    split
    · simp [sizes]
    · rw [ih]
      rfl

theorem foldl_count_eq (ds : List Diagnostic) :
    ds.foldl (fun found d => count (groupOf d) found) [] = sizes (unsorted ds) := by
  induction ds using List.reverseRecOn with
  | nil => rfl
  | append_singleton ds d ih =>
    rw [unsorted_append, ← count_sizes, ← ih, List.foldl_append]
    rfl

theorem tally_eq (ds : List Diagnostic) : tally ds = sizes (groups ds) := by
  rw [tally, foldl_count_eq]
  exact (List.map_mergeSort (f := fun group : Text × List Diagnostic =>
    (group.1, group.2.length)) fun _ _ _ _ => rfl).symm

end DtoInterfaces.Collector
