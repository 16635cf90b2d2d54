import DtoInterfaces.Proofs.Disk.Tree
import DtoInterfaces.Proofs.Text.Raw

namespace DtoInterfaces

namespace Disk

/-- Each location is listed at most once, and the root directory not at all. -/
structure ListsOnce (d : Disk) : Prop where
  nodup : (d.entries.map Prod.fst).Nodup
  ne_nil : ∀ e ∈ d.entries, e.1 ≠ []

instance (d : Disk) : Decidable d.ListsOnce :=
  decidable_of_iff ((d.entries.map Prod.fst).Nodup ∧ ∀ e ∈ d.entries, e.1 ≠ [])
    ⟨fun h => ⟨h.1, h.2⟩, fun h => ⟨h.nodup, h.ne_nil⟩⟩

theorem ListsOnce.mem_entries_iff {d : Disk} (h : d.ListsOnce) {l : Location} {e : Entry} :
    (l, e) ∈ d.entries ↔ l ≠ [] ∧ d.get? l = some e := by
  constructor
  · intro hl
    have hne : l ≠ [] := h.ne_nil _ hl
    refine ⟨hne, ?_⟩
    obtain ⟨s, t, hd⟩ := List.append_of_mem hl
    have hs : ∀ p ∈ s, p.1 ≠ l := by
      have hnodup := h.nodup
      rw [hd, List.map_append, List.nodup_append] at hnodup
      intro p hp
      exact hnodup.2.2 p.1 (List.mem_map_of_mem hp) l (by simp)
    obtain ⟨n, l, rfl⟩ := List.exists_cons_of_ne_nil hne
    refine List.lookup_eq_some_iff.2 ⟨s, t, hd, fun p hp => ?_⟩
    simpa using (hs p hp).symm
  · rintro ⟨hne, hl⟩
    exact mem_entries_of_get? hne hl

theorem ListsOnce.put {d : Disk} (h : d.ListsOnce) {l : Location} (hl : l ≠ []) (x : Entry) :
    (d.put l x).ListsOnce := by
  have hkept : (d.entries.filter fun found => found.1 != l).Sublist d.entries := List.filter_sublist
  refine ⟨?_, fun e he => ?_⟩
  · rw [Disk.put, List.map_cons, List.nodup_cons]
    refine ⟨fun hm => ?_, (hkept.map Prod.fst).nodup h.nodup⟩
    obtain ⟨e, he, rfl⟩ := List.mem_map.1 hm
    simpa using (List.mem_filter.1 he).2
  · rcases List.mem_cons.1 he with rfl | he
    · exact hl
    · exact h.ne_nil e (hkept.subset he)

/-- Something stands there, and it is a directory unless files count too. -/
def Admits (d : Disk) (filesToo : Bool) (l : Location) : Prop :=
  ∃ e, d.get? l = some e ∧ (filesToo ∨ e = .directory)

end Disk

section Results

variable {ε α β : Type} {f : α → Except ε β}

theorem mapM_cons_eq_ok_iff {a : α} {as : List α} {bs : List β} :
    (a :: as).mapM f = .ok bs ↔ ∃ b bs', f a = .ok b ∧ as.mapM f = .ok bs' ∧ bs = b :: bs' := by
  rw [List.mapM_cons]
  cases f a with
  | error e => simp [bind, Except.bind]
  | ok b => cases as.mapM f <;> simp [bind, Except.bind, pure, Except.pure, eq_comm]

theorem mapM_except_map {γ : Type} (f : α → Except ε β) (g : β → γ) (as : List α) :
    as.mapM (fun a => (f a).map g) = (as.mapM f).map (List.map g) := by
  induction as with
  | nil => rfl
  | cons a as ih =>
    rw [List.mapM_cons, List.mapM_cons, ih]
    cases f a with
    | error e => rfl
    | ok b => cases as.mapM f <;> rfl

theorem isEmpty_of_mapM {as : List α} {bs : List β} (h : as.mapM f = .ok bs) :
    bs.isEmpty = as.isEmpty := by
  cases as with
  | nil =>
    cases h
    rfl
  | cons a as =>
    obtain ⟨b, bs, -, -, rfl⟩ := mapM_cons_eq_ok_iff.1 h
    rfl

theorem mem_iff_of_mapM {as : List α} {bs : List β} (h : as.mapM f = .ok bs) {b : β} :
    b ∈ bs ↔ ∃ a ∈ as, f a = .ok b := by
  induction as generalizing bs with
  | nil =>
    cases h
    simp
  | cons a as ih =>
    obtain ⟨b', bs', ha, has, rfl⟩ := mapM_cons_eq_ok_iff.1 h
    simp [ih has, ha, eq_comm]

theorem exists_mapM_eq_ok {as : List α} (h : ∀ a ∈ as, ∃ b, f a = .ok b) :
    ∃ bs, as.mapM f = .ok bs := by
  induction as with
  | nil => exact ⟨[], rfl⟩
  | cons a as ih =>
    obtain ⟨⟨b, hb⟩, has⟩ := List.forall_mem_cons.1 h
    obtain ⟨bs, hbs⟩ := ih has
    exact ⟨b :: bs, mapM_cons_eq_ok_iff.2 ⟨b, bs, hb, hbs, rfl⟩⟩

end Results

namespace Glob

open Disk

variable {d : Disk} {l : Location}

/-- Whether a component leads from `k` to `l`. -/
def Component.Selects (d : Disk) (filesToo : Bool) (k l : Location) : Component → Prop
  | .below => l = k ∨ k <+: l ∧ d.get? l = some .directory
  | .wild pieces => ∃ n, l = k ++ [n] ∧ Wildcard.accepts pieces n ∧ d.Admits filesToo l
  | .name n => l = k.step n ∧ d.Admits filesToo l

theorem mem_directoriesBelow (h : d.ListsOnce) {directories : List Location} :
    l ∈ d.directoriesBelow directories ↔
      ∃ k ∈ directories, l = k ∨ k <+: l ∧ d.get? l = some .directory := by
  simp only [directoriesBelow, List.mem_append, List.mem_filterMap, Prod.exists,
    Option.ite_none_right_eq_some, Option.some.injEq, Bool.and_eq_true, beq_iff_eq,
    List.any_eq_true, List.isPrefixOf_iff_prefix, h.mem_entries_iff]
  constructor
  · rintro (hl | ⟨m, e, ⟨-, hm⟩, ⟨⟨rfl, k, hk, hbelow⟩, -⟩, rfl⟩)
    · exact ⟨l, hl, .inl rfl⟩
    · exact ⟨k, hk, .inr ⟨hbelow, hm⟩⟩
  · rintro ⟨k, hk, rfl | ⟨hbelow, hl⟩⟩
    · exact .inl hk
    · by_cases hmem : l ∈ directories
      · exact .inl hmem
      · -- nothing is above the root directory, so it could only be one of the directories
        have hne : l ≠ [] := by
          rintro rfl
          exact hmem (List.prefix_nil.1 hbelow ▸ hk)
        exact .inr ⟨l, .directory, ⟨hne, hl⟩, ⟨⟨rfl, k, hk, hbelow⟩, by simpa using hmem⟩, rfl⟩

theorem mem_children (h : d.ListsOnce) {directories : List Location} {e : Entry} :
    (l, e) ∈ d.children directories ↔
      ∃ k ∈ directories, ∃ n, l = k ++ [n] ∧ d.get? l = some e := by
  rw [children, List.mem_filter, h.mem_entries_iff, List.contains_iff_mem]
  constructor
  · rintro ⟨⟨hne, hl⟩, hk⟩
    exact ⟨_, hk, _, (List.dropLast_append_getLast hne).symm, hl⟩
  · rintro ⟨k, hk, n, rfl, hl⟩
    refine ⟨⟨by simp, hl⟩, ?_⟩
    rwa [List.dropLast_concat]

theorem mem_select_name {filesToo : Bool} {directories : List Location} {n : RawText} :
    l ∈ Component.select d filesToo directories (.name n) ↔
      ∃ k ∈ directories, l = k.step n ∧ d.Admits filesToo l := by
  simp only [Component.select, Text.mem_distinct, List.mem_filter, List.mem_map,
    Option.any_eq_true, Bool.or_eq_true, beq_iff_eq]
  constructor
  · rintro ⟨⟨k, hk, rfl⟩, e, hl, he⟩
    exact ⟨k, hk, rfl, e, hl, he⟩
  · rintro ⟨k, hk, rfl, e, hl, he⟩
    exact ⟨⟨k, hk, rfl⟩, e, hl, he⟩

theorem Component.mem_select (h : d.ListsOnce) {filesToo : Bool} {directories : List Location}
    (c : Component) :
    l ∈ c.select d filesToo directories ↔ ∃ k ∈ directories, c.Selects d filesToo k l := by
  cases c with
  | below => exact mem_directoriesBelow h
  | wild pieces =>
    simp only [select, List.mem_filterMap, Prod.exists, Option.ite_none_right_eq_some,
      Option.some.injEq, Bool.and_eq_true, Bool.or_eq_true, beq_iff_eq, mem_children h]
    constructor
    · rintro ⟨m, e, ⟨k, hk, n, rfl, hl⟩, ⟨hn, he⟩, rfl⟩
      rw [List.getLast?_concat, Option.getD_some] at hn
      exact ⟨k, hk, n, rfl, hn, e, hl, he⟩
    · rintro ⟨k, hk, n, rfl, hn, e, hl, he⟩
      refine ⟨k ++ [n], e, ⟨k, hk, n, rfl, hl⟩, ⟨?_, he⟩, rfl⟩
      rwa [List.getLast?_concat, Option.getD_some]
  | name n => exact mem_select_name

/-- Whether components lead from `k` to `l`, each but the last to a directory. -/
def Reaches (d : Disk) (onlyDirectories : Bool) : List Component → Location → Location → Prop
  | [], k, l => l = k
  | c :: rest, k, l => ∃ j, c.Selects d (rest.isEmpty && !onlyDirectories) k j ∧
      Reaches d onlyDirectories rest j l

theorem mem_select (h : d.ListsOnce) {onlyDirectories : Bool} {components : List Component}
    {directories : List Location} : l ∈ select d onlyDirectories components directories ↔
      ∃ k ∈ directories, Reaches d onlyDirectories components k l := by
  induction components generalizing directories with
  | nil => simp [select, Reaches]
  | cons c rest ih =>
    simp only [select, ih, Component.mem_select h, Reaches]
    constructor
    · rintro ⟨j, ⟨k, hk, hj⟩, hl⟩
      exact ⟨k, hk, j, hj, hl⟩
    · rintro ⟨k, hk, j, hj, hl⟩
      exact ⟨j, ⟨k, hk, hj⟩, hl⟩

/-- A pattern taken apart. -/
structure Plan where
  isAbsolute : Bool
  components : List Component
  onlyDirectories : Bool

namespace Plan

/-- Backslashes are slashes. An absolute pattern without components selects nothing, and any other
one is refused. -/
def ofText (pattern : RawText) : Except GlobFault Plan :=
  let pattern := slashed pattern
  let p := Path.ofText pattern
  let onlyDirectories := !p.isAbsolute && pattern.getLast? == some (.char '/')
  if !p.isAbsolute && p.parts.isEmpty then
    .error (if onlyDirectories then .onlySlash else .noComponent)
  else (p.parts.mapM Component.ofText).map fun components =>
    ⟨p.isAbsolute, components, onlyDirectories⟩

/-- Where a pattern is seen from. -/
def origins (d : Disk) (base : Path) (p : Plan) : List Location :=
  if p.isAbsolute then (if p.components.isEmpty then [] else [[]])
  else
    match d.locate base with
    | .ok l => if d.get? l = some .directory then [l] else []
    | .error _ => []

def found (d : Disk) (base : Path) (p : Plan) : List Location :=
  select d p.onlyDirectories p.components (p.origins d base)

end Plan

theorem select_nil (onlyDirectories : Bool) (components : List Component) :
    select d onlyDirectories components [] = [] := by
  induction components with
  | nil => rfl
  | cons c rest ih =>
    rw [select]
    have hc (filesToo : Bool) : c.select d filesToo [] = [] := by
      cases c with
      | below => simp [Component.select, directoriesBelow]
      | wild pieces => simp [Component.select, children]
      | name n => rfl
    rw [hc, ih]

theorem expandAbsolute_eq (d : Disk) (base : Path) {p : Path} (hp : p.isAbsolute) :
    expandAbsolute d p = (p.parts.mapM Component.ofText).map fun cs =>
      Plan.found d base ⟨p.isAbsolute, cs, false⟩ := by
  rw [expandAbsolute]
  cases hcs : p.parts.mapM Component.ofText with
  | error fault =>
    rw [if_neg]
    · rfl
    · intro hempty
      rw [List.isEmpty_iff.1 hempty] at hcs
      cases hcs
  | ok cs =>
    have hempty := isEmpty_of_mapM hcs
    simp only [Except.map, Plan.found, Plan.origins, hp, if_true, hempty]
    split
    · rw [select_nil]
    · rfl

theorem expandRelative_eq (d : Disk) (base : Path) (pattern : RawText)
    (hp : (Path.ofText pattern).isAbsolute = false) :
    expandRelative d base pattern =
      if (Path.ofText pattern).parts.isEmpty then
        .error (if pattern.getLast? == some (.char '/') then .onlySlash else .noComponent)
      else ((Path.ofText pattern).parts.mapM Component.ofText).map fun cs =>
        Plan.found d base
          ⟨(Path.ofText pattern).isAbsolute, cs, pattern.getLast? == some (.char '/')⟩ := by
  rw [expandRelative]
  split
  · rfl
  · cases (Path.ofText pattern).parts.mapM Component.ofText with
    | error fault => rfl
    | ok cs =>
      simp only [Except.map, Plan.found, Plan.origins, hp, Bool.false_eq_true, if_false]
      cases d.locate base with
      | error fault => simp [bind, Except.bind, select_nil, pure, Except.pure]
      | ok l =>
        by_cases hl : d.get? l = some .directory
        · simp [hl, bind, Except.bind, pure, Except.pure]
        · simp [hl, bind, Except.bind, pure, Except.pure, select_nil]

/-- Only what is found depends on the disk, and not what is refused. -/
theorem expand_eq (d : Disk) (base : Path) (pattern : RawText) :
    expand d base pattern = (Plan.ofText pattern).map (Plan.found d base) := by
  unfold expand Plan.ofText
  dsimp only
  generalize slashed pattern = pattern
  by_cases habs : (Path.ofText pattern).isAbsolute
  · rw [if_pos habs, expandAbsolute_eq d base habs]
    cases (Path.ofText pattern).parts.mapM Component.ofText <;> simp [habs, Except.map]
  · rw [Bool.not_eq_true] at habs
    simp only [habs, Bool.false_eq_true, if_false, Bool.not_false, Bool.true_and]
    rw [expandRelative_eq d base pattern habs]
    split
    · rfl
    · cases (Path.ofText pattern).parts.mapM Component.ofText <;> simp [habs, Except.map]

end Glob

namespace Disk

open Glob

/-- Locations each once and in order. -/
def inOrder (found : List Location) : List Location :=
  (Text.distinct found).mergeSort fun a b => !decide (b < a)

theorem mem_inOrder {found : List Location} {l : Location} : l ∈ inOrder found ↔ l ∈ found := by
  rw [inOrder, List.mem_mergeSort, Text.mem_distinct]

/-- The order in which they were found does not matter. -/
theorem inOrder_congr {found found' : List Location} (h : ∀ l, l ∈ found ↔ l ∈ found') :
    inOrder found = inOrder found' := by
  have hperm : (Text.distinct found).Perm (Text.distinct found') := by
    rw [List.perm_ext_iff_of_nodup (Text.nodup_distinct found) (Text.nodup_distinct found')]
    intro l
    rw [Text.mem_distinct, Text.mem_distinct, h]
  exact List.Perm.eq_of_pairwise (fun a b _ _ hab hba => le_antisymm hab hba)
    (Text.pairwise_le_mergeSort _) (Text.pairwise_le_mergeSort _)
    ((List.mergeSort_perm _ _).trans (hperm.trans (List.mergeSort_perm _ _).symm))

/-- The patterns taken apart, or the first fault. -/
def plans (patterns : List RawText) : Except GlobFault (List Plan) :=
  (patterns.filter fun pattern => !pattern.isEmpty).mapM Plan.ofText

theorem scan_eq (d : Disk) (base : Path) (patterns : List RawText) :
    d.scan base patterns = (plans patterns).map fun ps =>
      inOrder ((ps.flatMap (Plan.found d base)).filter d.isFileAt) := by
  have hexpand : expand d base = fun pattern => (Plan.ofText pattern).map (Plan.found d base) :=
    funext (expand_eq d base)
  rw [scan, hexpand, mapM_except_map, plans]
  cases (patterns.filter fun pattern => !pattern.isEmpty).mapM Plan.ofText with
  | error fault => rfl
  | ok ps =>
    simp only [List.flatMap_def]
    rfl

/-- Whether one of the patterns selects a location. Empty patterns select nothing. -/
def Matches (d : Disk) (base : Path) (patterns : List RawText) (l : Location) : Prop :=
  ∃ pattern ∈ patterns, pattern ≠ [] ∧ ∃ found, expand d base pattern = .ok found ∧ l ∈ found

theorem matches_of_mem_found {d : Disk} {base : Path} {patterns : List RawText} {ps : List Plan}
    (hps : plans patterns = .ok ps) {l : Location}
    (hl : l ∈ ps.flatMap (Plan.found d base)) : d.Matches base patterns l := by
  obtain ⟨p, hp, hl⟩ := List.mem_flatMap.1 hl
  obtain ⟨pattern, hpattern, hofText⟩ := (mem_iff_of_mapM hps).1 hp
  obtain ⟨hmem, hne⟩ := List.mem_filter.1 hpattern
  refine ⟨pattern, hmem, by simpa using hne, _, ?_, hl⟩
  rw [expand_eq, hofText]
  rfl

theorem matches_of_mem_scan {d : Disk} {base : Path} {patterns : List RawText}
    {found : List Location} (h : d.scan base patterns = .ok found) {l : Location} (hl : l ∈ found) :
    d.Matches base patterns l := by
  rw [scan_eq] at h
  cases hps : plans patterns with
  | error fault => rw [hps] at h; cases h
  | ok ps =>
    rw [hps] at h
    obtain rfl := Except.ok.inj h
    exact matches_of_mem_found hps (List.mem_filter.1 (mem_inOrder.1 hl)).1

end Disk

end DtoInterfaces
