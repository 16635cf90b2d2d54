import DtoInterfaces.Diagnostic.Report
import DtoInterfaces.Proofs.Diagnostic.Groups
import Mathlib.Algebra.GroupWithZero.Nat

namespace DtoInterfaces.Collector

open Text

/-- The diagnostic that an operation reports. -/
def Operation.diagnostic? : Operation → Option Diagnostic
  | .unparsedSource file => some (.unparsedSource file)
  | .untypedProperty name owner file => some (.untypedProperty name owner file)
  | .unnamedProperty owner file => some (.unnamedProperty owner file)
  | .customType name owner file => some (.customType name owner file)
  | .add d => some d
  | .clear | .print => none

section Operations

variable (c : Collector) (op : Operation) (ops before : List Operation)

@[simp] theorem after_cons : c.after (op :: ops) = (c.perform op).1.after ops := rfl

@[simp] theorem after_append : c.after (before ++ ops) = (c.after before).after ops :=
  List.foldl_append

theorem verbose_perform : (c.perform op).1.verbose = c.verbose := by
  cases op <;> rfl

theorem entries_perform {op : Operation} (h : op ≠ .clear) :
    (c.perform op).1.entries = c.entries ++ op.diagnostic?.toList := by
  cases op with
  | clear => exact absurd rfl h
  | print => exact (List.append_nil _).symm
  | _ => rfl

theorem verbose_after : (c.after ops).verbose = c.verbose := by
  induction ops generalizing c with
  | nil => rfl
  | cons op ops ih => rw [after_cons, ih, verbose_perform]

theorem entries_after {ops : List Operation} (h : .clear ∉ ops) :
    (c.after ops).entries = c.entries ++ ops.filterMap Operation.diagnostic? := by
  induction ops generalizing c with
  | nil => exact (List.append_nil _).symm
  | cons op ops ih =>
    rw [List.mem_cons, not_or] at h
    rw [after_cons, ih _ h.2, entries_perform c (Ne.symm h.1), List.append_assoc]
    cases hop : op.diagnostic? <;> simp [hop]

/-- Clearing forgets everything but how verbose the reports are. -/
theorem after_append_clear : c.after (before ++ .clear :: ops) = c.clear.after ops := by
  rw [after_append, after_cons]
  congr 1
  exact congrArg (Collector.mk []) (verbose_after c before)

theorem after_filter_print : c.after (ops.filter (· != .print)) = c.after ops := by
  induction ops generalizing c with
  | nil => rfl
  | cons op ops ih =>
    rw [List.filter_cons]
    split
    · rw [after_cons, ih, after_cons]
    · next h =>
      obtain rfl : op = .print := by simpa using h
      rw [ih]
      rfl

end Operations

theorem length_warnings_add_length_infos (c : Collector) :
    c.warnings.length + c.infos.length = c.entries.length := by
  rw [List.length_eq_length_filter_add (l := c.entries) (·.severity == .warning)]
  congr 2
  apply List.filter_congr
  intro d _
  cases d.severity <;> rfl

/-- The one line that counts the warnings of these groups. -/
def summaryOf (c : Collector) (names : List Text) : Text :=
  if c.warnings = [] then "No transpiler warnings."
  else
    "Transpiler warnings: " ++
      join ", ".toList
        (names.map fun name => decimal (membersOf c.warnings name).length ++ " " ++ name)

/-- The line of a group with the number of its members, and in a verbose listing the members below
it. -/
def groupLinesOf (c : Collector) (name : Text) : List RawText :=
  ("  " ++ name.raw ++ ": " ++ (decimal (membersOf c.warnings name).length).raw ++
      " occurrence(s)") ::
    if c.verbose then (membersOf c.warnings name).map fun d => "    " ++ d.toText else []

/-- Behind an empty line, a heading with a number and the lines below it. -/
def headed (title : RawText) (n : Nat) (below : List RawText) : List RawText :=
  [] :: (title ++ " (" ++ (decimal n).raw ++ "):") :: below

/-- The warnings by groups of these names, and in a verbose listing the infos behind them. -/
def listingOf (c : Collector) (names : List Text) : RawText :=
  RawText.ofLines ((if c.warnings = [] then []
      else headed "Transpiler warnings" c.warnings.length (names.flatMap c.groupLinesOf)) ++
    if c.verbose ∧ c.infos ≠ [] then
      headed "Transpiler info" c.infos.length (c.infos.map fun d => "  " ++ d.toText)
    else [])

/-- Both reports of the collector show the groups of these names: those of its warnings, each once
and in increasing order. No group is empty, and every warning is a member of just one. -/
structure Shows (c : Collector) (names : List Text) : Prop where
  pairwise_lt : names.Pairwise (· < ·)
  mem_names : ∀ name, name ∈ names ↔ ∃ d ∈ c.warnings, groupOf d = name
  length_pos : ∀ name ∈ names, 0 < (membersOf c.warnings name).length
  sum_length : (names.map fun name => (membersOf c.warnings name).length).sum = c.warnings.length
  perm : (names.flatMap (membersOf c.warnings)).Perm c.warnings
  summary_eq : c.summary = c.summaryOf names
  listing_eq : c.listing = c.listingOf names

theorem summary_eq_summaryOf {c : Collector} {names : List Text}
    (h : groups c.warnings = groupsOf c.warnings names) : c.summary = c.summaryOf names := by
  rw [summary, tally_eq, h, sizes, groupsOf, List.map_map, List.map_map, summaryOf]
  simp only [List.isEmpty_iff]
  rfl

theorem listing_eq_listingOf {c : Collector} {names : List Text}
    (h : groups c.warnings = groupsOf c.warnings names) : c.listing = c.listingOf names := by
  have hwarnings : c.warningLines = if c.warnings = [] then []
      else headed "Transpiler warnings" c.warnings.length (names.flatMap c.groupLinesOf) := by
    rw [warningLines, h, groupsOf, List.flatMap_map]
    simp only [List.isEmpty_iff]
    rfl
  have hinfos : c.infoLines = if c.verbose ∧ c.infos ≠ [] then
      headed "Transpiler info" c.infos.length (c.infos.map fun d => "  " ++ d.toText)
      else [] := by
    simp only [infoLines, Bool.and_eq_true, Bool.not_eq_true', List.isEmpty_eq_false_iff]
    rfl
  rw [listing, hwarnings, hinfos, listingOf]

theorem exists_shows (c : Collector) : ∃ names, c.Shows names := by
  obtain ⟨names, hgroups, hsorted, hmem⟩ := exists_groups_eq c.warnings
  have hperm : (names.flatMap (membersOf c.warnings)).Perm c.warnings := by
    have := perm_groups c.warnings
    rwa [hgroups, groupsOf, List.flatMap_map] at this
  refine ⟨names, hsorted, hmem, fun name hname => ?_, ?_, hperm, summary_eq_summaryOf hgroups,
    listing_eq_listingOf hgroups⟩
  · obtain ⟨d, hd, hgroup⟩ := (hmem name).1 hname
    exact List.length_pos_of_mem (mem_membersOf.2 ⟨hd, hgroup⟩)
  · rw [← hperm.length_eq, List.length_flatMap]

theorem listing_eq_nil {c : Collector} (h : c.entries = []) : c.listing = [] := by
  simp [listing, warningLines, infoLines, warnings, infos, h, RawText.ofLines]

/-- After any operations the collector holds what was reported since it was last cleared, and
printing has no part in that. Each of its diagnostics is a warning or an info. The summary and the
listing show the same groups of the warnings; an empty collector has an empty listing. -/
theorem reports_after (c : Collector) (ops : List Operation) :
    (c.after ops).verbose = c.verbose ∧
    (.clear ∉ ops → (c.after ops).entries = c.entries ++ ops.filterMap Operation.diagnostic?) ∧
    (∀ before rest, ops = before ++ .clear :: rest → c.after ops = c.clear.after rest) ∧
    c.after (ops.filter (· != .print)) = c.after ops ∧
    (c.after ops).perform .print = (c.after ops, some (c.after ops).listing) ∧
    ((c.after ops).entries = [] → (c.after ops).listing = []) ∧
    (c.after ops).warnings.length + (c.after ops).infos.length = (c.after ops).entries.length ∧
    ∃ names, (c.after ops).Shows names := by
  refine ⟨verbose_after c ops, entries_after c, ?_, after_filter_print c ops, rfl, listing_eq_nil,
    length_warnings_add_length_infos _, exists_shows _⟩
  rintro before rest rfl
  exact after_append_clear c rest before

/-- Two warnings without a construct of their own or with one of that name, and an info between
them. -/
def mixedOperations : List Operation :=
  [.add ⟨.warning, "X1", "first", [], none, []⟩, .print, .unnamedProperty (some "Order") [],
    .customType "Item" (some "Order") [], .add ⟨.warning, "X2", "second", [], none, "other"⟩]

/-- The operations after a clearing, and a collector that was cleared last. -/
theorem reports_after_mixedOperations :
    .clear ∉ mixedOperations ∧
      (Collector.after {} mixedOperations).entries.map Diagnostic.code =
        ["X1", "W003", "I001", "X2"] ∧
      Collector.after {} (.unparsedSource "A.cs" :: .clear :: mixedOperations) =
        Collector.after {} mixedOperations ∧
      (∃ names, (Collector.after {} mixedOperations).Shows names) ∧
      (Collector.after {} mixedOperations).summary =
        "Transpiler warnings: 2 other, 1 unnamed property" ∧
      (Collector.after {} [.unparsedSource "A.cs", .clear]).entries = [] ∧
      (Collector.after {} [.unparsedSource "A.cs", .clear]).listing = [] := by
  obtain ⟨-, hentries, -, -, -, -, -, hshows⟩ := reports_after {} mixedOperations
  obtain ⟨-, -, hclear, -⟩ :=
    reports_after {} (.unparsedSource "A.cs" :: .clear :: mixedOperations)
  obtain ⟨-, -, -, -, -, hempty, -⟩ := reports_after {} [.unparsedSource "A.cs", .clear]
  have hnot : .clear ∉ mixedOperations := by decide
  have htally : tally (Collector.after {} mixedOperations).warnings =
      ([("other", 2), ("unnamed property", 1)] : List (Text × Nat)) :=
    List.mergeSort_of_pairwise (by decide +kernel)
  refine ⟨hnot, ?_, hclear [.unparsedSource "A.cs"] _ rfl, hshows, ?_, rfl, hempty rfl⟩
  · rw [hentries hnot]
    decide
  · rw [summary, htally]
    decide +kernel

end DtoInterfaces.Collector
