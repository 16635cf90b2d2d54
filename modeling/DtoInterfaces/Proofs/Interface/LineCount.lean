import DtoInterfaces.Proofs.Interface.ReadBack
import DtoInterfaces.Proofs.Source.Extracted

namespace DtoInterfaces

open Text TypeExpr Source

namespace TypeExpr

theorem count_newline_word (w : Word) : w.text.count '\n' = 0 :=
  List.count_eq_zero.2 (w.notMem (by decide))

theorem count_newline_project_applied (w : Word) (a : Text) :
    (project (applied w.text a)).count '\n' = (applied w.text a).count '\n' := by
  have hw : '\n' ∉ w.text := w.notMem (by decide)
  by_cases hn : '\n' ∈ a
  · have hs := shape_applied_of_newline (w.notMem (by decide) : '<' ∉ w.text) hn
    rw [project_eq_self hs (c := '<') (by simp [applied]) (by decide)]
  · have ht : '\n' ∉ applied w.text a := by simp [applied, hw, hn]
    rw [List.count_eq_zero.2 ht, List.count_eq_zero.2 (newline_notMem_project ht)]

/-- The projection keeps the line feeds of a type that a declaration holds. -/
theorem count_newline_project {s : Text} (hs : IsDeclaredType s) :
    (project s).count '\n' = s.count '\n' := by
  obtain ⟨w, group, mark, hg, hm, rfl⟩ := hs
  have hbase : (project (w.text ++ group)).count '\n' = (w.text ++ group).count '\n' ∧
      strip (w.text ++ group) = w.text ++ group := by
    rcases hg with rfl | ⟨a, -, -, rfl⟩
    · rw [List.append_nil, project_word, count_newline_word, count_newline_word]
      exact ⟨rfl, strip_word w⟩
    · have he : w.text ++ ('<' :: a ++ ['>']) = applied w.text a := by simp [applied]
      rw [he]
      exact ⟨count_newline_project_applied w a, strip_applied (strip_word w) w.ne_nil a⟩
  rcases hm with rfl | rfl
  · simpa using hbase.1
  · rw [project_of_nullable (shape_question _), hbase.2, List.count_append, List.count_append,
      hbase.1]
    rfl

end TypeExpr

namespace Interface

variable {o : EmissionOptions} {c : ClassDecl}

theorem length_declarationLines (o : EmissionOptions) (c : ClassDecl) :
    (declarationLines o c).length = 2 + max 1 c.properties.length := by
  rw [declarationLines, members]
  cases c.properties with
  | nil => rfl
  | cons p ps =>
    simp
    omega

/-- A line feed stands in the line of a property only as far as its type has one. -/
theorem count_newline_lineOf (hi : .char '\n' ∉ o.indentation) {p : Property}
    (hp : IsAutoProperty p) :
    (lineOf o (member o p)).count (.char '\n') = (p.type.getD []).count '\n' := by
  obtain ⟨name, type, ht, rfl⟩ := hp
  have hname : '\n' ∉ o.naming.convert name.text :=
    o.naming.notMem_convert (by decide) (name.notMem (by decide))
  simp only [lineOf, member, memberType, Option.getD_some, List.count_append, count_raw,
    List.count_eq_zero.2 hi, List.count_eq_zero.2 hname, count_newline_project ht]
  simp

theorem sum_count_newline_declarationLines (hi : .char '\n' ∉ o.indentation) (hname : IsWord c.name)
    (hc : ∀ p ∈ c.properties, IsAutoProperty p) :
    ((declarationLines o c).map (List.count (.char '\n'))).sum =
      (c.properties.map fun p => (p.type.getD []).count '\n').sum := by
  have hopening : (opening o c.name).raw.count (.char '\n') = 0 := by
    obtain ⟨w, hw⟩ := hname
    rw [count_raw, opening, hw, List.count_append, List.count_append, List.count_append,
      count_newline_word]
    split <;> decide
  have hbody : (((if (members o c).isEmpty then [marker o] else
      (members o c).map (lineOf o)) : List RawText).map (List.count (.char '\n'))).sum =
        (c.properties.map fun p => (p.type.getD []).count '\n').sum := by
    split
    · next hnone =>
      have hps : c.properties = [] := by simpa [members] using hnone
      rw [hps, marker]
      simp [List.count_eq_zero.2 hi]
    · rw [members, List.map_map, List.map_map]
      exact congrArg List.sum (List.map_congr_left fun p hp => count_newline_lineOf hi (hc p hp))
  rw [declarationLines, List.cons_append, List.map_cons, List.map_append, List.sum_cons,
    List.sum_append, hopening, hbody]
  simp

/-- The interface of an extracted class has a line for every property, or one in place of them, and
a line more for every line feed in a type. So no type is broken over lines exactly where none was in
the source. -/
theorem length_lines_emit {t : Text} (h : classDecl? t = some c) (ho : o.stamped = false)
    (hi : .char '\n' ∉ o.indentation) (now : Timestamp) (log : Log) :
    ((emit o now log c).1.splitOn (.char '\n')).length = 2 + max 1 c.properties.length +
        (c.properties.map fun p => (p.type.getD []).count '\n').sum ∧
      (∀ p ∈ c.properties, ('\n' ∈ memberType p.type ↔ '\n' ∈ p.type.getD [])) ∧
      (((emit o now log c).1.splitOn (.char '\n')).length = 2 + max 1 c.properties.length ↔
        ∀ p ∈ c.properties, '\n' ∉ p.type.getD []) := by
  obtain ⟨hname, hc⟩ := of_classDecl? h
  have hnamed : ∀ p ∈ c.properties, ∃ name ∈ p.name, IsWord name := by
    intro p hp
    obtain ⟨name, type, -, rfl⟩ := hc p hp
    exact ⟨name.text, rfl, name, rfl⟩
  have hlength : ((emit o now log c).1.splitOn (.char '\n')).length =
      2 + max 1 c.properties.length +
      (c.properties.map fun p => (p.type.getD []).count '\n').sum := by
    rw [emit_of_named ho now log hnamed]
    have hne : declarationLines o c ≠ [] := by simp [declarationLines]
    have hsplit := length_splitOn_join (c := .char '\n') hne
    rw [length_declarationLines, List.count_flatten,
      sum_count_newline_declarationLines hi hname hc] at hsplit
    exact hsplit.trans (Nat.add_comm _ _)
  refine ⟨hlength, ?_, ?_⟩
  · intro p hp
    obtain ⟨name, type, ht, rfl⟩ := hc p hp
    have hcount := count_newline_project ht
    rw [← List.count_pos_iff, ← List.count_pos_iff, memberType, hcount]
    rfl
  · rw [hlength, Nat.add_eq_left, List.sum_eq_zero_iff_forall_eq_nat, List.forall_mem_map]
    simp only [List.count_eq_zero]

/-- A list that is declared over two lines comes out over two lines, unconverted. -/
theorem length_lines_emit_brokenList : ∃ c : ClassDecl,
    classDecl? "public class C \x7b public List<int\n> Ids \x7b get; set; \x7d \x7d" = some c ∧
    c.properties.length = 1 ∧
    (emit { stamped := false } ⟨2024, 1, 2, 3, 4, 5, 0, none⟩ none c).1 =
      "export interface C \x7b\n  Ids: List<int\n>;\n\x7d" ∧
    ((emit { stamped := false } ⟨2024, 1, 2, 3, 4, 5, 0, none⟩ none c).1.splitOn
      (.char '\n')).length = 4 := by
  have h : classDecl? "public class C \x7b public List<int\n> Ids \x7b get; set; \x7d \x7d" =
      some ⟨"C", [⟨some "Ids", some "List<int\n>"⟩]⟩ := by
    decide +kernel
  exact ⟨_, h, rfl, by decide +kernel, (length_lines_emit h rfl (by decide) _ _).1⟩

end Interface

end DtoInterfaces
