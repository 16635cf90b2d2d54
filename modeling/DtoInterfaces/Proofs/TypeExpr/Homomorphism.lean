import DtoInterfaces.Proofs.TypeExpr.TypeScript
import Mathlib.Data.List.Infix

namespace DtoInterfaces.TypeExpr

open Text

theorem project_word (w : Word) : project w.text = (translateWord w).text := by
  rw [project_of_atom]
  · rfl
  · have hw := w.isWordChar_of_mem _ (List.getLast_mem w.ne_nil)
    refine shape_eq_atom_of_getLast? (List.getLast?_eq_some_getLast w.ne_nil) ?_
    have hp : ['?', '>', ']'].any isWordChar = false := by decide +kernel
    intro hc
    exact absurd hw (List.any_eq_false.1 hp _ hc)

theorem project_generic (g : Generic) : project g.text = g.text := by
  have hs : shape g.text = .atom :=
    shape_applied (g.head.notMem (by decide)) g.head_notMem g.arguments
  have hn : primitive? g.text = none :=
    primitive?_eq_none (c := '<') (by simp [Generic.text, applied]) (by decide)
  rw [project_of_atom hs, hn]
  rfl

theorem project_renders {t : TypeTree} {s : Text} (h : Renders t s) :
    project s = t.translate.text := by
  induction h with
  | name w => exact project_word w
  | generic g => exact project_generic g
  | nullable hs hb ih =>
    rw [project_of_nullable (shape_question _), strip_append_right _ hb.1, hs.strip_eq, ih]
    rfl
  | @list interface t s b b' hs hb hb' ih =>
    -- the rules fire only on what is not empty and holds no line feed
    have hn : '\n' ∉ b ++ s ++ b' := by simp [hb.2, hs.newline_notMem, hb'.2]
    have he : b ++ s ++ b' ≠ [] := by simp [hs.ne_nil]
    rw [project_of_sequence (shape_list interface he hn), hs.strip_between_gaps hb hb', ih]
    exact t.translate.arrayOf_text
  | @array t s b hs hb ih =>
    have hn : '\n' ∉ s ++ b := by simp [hs.newline_notMem, hb.2]
    have he : s ++ b ≠ [] := by simp [hs.ne_nil]
    rw [project_of_sequence (shape_array he hn), strip_append_right _ hb.1, hs.strip_eq, ih]
    exact t.translate.arrayOf_text
  | @dictionary interface k v s u b₁ b₂ b₃ b₄ hs hu h₁ h₂ h₃ h₄ ihs ihu =>
    have hn : '\n' ∉ b₁ ++ s ++ b₂ ++ ',' :: (b₃ ++ u ++ b₄) := by
      simp [hs.newline_notMem, hu.newline_notMem, h₁.2, h₂.2, h₃.2, h₄.2]
    have ha := Renders.splitArguments_eq hs hu h₁ h₂ h₃ h₄
    rw [project_of_dictionary (shape_dictionary interface (by simp) hn ha), ihs, ihu]
    rfl

/-- The projection of a written C# type is the TypeScript text of the type. -/
theorem project_eq_tsText {t : TypeTree} {s : Text} (h : Renders t s) : project s = t.tsText := by
  rw [project_renders h, TsType.text_translate]

/-- A dictionary into lists of an opaque nullable type, with gaps of several kinds. -/
theorem project_eq_tsText_dictionary :
    ∃ t : TypeTree, Renders t "IDictionary< Guid\t,List<Page<a, (b)> ?> >" ∧
      project "IDictionary< Guid\t,List<Page<a, (b)> ?> >" =
        "Record<string, (Page<a, (b)> | null)[]>" := by
  have hn : ∀ p ∈ ("a, (b)" : Text).inits, 0 ≤ depth p := by decide
  have hp := Renders.generic ⟨⟨"Page", by decide, by decide⟩, "a, (b)", by decide, by decide,
    by decide, fun p h => hn p ((List.mem_inits _ _).2 h), by decide⟩
  have hl := Renders.list false (hp.nullable (by decide : IsGap [' '])) (by decide : IsGap [])
    (by decide : IsGap [])
  have hd := Renders.dictionary true (Renders.name ⟨"Guid", by decide, by decide⟩) hl
    (by decide : IsGap [' ']) (by decide : IsGap ['\t']) (by decide : IsGap [])
    (by decide : IsGap [' '])
  exact ⟨_, hd, (project_eq_tsText hd).trans rfl⟩

end DtoInterfaces.TypeExpr
