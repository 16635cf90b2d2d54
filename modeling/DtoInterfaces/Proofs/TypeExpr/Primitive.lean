import DtoInterfaces.Proofs.Text.Word
import DtoInterfaces.TypeExpr.Projection

namespace DtoInterfaces.TypeExpr

open Text

theorem mem_primitives_of_primitive? {n v : Text} (h : primitive? n = some v) :
    (n, v) ∈ primitives := by
  obtain ⟨l₁, l₂, hl, -⟩ := List.lookup_eq_some_iff.1 h
  rw [hl]
  exact List.mem_append_right _ List.mem_cons_self

/-- Both columns of the table hold words. -/
theorem primitives_words : ∀ p ∈ primitives,
    p.1.all isWordChar ∧ p.2 ≠ [] ∧ p.2.all isWordChar := by
  decide

theorem primitives_fixed : ∀ p ∈ primitives, (primitive? p.2).getD p.2 = p.2 := by
  decide

theorem primitive?_eq_none {t : Text} {c : Char} (hc : c ∈ t) (hw : isWordChar c = false) :
    primitive? t = none := by
  rw [Option.eq_none_iff_forall_ne_some]
  intro v hv
  have hall := (primitives_words _ (mem_primitives_of_primitive? hv)).1
  simp [List.all_eq_true.1 hall c hc] at hw

theorem getD_primitive?_fixed (t : Text) :
    (primitive? ((primitive? t).getD t)).getD ((primitive? t).getD t) = (primitive? t).getD t := by
  cases h : primitive? t with
  | none => simp [h]
  | some v => exact primitives_fixed _ (mem_primitives_of_primitive? h)

/-- The entry of a word in the table, or the word itself. -/
def translateWord (w : Word) : Word where
  text := (primitive? w.text).getD w.text
  ne_nil := by
    cases h : primitive? w.text with
    | none => exact w.ne_nil
    | some v => exact (primitives_words _ (mem_primitives_of_primitive? h)).2.1
  all_isWordChar := by
    cases h : primitive? w.text with
    | none => exact w.all_isWordChar
    | some v => exact (primitives_words _ (mem_primitives_of_primitive? h)).2.2

end DtoInterfaces.TypeExpr
