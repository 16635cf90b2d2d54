import DtoInterfaces.Text.Basic
import Mathlib.Data.Char
import Mathlib.Data.List.Lex
import Mathlib.Order.Lattice

namespace DtoInterfaces.Text

theorem mem_distinct {α : Type} [BEq α] [LawfulBEq α] {a : α} {as : List α} :
    a ∈ distinct as ↔ a ∈ as := by
  induction as with
  | nil => rfl
  | cons b as ih =>
    rw [distinct, List.mem_cons, List.mem_cons, List.mem_filter, ih, bne_iff_ne]
    by_cases h : a = b <;> simp [h]

theorem nodup_distinct {α : Type} [BEq α] [LawfulBEq α] (as : List α) : (distinct as).Nodup := by
  induction as with
  | nil => exact List.nodup_nil
  | cons a as ih =>
    refine List.nodup_cons.2 ⟨fun h => ?_, ih.filter _⟩
    simpa using (List.mem_filter.1 h).2

/-- Of two elements that are kept, the one in front is met while the other one is not. -/
theorem pairwise_distinct {α : Type} [BEq α] [LawfulBEq α] (as : List α) :
    (distinct as).Pairwise fun a b => ∃ l l', as = l ++ a :: l' ∧ b ∉ l ∧ a ≠ b := by
  induction as with
  | nil => exact List.Pairwise.nil
  | cons a as ih =>
    have hne {b : α} (hb : b ∈ (distinct as).filter (· != a)) : b ≠ a := by
      simpa using (List.mem_filter.1 hb).2
    refine List.Pairwise.cons ?_ ?_
    · intro b hb
      exact ⟨[], as, rfl, List.not_mem_nil, (hne hb).symm⟩
    · refine (ih.filter _).imp_of_mem fun hb hc h => ?_
      obtain ⟨l, l', rfl, hl, hbc⟩ := h
      exact ⟨_ :: l, l', rfl, by simp [hl, hne hc], hbc⟩

theorem pairwise_le_mergeSort {α : Type} [LinearOrder α] [DecidableLT α] (as : List α) :
    (as.mergeSort fun a b => !decide (b < a)).Pairwise (· ≤ ·) := by
  have h : (as.mergeSort fun a b => !decide (b < a)).Pairwise fun a b => !decide (b < a) := by
    apply List.pairwise_mergeSort
    · intro a b c hab hbc
      simp only [Bool.not_eq_true', decide_eq_false_iff_not, not_lt] at hab hbc ⊢
      exact le_trans hab hbc
    · intro a b
      simp only [Bool.or_eq_true, Bool.not_eq_true', decide_eq_false_iff_not, not_lt]
      exact le_total a b
  exact h.imp fun hab => by simpa using hab

theorem pairwise_lt_mergeSort {α : Type} [LinearOrder α] [DecidableLT α] {as : List α}
    (h : as.Nodup) : (as.mergeSort fun a b => !decide (b < a)).Pairwise (· < ·) := by
  have hnodup : (as.mergeSort fun a b => !decide (b < a)).Nodup :=
    (List.mergeSort_perm _ _).nodup_iff.2 h
  exact ((pairwise_le_mergeSort as).and hnodup).imp fun ⟨hle, hne⟩ => lt_of_le_of_ne hle hne

end DtoInterfaces.Text
