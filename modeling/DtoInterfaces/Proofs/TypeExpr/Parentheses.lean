import DtoInterfaces.Proofs.TypeExpr.FixedPoint

namespace DtoInterfaces.TypeExpr

open Text

theorem hasUnionAt_iff {d : Int} {t : Text} :
    hasUnionAt d t ↔ ∃ before after, t = before ++ '|' :: after ∧ d + depth before = 0 := by
  induction t generalizing d with
  | nil => simp [hasUnionAt]
  | cons c t ih =>
    rw [hasUnionAt, Bool.or_eq_true, Bool.and_eq_true, beq_iff_eq, beq_iff_eq, ih]
    constructor
    · intro h
      rcases h with ⟨hc, hd⟩ | ⟨before, after, ht, hd⟩
      · exact ⟨[], t, by rw [hc, List.nil_append], by rw [hd, depth_nil, add_zero]⟩
      · exact ⟨c :: before, after, by rw [ht, List.cons_append], by rw [depth_cons]; omega⟩
    · rintro ⟨before, after, ht, hd⟩
      cases before with
      | nil => exact .inl ⟨(List.cons.inj ht).1, by simpa using hd⟩
      | cons b before =>
        obtain ⟨hb, ht⟩ := List.cons.inj ht
        refine .inr ⟨before, after, ht, ?_⟩
        rw [depth_cons, ← hb] at hd
        omega

/-- A text is a union just when a bar stands outside all its brackets. -/
theorem hasTopLevelUnion_iff {t : Text} :
    hasTopLevelUnion t ↔ ∃ before after, t = before ++ '|' :: after ∧ depth before = 0 := by
  rw [hasTopLevelUnion, hasUnionAt_iff]
  simp only [zero_add]

theorem project_of_sequence_eq_ite {t element : Text} (h : Level t)
    (hs : shape t = .sequence element) :
    project t = if element.getLast? = some '?' then "(" ++ project element ++ ")[]"
      else project element ++ "[]" := by
  rw [project_of_sequence hs, arrayOf]
  exact if_congr (hasTopLevelUnion_project (h.element hs)) rfl rfl

/-- A projected type closes as many brackets as it opens and has no bar outside more brackets than
it opens. It is a union, with a bar outside all brackets, just when the type ends with a question
mark; and an array type has parentheses just when its element does. -/
theorem project_parenthesizes {t : Text} (h : Level t) :
    depth (project t) = 0 ∧ Deep '|' 0 (project t) ∧
      (hasTopLevelUnion (project t) ↔ t.getLast? = some '?') ∧
      ((∃ before after, project t = before ++ '|' :: after ∧ depth before = 0) ↔
        t.getLast? = some '?') ∧
      ∀ element, shape t = .sequence element →
        project t = if element.getLast? = some '?' then "(" ++ project element ++ ")[]"
          else project element ++ "[]" := by
  have hunion := hasTopLevelUnion_project h
  refine ⟨depth_project h, deep_bar_project h, hunion, ?_, ?_⟩
  · rw [← hasTopLevelUnion_iff]
    exact hunion
  · intro element hs
    exact project_of_sequence_eq_ite h hs

/-- The bar inside the record does not count, and the one behind it is put in parentheses. -/
theorem project_parenthesizes_unnested :
    Level "List<IDictionary<)a(, int?>[]?>" ∧
      project "List<IDictionary<)a(, int?>[]?>" = "(Record<)a(, number | null>[] | null)[]" ∧
      depth (project "List<IDictionary<)a(, int?>[]?>") = 0 ∧
      hasTopLevelUnion (project "List<IDictionary<)a(, int?>[]?>") = false := by
  have h : Level "List<IDictionary<)a(, int?>[]?>" := ⟨by decide, by decide⟩
  obtain ⟨hdepth, -, hunion, -, harray⟩ := project_parenthesizes h
  have helement : project "IDictionary<)a(, int?>[]?" = "Record<)a(, number | null>[] | null" := by
    decide +kernel
  refine ⟨h, ?_, hdepth, ?_⟩
  · rw [harray "IDictionary<)a(, int?>[]?" (by decide +kernel), if_pos (by decide), helement]
    rfl
  · rw [Bool.eq_false_iff, ne_eq, hunion]
    decide

end DtoInterfaces.TypeExpr
