import DtoInterfaces.Proofs.TypeExpr.Homomorphism

namespace DtoInterfaces.TypeExpr

open Text

/-- A text without bars that closes as many brackets as it opens, in whatever order. -/
structure Level (t : Text) : Prop where
  bar_notMem : '|' ∉ t
  depth_eq : depth t = 0

theorem mem_of_mem_strip {c : Char} {t : Text} (h : c ∈ strip t) : c ∈ t := by
  obtain ⟨b, b', -, -, ht⟩ := exists_append_strip t
  rw [ht]
  simp [h]

theorem Level.strip {t : Text} (h : Level t) : Level (strip t) :=
  ⟨fun hm => h.bar_notMem (mem_of_mem_strip hm), (depth_strip t).trans h.depth_eq⟩

theorem Level.base {t base : Text} (h : Level t) (hs : shape t = .nullable base) : Level base := by
  obtain ⟨r, rfl, rfl⟩ := exists_of_shape_nullable hs
  have hr : Level r := by
    refine ⟨fun hm => h.bar_notMem (by simp [hm]), ?_⟩
    simpa [bracketStep] using h.depth_eq
  exact hr.strip

theorem Level.element {t element : Text} (h : Level t) (hs : shape t = .sequence element) :
    Level element := by
  obtain ⟨opening, inner, closing, rfl, hd, -, -, rfl⟩ := exists_of_shape_sequence hs
  have hi : Level inner := by
    refine ⟨fun hm => h.bar_notMem (by simp [hm]), ?_⟩
    have := h.depth_eq
    rw [depth_append, depth_append] at this
    omega
  exact hi.strip

/-- A comma outside the brackets splits a level text into level pieces. -/
theorem Level.arguments {t key value : Text} (h : Level t) (hs : shape t = .dictionary key value) :
    Level key ∧ Level value := by
  obtain ⟨opening, inner, closing, rfl, hd, -, ha⟩ := exists_of_shape_dictionary hs
  obtain ⟨k, v, tail, rfl, hk, htail, rfl, rfl⟩ := exists_of_splitArguments_eq_pair ha
  -- behind a second comma the value is level by itself, else it takes what the whole leaves
  have hv : depth v = 0 := by
    rcases htail with rfl | ⟨-, hv⟩
    · have := h.depth_eq
      simp only [depth_append, depth_cons, hk, depth_nil, bracketStep] at this
      simp at this
      omega
    · exact hv
  have hk' : Level k := ⟨fun hm => h.bar_notMem (by simp [hm]), hk⟩
  have hv' : Level v := ⟨fun hm => h.bar_notMem (by simp [hm]), hv⟩
  exact ⟨hk'.strip, hv'.strip⟩

theorem depth_arrayOf (x : Text) : depth (arrayOf x) = depth x := by
  rw [arrayOf]
  split <;> simp [bracketStep]

theorem deep_bar_arrayOf {x : Text} (h : Deep '|' 0 x) : Deep '|' 0 (arrayOf x) := by
  rw [arrayOf]
  split
  · exact deep_enclosed (by decide) (by decide) (h.mono (by decide))
  · exact deep_append_of_notMem (by decide) h

theorem hasTopLevelUnion_parentheses {x : Text} (h : Deep '|' 0 x) :
    hasTopLevelUnion ("(" ++ x ++ ")") = false := by
  apply hasUnionAt_eq_false (n := 1) _ (by decide)
  exact deep_enclosed (by decide) (by decide) (h.mono (by decide))

theorem hasTopLevelUnion_brackets (x : Text) :
    hasTopLevelUnion (x ++ "[]") = hasTopLevelUnion x := by
  rw [hasTopLevelUnion, hasUnionAt_append, hasTopLevelUnion]
  simp [hasUnionAt]

/-- An array type is no union, whatever its element. -/
theorem hasTopLevelUnion_arrayOf {x : Text} (h : Deep '|' 0 x) :
    hasTopLevelUnion (arrayOf x) = false := by
  rw [arrayOf]
  split
  · have hx : "(" ++ x ++ ")[]" = ("(" ++ x ++ ")" : Text) ++ "[]" := by simp
    rw [hx, hasTopLevelUnion_brackets, hasTopLevelUnion_parentheses h]
  · next hu =>
    rw [hasTopLevelUnion_brackets]
    simpa using hu

theorem project_of_atom_cases {t : Text} (h : shape t = .atom) :
    project t = t ∨ ∃ w : Word, project t = w.text := by
  rw [project_of_atom h]
  cases hp : primitive? t with
  | none => exact .inl rfl
  | some v =>
    obtain ⟨-, hne, hw⟩ := primitives_words _ (mem_primitives_of_primitive? hp)
    exact .inr ⟨⟨v, hne, hw⟩, rfl⟩

theorem notMem_project_of_atom {t : Text} {c : Char} (hs : shape t = .atom) (hc : c ∉ t)
    (hw : isWordChar c = false) : c ∉ project t := by
  rcases project_of_atom_cases hs with hp | ⟨w, hp⟩
  · rwa [hp]
  · rw [hp]
    exact w.notMem hw

theorem depth_project {t : Text} (h : Level t) : depth (project t) = 0 := by
  induction t using project.induct with
  | case1 t base hs ih =>
    rw [project_of_nullable hs, depth_append, ih (h.base hs)]
    rfl
  | case2 t element hs ih => rw [project_of_sequence hs, depth_arrayOf, ih (h.element hs)]
  | case3 t key value hs ihk ihv =>
    obtain ⟨hk, hv⟩ := h.arguments hs
    simp only [project_of_dictionary hs, depth_append, ihk hk, ihv hv]
    rfl
  | case4 t hs =>
    rcases project_of_atom_cases hs with hp | ⟨w, hp⟩
    · rw [hp, h.depth_eq]
    · rw [hp, depth_word]

theorem recordText_of_dictionary {t key value : Text} (hs : shape t = .dictionary key value) :
    project t = recordText (project key) (project value) :=
  project_of_dictionary hs

/-- No bar of a projected type stands outside more brackets than it opens. -/
theorem deep_bar_project {t : Text} (h : Level t) : Deep '|' 0 (project t) := by
  induction t using project.induct with
  | case1 t base hs ih =>
    rw [project_of_nullable hs, deep_append, depth_project (h.base hs)]
    refine ⟨ih (h.base hs), ?_⟩
    simp [deep_cons, deep_of_notMem, bracketStep]
  | case2 t element hs ih =>
    rw [project_of_sequence hs]
    exact deep_bar_arrayOf (ih (h.element hs))
  | case3 t key value hs ihk ihv =>
    obtain ⟨hk, hv⟩ := h.arguments hs
    rw [recordText_of_dictionary hs]
    exact (deep_bar_recordText (ihk hk) (depth_project hk) (ihv hv)).mono (by decide)
  | case4 t hs =>
    exact deep_of_notMem (notMem_project_of_atom hs h.bar_notMem (by decide))

theorem getLast?_eq_question_iff {t : Text} :
    t.getLast? = some '?' ↔ ∃ base, shape t = .nullable base := by
  constructor
  · intro h
    rw [← List.dropLast_append_getLast? '?' h]
    exact ⟨_, shape_question _⟩
  · rintro ⟨base, h⟩
    obtain ⟨r, rfl, -⟩ := exists_of_shape_nullable h
    simp

/-- A projected type is a union exactly when the type ends with a question mark. -/
theorem hasTopLevelUnion_project {t : Text} (h : Level t) :
    hasTopLevelUnion (project t) ↔ t.getLast? = some '?' := by
  rw [getLast?_eq_question_iff]
  cases hs : shape t with
  | nullable base =>
    rw [project_of_nullable hs, hasTopLevelUnion_null (depth_project (h.base hs))]
    simp
  | sequence element =>
    rw [project_of_sequence hs, hasTopLevelUnion_arrayOf (deep_bar_project (h.element hs))]
    simp
  | dictionary key value =>
    obtain ⟨hk, hv⟩ := h.arguments hs
    have hb := deep_bar_recordText (deep_bar_project hk) (depth_project hk) (deep_bar_project hv)
    rw [recordText_of_dictionary hs, hasTopLevelUnion, hasUnionAt_eq_false hb (by decide)]
    simp
  | atom =>
    have hb : '|' ∉ project t := notMem_project_of_atom hs h.bar_notMem (by decide)
    rw [hasTopLevelUnion, hasUnionAt_eq_false (deep_of_notMem (n := 1) hb) (by decide)]
    simp

/-- The projection adds no line feed. -/
theorem newline_notMem_project {t : Text} (h : '\n' ∉ t) : '\n' ∉ project t := by
  have hstrip {u : Text} (hu : '\n' ∉ u) : '\n' ∉ strip u := fun hm => hu (mem_of_mem_strip hm)
  induction t using project.induct with
  | case1 t base hs ih =>
    obtain ⟨r, rfl, rfl⟩ := exists_of_shape_nullable hs
    rw [project_of_nullable hs]
    simp [ih (hstrip fun hm => h (by simp [hm]))]
  | case2 t element hs ih =>
    obtain ⟨opening, inner, closing, rfl, -, -, hn, rfl⟩ := exists_of_shape_sequence hs
    rw [project_of_sequence hs, arrayOf]
    split <;> simp [ih (hstrip hn)]
  | case3 t key value hs ihk ihv =>
    obtain ⟨opening, inner, closing, rfl, -, hn, ha⟩ := exists_of_shape_dictionary hs
    obtain ⟨k, v, tail, rfl, -, -, rfl, rfl⟩ := exists_of_splitArguments_eq_pair ha
    rw [project_of_dictionary hs]
    simp only [List.mem_append, List.mem_cons, not_or] at hn
    simp [ihk (hstrip hn.1.1), ihv (hstrip hn.1.2.2)]
  | case4 t hs =>
    exact notMem_project_of_atom hs h (by decide)

/-- A stripped type without a question mark at its end is stripped when projected. A nullable one
need not be: its base may be empty. -/
theorem strip_project {t : Text} (h : Level t) (ht : strip t = t) (hq : t.getLast? ≠ some '?') :
    strip (project t) = project t := by
  induction t using project.induct with
  | case1 t base hs ih => exact absurd (getLast?_eq_question_iff.2 ⟨base, hs⟩) hq
  | case2 t element hs ih =>
    have hl := h.element hs
    have he : strip element = element := by
      obtain ⟨-, inner, -, -, -, -, -, rfl⟩ := exists_of_shape_sequence hs
      exact strip_strip inner
    rw [project_of_sequence hs, arrayOf]
    split
    · have hx := strip_between (by decide : strip ['('] = ['(']) (by simp)
        (by decide : strip [')', '[', ']'] = [')', '[', ']']) (by simp) (project element)
      simpa using hx
    · next hu =>
      -- without a union the element ends as the hypothesis of the induction wants it
      rw [hasTopLevelUnion_project hl] at hu
      by_cases hx : project element = []
      · rw [hx]
        decide
      · simpa using strip_between (ih hl he hu) hx (by decide : strip ['[', ']'] = ['[', ']'])
          (by simp) []
  | case3 t key value hs ihk ihv =>
    rw [recordText_of_dictionary hs, recordText_eq_applied]
    exact strip_applied (by decide) (by decide) _
  | case4 t hs =>
    rcases project_of_atom_cases hs with hp | ⟨w, hp⟩
    · rw [hp, ht]
    · rw [hp, strip_word]

theorem project_eq_self {t : Text} (hs : shape t = .atom) {c : Char} (hc : c ∈ t)
    (hw : isWordChar c = false) : project t = t := by
  rw [project_of_atom hs, primitive?_eq_none hc hw]
  rfl

theorem project_null (x : Text) : project (x ++ " | null") = x ++ " | null" := by
  have hl : (x ++ " | null").getLast? = some 'l' := by simp
  exact project_eq_self (c := '|') (shape_eq_atom_of_getLast? hl (by decide)) (by simp) (by decide)

theorem project_recordText (key value : Text) :
    project (recordText key value) = recordText key value := by
  rw [recordText_eq_applied]
  exact project_eq_self (c := '<') (shape_applied (by decide) (by decide) _)
    (by simp [applied]) (by decide)

theorem project_parentheses (x : Text) : project ("(" ++ x ++ ")") = "(" ++ x ++ ")" := by
  have hl : ("(" ++ x ++ ")" : Text).getLast? = some ')' :=
    List.getLast?_append_of_ne_nil _ (by decide)
  exact project_eq_self (c := '(') (shape_eq_atom_of_getLast? hl (by decide)) (by simp) (by decide)

/-- An array type whose element is left alone is left alone. In parentheses the element is no union
any more, so no second pair is put around it. -/
theorem project_arrayOf {x : Text} (hx : project x = x) (hn : '\n' ∉ x) (hb : Deep '|' 0 x)
    (hs : hasTopLevelUnion x = false → strip x = x) : project (arrayOf x) = arrayOf x := by
  rw [arrayOf]
  split
  · next hu =>
    have hp : strip ("(" ++ x ++ ")") = "(" ++ x ++ ")" :=
      strip_between (by decide) (by decide) (by decide) (by decide) x
    have he : ("(" ++ x ++ ")[]" : Text) = ("(" ++ x ++ ")" : Text) ++ "[]" := by simp
    rw [he, project_of_sequence (shape_array (by simp) (by simpa using hn)), hp,
      project_parentheses, arrayOf, hasTopLevelUnion_parentheses hb]
    rfl
  · next hu =>
    by_cases h0 : x = []
    · rw [h0]
      exact project_eq_self (c := '[') (by decide) (by decide) (by decide)
    · rw [project_of_sequence (shape_array h0 hn), hs (by simpa using hu), hx, arrayOf, if_neg hu]

/-- Projecting a projected type changes nothing. -/
theorem project_project {t : Text} (h : Level t) : project (project t) = project t := by
  induction t using project.induct with
  | case1 t base hs ih => rw [project_of_nullable hs, project_null]
  | case2 t element hs ih =>
    have hl := h.element hs
    rw [project_of_sequence hs]
    obtain ⟨-, inner, -, -, -, -, hn, rfl⟩ := exists_of_shape_sequence hs
    apply project_arrayOf (ih hl)
    · exact newline_notMem_project fun hm => hn (mem_of_mem_strip hm)
    · exact deep_bar_project hl
    · -- an element that is no union keeps its ends, so the second pass strips nothing from it
      intro hu
      apply strip_project hl (strip_strip inner)
      rw [ne_eq, ← hasTopLevelUnion_project hl, hu]
      simp
  | case3 t key value hs ihk ihv => rw [recordText_of_dictionary hs, project_recordText]
  | case4 t hs =>
    rcases project_of_atom_cases hs with hp | ⟨w, hp⟩
    · rw [hp, hp]
    · -- the result is a word of the table, and the table sends it to itself
      rw [hp, project_word]
      have := getD_primitive?_fixed t
      rw [← project_of_atom hs, hp] at this
      exact this

/-- An expression whose brackets do not nest, with an empty base under two question marks. -/
theorem project_project_unnested :
    Level "IDictionary<)a(, List< ??>?>" ∧
      project (project "IDictionary<)a(, List< ??>?>") = project "IDictionary<)a(, List< ??>?>" ∧
      project "IDictionary<)a(, List< ??>?>" = "Record<)a(, ( | null | null)[] | null>" := by
  have h : Level "IDictionary<)a(, List< ??>?>" := ⟨by decide, by decide⟩
  exact ⟨h, project_project h, by decide +kernel⟩

end DtoInterfaces.TypeExpr
