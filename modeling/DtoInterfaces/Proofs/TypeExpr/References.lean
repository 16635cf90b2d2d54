import DtoInterfaces.Proofs.Text.Runs
import DtoInterfaces.Proofs.TypeExpr.Primitive
import DtoInterfaces.Proofs.TypeExpr.Shape

namespace DtoInterfaces.TypeExpr

open Text

/-- The TypeScript words that the projection writes. -/
def outputWords : List Text := ["number", "string", "boolean", "any", "void", "null", "Record"]

theorem mem_references {t w : Text} : w ∈ references t ↔ w ∈ words t ∧ isBuiltIn w = false := by
  rw [references, mem_distinct, List.mem_filter, Bool.not_eq_true']

theorem words_of_enclosed? {opening closing t inner : Text}
    (ho : opening.getLast?.any isWordChar = false) (hc : closing.any isWordChar = false)
    (h : enclosed? opening closing t = some inner) : words t = words opening ++ words inner := by
  obtain ⟨rfl, -⟩ := enclosed?_eq_some_iff.1 h
  exact words_between ho hc inner

theorem words_of_shape_nullable {t base : Text} (h : shape t = .nullable base) :
    words t = words base := by
  obtain ⟨r, rfl, rfl⟩ := exists_of_shape_nullable h
  rw [words_append_cons (by decide), words_nil, List.append_nil, words_strip]

/-- Besides its element, a sequence holds at most the name of a container. -/
theorem words_of_shape_sequence {t element : Text} (h : shape t = .sequence element) :
    ∃ heads, (∀ w ∈ heads, w ∈ containerNames) ∧ words t = heads ++ words element := by
  obtain ⟨e, he, rfl⟩ := exists_sequenceElement?_of_shape h
  rw [words_strip]
  rcases Option.or_eq_some_iff.1 he with he | ⟨-, he⟩
  · exact ⟨_, by decide, words_of_enclosed? (by decide) (by decide) he⟩
  · rcases Option.or_eq_some_iff.1 he with he | ⟨-, he⟩
    · exact ⟨_, by decide, words_of_enclosed? (by decide) (by decide) he⟩
    · exact ⟨_, by decide, words_of_enclosed? (by decide) (by decide) he⟩

theorem words_of_shape_dictionary {t key value : Text} (h : shape t = .dictionary key value) :
    ∃ heads, (∀ w ∈ heads, w ∈ containerNames) ∧
      words t = heads ++ (words key ++ words value) := by
  obtain ⟨a, ha, hkv⟩ := exists_dictionaryArguments?_of_shape h
  obtain ⟨k, v, tail, rfl, -, htail, rfl, rfl⟩ := exists_of_splitArguments_eq_pair hkv
  have htail : tail.any isWordChar = false := by
    rcases htail with rfl | ⟨rfl, -⟩ <;> decide
  have hw : words (k ++ ',' :: v ++ tail) = words k ++ words v := by
    have he : k ++ ',' :: v ++ tail = (k ++ [',']) ++ v ++ tail := by simp
    rw [he, words_between (by simp; decide) htail, words_append_cons (by decide), words_nil,
      List.append_nil]
  rw [words_strip, words_strip, ← hw]
  rcases Option.or_eq_some_iff.1 ha with ha | ⟨-, ha⟩
  · exact ⟨_, by decide, words_of_enclosed? (by decide) (by decide) ha⟩
  · exact ⟨_, by decide, words_of_enclosed? (by decide) (by decide) ha⟩

theorem words_null (x : Text) : words (x ++ " | null") = words x ++ [("null" : Text)] :=
  words_append_of_head? (by decide)

theorem words_arrayOf (x : Text) : words (arrayOf x) = words x := by
  rw [arrayOf]
  split
  · exact words_between (s := "(") (by decide) (by decide) x
  · exact words_between (s := "") (by decide) (by decide) x

theorem words_record (key value : Text) :
    words ("Record<" ++ key ++ ", " ++ value ++ ">") =
      ("Record" : Text) :: (words key ++ words value) := by
  have he : ("Record<" ++ key ++ ", " ++ value ++ ">" : Text) =
      "Record<" ++ (key ++ ',' :: ' ' :: (value ++ ">")) := by simp
  rw [he, words_append_of_getLast? (by decide), words_append_cons (by decide),
    words_cons (by decide), words_append_of_head? (by decide), show words ">" = [] by decide,
    List.append_nil]
  rfl

/-- The words of a projected type are those of the type and some that the projection writes. -/
theorem mem_words_project {t w : Text} (h : w ∈ words (project t)) :
    w ∈ outputWords ∨ w ∈ words t := by
  induction t using project.induct with
  | case1 t base hs ih =>
    rw [project_of_nullable hs, words_null, List.mem_append] at h
    rw [words_of_shape_nullable hs]
    rcases h with h | h
    · exact ih h
    · rw [List.mem_singleton.1 h]
      exact .inl (by decide)
  | case2 t element hs ih =>
    rw [project_of_sequence hs, words_arrayOf] at h
    obtain ⟨heads, -, ht⟩ := words_of_shape_sequence hs
    rw [ht, List.mem_append]
    exact (ih h).imp_right .inr
  | case3 t key value hs ihk ihv =>
    rw [project_of_dictionary hs, words_record, List.mem_cons, List.mem_append] at h
    obtain ⟨heads, -, ht⟩ := words_of_shape_dictionary hs
    rw [ht, List.mem_append, List.mem_append]
    rcases h with rfl | h | h
    · exact .inl (by decide)
    · exact (ihk h).imp_right fun h => .inr (.inl h)
    · exact (ihv h).imp_right fun h => .inr (.inr h)
  | case4 t hs =>
    rw [project_of_atom hs] at h
    cases hp : primitive? t with
    | none =>
      rw [hp] at h
      exact .inr h
    | some v =>
      rw [hp] at h
      -- a type of the table is replaced by words of the projection
      have hall : ∀ p ∈ primitives, ∀ w ∈ words p.2, w ∈ outputWords := by decide
      exact .inl (hall _ (mem_primitives_of_primitive? hp) w h)

/-- No name that is not built in is lost: the words around the parts of a type are containers, and
a type of the table is a single word. -/
theorem mem_words_project_of_mem_words {t w : Text} (h : w ∈ words t) (hw : isBuiltIn w = false) :
    w ∈ words (project t) := by
  rw [isBuiltIn, Bool.or_eq_false_iff] at hw
  obtain ⟨hcontainer, hprimitive⟩ := hw
  have hheads {heads : List Text} (hh : ∀ w ∈ heads, w ∈ containerNames) : w ∉ heads := by
    intro hm
    simp [hh w hm] at hcontainer
  induction t using project.induct with
  | case1 t base hs ih =>
    rw [words_of_shape_nullable hs] at h
    rw [project_of_nullable hs, words_null]
    exact List.mem_append_left _ (ih h)
  | case2 t element hs ih =>
    obtain ⟨heads, hh, ht⟩ := words_of_shape_sequence hs
    rw [ht, List.mem_append] at h
    rw [project_of_sequence hs, words_arrayOf]
    exact ih (h.resolve_left (hheads hh))
  | case3 t key value hs ihk ihv =>
    obtain ⟨heads, hh, ht⟩ := words_of_shape_dictionary hs
    rw [ht, List.mem_append, List.mem_append] at h
    rw [project_of_dictionary hs, words_record, List.mem_cons, List.mem_append]
    exact .inr ((h.resolve_left (hheads hh)).imp ihk ihv)
  | case4 t hs =>
    rw [project_of_atom hs]
    cases hp : primitive? t with
    | none => exact h
    | some v =>
      have hmem := mem_primitives_of_primitive? hp
      have hall := (primitives_words _ hmem).1
      have hne : t ≠ [] := by
        rintro rfl
        cases h
      rw [words_word ⟨t, hne, hall⟩, List.mem_singleton] at h
      simp [isPrimitive, h, hp] at hprimitive

theorem isBuiltIn_eq_false_iff {name : Text} :
    isBuiltIn name = false ↔ name ∉ containerNames ∧ name ∉ primitives.map Prod.fst := by
  rw [isBuiltIn, Bool.or_eq_false_iff, isPrimitive, Option.isSome_eq_false_iff,
    Option.isNone_iff_eq_none, primitive?, List.lookup_eq_none_iff]
  simp only [List.contains_eq_mem, decide_eq_false_iff_not, List.mem_map, bne_iff_ne, not_exists,
    not_and, ne_comm]

/-- A reference that is listed earlier stands farther left. -/
theorem pairwise_runsBefore_references (t : Text) : (references t).Pairwise (RunsBefore t) := by
  refine (pairwise_distinct _).imp_of_mem fun {v w} _ hw h => ?_
  obtain ⟨l, l', hsplit, hl, hne⟩ := h
  obtain ⟨u, u', hwords, rfl, hu'⟩ := List.filter_eq_append_iff.1 hsplit
  obtain ⟨m, m', rfl, hm, -, -⟩ := List.filter_eq_cons_iff.1 hu'
  have hw : isBuiltIn w = false := (mem_references.1 hw).2
  have hwords : words t = (u ++ m) ++ v :: m' := by rw [hwords, List.append_assoc]
  refine runsBefore_of_words_eq hwords ?_ hne
  rw [List.mem_append, not_or]
  exact ⟨fun h => hl (List.mem_filter.2 ⟨h, by simp [hw]⟩), fun h => hm w h (by simp [hw])⟩

/-- The references of a type are the words of it that are neither containers nor in the table, each
of them once, in the order in which they first stand in it. In the projected type each of them
stands as a whole word again. -/
theorem references_remain (t : Text) :
    (references t).Nodup ∧
    (∀ name, name ∈ references t ↔
      HasRun t name ∧ name ∉ containerNames ∧ name ∉ primitives.map Prod.fst) ∧
    (references t).Pairwise (RunsBefore t) ∧
    ∀ name ∈ references t, HasRun (project t) name := by
  refine ⟨nodup_distinct _, fun name => ?_, pairwise_runsBefore_references t, fun name h => ?_⟩
  · rw [mem_references, mem_words_iff, isBuiltIn_eq_false_iff]
  · obtain ⟨hword, hbuiltIn⟩ := mem_references.1 h
    exact mem_words_iff.1 (mem_words_project_of_mem_words hword hbuiltIn)

/-- A name that is also a part of another name, in a dictionary with a comma at its end. -/
theorem references_remain_dictionary :
    ("Tag" : Text) ∈ references "Dictionary<MyTag?, IList<Tag[]>,>" ∧
      RunsBefore "Dictionary<MyTag?, IList<Tag[]>,>" "MyTag" "Tag" ∧
      project "Dictionary<MyTag?, IList<Tag[]>,>" = "Record<MyTag | null, Tag[][]>" ∧
      HasRun (project "Dictionary<MyTag?, IList<Tag[]>,>") "Tag" := by
  have ht : references "Dictionary<MyTag?, IList<Tag[]>,>" = ["MyTag", "Tag"] := by
    decide +kernel
  obtain ⟨-, -, hbefore, hrun⟩ := references_remain "Dictionary<MyTag?, IList<Tag[]>,>"
  have hmem : ("Tag" : Text) ∈ references "Dictionary<MyTag?, IList<Tag[]>,>" := by
    rw [ht]
    decide
  rw [ht] at hbefore
  exact ⟨hmem, List.rel_of_pairwise_cons hbefore List.mem_cons_self, by decide +kernel,
    hrun "Tag" hmem⟩

end DtoInterfaces.TypeExpr
