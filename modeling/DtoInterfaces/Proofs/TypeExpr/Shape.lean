import DtoInterfaces.Proofs.TypeExpr.Nesting
import DtoInterfaces.TypeExpr.Projection

namespace DtoInterfaces

namespace Text

theorem enclosed?_eq_some_iff {opening closing t inner : Text} :
    enclosed? opening closing t = some inner ↔
      t = opening ++ inner ++ closing ∧ inner ≠ [] ∧ '\n' ∉ inner := by
  simp only [enclosed?, Option.filter_eq_some_iff, Option.bind_eq_some_iff,
    List.isPrefixOf?_eq_some_iff_append_eq, List.isSuffixOf?_eq_some_iff_append_eq,
    Bool.and_eq_true, Bool.not_eq_true', List.isEmpty_eq_false_iff, List.contains_eq_mem,
    decide_eq_false_iff_not]
  constructor
  · rintro ⟨⟨rest, rfl, rfl⟩, h⟩
    exact ⟨by rw [List.append_assoc], h⟩
  · rintro ⟨rfl, h⟩
    exact ⟨⟨inner ++ closing, by rw [List.append_assoc], rfl⟩, h⟩

theorem enclosed?_eq_none_iff {opening closing t : Text} :
    enclosed? opening closing t = none ↔
      ∀ inner, t = opening ++ inner ++ closing → inner = [] ∨ '\n' ∈ inner := by
  rw [Option.eq_none_iff_forall_ne_some]
  simp only [ne_eq, enclosed?_eq_some_iff, not_and_or, not_not]
  grind

theorem enclosed?_eq_none_of_getLast? {opening closing t : Text} (hc : closing ≠ [])
    (h : t.getLast? ≠ closing.getLast?) : enclosed? opening closing t = none := by
  rw [enclosed?_eq_none_iff]
  rintro inner rfl
  exact absurd (List.getLast?_append_of_ne_nil _ hc) h

/-- What stands before the first occurrence of a character is determined, and so is the rest. -/
theorem eq_of_append_cons_eq {c : Char} {v w s t : Text} (hv : c ∉ v) (hw : c ∉ w)
    (h : v ++ c :: s = w ++ c :: t) : v = w ∧ s = t := by
  rcases List.append_eq_append_iff.1 h with ⟨u, rfl, hu⟩ | ⟨u, rfl, hu⟩
  all_goals
    rcases u with _ | ⟨d, u⟩
    · simp_all
    · simp_all

end Text

namespace TypeExpr

open Text

/-- A generic type: a name before arguments in angle brackets. -/
def applied (head arguments : Text) : Text := head ++ '<' :: arguments ++ ['>']

theorem applied_inj {head head' s t : Text} (hh : '<' ∉ head) (hh' : '<' ∉ head') :
    applied head s = applied head' t ↔ head = head' ∧ s = t := by
  constructor
  · intro h
    simp only [applied, List.append_cancel_right_eq] at h
    exact eq_of_append_cons_eq hh hh' h
  · rintro ⟨rfl, rfl⟩
    rfl

theorem getLast?_applied (head s : Text) : (applied head s).getLast? = some '>' := by
  rw [applied, List.getLast?_append_of_ne_nil _ (by simp)]
  rfl

theorem enclosed?_applied {head name s : Text} (hh : '<' ∉ head) (hn : '<' ∉ name) :
    enclosed? (name ++ ['<']) ">" (applied head s) =
      if name = head ∧ s ≠ [] ∧ '\n' ∉ s then some s else none := by
  have he (t : Text) : name ++ ['<'] ++ t ++ ">" = applied name t := by simp [applied]
  split
  · next h =>
    obtain ⟨rfl, h⟩ := h
    exact enclosed?_eq_some_iff.2 ⟨(he s).symm, h⟩
  · next h =>
    rw [enclosed?_eq_none_iff]
    intro inner hi
    rw [he, applied_inj hh hn] at hi
    obtain ⟨rfl, rfl⟩ := hi
    simpa [imp_iff_not_or] using h

/-- The two names of a list type. -/
def listName (interface : Bool) : Text := if interface then "IList" else "List"

/-- The two names of a dictionary type. -/
def dictionaryName (interface : Bool) : Text := if interface then "IDictionary" else "Dictionary"

theorem sequenceElement?_applied {head s : Text} (hh : '<' ∉ head) :
    sequenceElement? (applied head s) =
      if (head = listName false ∨ head = listName true) ∧ s ≠ [] ∧ '\n' ∉ s then some s
      else none := by
  have h0 : enclosed? "" "[]" (applied head s) = none :=
    enclosed?_eq_none_of_getLast? (by simp) (by simp [getLast?_applied])
  have h1 := enclosed?_applied (s := s) hh (by decide : '<' ∉ listName false)
  have h2 := enclosed?_applied (s := s) hh (by decide : '<' ∉ listName true)
  change (enclosed? (listName false ++ ['<']) ">" (applied head s)).or
    ((enclosed? (listName true ++ ['<']) ">" (applied head s)).or _) = _
  rw [h0, h1, h2]
  grind

theorem dictionaryArguments?_applied {head s : Text} (hh : '<' ∉ head) :
    dictionaryArguments? (applied head s) =
      if (head = dictionaryName false ∨ head = dictionaryName true) ∧ s ≠ [] ∧ '\n' ∉ s then some s
      else none := by
  have h1 := enclosed?_applied (s := s) hh (by decide : '<' ∉ dictionaryName false)
  have h2 := enclosed?_applied (s := s) hh (by decide : '<' ∉ dictionaryName true)
  change (enclosed? (dictionaryName false ++ ['<']) ">" (applied head s)).or
    (enclosed? (dictionaryName true ++ ['<']) ">" (applied head s)) = _
  rw [h1, h2]
  grind

theorem shape_question (r : Text) : shape (r ++ ['?']) = .nullable (strip r) := by
  simp [shape]

theorem shape_list (interface : Bool) {e : Text} (he : e ≠ []) (hn : '\n' ∉ e) :
    shape (applied (listName interface) e) = .sequence (strip e) := by
  have h : sequenceElement? (applied (listName interface) e) = some e := by
    rw [sequenceElement?_applied (by cases interface <;> decide), if_pos]
    exact ⟨by cases interface <;> simp, he, hn⟩
  simp [shape, getLast?_applied, h]

theorem shape_array {e : Text} (he : e ≠ []) (hn : '\n' ∉ e) :
    shape (e ++ "[]") = .sequence (strip e) := by
  have h : sequenceElement? (e ++ "[]") = some e := by
    have h0 (o : Text) : enclosed? o ">" (e ++ "[]") = none :=
      enclosed?_eq_none_of_getLast? (by simp) (by simp)
    rw [sequenceElement?, h0, h0]
    exact enclosed?_eq_some_iff.2 ⟨rfl, he, hn⟩
  simp only [shape, h]
  simp

theorem shape_dictionary (interface : Bool) {a key value : Text} (ha : a ≠ []) (hn : '\n' ∉ a)
    (hs : splitArguments a = [key, value]) :
    shape (applied (dictionaryName interface) a) = .dictionary key value := by
  have h0 : sequenceElement? (applied (dictionaryName interface) a) = none := by
    rw [sequenceElement?_applied (by cases interface <;> decide), if_neg]
    cases interface <;> simp [dictionaryName, listName]
  have h : dictionaryArguments? (applied (dictionaryName interface) a) = some a := by
    rw [dictionaryArguments?_applied (by cases interface <;> decide), if_pos]
    exact ⟨by cases interface <;> simp, ha, hn⟩
  simp [shape, getLast?_applied, h0, h, hs]

/-- A generic type of another name is no container, whatever its arguments. -/
theorem shape_applied {head : Text} (hh : '<' ∉ head) (hc : head ∉ containerNames) (s : Text) :
    shape (applied head s) = .atom := by
  have h0 : sequenceElement? (applied head s) = none := by
    rw [sequenceElement?_applied hh, if_neg]
    grind [containerNames, listName]
  have h : dictionaryArguments? (applied head s) = none := by
    rw [dictionaryArguments?_applied hh, if_neg]
    grind [containerNames, dictionaryName]
  simp [shape, getLast?_applied, h0, h]

/-- Over several lines a generic type is no container, whatever its name. -/
theorem shape_applied_of_newline {head s : Text} (hh : '<' ∉ head) (hn : '\n' ∈ s) :
    shape (applied head s) = .atom := by
  have h0 : sequenceElement? (applied head s) = none := by
    rw [sequenceElement?_applied hh, if_neg]
    exact fun h => h.2.2 hn
  have h : dictionaryArguments? (applied head s) = none := by
    rw [dictionaryArguments?_applied hh, if_neg]
    exact fun h => h.2.2 hn
  simp [shape, getLast?_applied, h0, h]

theorem shape_eq_atom_of_getLast? {t : Text} {c : Char} (ht : t.getLast? = some c)
    (hc : c ∉ ['?', '>', ']']) : shape t = .atom := by
  simp only [List.mem_cons, List.not_mem_nil, or_false, not_or] at hc
  have h (o : Text) : enclosed? o ">" t = none :=
    enclosed?_eq_none_of_getLast? (by simp) (by simp [ht, hc])
  have h0 : enclosed? "" "[]" t = none :=
    enclosed?_eq_none_of_getLast? (by simp) (by simp [ht, hc])
  have hs : sequenceElement? t = none := by rw [sequenceElement?, h, h, h0]; rfl
  have hd : dictionaryArguments? t = none := by rw [dictionaryArguments?, h, h]; rfl
  simp [shape, ht, hc, hs, hd]

theorem exists_of_shape_nullable {t base : Text} (h : shape t = .nullable base) :
    ∃ r, t = r ++ ['?'] ∧ base = strip r := by
  unfold shape at h
  split at h
  · next ht =>
    cases h
    exact ⟨t.dropLast, (List.dropLast_append_getLast? '?' ht).symm, rfl⟩
  · split at h
    · cases h
    · split at h <;> cases h

/-- Whatever stands around an element closes the brackets that it opens. -/
theorem exists_of_sequenceElement? {t e : Text} (h : sequenceElement? t = some e) :
    ∃ opening closing, depth opening + depth closing = 0 ∧
      enclosed? opening closing t = some e := by
  rcases Option.or_eq_some_iff.1 h with h | ⟨-, h⟩
  · exact ⟨_, _, by decide, h⟩
  · rcases Option.or_eq_some_iff.1 h with h | ⟨-, h⟩
    · exact ⟨_, _, by decide, h⟩
    · exact ⟨_, _, by decide, h⟩

theorem exists_of_dictionaryArguments? {t a : Text} (h : dictionaryArguments? t = some a) :
    ∃ opening closing, depth opening + depth closing = 0 ∧
      enclosed? opening closing t = some a := by
  rcases Option.or_eq_some_iff.1 h with h | ⟨-, h⟩
  · exact ⟨_, _, by decide, h⟩
  · exact ⟨_, _, by decide, h⟩

theorem exists_sequenceElement?_of_shape {t element : Text} (h : shape t = .sequence element) :
    ∃ e, sequenceElement? t = some e ∧ element = strip e := by
  unfold shape at h
  split at h
  · cases h
  · split at h
    · next e he =>
      cases h
      exact ⟨e, he, rfl⟩
    · split at h <;> cases h

theorem exists_dictionaryArguments?_of_shape {t key value : Text}
    (h : shape t = .dictionary key value) :
    ∃ a, dictionaryArguments? t = some a ∧ splitArguments a = [key, value] := by
  unfold shape at h
  split at h
  · cases h
  · split at h
    · cases h
    · split at h
      · next hs =>
        cases h
        exact Option.map_eq_some_iff.1 hs
      · cases h

theorem exists_of_shape_sequence {t element : Text} (h : shape t = .sequence element) :
    ∃ opening inner closing, t = opening ++ inner ++ closing ∧ depth opening + depth closing = 0 ∧
      inner ≠ [] ∧ '\n' ∉ inner ∧ element = strip inner := by
  obtain ⟨e, he, rfl⟩ := exists_sequenceElement?_of_shape h
  obtain ⟨opening, closing, hd, he⟩ := exists_of_sequenceElement? he
  obtain ⟨rfl, hne, hn⟩ := enclosed?_eq_some_iff.1 he
  exact ⟨opening, e, closing, rfl, hd, hne, hn, rfl⟩

theorem exists_of_shape_dictionary {t key value : Text} (h : shape t = .dictionary key value) :
    ∃ opening inner closing, t = opening ++ inner ++ closing ∧ depth opening + depth closing = 0 ∧
      '\n' ∉ inner ∧ splitArguments inner = [key, value] := by
  obtain ⟨a, ha, hkv⟩ := exists_dictionaryArguments?_of_shape h
  obtain ⟨opening, closing, hd, ha⟩ := exists_of_dictionaryArguments? ha
  obtain ⟨rfl, -, hn⟩ := enclosed?_eq_some_iff.1 ha
  exact ⟨opening, a, closing, rfl, hd, hn, hkv⟩

section Project

variable {t base element key value : Text}

theorem project_of_nullable (h : shape t = .nullable base) :
    project t = project base ++ " | null" := by
  rw [project]
  split <;> simp_all

theorem project_of_sequence (h : shape t = .sequence element) :
    project t = arrayOf (project element) := by
  rw [project]
  split <;> simp_all

theorem project_of_dictionary (h : shape t = .dictionary key value) :
    project t = "Record<" ++ project key ++ ", " ++ project value ++ ">" := by
  rw [project]
  split <;> simp_all

theorem project_of_atom (h : shape t = .atom) : project t = (primitive? t).getD t := by
  rw [project]
  split <;> simp_all

end Project

end TypeExpr

end DtoInterfaces
