import DtoInterfaces.Proofs.TypeExpr.Homomorphism

namespace DtoInterfaces.TypeExpr

open Text

/-- A type without opaque generic parts. -/
def TypeTree.Plain : TypeTree → Prop
  | .name _ => True
  | .generic _ => False
  | .nullable t => t.Plain
  | .list _ t => t.Plain
  | .array t => t.Plain
  | .dictionary _ k v => k.Plain ∧ v.Plain

namespace TsType

def Plain : TsType → Prop
  | name _ => True
  | generic _ => False
  | nullable t => t.Plain
  | array t => t.Plain
  | record k v => k.Plain ∧ v.Plain

theorem plain_translate {t : TypeTree} (h : t.Plain) : t.translate.Plain := by
  induction t with
  | name w => trivial
  | generic g => exact h
  | nullable t ih => exact ih h
  | list interface t ih => exact ih h
  | array t ih => exact ih h
  | dictionary interface k v ihk ihv => exact ⟨ihk h.1, ihv h.2⟩

theorem getLast?_text_nullable (t : TsType) : (nullable t).text.getLast? = some 'l' := by
  simp [text]

theorem getLast?_text_array (t : TsType) : (array t).text.getLast? = some ']' := by
  rw [text, arrayText]
  split <;> exact List.getLast?_append_of_ne_nil _ (by decide)

theorem getLast?_text_record (k v : TsType) : (record k v).text.getLast? = some '>' := by
  rw [text, recordText_eq_applied, getLast?_applied]

/-- The outermost constructors of the types without opaque parts. -/
inductive Kind where
  | name
  | nullable
  | array
  | record
  deriving DecidableEq

/-- The outermost constructor, read off the text. -/
def readKind (s : Text) : Kind :=
  if s.getLast? = some ']' then .array
  else if s.getLast? = some '>' then .record
  else if '|' ∈ s then .nullable
  else .name

theorem getLast?_word_ne (w : Word) {c : Char} (hc : isWordChar c = false) :
    w.text.getLast? ≠ some c := by
  intro h
  exact w.notMem hc (List.mem_of_getLast? h)

@[simp] theorem readKind_name (w : Word) : readKind (name w).text = .name := by
  have hb : '|' ∉ w.text := w.notMem (by decide)
  rw [text, readKind, if_neg (getLast?_word_ne w (by decide)),
    if_neg (getLast?_word_ne w (by decide)), if_neg hb]

@[simp] theorem readKind_nullable (t : TsType) : readKind (nullable t).text = .nullable := by
  rw [readKind, getLast?_text_nullable]
  simp [text]

@[simp] theorem readKind_array (t : TsType) : readKind (array t).text = .array := by
  rw [readKind, getLast?_text_array, if_pos rfl]

@[simp] theorem readKind_record (k v : TsType) : readKind (record k v).text = .record := by
  rw [readKind, getLast?_text_record]
  rfl

/-- A closing parenthesis is always followed by the brackets of an array. -/
theorem getLast?_text_ne_parenthesis {t : TsType} (h : t.Plain) :
    t.text.getLast? ≠ some ')' := by
  cases t with
  | name w => exact getLast?_word_ne w (by decide)
  | generic g => exact h.elim
  | nullable t => simp [getLast?_text_nullable]
  | array t => simp [getLast?_text_array]
  | record k v => simp [getLast?_text_record]

theorem arrayText_inj {t u : TsType} (ht : t.Plain) (hu : u.Plain)
    (h : (array t).text = (array u).text) : t.text = u.text := by
  have hp (x y : Text) (hxy : "(" ++ x ++ ")[]" = y ++ "[]") : y.getLast? = some ')' := by
    have he : ("(" ++ x ++ ")[]" : Text) = ("(" ++ x ++ ")" : Text) ++ "[]" := by simp
    rw [he, List.append_left_inj] at hxy
    rw [← hxy]
    exact List.getLast?_append_of_ne_nil _ (by decide)
  simp only [text, arrayText] at h
  split at h
  · split at h
    · simpa using h
    · exact absurd (hp _ _ h) (getLast?_text_ne_parenthesis hu)
  · split at h
    · exact absurd (hp _ _ h.symm) (getLast?_text_ne_parenthesis ht)
    · simpa using h

/-- The comma between key and value is the first one outside all brackets. -/
theorem deep_comma_text (t : TsType) : Deep ',' 1 t.text := by
  induction t with
  | name w => exact deep_of_notMem (w.notMem (by decide))
  | generic g => exact (Renders.generic g).deep_comma
  | nullable t ih =>
    rw [text]
    exact deep_append_of_notMem (by decide) ih
  | array t ih =>
    rw [text, arrayText]
    split
    · exact deep_enclosed (by decide) (by decide) (ih.mono (by decide))
    · exact deep_append_of_notMem (by decide) ih
  | record k v ihk ihv =>
    rw [text, recordText_eq_applied]
    apply deep_applied (by decide) (by decide) (by decide)
    rw [deep_append, deep_cons, deep_cons, depth_text]
    exact ⟨ihk.mono (by decide), by decide, by decide, ihv.mono (by decide)⟩

theorem recordText_inj {k k' v v' : TsType} (h : (record k v).text = (record k' v').text) :
    k.text = k'.text ∧ v.text = v'.text := by
  simp only [text, recordText_eq_applied] at h
  have ha := ((applied_inj (by decide) (by decide)).1 h).2
  have hc := congrArg (cutAt 0) ha
  rw [cutAt_comma (k.deep_comma_text.avoids (by decide)) k.depth_text,
    cutAt_comma (k'.deep_comma_text.avoids (by decide)) k'.depth_text] at hc
  have hk := (List.cons.inj hc).1
  rw [hk] at ha
  simpa [hk] using ha

theorem text_injective {t u : TsType} (ht : t.Plain) (hu : u.Plain) (h : t.text = u.text) :
    t = u := by
  -- `hk` rules out the cases where the outermost constructors differ
  have hk := congrArg readKind h
  induction t generalizing u with
  | name w =>
    cases u with
    | name v => rw [Word.text_injective h]
    | generic g => exact hu.elim
    | _ => simp at hk
  | generic g => exact ht.elim
  | nullable t ih =>
    cases u with
    | nullable u =>
      replace hu : u.Plain := hu
      have he : t.text = u.text := by simpa only [text, List.append_left_inj] using h
      rw [ih ht hu he (congrArg readKind he)]
    | generic g => exact hu.elim
    | _ => simp at hk
  | array t ih =>
    cases u with
    | array u =>
      replace hu : u.Plain := hu
      have he := arrayText_inj (show t.Plain from ht) hu h
      rw [ih ht hu he (congrArg readKind he)]
    | generic g => exact hu.elim
    | _ => simp at hk
  | record k v ihk ihv =>
    cases u with
    | record k' v' =>
      obtain ⟨hek, hev⟩ := recordText_inj h
      rw [ihk ht.1 hu.1 hek (congrArg readKind hek), ihv ht.2 hu.2 hev (congrArg readKind hev)]
    | generic g => exact hu.elim
    | _ => simp at hk

end TsType

/-- Two written types without opaque parts have the same projection exactly when they translate to
the same type. -/
theorem project_eq_project_iff {t u : TypeTree} {s r : Text} (ht : t.Plain) (hu : u.Plain)
    (hs : Renders t s) (hr : Renders u r) : project s = project r ↔ t.translate = u.translate := by
  rw [project_renders hs, project_renders hr]
  constructor
  · exact TsType.text_injective (TsType.plain_translate ht) (TsType.plain_translate hu)
  · intro h
    rw [h]

/-- A nullable list and a list of nullable elements, the second one also written as an array. -/
theorem project_eq_project_iff_lists : ∃ t u v : TypeTree, (t.Plain ∧ u.Plain ∧ v.Plain) ∧
    Renders t "List<Foo>?" ∧ Renders u "IList< Foo? >" ∧ Renders v "Foo?\t[]" ∧
    project "List<Foo>?" ≠ project "IList< Foo? >" ∧
    project "IList< Foo? >" = project "Foo?\t[]" := by
  have hw := Renders.name ⟨"Foo", by decide, by decide⟩
  have hn := hw.nullable (by decide : IsGap [])
  have ht := (Renders.list false hw (by decide : IsGap []) (by decide : IsGap [])).nullable
    (by decide : IsGap [])
  have hu := Renders.list true hn (by decide : IsGap [' ']) (by decide : IsGap [' '])
  have hv := hn.array (by decide : IsGap ['\t'])
  refine ⟨_, _, _, ⟨?_, ?_, ?_⟩, ht, hu, hv, ?_, ?_⟩
  · trivial
  · trivial
  · trivial
  · intro h
    exact absurd ((project_eq_project_iff (by trivial) (by trivial) ht hu).1 h) (by decide)
  · exact (project_eq_project_iff (by trivial) (by trivial) hu hv).2 rfl

end DtoInterfaces.TypeExpr
