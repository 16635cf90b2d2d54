import DtoInterfaces.Proofs.TypeExpr.Shape

namespace DtoInterfaces.TypeExpr

open Text

/-- A generic type that is none of the containers. Its arguments are any text whose brackets
nest. -/
structure Generic where
  head : Word
  arguments : Text
  head_notMem : head.text ∉ containerNames
  bar_notMem : '|' ∉ arguments
  newline_notMem : '\n' ∉ arguments
  depth_nonneg : ∀ p, p <+: arguments → 0 ≤ depth p
  depth_eq : depth arguments = 0
  deriving DecidableEq

def Generic.text (g : Generic) : Text := applied g.head.text g.arguments

inductive TypeTree where
  | name (w : Word)
  | generic (g : Generic)
  | nullable (base : TypeTree)
  | list (interface : Bool) (element : TypeTree)
  | array (element : TypeTree)
  | dictionary (interface : Bool) (key value : TypeTree)
  deriving DecidableEq

/-- Blanks without a line feed. -/
def IsGap (b : Text) : Prop := AllBlank b ∧ '\n' ∉ b

instance (b : Text) : Decidable (IsGap b) :=
  inferInstanceAs (Decidable (AllBlank b ∧ '\n' ∉ b))

theorem IsGap.deep_comma {n : Int} {b : Text} (hb : IsGap b) : Deep ',' n b := by
  apply deep_of_notMem
  intro hc
  exact absurd (hb.1 _ hc) (by decide)

/-- The texts of a type. -/
inductive Renders : TypeTree → Text → Prop
  | name (w : Word) : Renders (.name w) w.text
  | generic (g : Generic) : Renders (.generic g) g.text
  | nullable {t : TypeTree} {s b : Text} (hs : Renders t s) (hb : IsGap b) :
      Renders (.nullable t) (s ++ b ++ ['?'])
  | list (interface : Bool) {t : TypeTree} {s b b' : Text} (hs : Renders t s) (hb : IsGap b)
      (hb' : IsGap b') :
      Renders (.list interface t) (applied (listName interface) (b ++ s ++ b'))
  | array {t : TypeTree} {s b : Text} (hs : Renders t s) (hb : IsGap b) :
      Renders (.array t) (s ++ b ++ "[]")
  | dictionary (interface : Bool) {k v : TypeTree} {s u b₁ b₂ b₃ b₄ : Text} (hs : Renders k s)
      (hu : Renders v u) (h₁ : IsGap b₁) (h₂ : IsGap b₂) (h₃ : IsGap b₃) (h₄ : IsGap b₄) :
      Renders (.dictionary interface k v)
        (applied (dictionaryName interface) (b₁ ++ s ++ b₂ ++ ',' :: (b₃ ++ u ++ b₄)))

section Applied

variable {head s : Text}

theorem depth_applied (hh : depth head = 0) : depth (applied head s) = depth s := by
  simp [applied, hh, bracketStep]

/-- The brackets of a generic type put its arguments one deeper. -/
theorem deep_applied {m : Char} {n : Int} (hh : depth head = 0) (hm : m ∉ head)
    (hm' : m ∉ ['<', '>']) (hs : Deep m (n - 1) s) : Deep m n (applied head s) := by
  simp only [List.mem_cons, List.not_mem_nil, or_false, not_or] at hm'
  rw [applied, deep_append, deep_append, deep_cons]
  refine ⟨⟨deep_of_notMem hm, ?_, ?_⟩, deep_of_notMem (by simpa using hm'.2)⟩
  · rintro rfl
    exact absurd rfl hm'.1
  · rw [hh]
    exact hs.mono (by simp [bracketStep])

theorem strip_applied (hh : strip head = head) (hh0 : head ≠ []) (s : Text) :
    strip (applied head s) = applied head s := by
  have := strip_between hh hh0 (by decide : strip ['>'] = ['>']) (by simp) ('<' :: s)
  rwa [applied]

end Applied

theorem deep_of_isPrefix_nonneg {m : Char} {s : Text} (h : ∀ p, p <+: s → 0 ≤ depth p) :
    Deep m 0 s := by
  rintro before after rfl
  exact h before (List.prefix_append _ _)

theorem strip_word (w : Word) : strip w.text = w.text := by
  rw [strip_eq_self_iff]
  constructor
  · intro c hc
    exact isBlank_of_isWordChar (w.isWordChar_of_mem c (List.mem_of_head? hc))
  · intro c hc
    exact isBlank_of_isWordChar (w.isWordChar_of_mem c (List.mem_of_getLast? hc))

theorem depth_listName (interface : Bool) : depth (listName interface) = 0 := by
  cases interface <;> decide

theorem depth_dictionaryName (interface : Bool) : depth (dictionaryName interface) = 0 := by
  cases interface <;> decide

namespace Renders

variable {t : TypeTree} {s : Text}

theorem ne_nil (h : Renders t s) : s ≠ [] := by
  cases h with
  | name w => exact w.ne_nil
  | generic g => simp [Generic.text, applied]
  | nullable => simp
  | list => simp [applied]
  | array => simp
  | dictionary => simp [applied]

theorem strip_eq (h : Renders t s) : strip s = s := by
  induction h with
  | name w => exact strip_word w
  | generic g => exact strip_applied (strip_word g.head) g.head.ne_nil g.arguments
  | @nullable t s b hs hb ih => exact strip_between ih hs.ne_nil (by decide) (by simp) b
  | list interface hs hb hb' ih =>
    exact strip_applied (by cases interface <;> decide) (by cases interface <;> decide) _
  | @array t s b hs hb ih => exact strip_between ih hs.ne_nil (by decide) (by simp) b
  | dictionary interface hs hu h₁ h₂ h₃ h₄ ihs ihu =>
    exact strip_applied (by cases interface <;> decide) (by cases interface <;> decide) _

theorem strip_between_gaps {b b' : Text} (h : Renders t s) (hb : IsGap b) (hb' : IsGap b') :
    strip (b ++ s ++ b') = s := by
  rw [strip_append_right _ hb'.1, strip_append_left hb.1, h.strip_eq]

theorem newline_notMem (h : Renders t s) : '\n' ∉ s := by
  induction h with
  | name w => exact w.notMem (by decide)
  | generic g =>
    have := g.head.notMem (by decide : isWordChar '\n' = false)
    simp [Generic.text, applied, this, g.newline_notMem]
  | nullable hs hb ih => simp [ih, hb.2]
  | list interface hs hb hb' ih => cases interface <;> simp [applied, listName, ih, hb.2, hb'.2]
  | array hs hb ih => simp [ih, hb.2]
  | dictionary interface hs hu h₁ h₂ h₃ h₄ ihs ihu =>
    cases interface <;> simp [applied, dictionaryName, ihs, ihu, h₁.2, h₂.2, h₃.2, h₄.2]

theorem depth_eq (h : Renders t s) : depth s = 0 := by
  induction h with
  | name w => exact depth_word w
  | generic g => rw [Generic.text, depth_applied (depth_word g.head), g.depth_eq]
  | nullable hs hb ih => simp [ih, depth_of_allBlank hb.1, bracketStep]
  | list interface hs hb hb' ih =>
    rw [depth_applied (depth_listName interface)]
    simp [ih, depth_of_allBlank hb.1, depth_of_allBlank hb'.1]
  | array hs hb ih => simp [ih, depth_of_allBlank hb.1, bracketStep]
  | dictionary interface hs hu h₁ h₂ h₃ h₄ ihs ihu =>
    rw [depth_applied (depth_dictionaryName interface)]
    simp [ihs, ihu, depth_of_allBlank h₁.1, depth_of_allBlank h₂.1, depth_of_allBlank h₃.1,
      depth_of_allBlank h₄.1, bracketStep]

/-- The commas of a written type stand inside its brackets. -/
theorem deep_comma (h : Renders t s) : Deep ',' 1 s := by
  have hw (w : Word) : ',' ∉ w.text := w.notMem (by decide)
  induction h with
  | name w => exact deep_of_notMem (hw w)
  | generic g =>
    exact deep_applied (depth_word g.head) (hw g.head) (by decide)
      (deep_of_isPrefix_nonneg g.depth_nonneg)
  | nullable hs hb ih =>
    rw [deep_append, deep_append]
    exact ⟨⟨ih, hb.deep_comma⟩, deep_of_notMem (by decide)⟩
  | list interface hs hb hb' ih =>
    apply deep_applied (depth_listName interface) (by cases interface <;> decide) (by decide)
    rw [deep_append, deep_append, depth_of_allBlank hb.1]
    exact ⟨⟨hb.deep_comma, ih.mono (by decide)⟩, hb'.deep_comma⟩
  | array hs hb ih =>
    rw [deep_append, deep_append]
    exact ⟨⟨ih, hb.deep_comma⟩, deep_of_notMem (by decide)⟩
  | dictionary interface hs hu h₁ h₂ h₃ h₄ ihs ihu =>
    apply deep_applied (depth_dictionaryName interface) (by cases interface <;> decide) (by decide)
    rw [deep_append, deep_cons, deep_append, deep_append, deep_append, deep_append]
    simp only [depth_append, depth_of_allBlank h₁.1, depth_of_allBlank h₂.1,
      depth_of_allBlank h₃.1, hs.depth_eq]
    exact ⟨⟨⟨h₁.deep_comma, ihs.mono (by decide)⟩, h₂.deep_comma⟩, by decide,
      ⟨h₃.deep_comma, ihu.mono (by decide)⟩, h₄.deep_comma⟩

/-- The arguments of a written dictionary type, whatever the gaps around them. -/
theorem splitArguments_eq {k v : TypeTree} {u b₁ b₂ b₃ b₄ : Text} (hs : Renders k s)
    (hu : Renders v u) (h₁ : IsGap b₁) (h₂ : IsGap b₂) (h₃ : IsGap b₃) (h₄ : IsGap b₄) :
    splitArguments (b₁ ++ s ++ b₂ ++ ',' :: (b₃ ++ u ++ b₄)) = [s, u] := by
  have hk : Deep ',' 1 (b₁ ++ s ++ b₂) := by
    rw [deep_append, deep_append, depth_of_allBlank h₁.1]
    exact ⟨⟨h₁.deep_comma, hs.deep_comma⟩, h₂.deep_comma⟩
  have hv : Deep ',' 1 (b₃ ++ u ++ b₄) := by
    rw [deep_append, deep_append, depth_of_allBlank h₃.1]
    exact ⟨⟨h₃.deep_comma, hu.deep_comma⟩, h₄.deep_comma⟩
  have hd : depth (b₁ ++ s ++ b₂) = 0 := by
    simp [depth_of_allBlank h₁.1, depth_of_allBlank h₂.1, hs.depth_eq]
  rw [splitArguments_comma hk hd hv (by simp [hu.ne_nil]), hs.strip_between_gaps h₁ h₂,
    hu.strip_between_gaps h₃ h₄]

end Renders

end DtoInterfaces.TypeExpr
