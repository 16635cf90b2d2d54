import DtoInterfaces.Proofs.Text.Strip
import DtoInterfaces.Proofs.Text.Word
import DtoInterfaces.Source.Extraction
import Mathlib.Data.List.Basic

namespace DtoInterfaces

namespace Text

theorem takeWhile_append_of_head?_eq_false {p : Char → Bool} (s : Text) {t : Text}
    (ht : ∀ c ∈ t.head?, p c = false) : (s ++ t).takeWhile p = s.takeWhile p := by
  induction s with
  | nil =>
    cases t with
    | nil => rfl
    | cons c t => simp [ht c rfl]
  | cons c s ih => rw [List.cons_append, List.takeWhile_cons, List.takeWhile_cons, ih]

theorem dropWhile_append_of_head?_eq_false {p : Char → Bool} (s : Text) {t : Text}
    (ht : ∀ c ∈ t.head?, p c = false) : (s ++ t).dropWhile p = s.dropWhile p ++ t := by
  induction s with
  | nil =>
    cases t with
    | nil => rfl
    | cons c t => simp [ht c rfl]
  | cons c s ih =>
    rw [List.cons_append, List.dropWhile_cons, List.dropWhile_cons, ih]
    split <;> rfl

theorem takeWhile_append_of_head? {p : Char → Bool} {s t : Text} (hs : ∀ c ∈ s, p c)
    (ht : ∀ c ∈ t.head?, p c = false) : (s ++ t).takeWhile p = s := by
  rw [takeWhile_append_of_head?_eq_false s ht, List.takeWhile_eq_self_iff.2 hs]

theorem dropWhile_append_of_head? {p : Char → Bool} {s t : Text} (hs : ∀ c ∈ s, p c)
    (ht : ∀ c ∈ t.head?, p c = false) : (s ++ t).dropWhile p = t := by
  rw [dropWhile_append_of_head?_eq_false s ht, List.dropWhile_eq_nil_iff.2 hs, List.nil_append]

theorem skipBlanks_append {b t : Text} (hb : AllBlank b) (ht : ∀ c ∈ t.head?, isBlank c = false) :
    skipBlanks (b ++ t) = t :=
  dropWhile_append_of_head? hb ht

theorem forall_head?_append {P : Char → Prop} {s t : Text} (hs : ∀ c ∈ s.head?, P c)
    (ht : ∀ c ∈ t.head?, P c) : ∀ c ∈ (s ++ t).head?, P c := by
  cases s with
  | nil => exact ht
  | cons a s => exact hs

/-- A text of blanks, and at least one. -/
def IsSpace (b : Text) : Prop := AllBlank b ∧ b ≠ []

theorem AllBlank.head? {b : Text} (hb : AllBlank b) : ∀ c ∈ b.head?, isBlank c := by
  intro c hc
  exact hb c (List.mem_of_head? hc)

theorem IsSpace.head?_append {b : Text} (hb : IsSpace b) (t : Text) :
    ∀ c ∈ (b ++ t).head?, isBlank c := by
  rw [List.head?_append_of_ne_nil _ hb.2]
  exact hb.1.head?

theorem Word.head?_append (w : Word) (t : Text) : ∀ c ∈ (w.text ++ t).head?, isWordChar c := by
  intro c hc
  rw [List.head?_append_of_ne_nil _ w.ne_nil] at hc
  exact w.isWordChar_of_mem c (List.mem_of_head? hc)

end Text

namespace Source

open Text

/-- An argument group goes up to the first `>`. -/
def IsGroup (g : Text) : Prop := g = [] ∨ ∃ a, a ≠ [] ∧ '>' ∉ a ∧ g = '<' :: a ++ ['>']

def IsMark (m : Text) : Prop := m = [] ∨ m = ['?']

/-- A type as a declaration holds it. -/
def IsDeclaredType (s : Text) : Prop :=
  ∃ (w : Word) (group mark : Text), IsGroup group ∧ IsMark mark ∧ s = w.text ++ group ++ mark

/-- The text of an auto-property. -/
inductive Declares (type : Text) (name : Word) : Text → Prop
  | intro {b₁ b₂ b₃ b₄ b₅ b₆ : Text} (ht : IsDeclaredType type) (h₁ : IsSpace b₁) (h₂ : IsSpace b₂)
      (h₃ : AllBlank b₃) (h₄ : AllBlank b₄) (h₅ : AllBlank b₅) (h₆ : AllBlank b₆) :
      Declares type name ("public" ++ b₁ ++ type ++ b₂ ++ name.text ++ b₃ ++ "\x7b" ++ b₄ ++
        "get;" ++ b₅ ++ "set;" ++ b₆ ++ "\x7d")

/-- A word ends before an opening brace, and before blanks in front of one. -/
theorem head?_blanks_brace {b : Text} (hb : AllBlank b) (t : Text) :
    ∀ c ∈ (b ++ (("\x7b" : Text) ++ t)).head?, isWordChar c = false := by
  apply forall_head?_append
  · intro c hc
    exact isWordChar_of_isBlank (hb.head? c hc)
  · rintro c ⟨⟩
    decide

theorem word?_append (w : Word) {t : Text} (ht : ∀ c ∈ t.head?, isWordChar c = false) :
    word? (w.text ++ t) = some (w.text, t) := by
  rw [word?, takeWhile_append_of_head? w.isWordChar_of_mem ht,
    dropWhile_append_of_head? w.isWordChar_of_mem ht]
  split
  · next h => exact absurd h w.ne_nil
  · next h => rw [h]

theorem blanks?_append {b t : Text} (hb : IsSpace b) (ht : ∀ c ∈ t.head?, isBlank c = false) :
    blanks? (b ++ t) = some t := by
  obtain ⟨hb, hne⟩ := hb
  cases b with
  | nil => exact absurd rfl hne
  | cons c b =>
    rw [List.cons_append, blanks?, if_pos (hb c List.mem_cons_self),
      skipBlanks_append (fun a ha => hb a (List.mem_cons_of_mem c ha)) ht]

theorem symbol?_append {b s : Text} (hb : AllBlank b) (hs : s.head?.map isBlank = some false)
    (t : Text) : symbol? s (b ++ (s ++ t)) = some t := by
  have h : ∀ c ∈ (s ++ t).head?, isBlank c = false := by
    cases s with
    | nil => cases hs
    | cons a s =>
      rintro c ⟨⟩
      exact Option.some.inj hs
  rw [symbol?, skipBlanks_append hb h, List.isPrefixOf?_eq_some_iff_append_eq]

theorem argumentGroup_enclosed {a : Text} (ha : a ≠ []) (hm : '>' ∉ a) (t : Text) :
    argumentGroup ('<' :: a ++ ['>'] ++ t) = ('<' :: a ++ ['>'], t) := by
  have hin : ∀ c ∈ a, (c != '>') = true := by
    intro c hc
    rw [bne_iff_ne]
    rintro rfl
    exact hm hc
  have he : '<' :: a ++ ['>'] ++ t = '<' :: (a ++ '>' :: t) := by simp
  rw [he, argumentGroup, dropWhile_append_of_head? hin (by simp),
    takeWhile_append_of_head? hin (by simp)]
  cases a with
  | nil => exact absurd rfl ha
  | cons c a => rfl

theorem argumentGroup_of_isGroup {g t : Text} (hg : IsGroup g) (ht : ∀ c ∈ t.head?, c ≠ '<') :
    argumentGroup (g ++ t) = (g, t) := by
  rcases hg with rfl | ⟨a, ha, hm, rfl⟩
  · rw [List.nil_append]
    unfold argumentGroup
    split
    · exact absurd rfl (ht '<' rfl)
    · rfl
  · exact argumentGroup_enclosed ha hm t

theorem nullableMark_of_isMark {m t : Text} (hm : IsMark m) (ht : ∀ c ∈ t.head?, c ≠ '?') :
    nullableMark (m ++ t) = (m, t) := by
  rcases hm with rfl | rfl
  · rw [List.nil_append]
    unfold nullableMark
    split
    · exact absurd rfl (ht '?' rfl)
    · rfl
  · rfl

theorem head?_of_isGroup {g : Text} (hg : IsGroup g) : ∀ c ∈ g.head?, c = '<' := by
  rcases hg with rfl | ⟨a, -, -, rfl⟩ <;> simp

theorem head?_of_isMark {m : Text} (hm : IsMark m) : ∀ c ∈ m.head?, c = '?' := by
  rcases hm with rfl | rfl <;> simp

/-- A declared type is read whole where a blank follows. -/
theorem type?_append {s t : Text} (hs : IsDeclaredType s) (ht : ∀ c ∈ t.head?, isBlank c) :
    type? (s ++ t) = some (s, t) := by
  obtain ⟨w, g, m, hg, hm, rfl⟩ := hs
  have hmt : ∀ c ∈ t.head?, c ≠ '?' := by
    rintro c hc rfl
    exact absurd (ht _ hc) (by decide)
  have hgt : ∀ c ∈ (m ++ t).head?, c ≠ '<' := by
    apply forall_head?_append
    · rintro c hc rfl
      exact absurd (head?_of_isMark hm _ hc) (by decide)
    · rintro c hc rfl
      exact absurd (ht _ hc) (by decide)
  have hwt : ∀ c ∈ (g ++ (m ++ t)).head?, isWordChar c = false := by
    apply forall_head?_append
    · intro c hc
      rw [head?_of_isGroup hg c hc]
      decide
    apply forall_head?_append
    · intro c hc
      rw [head?_of_isMark hm c hc]
      decide
    · intro c hc
      exact isWordChar_of_isBlank (ht c hc)
  rw [type?, List.append_assoc, List.append_assoc, word?_append w hwt]
  simp only [Option.map_some, argumentGroup_of_isGroup hg hgt, nullableMark_of_isMark hm hmt]

/-- The rest behind the accessors at the front of a text. -/
def accessors? (t : Text) : Option Text := do
  symbol? "\x7d" (← symbol? "set;" (← symbol? "get;" (← symbol? "\x7b" t)))

/-- After its type and its name, a declaration is decided by its accessors. -/
theorem property?_signature {b₁ type b₂ t : Text} {name : Word} (hb₁ : IsSpace b₁)
    (htype : IsDeclaredType type) (hb₂ : IsSpace b₂) (ht : ∀ c ∈ t.head?, isWordChar c = false) :
    property? ("public" ++ (b₁ ++ (type ++ (b₂ ++ (name.text ++ t))))) =
      (accessors? t).map fun rest => (⟨some name.text, some type⟩, rest) := by
  have h₁ : ∀ c ∈ (type ++ (b₂ ++ (name.text ++ t))).head?, isBlank c = false := by
    obtain ⟨w, g, m, -, -, rfl⟩ := htype
    intro c hc
    rw [List.append_assoc, List.append_assoc] at hc
    exact isBlank_of_isWordChar (w.head?_append _ c hc)
  have h₂ : ∀ c ∈ (name.text ++ t).head?, isBlank c = false := by
    intro c hc
    exact isBlank_of_isWordChar (name.head?_append t c hc)
  have hp := List.isPrefixOf?_eq_some_iff_append_eq.2
    (rfl : ("public" : Text) ++ (b₁ ++ (type ++ (b₂ ++ (name.text ++ t)))) = _)
  rw [property?, accessors?, hp]
  simp only [Option.bind_eq_bind, Option.bind_some, blanks?_append hb₁ h₁,
    type?_append htype (hb₂.head?_append _), blanks?_append hb₂ h₂, word?_append name ht]
  simp only [Option.bind_assoc, Option.pure_def, Option.map_eq_bind]
  rfl

/-- An auto-property is read whole, whatever follows its closing brace. -/
theorem property?_append {type s : Text} {name : Word} (h : Declares type name s) (rest : Text) :
    property? (s ++ rest) = some (⟨some name.text, some type⟩, rest) := by
  obtain @⟨b₁, b₂, b₃, b₄, b₅, b₆, htype, h₁, h₂, h₃, h₄, h₅, h₆⟩ := h
  have ha : accessors? (b₃ ++ (("\x7b" : Text) ++ (b₄ ++ ("get;" ++ (b₅ ++ ("set;" ++
      (b₆ ++ (("\x7d" : Text) ++ rest)))))))) = some rest := by
    simp only [accessors?, Option.bind_eq_bind, Option.bind_eq_some_iff]
    exact ⟨_, symbol?_append h₃ (by decide) _, _, symbol?_append h₄ (by decide) _, _,
      symbol?_append h₅ (by decide) _, symbol?_append h₆ (by decide) _⟩
  simp only [List.append_assoc]
  rw [property?_signature h₁ htype h₂ (head?_blanks_brace h₃ _), ha, Option.map_some]

end Source

end DtoInterfaces
