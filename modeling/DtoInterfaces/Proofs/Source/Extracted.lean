import DtoInterfaces.Proofs.Source.Scan

namespace DtoInterfaces.Source

open Text

theorem exists_word_of_word? {t name rest : Text} (h : word? t = some (name, rest)) :
    ∃ w : Word, w.text = name ∧ t = w.text ++ rest := by
  obtain ⟨ht, hne⟩ := append_of_word? h
  have hname : name = t.takeWhile isWordChar := by
    unfold word? at h
    split at h
    · cases h
    · next hs =>
      cases h
      exact hs.symm
  have hall : name.all isWordChar := by
    rw [hname, List.all_eq_true]
    intro c hc
    exact List.mem_takeWhile_imp hc
  exact ⟨⟨name, hne, hall⟩, rfl, ht⟩

theorem head?_of_word? {u name rest : Text} (h : word? u = some (name, rest)) :
    ∀ c ∈ rest.head?, isWordChar c = false := by
  unfold word? at h
  split at h
  · cases h
  · cases h
    intro c hc
    have := List.head?_dropWhile_not isWordChar u
    rw [hc] at this
    simpa using this

theorem exists_space_of_blanks? {t rest : Text} (h : blanks? t = some rest) :
    ∃ b, IsSpace b ∧ t = b ++ rest := by
  cases t with
  | nil => cases h
  | cons c t =>
    rw [blanks?] at h
    split at h
    · next hc =>
      obtain rfl := Option.some.inj h
      refine ⟨c :: t.takeWhile isBlank, ⟨?_, by simp⟩, ?_⟩
      · intro d hd
        rcases List.mem_cons.1 hd with rfl | hd
        · exact hc
        · exact List.mem_takeWhile_imp hd
      · rw [List.cons_append, skipBlanks, List.takeWhile_append_dropWhile]
    · cases h

theorem exists_blanks_of_symbol? {s t rest : Text} (h : symbol? s t = some rest) :
    ∃ b, AllBlank b ∧ t = b ++ (s ++ rest) := by
  refine ⟨t.takeWhile isBlank, fun c => List.mem_takeWhile_imp, ?_⟩
  rw [List.isPrefixOf?_eq_some_iff_append_eq.1 h, skipBlanks, List.takeWhile_append_dropWhile]

theorem isGroup_argumentGroup (t : Text) : IsGroup (argumentGroup t).1 := by
  unfold argumentGroup
  split
  · next rest =>
    split
    · exact .inl rfl
    · next mark after hd =>
      split
      · exact .inl rfl
      · next inner hi =>
        have hmark : mark = '>' := by
          have := List.head?_dropWhile_not (· != '>') rest
          rw [hd] at this
          simpa using this
        refine .inr ⟨rest.takeWhile (· != '>'), hi, ?_, by rw [hmark]⟩
        intro hm
        simpa using List.mem_takeWhile_imp hm
  · exact .inl rfl

theorem isMark_nullableMark (t : Text) : IsMark (nullableMark t).1 := by
  unfold nullableMark
  split
  · exact .inr rfl
  · exact .inl rfl

theorem isDeclaredType_of_type? {t type rest : Text} (h : type? t = some (type, rest)) :
    IsDeclaredType type := by
  obtain ⟨⟨name, after⟩, hw, he⟩ := Option.map_eq_some_iff.1 h
  obtain ⟨w, rfl, -⟩ := exists_word_of_word? hw
  obtain ⟨rfl, -⟩ := Prod.mk.inj he
  exact ⟨w, _, _, isGroup_argumentGroup after, isMark_nullableMark _, rfl⟩

/-- A declaration is read exactly where one stands. -/
theorem property?_eq_some_iff {t rest : Text} {p : Property} :
    property? t = some (p, rest) ↔
      ∃ (name : Word) (type s : Text), Declares type name s ∧ p = ⟨some name.text, some type⟩ ∧
        t = s ++ rest := by
  constructor
  · intro h
    simp only [property?, Option.bind_eq_bind, Option.bind_eq_some_iff, Option.pure_def] at h
    obtain ⟨t₁, h₁, t₂, h₂, ⟨type, t₃⟩, h₃, t₄, h₄, ⟨name, t₅⟩, h₅, t₆, h₆, t₇, h₇, t₈, h₈, t₉, h₉,
      h⟩ := h
    cases h
    obtain rfl := List.isPrefixOf?_eq_some_iff_append_eq.1 h₁
    obtain ⟨b₁, hb₁, rfl⟩ := exists_space_of_blanks? h₂
    obtain ⟨b₂, hb₂, rfl⟩ := exists_space_of_blanks? h₄
    obtain ⟨w, rfl, rfl⟩ := exists_word_of_word? h₅
    obtain ⟨b₃, hb₃, rfl⟩ := exists_blanks_of_symbol? h₆
    obtain ⟨b₄, hb₄, rfl⟩ := exists_blanks_of_symbol? h₇
    obtain ⟨b₅, hb₅, rfl⟩ := exists_blanks_of_symbol? h₈
    obtain ⟨b₆, hb₆, rfl⟩ := exists_blanks_of_symbol? h₉
    refine ⟨w, type, _, .intro (isDeclaredType_of_type? h₃) hb₁ hb₂ hb₃ hb₄ hb₅ hb₆, rfl, ?_⟩
    rw [(append_of_type? h₃).1]
    simp only [List.append_assoc]
  · rintro ⟨name, type, s, hs, rfl, rfl⟩
    exact property?_append hs rest

/-- A class header is read exactly where one stands, and its word as far as it goes. -/
theorem classHeader?_eq_some_iff {u name : Text} :
    classHeader? u = some name ↔ ∃ (w : Word) (b rest : Text), IsSpace b ∧ name = w.text ∧
      (∀ c ∈ rest.head?, isWordChar c = false) ∧ u = "class" ++ b ++ w.text ++ rest := by
  constructor
  · intro h
    simp only [classHeader?, Option.bind_eq_bind, Option.bind_eq_some_iff] at h
    obtain ⟨t₁, h₁, t₂, h₂, ⟨w, rest⟩, h₃, h⟩ := h
    cases h
    obtain rfl := List.isPrefixOf?_eq_some_iff_append_eq.1 h₁
    obtain ⟨b, hb, rfl⟩ := exists_space_of_blanks? h₂
    have hrest := head?_of_word? h₃
    obtain ⟨w, rfl, rfl⟩ := exists_word_of_word? h₃
    exact ⟨w, b, rest, hb, rfl, hrest, by simp only [List.append_assoc]⟩
  · rintro ⟨w, b, rest, hb, rfl, hrest, rfl⟩
    simpa only [List.append_assoc] using classHeader?_append w hb hrest

/-- A property as declarations hold them. -/
def IsAutoProperty (p : Property) : Prop :=
  ∃ (name : Word) (type : Text), IsDeclaredType type ∧ p = ⟨some name.text, some type⟩

theorem isAutoProperty_of_mem_properties {t : Text} {p : Property} (h : p ∈ properties t) :
    IsAutoProperty p := by
  induction t using properties.induct with
  | case1 t q rest hq ih =>
    rw [properties_of_property? hq] at h
    rcases List.mem_cons.1 h with rfl | h
    · obtain ⟨name, type, s, hs, rfl, -⟩ := property?_eq_some_iff.1 hq
      obtain ⟨ht⟩ := hs
      exact ⟨name, type, ht, rfl⟩
    · exact ih h
  | case2 hq => simp [properties_nil] at h
  | case3 c rest hq ih =>
    rw [properties_tail hq] at h
    exact ih h

theorem isWord_of_className? {t name : Text} (h : className? t = some name) : IsWord name := by
  induction t with
  | nil => cases h
  | cons c t ih =>
    rw [className?, Option.or_eq_some_iff] at h
    rcases h with h | ⟨-, h⟩
    · obtain ⟨w, b, rest, -, rfl, -⟩ := classHeader?_eq_some_iff.1 h
      exact ⟨w, rfl⟩
    · exact ih h

theorem of_classDecl? {t : Text} {c : ClassDecl} (h : classDecl? t = some c) :
    IsWord c.name ∧ ∀ p ∈ c.properties, IsAutoProperty p := by
  obtain ⟨name, hname, rfl⟩ := Option.map_eq_some_iff.1 h
  exact ⟨isWord_of_className? hname, fun p => isAutoProperty_of_mem_properties⟩

end DtoInterfaces.Source
