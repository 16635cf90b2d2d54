import DtoInterfaces.Proofs.Source.Grammar
import Mathlib.Data.List.Infix

namespace DtoInterfaces

namespace Text

/-- A pattern cannot begin in one text and go on in another whose first character does not stand
behind the first one of the pattern. -/
theorem prefix_of_prefix_append {a : Char} {p u t : Text} (hu : u ≠ [])
    (ht : ∀ c ∈ t.head?, c ∉ p) (h : a :: p <+: u ++ t) : a :: p <+: u := by
  obtain ⟨r, hr⟩ := h
  rcases List.append_eq_append_iff.1 hr with ⟨v, rfl, -⟩ | ⟨v, hv, rfl⟩
  · exact List.prefix_append _ _
  · cases v with
    | nil => simp [hv]
    | cons c v =>
      -- the first character of `t` would stand in `p`
      have hc := ht c rfl
      cases u with
      | nil => exact absurd rfl hu
      | cons b u =>
        have hp : p = u ++ c :: v := (List.cons.inj hv).2
        exact absurd (by simp [hp]) hc

end Text

namespace Source

open Text

theorem properties_nil : properties [] = [] := by
  unfold properties
  rfl

theorem properties_of_property? {t rest : Text} {p : Property}
    (h : property? t = some (p, rest)) : properties t = p :: properties rest := by
  rw [properties]
  split
  · next h' =>
    rw [h] at h'
    cases h'
    rfl
  · next h' => rw [h] at h'; cases h'

theorem properties_tail {t : Text} (h : property? t = none) :
    properties t = properties t.tail := by
  rw [properties]
  split
  · next h' => rw [h] at h'; cases h'
  · cases t with
    | nil => exact properties_nil.symm
    | cons c t => rfl

theorem properties_append {f t : Text} (h : ∀ u, u ≠ [] → u <:+ f → property? (u ++ t) = none) :
    properties (f ++ t) = properties t := by
  induction f with
  | nil => rfl
  | cons c f ih =>
    have hc := h (c :: f) (by simp) List.suffix_rfl
    rw [properties_tail hc]
    apply ih
    intro u hu hs
    exact h u hu (hs.trans (List.suffix_cons c f))

theorem className?_append {f t : Text}
    (h : ∀ u, u ≠ [] → u <:+ f → classHeader? (u ++ t) = none) :
    className? (f ++ t) = className? t := by
  induction f with
  | nil => rfl
  | cons c f ih =>
    have hc := h (c :: f) (by simp) List.suffix_rfl
    rw [List.cons_append] at hc ⊢
    rw [className?, hc, Option.none_or]
    apply ih
    intro u hu hs
    exact h u hu (hs.trans (List.suffix_cons c f))

/-- A declaration begins with `public` and a blank, and then there is a word. -/
theorem exists_of_property? {t : Text} (h : property? t ≠ none) :
    ∃ c r, t = ("public" : Text) ++ c :: r ∧ isBlank c ∧ word? (skipBlanks r) ≠ none := by
  obtain ⟨x, hx⟩ := Option.ne_none_iff_exists'.1 h
  simp only [property?, Option.bind_eq_bind, Option.bind_eq_some_iff] at hx
  obtain ⟨t₁, h₁, t₂, h₂, ⟨type, t₃⟩, h₃, -⟩ := hx
  obtain rfl := List.isPrefixOf?_eq_some_iff_append_eq.1 h₁
  cases t₁ with
  | nil => simp [blanks?] at h₂
  | cons c r =>
    rw [blanks?] at h₂
    split at h₂
    · next hc =>
      obtain rfl := Option.some.inj h₂
      refine ⟨c, r, rfl, hc, ?_⟩
      intro hn
      simp [type?, hn] at h₃
    · cases h₂

theorem prefix_of_classHeader? {t : Text} (h : classHeader? t ≠ none) : "class" <+: t := by
  obtain ⟨x, hx⟩ := Option.ne_none_iff_exists'.1 h
  simp only [classHeader?, Option.bind_eq_bind, Option.bind_eq_some_iff] at hx
  obtain ⟨t₁, h₁, -⟩ := hx
  exact ⟨t₁, List.isPrefixOf?_eq_some_iff_append_eq.1 h₁⟩

/-- A text where no declaration begins, nor with what follows it. -/
theorem properties_filler {f t : Text} (hf : ¬ ("public" : Text) <:+: f)
    (ht : ∀ c ∈ t.head?, c ∉ ("ublic" : Text)) : properties (f ++ t) = properties t := by
  apply properties_append
  intro u hu hs
  by_contra hp
  obtain ⟨c, r, hr, -⟩ := exists_of_property? hp
  have hpre : ("public" : Text) <+: u := prefix_of_prefix_append hu ht ⟨_, hr.symm⟩
  exact hf (hpre.isInfix.trans hs.isInfix)

theorem properties_of_notMem {f : Text} (hf : 'p' ∉ f) (t : Text) :
    properties (f ++ t) = properties t := by
  apply properties_append
  intro u hu hs
  by_contra hp
  obtain ⟨c, r, hr, -⟩ := exists_of_property? hp
  cases u with
  | nil => exact hu rfl
  | cons d u =>
    obtain rfl : d = 'p' := (List.cons.inj hr).1
    exact hf (hs.subset List.mem_cons_self)

/-- The name of a class does not begin a declaration, whatever word it ends with. -/
theorem properties_word_brace (w : Word) {b : Text} (hb : AllBlank b) (t : Text) :
    properties (w.text ++ (b ++ (("\x7b" : Text) ++ t))) =
      properties (b ++ (("\x7b" : Text) ++ t)) := by
  apply properties_append
  intro u hu hs
  by_contra hp
  obtain ⟨c, r, hr, hc, hw⟩ := exists_of_property? hp
  have hu : ∀ d ∈ u, isWordChar d := fun d hd => w.isWordChar_of_mem d (hs.subset hd)
  -- both sides have a word in front, and behind it the same
  have hd := congrArg (List.dropWhile isWordChar) hr
  have hall : ("public" : Text).all isWordChar := by decide
  rw [dropWhile_append_of_head? hu (head?_blanks_brace hb t),
    dropWhile_append_of_head? (List.all_eq_true.1 hall)] at hd
  · have hsk := congrArg skipBlanks hd
    rw [skipBlanks_append hb (by simp; decide), skipBlanks, List.dropWhile_cons_of_pos hc] at hsk
    apply hw
    rw [skipBlanks, ← hsk]
    rfl
  · rintro d ⟨⟩
    exact isWordChar_of_isBlank hc

/-- The header of a class, up to its opening brace. -/
inductive Opens (name : Word) : Text → Prop
  | intro {lead b b' : Text} (hl : lead = [] ∨ ∃ a, IsSpace a ∧ lead = ("public" : Text) ++ a)
      (hb : IsSpace b) (hb' : AllBlank b') :
      Opens name (lead ++ "class" ++ b ++ name.text ++ b' ++ "\x7b")

theorem classHeader?_append {b t : Text} (name : Word) (hb : IsSpace b)
    (ht : ∀ c ∈ t.head?, isWordChar c = false) :
    classHeader? ("class" ++ (b ++ (name.text ++ t))) = some name.text := by
  have hn : ∀ c ∈ (name.text ++ t).head?, isBlank c = false := by
    intro c hc
    exact isBlank_of_isWordChar (name.head?_append t c hc)
  simp only [classHeader?, Option.bind_eq_bind, Option.bind_eq_some_iff]
  exact ⟨_, List.isPrefixOf?_eq_some_iff_append_eq.2 rfl, _, blanks?_append hb hn, (name.text, t),
    word?_append name ht, rfl⟩

theorem className?_filler {f t : Text} (hf : ¬ ("class" : Text) <:+: f)
    (ht : ∀ c ∈ t.head?, c ∉ ("lass" : Text)) : className? (f ++ t) = className? t := by
  apply className?_append
  intro u hu hs
  by_contra hn
  have hpre : ("class" : Text) <+: u := prefix_of_prefix_append hu ht (prefix_of_classHeader? hn)
  exact hf (hpre.isInfix.trans hs.isInfix)

theorem className?_of_classHeader? {t name : Text} (h : classHeader? t = some name) :
    className? t = some name := by
  cases t with
  | nil => cases h
  | cons c t => rw [className?, h, Option.some_or]

theorem className?_header {name : Word} {s : Text} (h : Opens name s) (t : Text) :
    className? (s ++ t) = some name.text := by
  obtain @⟨lead, b, b', hl, hb, hb'⟩ := h
  have hla : 'a' ∉ lead := by
    rcases hl with rfl | ⟨a, ha, rfl⟩
    · simp
    · intro hm
      rcases List.mem_append.1 hm with hm | hm
      · exact absurd hm (by decide)
      · exact absurd (ha.1 _ hm) (by decide)
  simp only [List.append_assoc]
  rw [className?_filler]
  · exact className?_of_classHeader? (classHeader?_append name hb (head?_blanks_brace hb' t))
  · intro hi
    exact hla (hi.subset (by decide))
  · rintro c ⟨⟩
    decide

/-- The header of a class is a declaration only as far as `get;` would follow. -/
theorem properties_header {name : Word} {s t : Text} (h : Opens name s)
    (ht : symbol? "get;" t = none) : properties (s ++ t) = properties t := by
  obtain @⟨lead, b, b', hl, hb, hb'⟩ := h
  have hp {f : Text} (hf : AllBlank f) : 'p' ∉ f := by
    intro hm
    exact absurd (hf _ hm) (by decide)
  have hc : properties ("class" ++ (b ++ (name.text ++ (b' ++ (("\x7b" : Text) ++ t))))) =
      properties t := by
    rw [properties_of_notMem (by decide), properties_of_notMem (hp hb.1),
      properties_word_brace name hb', properties_of_notMem (hp hb'),
      properties_of_notMem (by decide)]
  simp only [List.append_assoc]
  rcases hl with rfl | ⟨a, ha, rfl⟩
  · exact hc
  · -- `public class Name` reads like the type and the name of a property
    have hclass : IsDeclaredType ("class" : Text) :=
      ⟨⟨"class", by decide, by decide⟩, [], [], .inl rfl, .inl rfl, rfl⟩
    have hn : accessors? (b' ++ (("\x7b" : Text) ++ t)) = none := by
      rw [accessors?, symbol?_append hb' (by decide)]
      simp only [Option.bind_eq_bind, Option.bind_some, ht, Option.bind_none]
    have hwhole : property? ("public" ++ (a ++ ("class" ++ (b ++ (name.text ++ (b' ++
        (("\x7b" : Text) ++ t))))))) = none := by
      rw [property?_signature ha hclass hb (head?_blanks_brace hb' t), hn, Option.map_none]
    simp only [List.append_assoc]
    rw [properties_tail hwhole]
    show properties (("ublic" : Text) ++ _) = _
    rw [properties_of_notMem (by decide), properties_of_notMem (hp ha.1), hc]

/-- A class that is written on one line has the properties that stand behind its opening brace. -/
theorem classDecl?_oneLine (name : Word) {t : Text} (ht : symbol? "get;" t = none) :
    classDecl? ("public class " ++ name.text ++ " \x7b" ++ t) =
      some ⟨name.text, properties t⟩ := by
  have hb : IsSpace [' '] := ⟨by decide, by simp⟩
  have ho : Opens name ("public" ++ [' '] ++ "class" ++ [' '] ++ name.text ++ [' '] ++ "\x7b") :=
    .intro (.inr ⟨_, hb, rfl⟩) hb hb.1
  have he : ("public class " ++ name.text ++ " \x7b" : Text) =
      "public" ++ [' '] ++ "class" ++ [' '] ++ name.text ++ [' '] ++ "\x7b" := by simp
  rw [classDecl?, he, className?_header ho, properties_header ho ht, Option.map_some]

end Source

end DtoInterfaces
