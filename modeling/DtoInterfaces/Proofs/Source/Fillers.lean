import DtoInterfaces.Proofs.Source.Scan

namespace DtoInterfaces.Source

open Text

/-- A text that may stand around declarations: comments, attributes, initializers, braces. -/
structure IsFiller (f : Text) : Prop where
  public_notInfix : ¬ ("public" : Text) <:+: f
  get_notInfix : ¬ ("get;" : Text) <:+: f

/-- The declarations of some properties, with a filler before each one and one behind the last. -/
inductive Spells : List Property → Text → Prop
  | nil {f : Text} (hf : IsFiller f) : Spells [] f
  | cons {f s t type : Text} {name : Word} {ps : List Property} (hf : IsFiller f)
      (hs : Declares type name s) (ht : Spells ps t) :
      Spells (⟨some name.text, some type⟩ :: ps) (f ++ s ++ t)

theorem Declares.head?_append {type s : Text} {name : Word} (h : Declares type name s) (t : Text) :
    (s ++ t).head? = some 'p' := by
  cases h
  rfl

/-- No accessor begins in a filler, and none goes on from a filler into a declaration. -/
theorem symbol?_filler {f t : Text} (hf : IsFiller f) (ht : ∀ c ∈ t.head?, c = 'p') :
    symbol? "get;" (f ++ t) = none := by
  rw [Option.eq_none_iff_forall_ne_some]
  intro r hr
  have hpre : ("get;" : Text) <+: skipBlanks (f ++ t) :=
    ⟨r, List.isPrefixOf?_eq_some_iff_append_eq.1 hr⟩
  rw [skipBlanks, List.dropWhile_append] at hpre
  split at hpre
  · -- the filler is blank, so the accessor would stand in front of `t`
    cases t with
    | nil => simp at hpre
    | cons c t =>
      obtain rfl := ht c rfl
      rw [List.dropWhile_cons_of_neg (by decide)] at hpre
      exact absurd (List.cons_prefix_cons.1 hpre).1 (by decide)
  · next hne =>
    have hu : f.dropWhile isBlank ≠ [] := by simpa using hne
    have hg : ("get;" : Text) <+: f.dropWhile isBlank := by
      apply prefix_of_prefix_append hu _ hpre
      intro c hc
      rw [ht c hc]
      decide
    exact hf.get_notInfix (hg.isInfix.trans (List.dropWhile_suffix isBlank).isInfix)

theorem Spells.symbol?_eq_none {ps : List Property} {t : Text} (h : Spells ps t) :
    symbol? "get;" t = none := by
  cases h with
  | nil hf => simpa using symbol?_filler (t := []) hf (by simp)
  | @cons f s t _ _ _ hf hs ht =>
    rw [List.append_assoc]
    apply symbol?_filler hf
    intro c hc
    rw [hs.head?_append] at hc
    exact (Option.some.inj hc).symm

/-- The scan takes each declaration where it stands, and goes on behind it. -/
theorem Spells.properties_eq {ps : List Property} {t : Text} (h : Spells ps t) :
    properties t = ps := by
  induction h with
  | @nil f hf =>
    rw [← List.append_nil f, properties_filler hf.public_notInfix (by simp), properties_nil]
  | @cons f s t _ _ ps hf hs ht ih =>
    have hp : ∀ c ∈ (s ++ t).head?, c ∉ ("ublic" : Text) := by
      rw [hs.head?_append]
      rintro c ⟨⟩
      decide
    rw [List.append_assoc, properties_filler hf.public_notInfix hp,
      properties_of_property? (property?_append hs t), ih]

/-- A text may end with the first letters of `public` and a class header may give it the last one,
but no blank follows it there. -/
theorem properties_before_class {f t : Text} (hf : ¬ ("public" : Text) <:+: f) :
    properties (f ++ ("class" ++ t)) = properties ("class" ++ t) := by
  apply properties_append
  intro u hu hs
  by_contra hp
  obtain ⟨c, r, hr, hc, -⟩ := exists_of_property? hp
  rcases List.append_eq_append_iff.1 hr with ⟨v, hv, hr⟩ | ⟨v, rfl, -⟩
  · rcases v with _ | ⟨d, _ | ⟨e, v⟩⟩
    · obtain rfl : 'c' = c := (List.cons.inj hr).1
      exact absurd hc (by decide)
    · obtain rfl : 'l' = c := (List.cons.inj (List.cons.inj hr).2).1
      exact absurd hc (by decide)
    · obtain rfl : 'c' = d := (List.cons.inj hr).1
      obtain rfl : 'l' = e := (List.cons.inj (List.cons.inj hr).2).1
      have hcl : ['c', 'l'] <:+: ("public" : Text) := ⟨u, v, by simp [hv]⟩
      exact absurd hcl (by decide)
  · exact hf ((List.prefix_append _ v).isInfix.trans hs.isInfix)

theorem properties_preamble {name : Word} {f s : Text} (hf : ¬ ("public" : Text) <:+: f)
    (hs : Opens name s) (t : Text) : properties (f ++ (s ++ t)) = properties (s ++ t) := by
  obtain @⟨lead, b, b', hl, -, -⟩ := hs
  rcases hl with rfl | ⟨a, -, rfl⟩
  · simp only [List.nil_append, List.append_assoc]
    exact properties_before_class hf
  · apply properties_filler hf
    rintro c ⟨⟩
    decide

theorem className?_preamble {name : Word} {f s : Text} (hf : ¬ ("class" : Text) <:+: f)
    (hs : Opens name s) (t : Text) : className? (f ++ (s ++ t)) = some name.text := by
  rw [className?_filler hf, className?_header hs]
  obtain @⟨lead, b, b', hl, -, -⟩ := hs
  rcases hl with rfl | ⟨a, -, rfl⟩
  all_goals
    rintro c ⟨⟩
    decide

/-- A class comes back from its source: its name, and its properties as they were declared, each
type letter by letter. -/
theorem classDecl?_of_spells {name : Word} {ps : List Property} {preamble header body : Text}
    (hclass : ¬ ("class" : Text) <:+: preamble) (hpublic : ¬ ("public" : Text) <:+: preamble)
    (hheader : Opens name header) (hbody : Spells ps body) :
    classDecl? (preamble ++ header ++ body) = some ⟨name.text, ps⟩ := by
  rw [classDecl?, List.append_assoc, className?_preamble hclass hheader, Option.map_some,
    properties_preamble hpublic hheader, properties_header hheader hbody.symbol?_eq_none,
    hbody.properties_eq]

/-- A class that is never closed, after a text that ends like `public`. One property stands there
twice, and an argument holds the words that introduce a declaration and an accessor. -/
theorem classDecl?_of_spells_unclosed : ∃ (name : Word) (ps : List Property) (body : Text),
    name.text = "Note" ∧
    ps = [⟨some "Id", some "int"⟩, ⟨some "IsPublic", some "Map<public x,\n get;>?"⟩,
      ⟨some "Id", some "int"⟩] ∧
    body = " // get it\n  [Key] " ++ "public int Id \x7b get; set; \x7d" ++
      (" = 5; private int x;" ++ "public\nMap<public x,\n get;>? IsPublic\x7bget;\tset;\x7d" ++
        ("\x7d " ++ "public int Id \x7b get; set; \x7d" ++ " class Other \x7b")) ∧
    Opens name "class\t\u3000Note\n\x7b" ∧ Spells ps body ∧
    classDecl? ("re publi" ++ "class\t\u3000Note\n\x7b" ++ body) = some ⟨name.text, ps⟩ := by
  have hb : AllBlank [' '] := by decide
  have hs : IsSpace [' '] := ⟨hb, by decide⟩
  have hn : AllBlank [] := by decide
  have hopens : Opens ⟨"Note", by decide, by decide⟩ ("class\t\u3000Note\n\x7b" : Text) :=
    .intro (.inl rfl) (⟨by decide, by decide⟩ : IsSpace ['\t', '\u3000'])
      (by decide : AllBlank ['\n'])
  have hid : Declares "int" ⟨"Id", by decide, by decide⟩ "public int Id \x7b get; set; \x7d" := by
    have hint : IsDeclaredType ("int" : Text) :=
      ⟨⟨"int", by decide, by decide⟩, [], [], .inl rfl, .inl rfl, rfl⟩
    have h : Declares "int" ⟨"Id", by decide, by decide⟩ _ := .intro hint hs hs hb hb hb hb
    simpa using h
  have hmap : Declares "Map<public x,\n get;>?" ⟨"IsPublic", by decide, by decide⟩
      "public\nMap<public x,\n get;>? IsPublic\x7bget;\tset;\x7d" := by
    have hg : IsGroup ("<public x,\n get;>" : Text) :=
      .inr ⟨"public x,\n get;", by decide, by decide, rfl⟩
    have ht : IsDeclaredType ("Map<public x,\n get;>?" : Text) :=
      ⟨⟨"Map", by decide, by decide⟩, _, ['?'], hg, .inr rfl, rfl⟩
    have h : Declares _ ⟨"IsPublic", by decide, by decide⟩ _ :=
      .intro ht (⟨by decide, by decide⟩ : IsSpace ['\n']) hs hn hn (by decide : AllBlank ['\t']) hn
    simpa using h
  have hspells := Spells.cons (f := " // get it\n  [Key] ") ⟨by decide, by decide⟩ hid
    (.cons (f := " = 5; private int x;") ⟨by decide, by decide⟩ hmap
      (.cons (f := "\x7d ") ⟨by decide, by decide⟩ hid
        (.nil (f := " class Other \x7b") ⟨by decide, by decide⟩)))
  exact ⟨_, _, _, rfl, rfl, rfl, hopens, hspells,
    classDecl?_of_spells (by decide) (by decide) hopens hspells⟩

end DtoInterfaces.Source
