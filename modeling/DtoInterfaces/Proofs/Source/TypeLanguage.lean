import DtoInterfaces.Proofs.Interface.EndToEnd
import DtoInterfaces.Proofs.Session.Batch
import DtoInterfaces.Proofs.Source.Extracted
import DtoInterfaces.Proofs.TypeExpr.Operands

namespace DtoInterfaces

open Text TypeExpr

namespace Source

section Readers

variable {s u : Text}

theorem word?_append_blank (hu : ∀ c ∈ u.head?, isBlank c) :
    word? (s ++ u) = (word? s).map fun x => (x.1, x.2 ++ u) := by
  have hw : ∀ c ∈ u.head?, isWordChar c = false := fun c hc => isWordChar_of_isBlank (hu c hc)
  rw [word?, word?, takeWhile_append_of_head?_eq_false s hw,
    dropWhile_append_of_head?_eq_false s hw]
  cases s.takeWhile isWordChar <;> rfl

/-- A group that opens inside the text closes there. -/
theorem argumentGroup_append_blank (hu : ∀ c ∈ u.head?, isBlank c)
    (hs : ∀ r, s = '<' :: r → '>' ∈ r) :
    argumentGroup (s ++ u) = ((argumentGroup s).1, (argumentGroup s).2 ++ u) := by
  rcases s with _ | ⟨c, r⟩
  · have hne : ∀ c ∈ u.head?, c ≠ '<' := by
      rintro c hc rfl
      exact absurd (hu _ hc) (by decide)
    simpa [argumentGroup] using argumentGroup_of_isGroup (.inl rfl) hne
  · by_cases hc : c = '<'
    · subst hc
      obtain ⟨a, after, rfl, ha⟩ := List.eq_append_cons_of_mem (hs r rfl)
      rw [List.cons_append, List.append_assoc, List.cons_append]
      by_cases h0 : a = []
      · subst h0
        simp [argumentGroup]
      · have hg (t : Text) := argumentGroup_enclosed h0 ha t
        simp only [List.cons_append, List.append_assoc, List.nil_append] at hg
        rw [hg, hg]
    · have hg (t : Text) : argumentGroup (c :: t) = ([], c :: t) := by
        simpa using argumentGroup_of_isGroup (t := c :: t) (.inl rfl) (by simpa using hc)
      rw [List.cons_append, hg, hg]
      rfl

theorem nullableMark_append_blank (hu : ∀ c ∈ u.head?, isBlank c) :
    nullableMark (s ++ u) = ((nullableMark s).1, (nullableMark s).2 ++ u) := by
  rcases s with _ | ⟨c, r⟩
  · have hne : ∀ c ∈ u.head?, c ≠ '?' := by
      rintro c hc rfl
      exact absurd (hu _ hc) (by decide)
    simpa [nullableMark] using nullableMark_of_isMark (.inl rfl) hne
  · by_cases hc : c = '?'
    · subst hc
      rfl
    · have hm (t : Text) : nullableMark (c :: t) = ([], c :: t) := by
        simpa using nullableMark_of_isMark (t := c :: t) (.inl rfl) (by simpa using hc)
      rw [List.cons_append, hm, hm]
      rfl

theorem type?_append_blank (hu : ∀ c ∈ u.head?, isBlank c)
    (hs : ∀ r, s.dropWhile isWordChar = '<' :: r → '>' ∈ r) :
    type? (s ++ u) = (type? s).map fun x => (x.1, x.2 ++ u) := by
  rw [type?, type?, word?_append_blank hu, Option.map_map, Option.map_map, word?]
  cases s.takeWhile isWordChar with
  | nil => rfl
  | cons c w =>
    simp only [Option.map_some, Function.comp, argumentGroup_append_blank hu hs,
      nullableMark_append_blank hu]

end Readers

theorem word?_eq_none {t : Text} (h : ∀ c ∈ t.head?, isWordChar c = false) : word? t = none := by
  have hw : t.takeWhile isWordChar = [] := by
    simpa using takeWhile_append_of_head? (s := []) (by simp) h
  rw [word?, hw]

theorem exists_getLast_isDeclaredType {s : Text} (h : IsDeclaredType s) :
    ∃ x e, s = x ++ [e] ∧ (isWordChar e ∨ e ∈ ['?', '>']) := by
  obtain ⟨w, group, mark, hg, hm, rfl⟩ := h
  rcases hm with rfl | rfl
  · rcases hg with rfl | ⟨a, -, -, rfl⟩
    · rcases List.eq_nil_or_concat w.text with hw | ⟨x, e, hw⟩
      · exact absurd hw w.ne_nil
      · exact ⟨x, e, by simp [hw], .inl (w.isWordChar_of_mem e (by simp [hw]))⟩
    · exact ⟨w.text ++ '<' :: a, '>', by simp, .inr (by decide)⟩
  · exact ⟨w.text ++ group, '?', rfl, .inr (by decide)⟩

section Written

variable {t : TypeTree} {s u : Text}

theorem mem_of_dropWhile_eq (ht : t.Plain) (hs : Renders t s) {r : Text}
    (hr : s.dropWhile isWordChar = '<' :: r) : '>' ∈ r := by
  have hsplit := List.takeWhile_append_dropWhile (p := isWordChar) (l := s)
  have hword : '>' ∉ s.takeWhile isWordChar := by
    intro hm
    exact absurd (List.mem_takeWhile_imp hm) (by decide)
  have hopen : '<' ∈ s := by rw [← hsplit, hr]; simp
  have hclose : '>' ∈ s := by
    rw [← List.count_pos_iff, ← hs.count_angle ht]
    exact List.count_pos_iff.2 hopen
  rw [← hsplit, hr] at hclose
  simpa [hword] using hclose

/-- No word is read behind an operand and a blank, as the type does not end with blanks. -/
theorem word?_behind (ht : t.Plain) (hs : Renders t s) {x r : Text} {e c : Char}
    (hx : s = x ++ e :: c :: r) (he : isWordChar e ∨ e ∈ ['?', '>']) (hc : isBlank c) :
    word? (skipBlanks (r ++ u)) = none := by
  have hne : r.dropWhile isBlank ≠ [] := by
    -- else the last character of the type would be a blank
    intro hall
    obtain ⟨y, d, hd⟩ := (List.eq_nil_or_concat (c :: r)).resolve_left (by simp)
    have hlast : s.getLast? = some d := by
      rw [hx, List.getLast?_append_of_ne_nil _ (by simp), hd, List.concat_eq_append,
        ← List.cons_append, List.getLast?_concat]
    have hblank : ∀ b ∈ c :: r, isBlank b :=
      List.forall_mem_cons.2 ⟨hc, List.dropWhile_eq_nil_iff.1 hall⟩
    have hstrip := (strip_eq_self_iff.1 hs.strip_eq).2 d hlast
    rw [hblank d (by simp [hd])] at hstrip
    cases hstrip
  have hskip : skipBlanks (r ++ u) = skipBlanks r ++ u := by
    rw [skipBlanks, List.dropWhile_append, if_neg (by simpa using hne), skipBlanks]
  apply word?_eq_none
  rw [hskip, List.head?_append_of_ne_nil _ (show skipBlanks r ≠ [] from hne)]
  exact hs.isWordChar_behind ht hx he hc

/-- A declaration that begins with a written type takes the type whole. -/
theorem isDeclaredType_of_property? (ht : t.Plain) (hs : Renders t s)
    (hu : ∀ c ∈ u.head?, isBlank c)
    (hp : property? ("public" ++ ([' '] ++ (s ++ u))) ≠ none) : IsDeclaredType s := by
  obtain ⟨x, hx⟩ := Option.ne_none_iff_exists'.1 hp
  simp only [property?, Option.bind_eq_bind, Option.bind_eq_some_iff] at hx
  obtain ⟨t₁, h₁, t₂, h₂, ⟨type, t₃⟩, h₃, t₄, h₄, ⟨name, t₅⟩, h₅, -⟩ := hx
  obtain rfl := List.append_cancel_left (List.isPrefixOf?_eq_some_iff_append_eq.1 h₁)
  have hsu : ∀ c ∈ (s ++ u).head?, isBlank c = false := by
    rw [List.head?_append_of_ne_nil _ hs.ne_nil]
    exact (strip_eq_self_iff.1 hs.strip_eq).1
  rw [blanks?_append ⟨by decide, by decide⟩ hsu] at h₂
  obtain rfl := Option.some.inj h₂
  rw [type?_append_blank hu fun r => mem_of_dropWhile_eq ht hs] at h₃
  obtain ⟨⟨type, r⟩, hr, he⟩ := Option.map_eq_some_iff.1 h₃
  obtain ⟨rfl, rfl⟩ := Prod.mk.inj he
  have htype := isDeclaredType_of_type? hr
  have happend := (append_of_type? hr).1
  cases r with
  | nil =>
    rw [happend, List.append_nil]
    exact htype
  | cons c r =>
    -- what is left of the type would have to be a blank and the name of the property
    obtain ⟨x, e, rfl, hlast⟩ := exists_getLast_isDeclaredType htype
    rw [List.cons_append, blanks?] at h₄
    split at h₄
    · next hc =>
      obtain rfl := Option.some.inj h₄
      rw [word?_behind ht hs (by simpa using happend) hlast hc] at h₅
      cases h₅
    · cases h₄

/-- No declaration begins inside of a written type that is more than a word. -/
theorem property?_suffix (ht : t.Plain) (hs : Renders t s) (hw : ¬ IsWord s)
    (hu : ∀ c ∈ u.head?, isBlank c) {v : Text} (hv : v ≠ []) (hvs : v <:+ s) :
    property? (v ++ u) = none := by
  by_contra hp
  obtain ⟨c, r, hr, hc, hword⟩ := exists_of_property? hp
  have hpre : ("public" : Text) <+: v := by
    refine prefix_of_prefix_append hv ?_ ⟨c :: r, hr.symm⟩
    intro d hd hm
    have hall : ("ublic" : Text).any isBlank = false := by decide
    exact List.any_eq_false.1 hall d hm (hu d hd)
  obtain ⟨v, rfl⟩ := hpre
  obtain ⟨x, rfl⟩ := hvs
  rw [List.append_assoc, List.append_cancel_left_eq] at hr
  cases v with
  | nil =>
    -- the type ends with the keyword, so it ends with a word character
    refine hw (hs.isWord_of_getLast? ht (c := 'c') ?_ (by decide))
    rw [List.append_nil, List.getLast?_append_of_ne_nil _ (by decide)]
    rfl
  | cons d v =>
    obtain ⟨rfl, rfl⟩ := List.cons.inj hr
    refine hword (word?_behind ht hs (x := x ++ "publi") (e := 'c') ?_ (.inl (by decide)) hc)
    simp

end Written

/-- A class with one property, as it is written on one line. -/
def onePropertyText (cls : Word) (type : Text) (name : Word) : Text :=
  "public class " ++ cls.text ++ " \x7b public " ++ type ++ " " ++ name.text ++
    " \x7b get; set; \x7d \x7d"

/-- What stands behind the type of the property. -/
def afterType (name : Word) : Text := " " ++ name.text ++ " \x7b get; set; \x7d \x7d"

theorem head?_afterType (name : Word) : ∀ c ∈ (afterType name).head?, isBlank c := by
  rintro c ⟨⟩
  decide

theorem properties_afterType (name : Word) : properties (afterType name) = [] := by
  have he : afterType name =
      [' '] ++ (name.text ++ ([' '] ++ (("\x7b" : Text) ++ " get; set; \x7d \x7d"))) := by
    simp [afterType]
  rw [he, properties_of_notMem (by decide), properties_word_brace name (by decide),
    ← List.append_assoc, ← List.append_nil ([' '] ++ _ ++ _), properties_of_notMem (by decide),
    properties_nil]

theorem classDecl?_onePropertyText_eq (cls : Word) (type : Text) (name : Word) :
    classDecl? (onePropertyText cls type name) = some ⟨cls.text,
      properties ([' '] ++ ("public" ++ ([' '] ++ (type ++ afterType name))))⟩ := by
  have he : onePropertyText cls type name = "public class " ++ cls.text ++ " \x7b" ++
      ([' '] ++ ("public" ++ ([' '] ++ (type ++ afterType name)))) := by
    unfold onePropertyText afterType
    simp
  rw [he, classDecl?_oneLine cls rfl]

theorem classDecl?_of_isDeclaredType {s : Text} (hs : IsDeclaredType s) (cls name : Word) :
    classDecl? (onePropertyText cls s name) = some ⟨cls.text, [⟨some name.text, some s⟩]⟩ := by
  have hb : AllBlank [' '] := by decide
  have hd : Declares s name _ := .intro hs ⟨hb, by simp⟩ ⟨hb, by simp⟩ hb hb hb hb
  have hp : property? ("public" ++ ([' '] ++ (s ++ afterType name))) =
      some ((⟨some name.text, some s⟩, " \x7d") : Property × Text) := by
    simpa [afterType] using property?_append hd " \x7d"
  have hend : properties (" \x7d" : Text) = [] := by
    rw [← List.append_nil (" \x7d" : Text), properties_of_notMem (by decide), properties_nil]
  rw [classDecl?_onePropertyText_eq, properties_of_notMem (by decide), properties_of_property? hp,
    hend]

section Written

variable {t : TypeTree} {s : Text}

/-- A property of a written type that declarations do not hold is passed over to its end. -/
theorem classDecl?_of_not_isDeclaredType (ht : t.Plain) (hs : Renders t s)
    (hd : ¬ IsDeclaredType s) (cls name : Word) :
    classDecl? (onePropertyText cls s name) = some ⟨cls.text, []⟩ := by
  have hw : ¬ IsWord s := by
    rintro ⟨w, rfl⟩
    exact hd ⟨w, [], [], .inl rfl, .inl rfl, by simp⟩
  have hu := head?_afterType name
  have hwhole : property? ("public" ++ ([' '] ++ (s ++ afterType name))) = none := by
    by_contra hp
    exact hd (isDeclaredType_of_property? ht hs hu hp)
  rw [classDecl?_onePropertyText_eq, properties_of_notMem (by decide), properties_tail hwhole]
  -- the scan goes on inside the keyword, and from there a declaration could begin in the type alone
  show some (ClassDecl.mk cls.text (properties (("ublic" : Text) ++ _))) = _
  rw [properties_of_notMem (by decide), properties_of_notMem (by decide),
    properties_append fun v => property?_suffix ht hs hw hu, properties_afterType]

/-- The property of a class with one property, whose type the projection translates, is extracted
just when a declaration holds that type. Otherwise the class is taken to have no properties, and the
collector says nothing of it. -/
theorem classDecl?_onePropertyText (ht : t.Plain) (hs : Renders t s) (cls name : Word) :
    (classDecl? (onePropertyText cls s name) = some ⟨cls.text, [⟨some name.text, some s⟩]⟩ ↔
      IsDeclaredType s) ∧
    (¬ IsDeclaredType s → classDecl? (onePropertyText cls s name) = some ⟨cls.text, []⟩ ∧
      ∀ (setup : Setup) (σ : Session) (path : RawText),
        σ.disk.readText (Path.ofText path) = .ok (onePropertyText cls s name) →
        (Session.transpileFile setup σ path).session =
          σ.later (Interface.readings setup.config.options)) := by
  refine ⟨⟨fun h => ?_, fun hd => classDecl?_of_isDeclaredType hd cls name⟩, fun hd => ?_⟩
  · by_contra hd
    rw [classDecl?_of_not_isDeclaredType ht hs hd] at h
    simp at h
  · have hnone := classDecl?_of_not_isDeclaredType ht hs hd cls name
    refine ⟨hnone, fun setup σ path hread => ?_⟩
    have hnotices : sourceNotices (path, onePropertyText cls s name) = [] := by
      simp [sourceNotices, hnone, Interface.classNotices]
    rw [(Session.transpileFile_of_readText setup hread).2, hnotices, Session.reported_nil, hnone,
      Option.toList_some, List.length_singleton, Nat.one_mul]

end Written

def listsTree : TypeTree := .list false (.list false Interface.idMember.type)

def listsFile : Text :=
  "public class Grid \x7b public List<List<int>> Rows \x7b get; set; \x7d \x7d"

def listsDisk : Disk where
  entries := [(["Grid.cs"], .file (Utf8.encode listsFile))]
  here := []

def listsSession : Session := ⟨listsDisk, {}, .stopped ⟨2024, 1, 2, 3, 4, 5, 0, none⟩⟩

/-- A list of lists has a projection, and its property is lost. -/
theorem classDecl?_onePropertyText_lists :
    listsTree.Plain ∧ Renders listsTree "List<List<int>>" ∧
      project "List<List<int>>" = "number[][]" ∧ ¬ IsDeclaredType "List<List<int>>" ∧
      classDecl? listsFile = some ⟨"Grid", []⟩ ∧
      (Session.transpileFile Session.mixedSetup listsSession "Grid.cs").result =
        .ok (some "export interface Grid \x7b\n  // No properties\n\x7d") ∧
      (Session.transpileFile Session.mixedSetup listsSession "Grid.cs").session =
        listsSession := by
  have hplain : listsTree.Plain := trivial
  have hgap : IsGap [] := by decide
  have hrenders : Renders listsTree "List<List<int>>" :=
    (Interface.idMember.renders.list false hgap hgap).list false hgap hgap
  have h := classDecl?_onePropertyText hplain hrenders ⟨"Grid", by decide, by decide⟩
    ⟨"Rows", by decide, by decide⟩
  have hfile : onePropertyText ⟨"Grid", by decide, by decide⟩ "List<List<int>>"
      ⟨"Rows", by decide, by decide⟩ = listsFile := by decide +kernel
  have hclass : classDecl? listsFile = some ⟨"Grid", []⟩ := by decide +kernel
  have hread : listsSession.disk.readText (Path.ofText "Grid.cs") = .ok listsFile := by
    decide +kernel
  rw [hfile, hclass] at h
  have hlost : ¬ IsDeclaredType "List<List<int>>" := by
    intro hd
    simpa using h.1.2 hd
  exact ⟨hplain, hrenders, by decide +kernel, hlost, hclass, by decide +kernel,
    ((h.2 hlost).2 _ _ _ hread).trans (Session.later_zero _)⟩

end Source

end DtoInterfaces
