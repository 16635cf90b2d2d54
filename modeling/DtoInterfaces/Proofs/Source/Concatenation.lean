import DtoInterfaces.Proofs.Source.Extracted

namespace DtoInterfaces.Source

open Text

/-- A text that ends with a closing brace and has a `>` behind each of its `<`. -/
structure IsClosed (s : Text) : Prop where
  getLast?_eq : s.getLast? = some '}'
  mem_of_suffix : ∀ v, '<' :: v <:+ s → '>' ∈ v

instance (s : Text) : Decidable (IsClosed s) :=
  decidable_of_iff (s.getLast? = some '}' ∧ ∀ u ∈ s.tails, u.head? = some '<' → '>' ∈ u.tail)
    ⟨fun ⟨h, hs⟩ => ⟨h, fun v hv => hs _ ((List.mem_tails _ _).2 hv) rfl⟩,
      fun h => ⟨h.getLast?_eq, fun u hu hhead => h.mem_of_suffix u.tail (by
        rw [List.cons_head?_tail hhead]
        exact (List.mem_tails _ _).1 hu)⟩⟩

variable {s t u : Text}

namespace IsClosed

theorem exists_append_eq (h : IsClosed s) : ∃ x, s = x ++ ['}'] :=
  List.getLast?_eq_some_iff.1 h.getLast?_eq

theorem of_suffix (h : IsClosed s) (hu : u <:+ s) (hne : u ≠ []) : IsClosed u := by
  obtain ⟨v, rfl⟩ := hu
  refine ⟨?_, fun w hw => h.mem_of_suffix w (hw.trans (List.suffix_append v u))⟩
  rw [← h.getLast?_eq, List.getLast?_append_of_ne_nil _ hne]

end IsClosed

theorem exists_of_append_eq_left {c : Char} {a r x y : Text} (ha : c ∉ a)
    (h : a ++ r = x ++ c :: y) : ∃ z, x = a ++ z ∧ r = z ++ c :: y := by
  rcases List.append_eq_append_iff.1 h with ⟨z, hx, hr⟩ | ⟨z, rfl, hz⟩
  · exact ⟨z, hx, hr⟩
  · cases z with
    | nil => exact ⟨[], by simp, hz.symm⟩
    | cons d z =>
      obtain ⟨rfl, -⟩ := List.cons.inj hz
      simp at ha

theorem exists_of_append_eq_right {c : Char} {b r x y : Text} (hb : c ∉ b)
    (h : r ++ b = x ++ c :: y) : ∃ z, r = x ++ c :: z := by
  rcases List.append_eq_append_iff.1 h with ⟨z, -, rfl⟩ | ⟨z, rfl, hz⟩
  · simp at hb
  · cases z with
    | nil =>
      obtain rfl : c :: y = b := hz
      simp at hb
    | cons d z =>
      obtain ⟨rfl, -⟩ := List.cons.inj hz
      exact ⟨z, rfl⟩

/-- A declaration up to its argument group, the group, and what stands behind it. -/
theorem exists_parts_of_declares {type : Text} {name : Word} (h : Declares type name s) :
    ∃ a g b, IsGroup g ∧ '}' ∉ a ∧ '}' ∉ b ∧ s = a ++ (g ++ (b ++ ['}'])) := by
  obtain @⟨b₁, b₂, b₃, b₄, b₅, b₆, ⟨w, g, m, hg, hm, rfl⟩, h₁, h₂, h₃, h₄, h₅, h₆⟩ := h
  have hblank {b : Text} (hb : AllBlank b) : '}' ∉ b := fun hm => absurd (hb _ hm) (by decide)
  have hword (w : Word) : '}' ∉ w.text := w.notMem (by decide)
  have hmark : '}' ∉ m := by rcases hm with rfl | rfl <;> decide
  refine ⟨"public" ++ b₁ ++ w.text, g, m ++ b₂ ++ name.text ++ b₃ ++ "\x7b" ++ b₄ ++ "get;" ++ b₅ ++
    "set;" ++ b₆, hg, ?_, ?_, by simp⟩
  · simp [hblank h₁.1, hword]
  · simp [hmark, hblank h₂.1, hword, hblank h₃, hblank h₄, hblank h₅, hblank h₆]

/-- A closing brace in a group stands behind the `<` and before the first `>`. -/
theorem exists_open_of_isGroup {z y : Text} (h : IsGroup (z ++ '}' :: y)) :
    ∃ v, z ++ ['}'] = '<' :: v ∧ '>' ∉ v := by
  rcases h with h | ⟨a, -, ha, h⟩
  · simp at h
  · cases z with
    | nil => simp at h
    | cons c z =>
      obtain ⟨rfl, htail⟩ : c = '<' ∧ z ++ '}' :: y = a ++ ['>'] := List.cons.inj h
      have hfront : z ++ ['}'] <+: a ++ ['>'] := ⟨y, by rw [← htail]; simp⟩
      rcases List.prefix_concat_iff.1 hfront with he | hfront
      · simp at he
      · exact ⟨z ++ ['}'], rfl, fun hm => ha (hfront.subset hm)⟩

/-- A closing brace inside a declaration stands in its argument group, which is open there. -/
theorem exists_open_of_declares {type x y : Text} {name : Word}
    (h : Declares type name (x ++ '}' :: y)) (hy : y ≠ []) :
    ∃ v, '<' :: v <:+ x ++ ['}'] ∧ '>' ∉ v := by
  obtain ⟨a, g, b, hg, ha, hb, hs⟩ := exists_parts_of_declares h
  obtain ⟨y, d, rfl⟩ := (List.eq_nil_or_concat y).resolve_left hy
  have hbefore : a ++ g ++ b = x ++ '}' :: y := by
    have hlast : (a ++ g ++ b) ++ ['}'] = (x ++ '}' :: y) ++ [d] := by simpa using hs.symm
    exact (List.append_inj' hlast rfl).1
  obtain ⟨z, hag⟩ := exists_of_append_eq_right hb hbefore
  obtain ⟨x, rfl, rfl⟩ := exists_of_append_eq_left ha hag
  obtain ⟨v, hv, hv'⟩ := exists_open_of_isGroup hg
  exact ⟨v, by rw [List.append_assoc, hv]; exact List.suffix_append a _, hv'⟩

/-- Behind a closed text no declaration goes on that began in it. -/
theorem exists_append_of_declares {type r : Text} {name : Word} (hu : IsClosed u)
    (h : Declares type name s) (he : u ++ t = s ++ r) : ∃ v, u = s ++ v ∧ r = v ++ t := by
  rcases List.append_eq_append_iff.1 he with ⟨v, rfl, rfl⟩ | ⟨v, rfl, rfl⟩
  · by_cases hv : v = []
    · subst hv
      exact ⟨[], by simp, rfl⟩
    · obtain ⟨x, rfl⟩ := hu.exists_append_eq
      rw [List.append_assoc] at h
      obtain ⟨w, hw, hw'⟩ := exists_open_of_declares h hv
      exact absurd (hu.mem_of_suffix w hw) hw'
  · exact ⟨v, rfl, rfl⟩

theorem property?_append_of_isClosed (hu : IsClosed u) (t : Text) :
    property? (u ++ t) = (property? u).map fun x => (x.1, x.2 ++ t) := by
  cases h : property? u with
  | some x =>
    obtain ⟨name, type, s, hs, hp, rfl⟩ := property?_eq_some_iff.1 h
    rw [List.append_assoc, property?_append hs, Option.map_some, hp]
  | none =>
    by_contra hn
    obtain ⟨⟨p, r⟩, hp⟩ := Option.ne_none_iff_exists'.1 hn
    obtain ⟨name, type, s, hs, rfl, he⟩ := property?_eq_some_iff.1 hp
    obtain ⟨v, rfl, -⟩ := exists_append_of_declares hu hs he
    rw [property?_append hs] at h
    cases h

theorem properties_append_of_isClosed (hs : s = [] ∨ IsClosed s) (t : Text) :
    properties (s ++ t) = properties s ++ properties t := by
  induction s using properties.induct with
  | case1 s p rest h ih =>
    obtain ⟨name, type, d, hd, rfl, rfl⟩ := property?_eq_some_iff.1 h
    have hrest : rest = [] ∨ IsClosed rest := by
      refine or_iff_not_imp_left.2 fun hne => ?_
      refine (hs.resolve_left ?_).of_suffix (List.suffix_append d rest) hne
      simp [hne]
    rw [List.append_assoc, properties_of_property? (property?_append hd (rest ++ t)),
      properties_of_property? h, ih hrest, List.cons_append]
  | case2 => rw [properties_nil, List.nil_append, List.nil_append]
  | case3 c rest h ih =>
    have hclosed := hs.resolve_left (List.cons_ne_nil c rest)
    have hrest : rest = [] ∨ IsClosed rest :=
      or_iff_not_imp_left.2 (hclosed.of_suffix (List.suffix_cons c rest))
    have hnone : property? (c :: rest ++ t) = none := by
      rw [property?_append_of_isClosed hclosed, h, Option.map_none]
    rw [properties_tail hnone, properties_tail h]
    exact ih hrest

/-- A class header holds no brace, so a closed text goes on behind one that it begins with. -/
theorem classHeader?_append_of_isClosed (hu : IsClosed u) (t : Text) :
    classHeader? (u ++ t) = classHeader? u := by
  have hbrace {b : Text} (w : Word) (hb : IsSpace b) : '}' ∉ ("class" ++ b ++ w.text : Text) := by
    have hblank : '}' ∉ b := fun hm => absurd (hb.1 _ hm) (by decide)
    have hword : '}' ∉ w.text := w.notMem (by decide)
    simp [hblank, hword]
  apply Option.ext
  intro name
  rw [classHeader?_eq_some_iff, classHeader?_eq_some_iff]
  obtain ⟨x, rfl⟩ := hu.exists_append_eq
  constructor
  · rintro ⟨w, b, rest, hb, rfl, hrest, he⟩
    have hbehind : "class" ++ b ++ w.text ++ rest = x ++ '}' :: t := by simpa using he.symm
    obtain ⟨z, rfl, rfl⟩ := exists_of_append_eq_left (hbrace w hb) hbehind
    refine ⟨w, b, z ++ ['}'], hb, rfl, ?_, by simp⟩
    cases z <;> exact hrest
  · rintro ⟨w, b, rest, hb, rfl, hrest, he⟩
    obtain ⟨z, rfl, rfl⟩ := exists_of_append_eq_left (hbrace w hb) he.symm
    refine ⟨w, b, z ++ ['}'] ++ t, hb, rfl, ?_, by simp⟩
    cases z <;> exact hrest

theorem className?_append_of_isClosed (hs : s = [] ∨ IsClosed s) (t : Text) :
    className? (s ++ t) = (className? s).or (className? t) := by
  induction s with
  | nil => rfl
  | cons c s ih =>
    have hclosed := hs.resolve_left (List.cons_ne_nil c s)
    have hrest : s = [] ∨ IsClosed s :=
      or_iff_not_imp_left.2 (hclosed.of_suffix (List.suffix_cons c s))
    have hheader := classHeader?_append_of_isClosed hclosed t
    rw [List.cons_append] at hheader ⊢
    rw [className?, className?, hheader, ih hrest, Option.or_assoc]

section Parts

variable {parts : List Text}

theorem properties_flatten_append (h : ∀ s ∈ parts, IsClosed s) (last : Text) :
    properties (parts.flatten ++ last) = (parts ++ [last]).flatMap properties := by
  induction parts with
  | nil => simp
  | cons s parts ih =>
    obtain ⟨hs, hparts⟩ := List.forall_mem_cons.1 h
    rw [List.flatten_cons, List.append_assoc, properties_append_of_isClosed (.inr hs), ih hparts]
    rfl

theorem className?_flatten_append (h : ∀ s ∈ parts, IsClosed s) (last : Text) :
    className? (parts.flatten ++ last) = (parts ++ [last]).findSome? className? := by
  induction parts with
  | nil => simp
  | cons s parts ih =>
    obtain ⟨hs, hparts⟩ := List.forall_mem_cons.1 h
    rw [List.flatten_cons, List.append_assoc, className?_append_of_isClosed (.inr hs), ih hparts,
      List.cons_append, List.findSome?_cons]
    cases className? s <;> rfl

end Parts

/-- The extraction takes the parts of a file one by one when each but the last ends with a closing
brace and leaves no argument group open. Each property comes up once, and the class has the first
name that one of the parts gives. -/
theorem extraction_append :
    (∀ s t : Text, IsClosed s → properties (s ++ t) = properties s ++ properties t ∧
      className? (s ++ t) = (className? s).or (className? t)) ∧
    ∀ (parts : List Text) (last : Text), (∀ s ∈ parts, IsClosed s) →
      classDecl? (parts.flatten ++ last) = ((parts ++ [last]).findSome? className?).map fun name =>
        ⟨name, (parts ++ [last]).flatMap properties⟩ := by
  refine ⟨fun s t hs => ⟨?_, ?_⟩, fun parts last h => ?_⟩
  · exact properties_append_of_isClosed (.inr hs) t
  · exact className?_append_of_isClosed (.inr hs) t
  · rw [classDecl?, properties_flatten_append h, className?_flatten_append h]

/-- A part without a class, and one with an argument group that goes over two lines. -/
def closedParts : List Text :=
  ["using Models; public int Count \x7b get; set; \x7d",
    "\npublic class Order \x7b public Map<string,\nint> Sums \x7b get; set; \x7d \x7d"]

/-- A part that ends neither with a brace nor with its group closed. -/
def openPart : Text := " class Tag \x7b public int Count \x7b get; set; \x7d // <"

theorem extraction_append_openPart : (∀ s ∈ closedParts, IsClosed s) ∧
    classDecl? (closedParts.flatten ++ openPart) =
      some ⟨"Order", [⟨some "Count", some "int"⟩, ⟨some "Sums", some "Map<string,\nint>"⟩,
        ⟨some "Count", some "int"⟩]⟩ := by
  have hclosed : ∀ s ∈ closedParts, IsClosed s := by decide +kernel
  refine ⟨hclosed, ?_⟩
  rw [extraction_append.2 closedParts openPart hclosed]
  decide +kernel

end DtoInterfaces.Source
