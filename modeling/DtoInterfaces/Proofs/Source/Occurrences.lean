import DtoInterfaces.Proofs.Source.Extracted

namespace DtoInterfaces.Source

open Text

/-- A declaration by its place, from `start` up to `stop`, and what it declares. -/
structure Occurrence where
  start : Nat
  stop : Nat
  type : Text
  name : Word
  deriving DecidableEq

namespace Occurrence

def property (o : Occurrence) : Property := ⟨some o.name.text, some o.type⟩

/-- The text has this declaration at its place. -/
def StandsIn (o : Occurrence) (t : Text) : Prop :=
  o.stop ≤ t.length ∧ Declares o.type o.name ((t.take o.stop).drop o.start)

end Occurrence

/-- A declaration of the text from `k` on, with no other farther left. -/
structure IsLeftmost (t : Text) (k : Nat) (o : Occurrence) : Prop where
  standsIn : o.StandsIn t
  le_start : k ≤ o.start
  start_le : ∀ o' : Occurrence, o'.StandsIn t → k ≤ o'.start → o.start ≤ o'.start

/-- The leftmost declaration from `k` on, then the leftmost from its end on, until there is none. -/
inductive Takes (t : Text) : Nat → List Occurrence → Prop
  | nil {k : Nat} (h : ∀ o : Occurrence, o.StandsIn t → o.start < k) : Takes t k []
  | cons {k : Nat} {o : Occurrence} {os : List Occurrence} (h : IsLeftmost t k o)
      (hos : Takes t o.stop os) : Takes t k (o :: os)

variable {t : Text}

theorem length_pos_of_declares {type s : Text} {name : Word} (h : Declares type name s) :
    0 < s.length := by
  obtain ⟨⟩ := h
  simp

/-- What stands at a place is what is read off the text from there. -/
theorem Occurrence.standsIn_iff {o : Occurrence} :
    o.StandsIn t ↔ o.start < o.stop ∧ o.stop ≤ t.length ∧
      property? (t.drop o.start) = some (o.property, t.drop o.stop) := by
  constructor
  · rintro ⟨hstop, hs⟩
    have hlt : o.start < o.stop := by
      have := length_pos_of_declares hs
      simp only [List.length_drop, List.length_take] at this
      omega
    refine ⟨hlt, hstop, ?_⟩
    have hsplit : t.drop o.start = (t.take o.stop).drop o.start ++ t.drop o.stop := by
      conv_lhs => rw [← List.take_append_drop o.stop t]
      rw [List.drop_append_of_le_length (by simp; omega)]
    rw [hsplit, property?_append hs, Occurrence.property]
  · rintro ⟨hlt, hstop, h⟩
    obtain ⟨name, type, s, hs, hp, hsplit⟩ := property?_eq_some_iff.1 h
    obtain ⟨hname, htype⟩ := Property.mk.inj hp
    obtain rfl : name = o.name := Word.text_injective (Option.some.inj hname).symm
    obtain rfl : type = o.type := (Option.some.inj htype).symm
    refine ⟨hstop, ?_⟩
    have hlen : o.stop - o.start = s.length := by
      have := congrArg List.length hsplit
      simp only [List.length_drop, List.length_append] at this
      omega
    rwa [List.drop_take, hsplit, hlen, List.take_left]

/-- From each place there is at most one declaration. -/
theorem Occurrence.eq_of_start_eq {o o' : Occurrence} (h : o.StandsIn t) (h' : o'.StandsIn t)
    (hstart : o.start = o'.start) : o = o' := by
  obtain ⟨-, hstop, hp⟩ := standsIn_iff.1 h
  obtain ⟨-, hstop', hp'⟩ := standsIn_iff.1 h'
  rw [hstart, hp', Option.some_inj, Prod.mk.injEq] at hp
  obtain ⟨hproperty, hdrop⟩ := hp
  have hlen := congrArg List.length hdrop
  simp only [List.length_drop] at hlen
  obtain ⟨start, stop, type, name⟩ := o
  obtain ⟨start', stop', type', name'⟩ := o'
  simp only [Occurrence.property, Property.mk.injEq, Option.some_inj] at hproperty
  dsimp only at hstart hstop hstop' hlen
  simp only [Occurrence.mk.injEq]
  exact ⟨hstart, by omega, hproperty.2.symm, Word.text_injective hproperty.1.symm⟩

theorem exists_occurrence {k : Nat} {p : Property} {rest : Text}
    (h : property? (t.drop k) = some (p, rest)) :
    ∃ o : Occurrence, o.StandsIn t ∧ o.start = k ∧ o.property = p ∧ t.drop o.stop = rest := by
  obtain ⟨name, type, s, hs, rfl, hsplit⟩ := property?_eq_some_iff.1 h
  have hpos := length_pos_of_declares hs
  have hlen := congrArg List.length hsplit
  simp only [List.length_drop, List.length_append] at hlen
  have hrest : t.drop (k + s.length) = rest := by
    rw [← List.drop_drop, hsplit, List.drop_left]
  refine ⟨⟨k, k + s.length, type, name⟩, Occurrence.standsIn_iff.2 ⟨?_, ?_, ?_⟩, rfl, rfl, hrest⟩
  · exact Nat.lt_add_of_pos_right hpos
  · dsimp only
    omega
  · dsimp only
    rw [hrest]
    exact h

theorem start_ne_of_property? {k : Nat} (h : property? (t.drop k) = none) {o : Occurrence}
    (ho : o.StandsIn t) : o.start ≠ k := by
  rintro rfl
  rw [(Occurrence.standsIn_iff.1 ho).2.2] at h
  cases h

theorem Takes.of_succ {k : Nat} {os : List Occurrence} (h : Takes t (k + 1) os)
    (hk : ∀ o : Occurrence, o.StandsIn t → o.start ≠ k) : Takes t k os := by
  cases h with
  | nil h =>
    refine .nil fun o ho => ?_
    have := h o ho
    have := hk o ho
    omega
  | cons h hos =>
    refine .cons ⟨h.standsIn, Nat.le_of_succ_le h.le_start, fun o' ho' hle => ?_⟩ hos
    exact h.start_le o' ho' (Nat.lt_of_le_of_ne hle (hk o' ho').symm)

theorem Takes.unique {k : Nat} {os os' : List Occurrence} (h : Takes t k os)
    (h' : Takes t k os') : os' = os := by
  induction h generalizing os' with
  | nil h =>
    cases h' with
    | nil => rfl
    | cons h' => exact absurd (h _ h'.standsIn) (Nat.not_lt.2 h'.le_start)
  | cons h hos ih =>
    cases h' with
    | nil h' => exact absurd (h' _ h.standsIn) (Nat.not_lt.2 h.le_start)
    | cons h' hos' =>
      have hstart := Nat.le_antisymm (h.start_le _ h'.standsIn h'.le_start)
        (h'.start_le _ h.standsIn h.le_start)
      obtain rfl := Occurrence.eq_of_start_eq h.standsIn h'.standsIn hstart
      rw [ih hos']

theorem exists_takes (t : Text) (k : Nat) :
    ∃ os, Takes t k os ∧ properties (t.drop k) = os.map Occurrence.property := by
  generalize hu : t.drop k = u
  induction u using properties.induct generalizing k with
  | case1 u p rest h ih =>
    subst hu
    obtain ⟨o, ho, rfl, rfl, hrest⟩ := exists_occurrence h
    obtain ⟨os, hos, hmap⟩ := ih o.stop hrest
    refine ⟨o :: os, .cons ⟨ho, Nat.le_refl _, fun _ _ hle => hle⟩ hos, ?_⟩
    rw [properties_of_property? h, hmap, List.map_cons]
  | case2 h =>
    refine ⟨[], .nil fun o ho => ?_, properties_nil⟩
    obtain ⟨hlt, hstop, -⟩ := Occurrence.standsIn_iff.1 ho
    have := List.drop_eq_nil_iff.1 hu
    omega
  | case3 c rest h ih =>
    have hrest : t.drop (k + 1) = rest := by rw [← List.tail_drop, hu, List.tail_cons]
    obtain ⟨os, hos, hmap⟩ := ih (k + 1) hrest
    rw [← hu] at h
    refine ⟨os, hos.of_succ fun o => start_ne_of_property? h, ?_⟩
    rw [← hmap, ← hu, properties_tail h, hu, List.tail_cons]

/-- `class`, blanks and the first character of a word stand from `k` on. -/
def NamesClassAt (t : Text) (k : Nat) : Prop :=
  ∃ b c rest, IsSpace b ∧ isWordChar c ∧ t.drop k = "class" ++ b ++ c :: rest

theorem namesClassAt_iff {k : Nat} : NamesClassAt t k ↔ classHeader? (t.drop k) ≠ none := by
  constructor
  · rintro ⟨b, c, rest, hb, hc, hk⟩
    -- the word goes on from `c` as far as it can
    have hne : (c :: rest).takeWhile isWordChar ≠ [] := by
      rw [List.takeWhile_cons_of_pos hc]
      exact List.cons_ne_nil _ _
    let w : Word := ⟨_, hne, List.all_takeWhile⟩
    have hrest : ∀ a ∈ ((c :: rest).dropWhile isWordChar).head?, isWordChar a = false := by
      intro a ha
      have := List.head?_dropWhile_not isWordChar (c :: rest)
      rw [ha] at this
      simpa using this
    rw [← List.takeWhile_append_dropWhile (p := isWordChar) (l := c :: rest),
      ← List.append_assoc] at hk
    rw [classHeader?_eq_some_iff.2 ⟨w, b, _, hb, rfl, hrest, hk⟩]
    exact Option.some_ne_none _
  · intro h
    obtain ⟨name, h⟩ := Option.ne_none_iff_exists'.1 h
    obtain ⟨w, b, rest, hb, -, -, hk⟩ := classHeader?_eq_some_iff.1 h
    obtain ⟨c, r, hw⟩ := List.exists_cons_of_ne_nil w.ne_nil
    refine ⟨b, c, r ++ rest, hb, w.isWordChar_of_mem c (by simp [hw]), ?_⟩
    rw [hk, hw, List.append_assoc, List.cons_append]

/-- The name of the class is read at the leftmost place where one stands. -/
theorem className?_eq_some_iff {name : Text} : className? t = some name ↔
    ∃ k, (∀ j < k, ¬ NamesClassAt t j) ∧ classHeader? (t.drop k) = some name := by
  simp only [namesClassAt_iff, not_not]
  induction t with
  | nil => simp [className?, show classHeader? [] = none from rfl]
  | cons c t ih =>
    rw [className?]
    cases h : classHeader? (c :: t) with
    | none =>
      rw [Option.none_or, ih]
      constructor
      · rintro ⟨k, hleft, hk⟩
        refine ⟨k + 1, fun j hj => ?_, hk⟩
        cases j with
        | zero => exact h
        | succ j => exact hleft j (Nat.lt_of_succ_lt_succ hj)
      · rintro ⟨_ | k, hleft, hk⟩
        · rw [List.drop_zero, h] at hk
          cases hk
        · exact ⟨k, fun j hj => hleft (j + 1) (Nat.succ_lt_succ hj), hk⟩
    | some found =>
      rw [Option.some_or]
      constructor
      · rintro ⟨⟩
        exact ⟨0, fun j hj => absurd hj (Nat.not_lt_zero j), h⟩
      · rintro ⟨_ | k, hleft, hk⟩
        · exact h.symm.trans hk
        · have := hleft 0 (Nat.succ_pos k)
          rw [List.drop_zero, h] at this
          cases this

theorem className?_eq_none_iff : className? t = none ↔ ∀ k, ¬ NamesClassAt t k := by
  constructor
  · intro h k
    -- the leftmost place would give a name
    induction k using Nat.strong_induction_on with
    | _ k ih =>
      intro hk
      obtain ⟨name, hname⟩ := Option.ne_none_iff_exists'.1 (namesClassAt_iff.1 hk)
      rw [className?_eq_some_iff.2 ⟨k, ih, hname⟩] at h
      cases h
  · intro h
    by_contra hn
    obtain ⟨name, hname⟩ := Option.ne_none_iff_exists'.1 hn
    obtain ⟨k, -, hk⟩ := className?_eq_some_iff.1 hname
    exact h k (namesClassAt_iff.2 (by rw [hk]; exact Option.some_ne_none _))

/-- The extraction takes exactly what its grammar says. From each place there is at most one
declaration, and the properties are those of the leftmost declarations that do not overlap. There is
a class just when a word stands behind some `class`; its name is the whole word behind the leftmost
one. -/
theorem extraction_leftmost (t : Text) :
    (∀ o o' : Occurrence, o.StandsIn t → o'.StandsIn t → o.start = o'.start → o = o') ∧
    (∃ os, (∀ os', Takes t 0 os' ↔ os' = os) ∧ properties t = os.map Occurrence.property) ∧
    (classDecl? t = none ↔ ∀ k, ¬ NamesClassAt t k) ∧
    ∀ c, classDecl? t = some c ↔ ∃ (k : Nat) (b : Text) (name : Word) (rest : Text),
      (∀ j < k, ¬ NamesClassAt t j) ∧ IsSpace b ∧ (∀ a ∈ rest.head?, isWordChar a = false) ∧
        t.drop k = "class" ++ b ++ name.text ++ rest ∧ c = ⟨name.text, properties t⟩ := by
  refine ⟨fun o o' => Occurrence.eq_of_start_eq, ?_, ?_, fun c => ?_⟩
  · obtain ⟨os, hos, hmap⟩ := exists_takes t 0
    refine ⟨os, fun os' => ⟨hos.unique, ?_⟩, hmap⟩
    rintro rfl
    exact hos
  · rw [classDecl?, Option.map_eq_none_iff, className?_eq_none_iff]
  · rw [classDecl?, Option.map_eq_some_iff]
    constructor
    · rintro ⟨name, hname, rfl⟩
      obtain ⟨k, hleft, hk⟩ := className?_eq_some_iff.1 hname
      obtain ⟨w, b, rest, hb, rfl, hrest, hsplit⟩ := classHeader?_eq_some_iff.1 hk
      exact ⟨k, b, w, rest, hleft, hb, hrest, hsplit, rfl⟩
    · rintro ⟨k, b, w, rest, hleft, hb, hrest, hsplit, rfl⟩
      have hk := classHeader?_eq_some_iff.2 ⟨w, b, rest, hb, rfl, hrest, hsplit⟩
      exact ⟨w.text, className?_eq_some_iff.2 ⟨k, hleft, hk⟩, rfl⟩

/-- A declaration inside an argument group begins behind the leftmost one and is not taken. -/
example : properties ("public Map<public int A \x7bget;set;\x7d> B \x7bget;set;\x7d" : Text) =
    [⟨some "B", some "Map<public int A \x7bget;set;\x7d>"⟩] := by
  decide +kernel

end DtoInterfaces.Source
