import DtoInterfaces.Proofs.TypeExpr.Unambiguous

namespace DtoInterfaces.TypeExpr

open Text

/-- How far a type is read: up to an operand, up to what may end one, or up to blanks behind one. -/
inductive Place where
  | before
  | within
  | behind
  deriving DecidableEq

namespace Place

/-- No word may begin behind an operand. -/
def next? (p : Place) (c : Char) : Option Place :=
  if isWordChar c then if p = behind then none else some within
  else if isBlank c then some (if p = before then before else behind)
  else if c = '<' ∨ c = ',' then some before
  else some within

def follow? (p : Place) (t : Text) : Option Place := t.foldlM next? p

@[simp] theorem follow?_nil (p : Place) : p.follow? [] = some p := rfl

@[simp] theorem follow?_cons (p : Place) (c : Char) (t : Text) :
    p.follow? (c :: t) = (p.next? c).bind fun q => q.follow? t := rfl

@[simp] theorem follow?_append (p : Place) (s t : Text) :
    p.follow? (s ++ t) = (p.follow? s).bind fun q => q.follow? t :=
  List.foldlM_append

theorem next?_word {p : Place} {c : Char} (hp : p ≠ behind) (hc : isWordChar c) :
    p.next? c = some within := by
  rw [next?, if_pos hc, if_neg hp]

theorem next?_blank (p : Place) {c : Char} (hc : isBlank c) :
    p.next? c = some (if p = before then before else behind) := by
  rw [next?, isWordChar_of_isBlank hc, if_neg (by decide), if_pos hc]

/-- What ends an operand, whatever stands in front of it. -/
theorem next?_closing (p : Place) {c : Char} (hc : c ∈ ['?', '>', '[', ']']) :
    p.next? c = some within := by
  simp only [List.mem_cons, List.not_mem_nil, or_false] at hc
  rcases hc with rfl | rfl | rfl | rfl <;> cases p <;> decide

theorem next?_opening (p : Place) {c : Char} (hc : c ∈ ['<', ',']) : p.next? c = some before := by
  simp only [List.mem_cons, List.not_mem_nil, or_false] at hc
  rcases hc with rfl | rfl <;> cases p <;> decide

theorem follow?_word {p : Place} (hp : p ≠ behind) (w : Word) : p.follow? w.text = some within := by
  have hrest (t : Text) (ht : ∀ c ∈ t, isWordChar c) : within.follow? t = some within := by
    induction t with
    | nil => rfl
    | cons c t ih =>
      obtain ⟨hc, ht⟩ := List.forall_mem_cons.1 ht
      rw [follow?_cons, next?_word (by decide) hc, Option.bind_some, ih ht]
  obtain ⟨c, t, ht⟩ := List.exists_cons_of_ne_nil w.ne_nil
  have hw := w.isWordChar_of_mem
  rw [ht] at hw ⊢
  obtain ⟨hc, ht⟩ := List.forall_mem_cons.1 hw
  rw [follow?_cons, next?_word hp hc, Option.bind_some, hrest t ht]

theorem follow?_before_blanks {b : Text} (hb : AllBlank b) : before.follow? b = some before := by
  induction b with
  | nil => rfl
  | cons c b ih =>
    obtain ⟨hc, hb⟩ := List.forall_mem_cons.1 hb
    rw [follow?_cons, next?_blank _ hc, if_pos rfl, Option.bind_some, ih hb]

theorem exists_follow?_blanks (p : Place) {b : Text} (hb : AllBlank b) :
    ∃ q, p.follow? b = some q := by
  induction b generalizing p with
  | nil => exact ⟨p, rfl⟩
  | cons c b ih =>
    obtain ⟨hc, hb⟩ := List.forall_mem_cons.1 hb
    rw [follow?_cons, next?_blank _ hc, Option.bind_some]
    exact ih _ hb

theorem follow?_skipBlanks (t : Text) : behind.follow? (skipBlanks t) = behind.follow? t := by
  induction t with
  | nil => rfl
  | cons c t ih =>
    by_cases hc : isBlank c
    · rw [follow?_cons, next?_blank _ hc, if_neg (by decide), Option.bind_some, skipBlanks,
        List.dropWhile_cons_of_pos hc]
      exact ih
    · rw [skipBlanks, List.dropWhile_cons_of_neg hc]

end Place

open Place

namespace Renders

variable {t : TypeTree} {s : Text}

theorem follow?_eq (h : Renders t s) (ht : t.Plain) : before.follow? s = some within := by
  have hl (interface : Bool) : before.follow? (listName interface) = some within := by
    cases interface <;> decide
  have hd (interface : Bool) : before.follow? (dictionaryName interface) = some within := by
    cases interface <;> decide
  induction h with
  | name w => exact follow?_word (by decide) w
  | generic g => exact ht.elim
  | nullable hs hb ih =>
    obtain ⟨q, hq⟩ := exists_follow?_blanks within hb.1
    simp [ih ht, hq, next?_closing]
  | list interface hs hb hb' ih =>
    obtain ⟨q, hq⟩ := exists_follow?_blanks within hb'.1
    simp [applied, hl, next?_opening, follow?_before_blanks hb.1, ih ht, hq, next?_closing]
  | array hs hb ih =>
    obtain ⟨q, hq⟩ := exists_follow?_blanks within hb.1
    simp [ih ht, hq, next?_closing]
  | dictionary interface hs hu h₁ h₂ h₃ h₄ ihs ihu =>
    obtain ⟨q₂, hq₂⟩ := exists_follow?_blanks within h₂.1
    obtain ⟨q₄, hq₄⟩ := exists_follow?_blanks within h₄.1
    simp [applied, hd, next?_opening, follow?_before_blanks h₁.1, ihs ht.1, hq₂,
      follow?_before_blanks h₃.1, ihu ht.2, hq₄, next?_closing]

/-- Behind an operand and a blank no word begins. -/
theorem isWordChar_behind (h : Renders t s) (ht : t.Plain) {x r : Text} {e c : Char}
    (hs : s = x ++ e :: c :: r) (he : isWordChar e ∨ e ∈ ['?', '>']) (hc : isBlank c) :
    ∀ d ∈ (skipBlanks r).head?, isWordChar d = false := by
  have hf := h.follow?_eq ht
  rw [hs, follow?_append, Option.bind_eq_some_iff] at hf
  obtain ⟨p, -, hf⟩ := hf
  have hp : p.next? e = some within ∨ p.next? e = none := by
    rcases he with he | he
    · by_cases hp : p = behind
      · exact .inr (by rw [next?, if_pos he, if_pos hp])
      · exact .inl (next?_word hp he)
    · exact .inl (next?_closing p (List.mem_append_left ['[', ']'] he))
  rw [follow?_cons] at hf
  rcases hp with hp | hp
  · rw [hp, Option.bind_some, follow?_cons, next?_blank _ hc, if_neg (by decide), Option.bind_some,
      ← follow?_skipBlanks] at hf
    intro d hd
    by_contra hw
    obtain ⟨r', hr'⟩ := List.head?_eq_some_iff.1 hd
    rw [hr', follow?_cons, next?, if_pos (by simpa using hw), if_pos rfl] at hf
    cases hf
  · rw [hp] at hf
    cases hf

theorem count_angle (h : Renders t s) (ht : t.Plain) : s.count '<' = s.count '>' := by
  have hw (w : Word) {c : Char} (hc : isWordChar c = false) : w.text.count c = 0 :=
    List.count_eq_zero.2 (w.notMem hc)
  have hg {b : Text} (hb : IsGap b) {c : Char} (hc : isBlank c = false) : b.count c = 0 := by
    refine List.count_eq_zero.2 fun hm => ?_
    simp [hb.1 c hm] at hc
  have hg₁ {b : Text} (hb : IsGap b) : b.count '<' = 0 := hg hb (by decide)
  have hg₂ {b : Text} (hb : IsGap b) : b.count '>' = 0 := hg hb (by decide)
  induction h with
  | name w => rw [hw w (by decide), hw w (by decide)]
  | generic g => exact ht.elim
  | nullable hs hb ih => simp [ih ht, hg₁ hb, hg₂ hb]
  | list interface hs hb hb' ih =>
    cases interface <;> simp [applied, listName, ih ht, hg₁ hb, hg₂ hb, hg₁ hb', hg₂ hb']
  | array hs hb ih => simp [ih ht, hg₁ hb, hg₂ hb]
  | dictionary interface hs hu h₁ h₂ h₃ h₄ ihs ihu =>
    cases interface <;>
      simp [applied, dictionaryName, ihs ht.1, ihu ht.2, hg₁ h₁, hg₂ h₁, hg₁ h₂, hg₂ h₂, hg₁ h₃,
        hg₂ h₃, hg₁ h₄, hg₂ h₄, Nat.add_assoc]

theorem isWord_of_getLast? (h : Renders t s) (ht : t.Plain) {c : Char} (hc : s.getLast? = some c)
    (hw : isWordChar c) : IsWord s := by
  have hne {m : Char} (hm : s.getLast? = some m) (hmw : isWordChar m = false) : False := by
    obtain rfl := Option.some.inj (hm.symm.trans hc)
    simp [hmw] at hw
  cases h with
  | name w => exact ⟨w, rfl⟩
  | generic g => exact ht.elim
  | nullable => exact (hne (m := '?') (by simp) (by decide)).elim
  | list => exact (hne (getLast?_applied _ _) (by decide)).elim
  | array => exact (hne (m := ']') (by simp) (by decide)).elim
  | dictionary => exact (hne (getLast?_applied _ _) (by decide)).elim

end Renders

end DtoInterfaces.TypeExpr
