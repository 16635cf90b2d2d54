import DtoInterfaces.Proofs.Text.Strip
import DtoInterfaces.Proofs.Text.Word
import DtoInterfaces.TypeExpr.Arguments
import Mathlib.Algebra.Order.Group.Int
import Mathlib.Tactic.Ring

namespace DtoInterfaces.TypeExpr

open Text

@[simp] theorem depth_nil : depth [] = 0 := rfl

@[simp] theorem depth_cons (c : Char) (t : Text) : depth (c :: t) = bracketStep c + depth t := rfl

@[simp] theorem depth_append (s t : Text) : depth (s ++ t) = depth s + depth t := by
  induction s with
  | nil => simp
  | cons c s ih =>
    rw [List.cons_append, depth_cons, depth_cons, ih]
    omega

theorem depth_eq_zero {t : Text} (h : ∀ c ∈ t, bracketStep c = 0) : depth t = 0 := by
  induction t with
  | nil => rfl
  | cons c t ih =>
    rw [depth_cons, h c List.mem_cons_self, ih fun a ha => h a (List.mem_cons_of_mem c ha)]
    rfl

/-- All that is neither an opening nor a closing bracket leaves the depth as it is. -/
theorem bracketStep_eq_zero {c : Char} (h : c ∉ ['<', '[', '(', '>', ']', ')']) :
    bracketStep c = 0 := by
  simp_all [bracketStep]

theorem bracketStep_of_isWordChar {c : Char} (h : isWordChar c) : bracketStep c = 0 := by
  apply bracketStep_eq_zero
  have hw : ['<', '[', '(', '>', ']', ')'].any isWordChar = false := by decide +kernel
  intro hc
  exact absurd h (List.any_eq_false.1 hw c hc)

theorem bracketStep_of_isBlank {c : Char} (h : isBlank c) : bracketStep c = 0 := by
  apply bracketStep_eq_zero
  have hb : ['<', '[', '(', '>', ']', ')'].any isBlank = false := by decide
  intro hc
  exact absurd h (List.any_eq_false.1 hb c hc)

theorem depth_word (w : Word) : depth w.text = 0 :=
  depth_eq_zero fun c hc => bracketStep_of_isWordChar (w.isWordChar_of_mem c hc)

theorem depth_of_allBlank {b : Text} (hb : AllBlank b) : depth b = 0 :=
  depth_eq_zero fun c hc => bracketStep_of_isBlank (hb c hc)

theorem depth_strip (t : Text) : depth (strip t) = depth t := by
  obtain ⟨b, b', hb, hb', ht⟩ := exists_append_strip t
  have h := congrArg depth ht
  rw [depth_append, depth_append, depth_of_allBlank hb, depth_of_allBlank hb'] at h
  omega

/-- Every `m` of the text stands at depth `n` or deeper. -/
def Deep (m : Char) (n : Int) (t : Text) : Prop :=
  ∀ before after, t = before ++ m :: after → n ≤ depth before

section Deep

variable {m c : Char} {n : Int} {s t : Text}

theorem deep_of_notMem (h : m ∉ t) : Deep m n t := by
  rintro before after rfl
  simp at h

theorem Deep.mono {k : Int} (h : Deep m n t) (hk : k ≤ n) : Deep m k t :=
  fun before after ht => hk.trans (h before after ht)

theorem deep_cons : Deep m n (c :: t) ↔ (c = m → n ≤ 0) ∧ Deep m (n - bracketStep c) t := by
  constructor
  · intro h
    refine ⟨?_, ?_⟩
    · rintro rfl
      exact h [] t rfl
    · rintro before after rfl
      have := h (c :: before) after rfl
      rw [depth_cons] at this
      omega
  · rintro ⟨h0, h⟩ before after ht
    rcases before with _ | ⟨d, before⟩
    · obtain ⟨rfl, -⟩ := List.cons.inj ht
      exact h0 rfl
    · obtain ⟨rfl, ht'⟩ := List.cons.inj ht
      have := h before after ht'
      rw [depth_cons]
      omega

/-- The second of two texts is that much shallower as the first one opens brackets. -/
theorem deep_append : Deep m n (s ++ t) ↔ Deep m n s ∧ Deep m (n - depth s) t := by
  induction s generalizing n with
  | nil => simp [deep_of_notMem]
  | cons c s ih =>
    rw [List.cons_append, deep_cons, deep_cons, ih, depth_cons, and_assoc]
    ring_nf

/-- Brackets around a text put its marks that much deeper. -/
theorem deep_enclosed {opening closing : Text} (ho : m ∉ opening) (hc : m ∉ closing)
    (h : Deep m (n - depth opening) t) : Deep m n (opening ++ t ++ closing) := by
  rw [deep_append, deep_append]
  exact ⟨⟨deep_of_notMem ho, h⟩, deep_of_notMem hc⟩

theorem deep_append_of_notMem {closing : Text} (hc : m ∉ closing) (h : Deep m n t) :
    Deep m n (t ++ closing) := by
  rw [deep_append]
  exact ⟨h, deep_of_notMem hc⟩

/-- No `m` of the text stands at depth `n`. -/
def Avoids (m : Char) (n : Int) (t : Text) : Prop :=
  ∀ before after, t = before ++ m :: after → depth before ≠ n

theorem Deep.avoids {k : Int} (h : Deep m n t) (hk : k < n) : Avoids m k t := by
  intro before after ht
  have := h before after ht
  omega

theorem avoids_nil : Avoids m n [] := by
  rintro before after h
  simp at h

theorem avoids_cons : Avoids m n (c :: t) ↔ (c = m → n ≠ 0) ∧ Avoids m (n - bracketStep c) t := by
  constructor
  · intro h
    refine ⟨?_, ?_⟩
    · rintro rfl rfl
      exact h [] t rfl rfl
    · rintro before after rfl hn
      apply h (c :: before) after rfl
      rw [depth_cons]
      omega
  · rintro ⟨h0, h⟩ before after ht
    rcases before with _ | ⟨d, before⟩
    · obtain ⟨rfl, -⟩ := List.cons.inj ht
      exact (h0 rfl).symm
    · obtain ⟨rfl, ht'⟩ := List.cons.inj ht
      have := h before after ht'
      rw [depth_cons]
      omega

instance decidableAvoids (m : Char) (n : Int) : (t : Text) → Decidable (Avoids m n t)
  | [] => isTrue avoids_nil
  | c :: t =>
    have := decidableAvoids m (n - bracketStep c) t
    decidable_of_iff' _ avoids_cons

end Deep

section Union

theorem hasUnionAt_append (d : Int) (s t : Text) :
    hasUnionAt d (s ++ t) = (hasUnionAt d s || hasUnionAt (d + depth s) t) := by
  induction s generalizing d with
  | nil => simp [hasUnionAt]
  | cons c s ih =>
    rw [List.cons_append, hasUnionAt, hasUnionAt, ih, depth_cons, Bool.or_assoc, add_assoc]

theorem hasUnionAt_eq_false {d n : Int} {t : Text} (h : Deep '|' n t) (hd : 0 < d + n) :
    hasUnionAt d t = false := by
  induction t generalizing d n with
  | nil => rfl
  | cons c t ih =>
    obtain ⟨h0, h⟩ := deep_cons.1 h
    rw [hasUnionAt, ih h (by omega), Bool.or_false, Bool.and_eq_false_iff]
    by_cases hc : c = '|'
    · right
      have := h0 hc
      exact beq_eq_false_iff_ne.2 (by omega)
    · left
      exact beq_eq_false_iff_ne.2 hc

/-- A bar behind a text that closes all its brackets makes a union. -/
theorem hasTopLevelUnion_null {s : Text} (hs : depth s = 0) :
    hasTopLevelUnion (s ++ " | null") := by
  rw [hasTopLevelUnion, hasUnionAt_append, hs]
  simp [hasUnionAt, bracketStep]

end Union

section Cut

/-- A text without commas at the outermost depth stays in one piece. -/
theorem cutAt_append {d : Int} {s : Text} (h : Avoids ',' (-d) s) (t : Text) :
    cutAt d (s ++ t) = (cutAt (d + depth s) t).modifyHead (s ++ ·) := by
  induction s generalizing d with
  | nil => cases h : cutAt (d + 0) t <;> simp_all
  | cons c s ih =>
    obtain ⟨h0, h⟩ := avoids_cons.1 h
    have hc : ¬((c == ',' && d == 0) = true) := by
      rw [Bool.and_eq_true, beq_iff_eq, beq_iff_eq]
      rintro ⟨rfl, rfl⟩
      exact h0 rfl rfl
    have hd : -d - bracketStep c = -(d + bracketStep c) := by omega
    rw [List.cons_append, cutAt, if_neg hc, ih (hd ▸ h), depth_cons, add_assoc,
      List.modifyHead_modifyHead]
    rfl

theorem cutAt_comma {s : Text} (h : Avoids ',' 0 s) (hs : depth s = 0) (t : Text) :
    cutAt 0 (s ++ ',' :: t) = s :: cutAt 0 t := by
  rw [cutAt_append h, hs]
  simp [cutAt]

theorem cutAt_eq_singleton {s : Text} (h : Avoids ',' 0 s) : cutAt 0 s = [s] := by
  have := cutAt_append (d := 0) h []
  simpa [cutAt] using this

/-- The first cut goes through a comma outside all brackets. -/
theorem exists_of_cutAt_eq_cons_cons {d : Int} {t p q : Text} {rest : List Text}
    (h : cutAt d t = p :: q :: rest) :
    ∃ u, t = p ++ ',' :: u ∧ d + depth p = 0 ∧ cutAt 0 u = q :: rest := by
  induction t generalizing d p with
  | nil => simp [cutAt] at h
  | cons c t ih =>
    rw [cutAt] at h
    split at h
    · next hc =>
      rw [Bool.and_eq_true, beq_iff_eq, beq_iff_eq] at hc
      obtain ⟨rfl, rfl⟩ := hc
      obtain ⟨rfl, hu⟩ := List.cons.inj h
      exact ⟨t, rfl, rfl, hu⟩
    · cases hp : cutAt (d + bracketStep c) t with
      | nil => exact absurd hp (cutAt_ne_nil _ _)
      | cons p' rest' =>
        rw [hp, List.modifyHead_cons] at h
        obtain ⟨rfl, rfl⟩ := List.cons.inj h
        obtain ⟨u, rfl, hd, hu⟩ := ih hp
        exact ⟨u, rfl, by rw [depth_cons]; omega, hu⟩

theorem eq_of_cutAt_eq_singleton {d : Int} {t p : Text} (h : cutAt d t = [p]) : t = p := by
  induction t generalizing d p with
  | nil => simpa [cutAt] using h
  | cons c t ih =>
    rw [cutAt] at h
    split at h
    · exact absurd (List.cons.inj h).2 (cutAt_ne_nil _ _)
    · cases hp : cutAt (d + bracketStep c) t with
      | nil => exact absurd hp (cutAt_ne_nil _ _)
      | cons p' rest' =>
        rw [hp, List.modifyHead_cons] at h
        obtain ⟨rfl, rfl⟩ := List.cons.inj h
        rw [ih hp]

theorem splitArguments_comma {key value : Text} (hk : Deep ',' 1 key) (hk0 : depth key = 0)
    (hv : Deep ',' 1 value) (hv0 : value ≠ []) :
    splitArguments (key ++ ',' :: value) = [strip key, strip value] := by
  rw [splitArguments, cutAt_comma (hk.avoids (by decide)) hk0,
    cutAt_eq_singleton (hv.avoids (by decide))]
  simp [dropEmptyLast, hv0]

theorem eq_dropEmptyLast_or (pieces : List Text) :
    pieces = dropEmptyLast pieces ∨ pieces = dropEmptyLast pieces ++ [[]] := by
  fun_induction dropEmptyLast pieces with
  | case1 => exact .inl rfl
  | case2 piece hp =>
    right
    rw [List.isEmpty_iff.1 hp]
    rfl
  | case3 => exact .inl rfl
  | case4 piece next rest ih =>
    rcases ih with ih | ih
    · exact .inl (congrArg (piece :: ·) ih)
    · exact .inr (congrArg (piece :: ·) ih)

/-- Two arguments come from two pieces, with at most one more comma behind them. -/
theorem exists_of_splitArguments_eq_pair {t key value : Text}
    (h : splitArguments t = [key, value]) :
    ∃ k v tail, t = k ++ ',' :: v ++ tail ∧ depth k = 0 ∧
      (tail = [] ∨ tail = [','] ∧ depth v = 0) ∧ key = strip k ∧ value = strip v := by
  obtain ⟨k, rest, hp, rfl, h'⟩ := List.map_eq_cons_iff.1 h
  obtain ⟨v, rest, rfl, rfl, h''⟩ := List.map_eq_cons_iff.1 h'
  obtain rfl := List.map_eq_nil_iff.1 h''
  rcases eq_dropEmptyLast_or (cutAt 0 t) with hc | hc
  · rw [hp] at hc
    obtain ⟨u, rfl, hk, hu⟩ := exists_of_cutAt_eq_cons_cons hc
    rw [eq_of_cutAt_eq_singleton hu]
    exact ⟨k, v, [], by simp, by simpa using hk, .inl rfl, rfl, rfl⟩
  · rw [hp] at hc
    obtain ⟨u, rfl, hk, hu⟩ := exists_of_cutAt_eq_cons_cons hc
    obtain ⟨w, rfl, hv, hw⟩ := exists_of_cutAt_eq_cons_cons hu
    rw [eq_of_cutAt_eq_singleton hw]
    exact ⟨k, v, [','], by simp, by simpa using hk, .inr ⟨rfl, by simpa using hv⟩, rfl, rfl⟩

end Cut

end DtoInterfaces.TypeExpr
