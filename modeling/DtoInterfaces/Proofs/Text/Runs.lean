import DtoInterfaces.Proofs.Text.Distinct
import DtoInterfaces.Proofs.Text.Words

namespace DtoInterfaces.Text

/-- The word `w` stands in `t` between `before` and `after`, and is not a part of a longer word. -/
structure IsRun (t before w after : Text) : Prop where
  eq_append : t = before ++ w ++ after
  isWord : IsWord w
  getLast?_before : before.getLast?.any isWordChar = false
  head?_after : after.head?.any isWordChar = false

def HasRun (t w : Text) : Prop := ∃ before after, IsRun t before w after

/-- The first run of `v` stands in front of every run of `w`. -/
def RunsBefore (t v w : Text) : Prop :=
  ∃ before after, IsRun t before v after ∧
    ∀ before' after', IsRun t before' w after' → before.length < before'.length

variable {t before w after : Text}

theorem words_word (w : Word) : words w.text = [w.text] := by
  have hsplit : w.text.splitOnP (fun c => !isWordChar c) = [w.text] :=
    List.splitOnP_eq_singleton fun c hc => by simp [w.isWordChar_of_mem c hc]
  rw [words, hsplit]
  simp [w.ne_nil]

theorem IsRun.words_eq (h : IsRun t before w after) :
    words t = words before ++ w :: words after := by
  obtain ⟨v, rfl⟩ := h.isWord
  rw [h.eq_append, words_append_of_head? h.head?_after, words_append_of_getLast? h.getLast?_before,
    words_word, List.append_assoc, List.singleton_append]

/-- A run ends where the word characters do. -/
theorem IsRun.takeWhile_eq (h : IsRun t before w after) :
    (w ++ after).takeWhile isWordChar = w := by
  obtain ⟨v, rfl⟩ := h.isWord
  rw [List.takeWhile_append_of_pos v.isWordChar_of_mem]
  have hafter := h.head?_after
  cases after with
  | nil => simp
  | cons c after =>
    have hc : isWordChar c = false := hafter
    simp [hc]

theorem IsRun.isWordChar_of_mem (h : IsRun t before w after) : ∀ c ∈ w, isWordChar c := by
  obtain ⟨v, rfl⟩ := h.isWord
  exact v.isWordChar_of_mem

theorem exists_isRun_of_words_eq_cons {l : List Text} (h : words t = w :: l) :
    ∃ before after, IsRun t before w after ∧ words before = [] ∧ words after = l := by
  induction t with
  | nil => cases h
  | cons c t ih =>
    by_cases hc : isWordChar c
    · -- the first word begins here and goes on as far as it can
      let v : Word := ⟨(c :: t).takeWhile isWordChar,
        by rw [List.takeWhile_cons_of_pos hc]; exact List.cons_ne_nil _ _, List.all_takeWhile⟩
      have hrun : IsRun (c :: t) [] v.text ((c :: t).dropWhile isWordChar) := by
        refine ⟨List.takeWhile_append_dropWhile.symm, ⟨v, rfl⟩, rfl, ?_⟩
        rw [Option.any_eq_false]
        intro d hd
        have := List.head?_dropWhile_not isWordChar (c :: t)
        rw [hd] at this
        simpa using this
      have hwords := hrun.words_eq
      rw [h, words_nil, List.nil_append] at hwords
      obtain ⟨rfl, rfl⟩ := List.cons.inj hwords
      exact ⟨[], _, hrun, rfl, rfl⟩
    · have hc : isWordChar c = false := by simpa using hc
      rw [words_cons hc] at h
      obtain ⟨before, after, hrun, hbefore, hafter⟩ := ih h
      refine ⟨c :: before, after, ⟨?_, hrun.isWord, ?_, hrun.head?_after⟩, ?_, hafter⟩
      · rw [hrun.eq_append]
        simp
      · cases before with
        | nil => exact hc
        | cons d before => exact hrun.getLast?_before
      · rw [words_cons hc, hbefore]

/-- A word of the list stands in the text, between the words listed before it and those behind. -/
theorem exists_isRun_of_words_eq {l l' : List Text} (h : words t = l ++ w :: l') :
    ∃ before after, IsRun t before w after ∧ words before = l ∧ words after = l' := by
  induction l generalizing t with
  | nil => exact exists_isRun_of_words_eq_cons h
  | cons v l ih =>
    obtain ⟨before, rest, hv, hbefore, hrest⟩ := exists_isRun_of_words_eq_cons h
    obtain ⟨between, after, hw, hbetween, hafter⟩ := ih hrest
    -- the two words do not touch, as the first one would go on
    obtain ⟨c, between, rfl⟩ : ∃ c u, between = c :: u := by
      rcases between with _ | ⟨c, u⟩
      · obtain ⟨word, hword⟩ := hw.isWord
        obtain ⟨c, u, hc⟩ := List.exists_cons_of_ne_nil word.ne_nil
        have hstart := hv.head?_after
        rw [hw.eq_append, hword, hc] at hstart
        have := word.isWordChar_of_mem c (by simp [hc])
        simp [this] at hstart
      · exact ⟨c, u, rfl⟩
    have hstart : (c :: between).head?.any isWordChar = false := by
      have := hv.head?_after
      rw [hw.eq_append] at this
      exact this
    have hfront : IsRun (before ++ v ++ c :: between) before v (c :: between) :=
      ⟨rfl, hv.isWord, hv.getLast?_before, hstart⟩
    refine ⟨before ++ v ++ c :: between, after, ⟨?_, hw.isWord, ?_, hw.head?_after⟩, ?_, hafter⟩
    · rw [hv.eq_append, hw.eq_append]
      simp
    · rw [List.getLast?_append_of_ne_nil _ (List.cons_ne_nil c between)]
      exact hw.getLast?_before
    · rw [hfront.words_eq, hbefore, hbetween, List.nil_append]

theorem mem_words_iff : w ∈ words t ↔ HasRun t w := by
  constructor
  · intro h
    obtain ⟨l, l', h⟩ := List.append_of_mem h
    obtain ⟨before, after, hrun, -⟩ := exists_isRun_of_words_eq h
    exact ⟨before, after, hrun⟩
  · rintro ⟨before, after, hrun⟩
    rw [hrun.words_eq]
    exact List.mem_append_right _ List.mem_cons_self

/-- A run that begins farther left than another one ends before that one begins. -/
theorem IsRun.mem_words_of_length_lt {before' w' after' : Text} (h : IsRun t before w after)
    (h' : IsRun t before' w' after') (hlt : before.length < before'.length) :
    w ∈ words before' := by
  have he : before ++ (w ++ after) = before' ++ (w' ++ after') := by
    rw [← List.append_assoc, ← List.append_assoc, ← h.eq_append, h'.eq_append]
  obtain ⟨x, rfl, hx⟩ : ∃ x, before' = before ++ x ∧ w ++ after = x ++ (w' ++ after') := by
    rcases List.append_eq_append_iff.1 he with ⟨x, hb, hr⟩ | ⟨x, rfl, -⟩
    · exact ⟨x, hb, hr⟩
    · rw [List.length_append] at hlt
      omega
  obtain ⟨x, c, rfl⟩ : ∃ y c, x = y ++ [c] := by
    rcases List.eq_nil_or_concat x with rfl | ⟨y, c, rfl⟩
    · simp at hlt
    · exact ⟨y, c, List.concat_eq_append⟩
  -- the character in front of the second run belongs to no word, and so not to the first run
  have hc : isWordChar c = false := by simpa [← List.append_assoc] using h'.getLast?_before
  rcases List.append_eq_append_iff.1 hx with ⟨y, hy, hafter⟩ | ⟨y, hw, -⟩
  · have hrun : IsRun (before ++ (x ++ [c])) before w y := by
      refine ⟨by rw [hy, List.append_assoc], h.isWord, h.getLast?_before, ?_⟩
      cases y with
      | nil =>
        rw [List.append_nil] at hy
        have := h.isWordChar_of_mem c (by simp [← hy])
        simp [this] at hc
      | cons d y =>
        have := h.head?_after
        rw [hafter] at this
        exact this
    exact mem_words_iff.2 ⟨_, _, hrun⟩
  · have := h.isWordChar_of_mem c (by simp [hw])
    simp [this] at hc

/-- What is listed earlier stands farther left. -/
theorem runsBefore_of_words_eq {v : Text} {l l' : List Text} (h : words t = l ++ v :: l')
    (hl : w ∉ l) (hne : v ≠ w) : RunsBefore t v w := by
  obtain ⟨before, after, hrun, rfl, -⟩ := exists_isRun_of_words_eq h
  refine ⟨before, after, hrun, fun before' after' hrun' => ?_⟩
  rcases Nat.lt_trichotomy before.length before'.length with hlt | heq | hlt
  · exact hlt
  · -- two runs from one place are the same
    have he : before ++ (v ++ after) = before' ++ (w ++ after') := by
      rw [← List.append_assoc, ← List.append_assoc, ← hrun.eq_append, hrun'.eq_append]
    obtain ⟨-, hrest⟩ := List.append_inj he heq
    have hvw : v = w := by rw [← hrun.takeWhile_eq, hrest, hrun'.takeWhile_eq]
    exact absurd hvw hne
  · exact absurd (hrun'.mem_words_of_length_lt hrun hlt) hl

end DtoInterfaces.Text
