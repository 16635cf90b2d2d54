import DtoInterfaces.Proofs.Text.Raw

namespace DtoInterfaces.Text

section Join

variable {α : Type}

theorem join_eq_intercalate (separator : List α) (parts : List (List α)) :
    join separator parts = separator.intercalate parts := by
  fun_induction join separator parts with
  | case1 => rfl
  | case2 => simp [List.intercalate]
  | case3 part next rest ih => simp [ih, List.intercalate]

theorem join_cons_of_ne_nil (separator part : List α) {parts : List (List α)} (h : parts ≠ []) :
    join separator (part :: parts) = part ++ separator ++ join separator parts := by
  rw [join_eq_intercalate, join_eq_intercalate, List.intercalate_cons_of_ne_nil h]

theorem join_append (separator : List α) {as bs : List (List α)} (ha : as ≠ []) (hb : bs ≠ []) :
    join separator (as ++ bs) = join separator as ++ separator ++ join separator bs := by
  induction as with
  | nil => exact absurd rfl ha
  | cons a as ih =>
    by_cases has : as = []
    · rw [has, List.singleton_append, join_cons_of_ne_nil separator a hb]
      rfl
    · have happend : as ++ bs ≠ [] := List.append_ne_nil_of_left_ne_nil has bs
      rw [List.cons_append, join_cons_of_ne_nil separator a happend, ih has,
        join_cons_of_ne_nil separator a has]
      simp only [List.append_assoc]

theorem mem_of_mem_join {a : α} {separator : List α} {parts : List (List α)}
    (h : a ∈ join separator parts) : a ∈ separator ∨ ∃ part ∈ parts, a ∈ part := by
  fun_induction join separator parts with
  | case1 => cases h
  | case2 part => exact .inr ⟨part, List.mem_cons_self, h⟩
  | case3 part next rest ih =>
    rcases List.mem_append.1 h with h | h
    · rcases List.mem_append.1 h with h | h
      · exact .inr ⟨part, List.mem_cons_self, h⟩
      · exact .inl h
    · exact (ih h).imp_right fun ⟨p, hp, ha⟩ => ⟨p, List.mem_cons_of_mem part hp, ha⟩

variable [BEq α]

theorem splitOn_join [LawfulBEq α] {c : α} {parts : List (List α)} (hne : parts ≠ [])
    (h : ∀ p ∈ parts, c ∉ p) : (join [c] parts).splitOn c = parts := by
  rw [join_eq_intercalate]
  exact List.splitOn_intercalate c h hne

theorem mem_of_mem_splitOn {c d : α} {t p : List α} (hp : p ∈ t.splitOn d) (hc : c ∈ p) :
    c ∈ t := by
  induction t generalizing p with
  | nil =>
    obtain rfl : p = [] := by simpa using hp
    cases hc
  | cons a t ih =>
    rw [List.splitOn_cons_eq_if_modifyHead] at hp
    split at hp
    · rcases List.mem_cons.1 hp with rfl | hp
      · cases hc
      · exact List.mem_cons_of_mem a (ih hp hc)
    · cases hparts : t.splitOn d with
      | nil => simp [hparts] at hp
      | cons q qs =>
        rw [hparts] at ih hp
        rcases List.mem_cons.1 hp with rfl | hp
        · exact (List.mem_cons.1 hc).elim (· ▸ List.mem_cons_self)
            fun hc => List.mem_cons_of_mem a (ih List.mem_cons_self hc)
        · exact List.mem_cons_of_mem a (ih (List.mem_cons_of_mem q hp) hc)

theorem length_splitOn (c : α) (t : List α) : (t.splitOn c).length = t.count c + 1 := by
  induction t with
  | nil => simp
  | cons d t ih =>
    rw [List.splitOn_cons_eq_if_modifyHead, List.count_cons]
    split <;> simp [ih]

/-- Line feeds inside the parts make further lines. -/
theorem length_splitOn_join [LawfulBEq α] {c : α} {parts : List (List α)} (hne : parts ≠ []) :
    ((join [c] parts).splitOn c).length = parts.flatten.count c + parts.length := by
  induction parts with
  | nil => exact absurd rfl hne
  | cons p parts ih =>
    cases parts with
    | nil => simp [join, length_splitOn]
    | cons q parts =>
      have he : join [c] (p :: q :: parts) = p ++ c :: join [c] (q :: parts) := by
        simp [join_cons_cons]
      rw [he, List.splitOn_append_cons_self, List.length_append, ih (by simp), length_splitOn]
      simp only [List.flatten_cons, List.count_append, List.length_cons]
      omega

end Join

/-- The text cut at its blank lines, from left to right. -/
def paragraphs : RawText → List RawText
  | [] => [[]]
  | .char '\n' :: .char '\n' :: rest => [] :: paragraphs rest
  | c :: rest => (paragraphs rest).modifyHead (c :: ·)

/-- A line with something in it. -/
def IsLine (l : RawText) : Prop := l ≠ [] ∧ .char '\n' ∉ l

theorem IsLine.head?_ne {l : RawText} (hl : IsLine l) (t : RawText) :
    (l ++ t).head? ≠ some (.char '\n') := by
  rw [List.head?_append_of_ne_nil _ hl.1]
  intro h
  exact hl.2 (List.mem_of_head? h)

/-- Lines, none of them blank. -/
def IsParagraph (p : RawText) : Prop :=
  ∃ lines ≠ [], (∀ l ∈ lines, IsLine l) ∧ p = join "\n" lines

theorem paragraphs_append_of_notMem {l : RawText} (hl : .char '\n' ∉ l) (t : RawText) :
    paragraphs (l ++ t) = (paragraphs t).modifyHead (l ++ ·) := by
  induction l with
  | nil => exact (congrFun List.modifyHead_id _).symm
  | cons c l ih =>
    have hc : c ≠ .char '\n' := by
      rintro rfl
      exact hl List.mem_cons_self
    have hl' : .char '\n' ∉ l := fun hm => hl (List.mem_cons_of_mem c hm)
    rw [List.cons_append, paragraphs, ih hl', List.modifyHead_modifyHead]
    · rfl
    · simp [hc]

/-- A line feed alone does not end a paragraph. -/
theorem paragraphs_newline {t : RawText} (ht : t.head? ≠ some (.char '\n')) :
    paragraphs (.char '\n' :: t) = (paragraphs t).modifyHead (.char '\n' :: ·) := by
  rw [paragraphs]
  rintro rest - rfl
  exact ht rfl

theorem paragraphs_lines_append {lines : List RawText} (hne : lines ≠ [])
    (hl : ∀ l ∈ lines, IsLine l) (t : RawText) :
    paragraphs (join "\n" lines ++ t) = (paragraphs t).modifyHead (join "\n" lines ++ ·) := by
  induction lines with
  | nil => exact absurd rfl hne
  | cons l lines ih =>
    obtain ⟨h, hls⟩ := List.forall_mem_cons.1 hl
    cases lines with
    | nil => exact paragraphs_append_of_notMem h.2 t
    | cons m lines =>
      have hm : (join "\n" (m :: lines) ++ t).head? ≠ some (.char '\n') := by
        have := (hls m List.mem_cons_self).head?_ne
        cases lines with
        | nil => exact this t
        | cons k lines =>
          rw [join_cons_cons, List.append_assoc, List.append_assoc]
          exact this _
      have he : join "\n" (l :: m :: lines) ++ t =
          l ++ .char '\n' :: (join "\n" (m :: lines) ++ t) := by
        simp [join_cons_cons]
      rw [he, paragraphs_append_of_notMem h.2, paragraphs_newline hm, ih (by simp) hls,
        List.modifyHead_modifyHead, List.modifyHead_modifyHead]
      congr 1
      funext s
      simp [join_cons_cons]

theorem paragraphs_join {pieces : List RawText} (hne : pieces ≠ [])
    (hp : ∀ p ∈ pieces, IsParagraph p) : paragraphs (join "\n\n" pieces) = pieces := by
  induction pieces with
  | nil => exact absurd rfl hne
  | cons p pieces ih =>
    obtain ⟨⟨lines, hl, hlines, rfl⟩, hps⟩ := List.forall_mem_cons.1 hp
    cases pieces with
    | nil =>
      rw [join, ← List.append_nil (join _ lines), paragraphs_lines_append hl hlines]
      rfl
    | cons q pieces =>
      have he : join "\n\n" (join "\n" lines :: q :: pieces) =
          join "\n" lines ++ .char '\n' :: .char '\n' :: join "\n\n" (q :: pieces) := by
        simp [join_cons_cons]
      rw [he, paragraphs_lines_append hl hlines, paragraphs, ih (by simp) hps]
      simp

end DtoInterfaces.Text
