import DtoInterfaces.Proofs.Text.Strip
import DtoInterfaces.Proofs.Text.Word

namespace DtoInterfaces.Text

@[simp] theorem words_nil : words [] = [] := rfl

theorem words_append_cons {c : Char} (hc : isWordChar c = false) (s t : Text) :
    words (s ++ c :: t) = words s ++ words t := by
  unfold words
  rw [List.splitOnP_append_cons s t (by simpa using hc), List.filter_append]

theorem words_cons {c : Char} (hc : isWordChar c = false) (t : Text) : words (c :: t) = words t :=
  words_append_cons hc [] t

theorem words_append_of_head? {s t : Text} (ht : t.head?.any isWordChar = false) :
    words (s ++ t) = words s ++ words t := by
  cases t with
  | nil => simp
  | cons c t =>
    have hc : isWordChar c = false := ht
    rw [words_append_cons hc, words_cons hc]

theorem words_append_of_getLast? {s t : Text} (hs : s.getLast?.any isWordChar = false) :
    words (s ++ t) = words s ++ words t := by
  rcases List.eq_nil_or_concat s with rfl | ⟨s, c, rfl⟩
  · rfl
  · have hc : isWordChar c = false := by simpa using hs
    rw [List.concat_eq_append, List.append_assoc, List.singleton_append, words_append_cons hc,
      words_append_cons hc, words_nil, List.append_nil]

theorem words_eq_nil {t : Text} (h : t.any isWordChar = false) : words t = [] := by
  induction t with
  | nil => rfl
  | cons c t ih =>
    rw [List.any_cons, Bool.or_eq_false_iff] at h
    rw [words_cons h.1, ih h.2]

/-- What stands around a text counts by its own words alone, if it keeps apart from the text. -/
theorem words_between {s u : Text} (hs : s.getLast?.any isWordChar = false)
    (hu : u.any isWordChar = false) (t : Text) : words (s ++ t ++ u) = words s ++ words t := by
  have hhead : u.head?.any isWordChar = false := by
    cases u with
    | nil => rfl
    | cons c u =>
      rw [List.any_cons, Bool.or_eq_false_iff] at hu
      exact hu.1
  rw [words_append_of_head? hhead, words_append_of_getLast? hs, words_eq_nil hu, List.append_nil]

theorem words_strip (t : Text) : words (strip t) = words t := by
  obtain ⟨b, b', hb, hb', ht⟩ := exists_append_strip t
  have hany {b : Text} (hb : AllBlank b) : b.any isWordChar = false := by
    rw [List.any_eq_false]
    intro c hc
    simp [isWordChar_of_isBlank (hb c hc)]
  have hlast : b.getLast?.any isWordChar = false := by
    rw [Option.any_eq_false]
    intro c hc
    simp [isWordChar_of_isBlank (hb c (List.mem_of_getLast? hc))]
  conv_rhs => rw [ht]
  rw [words_between hlast (hany hb'), words_eq_nil (hany hb), List.nil_append]

end DtoInterfaces.Text
