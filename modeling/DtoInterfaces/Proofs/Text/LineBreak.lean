import DtoInterfaces.Text.Basic

namespace DtoInterfaces.Text

/-- Every `old` of the text, from the left, with `new` in its place. -/
def replaceAll (old new : Text) : Text → Text
  | [] => []
  | c :: rest =>
    if old <+: c :: rest then new ++ replaceAll old new (rest.drop (old.length - 1))
    else c :: replaceAll old new rest
termination_by t => t.length
decreasing_by
  · rw [List.length_drop, List.length_cons]
    omega
  · exact Nat.lt_succ_self rest.length

theorem replaceAll_nil (old new : Text) : replaceAll old new [] = [] := by
  rw [replaceAll]

theorem replaceAll_append (a : Char) (old new rest : Text) :
    replaceAll (a :: old) new (a :: old ++ rest) = new ++ replaceAll (a :: old) new rest := by
  have hprefix : a :: old <+: a :: (old ++ rest) := List.prefix_append (a :: old) rest
  rw [List.cons_append, replaceAll, if_pos hprefix, List.length_cons, Nat.add_sub_cancel,
    List.drop_left]

theorem replaceAll_cons {old new rest : Text} {c : Char} (h : ¬ old <+: c :: rest) :
    replaceAll old new (c :: rest) = c :: replaceAll old new rest := by
  rw [replaceAll, if_neg h]

theorem replaceAll_cons_of_ne {old new rest : Text} {a c : Char} (h : a ≠ c) :
    replaceAll (a :: old) new (c :: rest) = c :: replaceAll (a :: old) new rest :=
  replaceAll_cons fun hprefix => h (List.cons_prefix_cons.1 hprefix).1

/-- The breaks of two characters are replaced first, and then the carriage returns that remain. -/
theorem unifyLineBreaks_eq_replaceAll (t : Text) :
    t.unifyLineBreaks = replaceAll ['\r'] ['\n'] (replaceAll ['\r', '\n'] ['\n'] t) := by
  fun_induction unifyLineBreaks t with
  | case1 => rw [replaceAll_nil, replaceAll_nil]
  | case2 rest ih =>
    have hinner : replaceAll ['\r', '\n'] ['\n'] ('\r' :: '\n' :: rest) =
        '\n' :: replaceAll ['\r', '\n'] ['\n'] rest := replaceAll_append '\r' ['\n'] ['\n'] rest
    rw [hinner, replaceAll_cons_of_ne (by decide), ih]
  | case3 rest hrest ih =>
    -- no line feed follows, so the carriage return is left for the second replacement
    have hinner : replaceAll ['\r', '\n'] ['\n'] ('\r' :: rest) =
        '\r' :: replaceAll ['\r', '\n'] ['\n'] rest := by
      apply replaceAll_cons
      rintro ⟨behind, h⟩
      exact hrest behind (List.cons.inj h).2.symm
    rw [hinner, ih]
    exact (replaceAll_append '\r' [] ['\n'] _).symm
  | case4 c rest _ hc ih =>
    have hne : '\r' ≠ c := fun h => hc h.symm
    rw [replaceAll_cons_of_ne hne, replaceAll_cons_of_ne hne, ih]

theorem unifyLineBreaks_eq_self {t : Text} (h : '\r' ∉ t) : t.unifyLineBreaks = t := by
  fun_induction unifyLineBreaks t with
  | case1 => rfl
  | case2 => simp at h
  | case3 => simp at h
  | case4 c rest _ _ ih => rw [ih fun hr => h (List.mem_cons_of_mem c hr)]

end DtoInterfaces.Text
