import DtoInterfaces.Text.CharClass

namespace DtoInterfaces.TypeExpr

def bracketStep (c : Char) : Int :=
  if c == '<' || c == '[' || c == '(' then 1
  else if c == '>' || c == ']' || c == ')' then -1
  else 0

/-- The closing brackets taken from the opening ones. -/
def depth : Text → Int
  | [] => 0
  | c :: rest => bracketStep c + depth rest

/-- Whether a bar stands at depth zero, for a text that starts at depth `d`. -/
def hasUnionAt (d : Int) : Text → Bool
  | [] => false
  | c :: rest => (c == '|' && d == 0) || hasUnionAt (d + bracketStep c) rest

/-- Whether the expression is a union outside all brackets. -/
def hasTopLevelUnion (t : Text) : Bool := hasUnionAt 0 t

/-- The text cut at the commas of depth zero, for a text that starts at depth `d`. -/
def cutAt (d : Int) : Text → List Text
  | [] => [[]]
  | c :: rest =>
    if c == ',' && d == 0 then [] :: cutAt d rest
    else (cutAt (d + bracketStep c) rest).modifyHead (c :: ·)

theorem cutAt_ne_nil (d : Int) (t : Text) : cutAt d t ≠ [] := by
  induction t generalizing d with
  | nil => simp [cutAt]
  | cons c rest ih =>
    rw [cutAt]
    split
    · simp
    · simpa using ih (d + bracketStep c)

/-- No piece is longer than the text it was cut from. -/
theorem length_le_of_mem_cutAt {d : Int} {t piece : Text} (h : piece ∈ cutAt d t) :
    piece.length ≤ t.length := by
  induction t generalizing d piece with
  | nil => simp_all [cutAt]
  | cons c rest ih =>
    rw [cutAt] at h
    split at h
    · rcases List.mem_cons.1 h with rfl | h
      · simp
      · exact Nat.le_succ_of_le (ih h)
    · cases hc : cutAt (d + bracketStep c) rest with
      | nil => simp [hc] at h
      | cons p ps =>
        rw [hc, List.modifyHead_cons, List.mem_cons] at h
        rcases h with rfl | h
        · exact Nat.succ_le_succ (ih (hc ▸ List.mem_cons_self))
        · exact Nat.le_succ_of_le (ih (hc ▸ List.mem_cons_of_mem p h))

/-- Leaves out a last piece that is empty. -/
def dropEmptyLast : List Text → List Text
  | [] => []
  | [piece] => if piece.isEmpty then [] else [piece]
  | piece :: next :: rest => piece :: dropEmptyLast (next :: rest)

def splitArguments (t : Text) : List Text := (dropEmptyLast (cutAt 0 t)).map Text.strip

theorem mem_of_mem_dropEmptyLast {pieces : List Text} {piece : Text}
    (h : piece ∈ dropEmptyLast pieces) : piece ∈ pieces := by
  fun_induction dropEmptyLast pieces with
  | case1 => simp at h
  | case2 => simp at h
  | case3 => exact h
  | case4 p q rest ih =>
    rcases List.mem_cons.1 h with rfl | h
    · exact List.mem_cons_self
    · exact List.mem_cons_of_mem p (ih h)

theorem length_le_of_mem_splitArguments {t argument : Text} (h : argument ∈ splitArguments t) :
    argument.length ≤ t.length := by
  obtain ⟨piece, hp, rfl⟩ := List.mem_map.1 h
  exact Nat.le_trans (Text.length_strip_le piece)
    (length_le_of_mem_cutAt (mem_of_mem_dropEmptyLast hp))

end DtoInterfaces.TypeExpr
