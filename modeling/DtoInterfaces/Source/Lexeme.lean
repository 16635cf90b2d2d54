import DtoInterfaces.Text.CharClass

namespace DtoInterfaces.Source

open Text

/-- A word: as many word characters as there are, and at least one. -/
def word? (t : Text) : Option (Text × Text) :=
  match t.takeWhile isWordChar with
  | [] => none
  | c :: name => some (c :: name, t.dropWhile isWordChar)

/-- Blanks, and at least one. -/
def blanks? : Text → Option Text
  | [] => none
  | c :: rest => if isBlank c then some (skipBlanks rest) else none

/-- The given characters, after any blanks. -/
def symbol? (s t : Text) : Option Text := s.isPrefixOf? (skipBlanks t)

/-- An argument group, angle brackets included: it ends with the first `>` and is not empty
inside. No group is the empty text. -/
def argumentGroup : Text → Text × Text
  | '<' :: rest =>
    match rest.dropWhile (· != '>') with
    | [] => ([], '<' :: rest)
    | mark :: after =>
      match rest.takeWhile (· != '>') with
      | [] => ([], '<' :: rest)
      | inner => ('<' :: inner ++ [mark], after)
  | t => ([], t)

/-- A question mark, or the empty text. -/
def nullableMark : Text → Text × Text
  | '?' :: rest => (['?'], rest)
  | t => ([], t)

/-- A type as it stands in a property declaration: a word, perhaps an argument group, perhaps a
question mark. -/
def type? (t : Text) : Option (Text × Text) :=
  (word? t).map fun (name, rest) =>
    let (group, rest) := argumentGroup rest
    let (mark, rest) := nullableMark rest
    (name ++ group ++ mark, rest)

theorem append_of_word? {t name rest : Text} (h : word? t = some (name, rest)) :
    t = name ++ rest ∧ name ≠ [] := by
  unfold word? at h
  split at h
  · cases h
  · next hs =>
    cases h
    exact ⟨by rw [← hs, List.takeWhile_append_dropWhile], by simp⟩

theorem length_of_blanks? {t rest : Text} (h : blanks? t = some rest) :
    rest.length < t.length := by
  cases t with
  | nil => simp [blanks?] at h
  | cons c t =>
    simp only [blanks?] at h
    split at h
    · cases h
      exact Nat.lt_succ_of_le (length_skipBlanks_le t)
    · cases h

theorem length_of_symbol? {s t rest : Text} (h : symbol? s t = some rest) :
    rest.length + s.length ≤ t.length := by
  have h1 := length_of_isPrefixOf? h
  have h2 := length_skipBlanks_le t
  omega

theorem argumentGroup_append (t : Text) : (argumentGroup t).1 ++ (argumentGroup t).2 = t := by
  unfold argumentGroup
  split
  · next rest =>
    split
    · rfl
    · next mark after hd =>
      split
      · rfl
      · have hs := List.takeWhile_append_dropWhile (p := (· != '>')) (l := rest)
        rw [hd] at hs
        simpa using hs
  · rfl

theorem nullableMark_append (t : Text) : (nullableMark t).1 ++ (nullableMark t).2 = t := by
  unfold nullableMark
  split <;> rfl

theorem append_of_type? {t type rest : Text} (h : type? t = some (type, rest)) :
    t = type ++ rest ∧ type ≠ [] := by
  obtain ⟨⟨name, after⟩, hw, he⟩ := Option.map_eq_some_iff.1 h
  obtain ⟨rfl, hn⟩ := append_of_word? hw
  simp only [Prod.mk.injEq] at he
  obtain ⟨rfl, rfl⟩ := he
  refine ⟨?_, by simp [hn]⟩
  rw [List.append_assoc, List.append_assoc, nullableMark_append, argumentGroup_append]

end DtoInterfaces.Source
