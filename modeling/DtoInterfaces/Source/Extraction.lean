import DtoInterfaces.Source.Lexeme

namespace DtoInterfaces

/-- A property. Either part may be unknown. -/
structure Property where
  name : Option Text
  type : Option Text
  deriving DecidableEq, Repr

structure ClassDecl where
  name : Text
  properties : List Property
  deriving DecidableEq, Repr

namespace Source

open Text

/-- An auto-property at the front of the text, and the rest behind its closing brace. -/
def property? (t : Text) : Option (Property × Text) := do
  let t ← blanks? (← ("public" : Text).isPrefixOf? t)
  let (type, t) ← type? t
  let (name, t) ← word? (← blanks? t)
  let t ← symbol? "\x7d" (← symbol? "set;" (← symbol? "get;" (← symbol? "\x7b" t)))
  return (⟨some name, some type⟩, t)

/-- A class name at the front of the text, introduced by `class`. -/
def classHeader? (t : Text) : Option Text := do
  let (name, _) ← word? (← blanks? (← ("class" : Text).isPrefixOf? t))
  return name

theorem length_of_property? {t rest : Text} {p : Property} (h : property? t = some (p, rest)) :
    rest.length < t.length := by
  simp only [property?, Option.bind_eq_bind, Option.bind_eq_some_iff, Option.pure_def] at h
  obtain ⟨t1, h1, t2, h2, ⟨type, t3⟩, h3, t4, h4, ⟨name, t5⟩, h5, t6, h6, t7, h7, t8, h8, t9, h9,
    h⟩ := h
  cases h
  have l1 := length_of_isPrefixOf? h1
  have l2 := length_of_blanks? h2
  have l3 := congrArg List.length (append_of_type? h3).1
  have l4 := length_of_blanks? h4
  have l5 := congrArg List.length (append_of_word? h5).1
  have l6 := length_of_symbol? h6
  have l7 := length_of_symbol? h7
  have l8 := length_of_symbol? h8
  have l9 := length_of_symbol? h9
  simp only [List.length_append] at l3 l4 l5 l6
  omega

/-- The auto-properties of a text, each sought from the end of the one before. -/
def properties (t : Text) : List Property :=
  match _h : property? t with
  | some (p, rest) => p :: properties rest
  | none =>
    match t with
    | [] => []
    | _ :: rest => properties rest
termination_by t.length
decreasing_by
  · exact length_of_property? _h
  · simp

/-- The name in the first class header of a text. -/
def className? : Text → Option Text
  | [] => none
  | c :: rest => (classHeader? (c :: rest)).or (className? rest)

/-- A text without a class header has no class, whatever properties it may have. -/
def classDecl? (t : Text) : Option ClassDecl :=
  (className? t).map fun name => ⟨name, properties t⟩

end Source

end DtoInterfaces
