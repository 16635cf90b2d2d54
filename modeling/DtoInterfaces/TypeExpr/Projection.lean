import DtoInterfaces.TypeExpr.Arguments

namespace DtoInterfaces.TypeExpr

open Text

/-- C# names and their TypeScript types, in code point order of the names. -/
def primitives : List (Text × Text) :=
  [("DateTime", "string"), ("DateTimeOffset", "string"), ("Guid", "string"), ("bool", "boolean"),
   ("boolean", "boolean"), ("byte", "number"), ("char", "string"), ("decimal", "number"),
   ("double", "number"), ("dynamic", "any"), ("float", "number"), ("int", "number"),
   ("long", "number"), ("object", "any"), ("short", "number"), ("string", "string"),
   ("var", "any"), ("void", "void")]

def primitive? (name : Text) : Option Text := primitives.lookup name

def isPrimitive (name : Text) : Bool := (primitive? name).isSome

/-- The outermost constructor of a type expression, with its parts stripped. -/
inductive Shape where
  | nullable (base : Text)
  | sequence (element : Text)
  | dictionary (key value : Text)
  | atom
  deriving DecidableEq, Repr

/-- The element text of `List<…>`, `IList<…>` or `…[]`. -/
def sequenceElement? (t : Text) : Option Text :=
  (enclosed? "List<" ">" t).or ((enclosed? "IList<" ">" t).or (enclosed? "" "[]" t))

/-- The argument text of `Dictionary<…>` or `IDictionary<…>`. -/
def dictionaryArguments? (t : Text) : Option Text :=
  (enclosed? "Dictionary<" ">" t).or (enclosed? "IDictionary<" ">" t)

/-- A question mark at the end comes first, then the sequences, then a dictionary of exactly two
arguments. -/
def shape (t : Text) : Shape :=
  if t.getLast? = some '?' then .nullable (strip t.dropLast)
  else
    match sequenceElement? t with
    | some element => .sequence (strip element)
    | none =>
      match (dictionaryArguments? t).map splitArguments with
      | some [key, value] => .dictionary key value
      | _ => .atom

/-- An array type. A union is put in parentheses, as the brackets bind tighter than the bar. -/
def arrayOf (element : Text) : Text :=
  if hasTopLevelUnion element then "(" ++ element ++ ")[]" else element ++ "[]"

theorem length_of_sequenceElement? {t element : Text} (h : sequenceElement? t = some element) :
    element.length < t.length := by
  unfold sequenceElement? at h
  rcases Option.or_eq_some_iff.1 h with h | ⟨-, h⟩
  · have := length_of_enclosed? h
    simp at this
    omega
  · rcases Option.or_eq_some_iff.1 h with h | ⟨-, h⟩
    all_goals
      have := length_of_enclosed? h
      simp at this
      omega

theorem length_of_dictionaryArguments? {t inner : Text} (h : dictionaryArguments? t = some inner) :
    inner.length < t.length := by
  unfold dictionaryArguments? at h
  rcases Option.or_eq_some_iff.1 h with h | ⟨-, h⟩
  all_goals
    have := length_of_enclosed? h
    simp at this
    omega

theorem length_of_shape_nullable {t base : Text} (h : shape t = .nullable base) :
    base.length < t.length := by
  unfold shape at h
  split at h
  · next ht =>
    cases h
    have h1 := length_strip_le t.dropLast
    have h2 : t ≠ [] := by rintro rfl; simp at ht
    have h3 := List.length_pos_iff.2 h2
    simp only [List.length_dropLast] at h1
    omega
  · split at h
    · cases h
    · split at h <;> cases h

theorem length_of_shape_sequence {t element : Text} (h : shape t = .sequence element) :
    element.length < t.length := by
  unfold shape at h
  split at h
  · cases h
  · split at h
    · next e he =>
      cases h
      exact Nat.lt_of_le_of_lt (length_strip_le e) (length_of_sequenceElement? he)
    · split at h <;> cases h

theorem length_of_shape_dictionary {t key value : Text} (h : shape t = .dictionary key value) :
    key.length < t.length ∧ value.length < t.length := by
  unfold shape at h
  split at h
  · cases h
  · split at h
    · cases h
    · split at h
      · next hs =>
        cases h
        obtain ⟨inner, hi, hkv⟩ := Option.map_eq_some_iff.1 hs
        have hl := length_of_dictionaryArguments? hi
        have hk : key.length ≤ inner.length := length_le_of_mem_splitArguments (by simp [hkv])
        have hv : value.length ≤ inner.length := length_le_of_mem_splitArguments (by simp [hkv])
        omega
      · cases h

/-- The TypeScript type of a C# type. An expression of no known form stands for itself. -/
def project (t : Text) : Text :=
  match _h : shape t with
  | .nullable base => project base ++ " | null"
  | .sequence element => arrayOf (project element)
  | .dictionary key value => "Record<" ++ project key ++ ", " ++ project value ++ ">"
  | .atom => (primitive? t).getD t
termination_by t.length
decreasing_by
  · exact length_of_shape_nullable _h
  · exact length_of_shape_sequence _h
  · exact (length_of_shape_dictionary _h).1
  · exact (length_of_shape_dictionary _h).2

def containerNames : List Text := ["List", "IList", "Dictionary", "IDictionary"]

/-- A name that the projection gives a meaning of its own. -/
def isBuiltIn (name : Text) : Bool := containerNames.contains name || isPrimitive name

/-- The names that are not built in, each once, in order of first occurrence. -/
def references (t : Text) : List Text :=
  Text.distinct ((Text.words t).filter fun name => !isBuiltIn name)

end DtoInterfaces.TypeExpr
