namespace DtoInterfaces

abbrev Text := List Char

instance : Coe String Text := ⟨String.toList⟩

/-- A character, or a surrogate: a code point that stands for no character, and that no encoding
has a place for. Surrogates are counted from U+D800 on. -/
inductive CodePoint where
  | char (c : Char)
  | surrogate (n : Fin 0x800)
  deriving DecidableEq, Repr

namespace CodePoint

def toNat : CodePoint → Nat
  | .char c => c.toNat
  | .surrogate n => 0xD800 + n

def char? : CodePoint → Option Char
  | .char c => some c
  | .surrogate _ => none

def isSurrogate (c : CodePoint) : Bool := c.char?.isNone

instance : LT CodePoint := ⟨fun a b => a.toNat < b.toNat⟩

instance : LE CodePoint := ⟨fun a b => a.toNat ≤ b.toNat⟩

instance : DecidableLT CodePoint := fun a b => inferInstanceAs (Decidable (a.toNat < b.toNat))

instance : DecidableLE CodePoint := fun a b => inferInstanceAs (Decidable (a.toNat ≤ b.toNat))

end CodePoint

/-- A text with surrogates, perhaps, among its characters. Strings in JSON can hold some, and so
can the names of files and what is made of either. -/
abbrev RawText := List CodePoint

def Text.raw (t : Text) : RawText := t.map .char

instance : Coe String RawText := ⟨fun s => Text.raw s.toList⟩

namespace RawText

/-- The text, if all code points are characters. -/
def text? (t : RawText) : Option Text := t.mapM CodePoint.char?

/-- Each line followed by a line feed. -/
def ofLines (lines : List RawText) : RawText := lines.flatMap (· ++ "\n")

end RawText

namespace Text

/-- The parts with `separator` between neighbours. -/
def join {α : Type} (separator : List α) : List (List α) → List α
  | [] => []
  | [part] => part
  | part :: next :: rest => part ++ separator ++ join separator (next :: rest)

/-- Every line ended by a line feed alone, where it was a carriage return or both. -/
def unifyLineBreaks : Text → Text
  | [] => []
  | '\r' :: '\n' :: rest => '\n' :: unifyLineBreaks rest
  | '\r' :: rest => '\n' :: unifyLineBreaks rest
  | c :: rest => c :: unifyLineBreaks rest

def decimal (n : Nat) : Text := Nat.toDigits 10 n

/-- Decimal digits, filled up with zeros on the left to `width`. -/
def paddedDecimal (width n : Nat) : Text := (decimal n).leftpad width '0'

/-- Lower-case hexadecimal digits, filled up with zeros on the left to `width`. -/
def paddedHex (width n : Nat) : Text := (Nat.toDigits 16 n).leftpad width '0'

/-- Every list element once, at the place of its first occurrence. -/
def distinct {α : Type} [BEq α] : List α → List α
  | [] => []
  | a :: as => a :: (distinct as).filter (· != a)

/-- Whether `n` lies in one of the inclusive ranges. -/
def inRanges (ranges : List (Nat × Nat)) (n : Nat) : Bool :=
  ranges.any fun r => r.1 ≤ n && n ≤ r.2

/-- What stands between `opening` and `closing` when the text begins and ends with them, is not
empty and holds no line feed. -/
def enclosed? (opening closing t : Text) : Option Text :=
  ((opening.isPrefixOf? t).bind fun rest => closing.isSuffixOf? rest).filter fun inner =>
    !inner.isEmpty && !inner.contains '\n'

theorem join_cons_cons {α : Type} (separator part next : List α) (rest : List (List α)) :
    join separator (part :: next :: rest) = part ++ separator ++ join separator (next :: rest) :=
  rfl

theorem length_of_isPrefixOf? {p t r : Text} (h : p.isPrefixOf? t = some r) :
    t.length = p.length + r.length := by
  induction p generalizing t with
  | nil =>
    obtain rfl : t = r := Option.some.inj h
    simp
  | cons a p ih =>
    cases t with
    | nil => cases (show none = some r from h)
    | cons b t =>
      replace h : (if a == b then p.isPrefixOf? t else none) = some r := h
      split at h
      · simp only [List.length_cons, ih h]
        omega
      · cases h

theorem length_of_enclosed? {opening closing t inner : Text}
    (h : enclosed? opening closing t = some inner) :
    t.length = opening.length + inner.length + closing.length := by
  unfold enclosed? at h
  obtain ⟨h, -⟩ := Option.filter_eq_some_iff.1 h
  obtain ⟨rest, ho, hc⟩ := Option.bind_eq_some_iff.1 h
  obtain ⟨back, hb, rfl⟩ := Option.map_eq_some_iff.1 hc
  have h1 := length_of_isPrefixOf? ho
  have h2 := length_of_isPrefixOf? hb
  simp only [List.length_reverse] at h2 ⊢
  omega

end Text

end DtoInterfaces
