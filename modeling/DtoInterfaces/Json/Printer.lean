import DtoInterfaces.Json.Basic

namespace DtoInterfaces.Json

/-- A UTF-16 code unit as an escape. -/
def unitEscape (n : Nat) : Text := "\\u" ++ Text.paddedHex 4 n

def escapedChar (c : Char) : Text :=
  if c == '"' || c == '\\' then ['\\', c]
  else if c == '\n' then "\\n"
  else if c == '\r' then "\\r"
  else if c == '\t' then "\\t"
  else if c == '\x0c' then "\\f"
  else if c == '\x08' then "\\b"
  else if 0x20 ≤ c.toNat ∧ c.toNat < 0x7F then [c]
  else if c.toNat < 0x10000 then unitEscape c.toNat
  else
    unitEscape (0xD800 + (c.toNat - 0x10000) / 0x400) ++
      unitEscape (0xDC00 + (c.toNat - 0x10000) % 0x400)

def escapedCodePoint : CodePoint → Text
  | .char c => escapedChar c
  | .surrogate n => unitEscape (CodePoint.surrogate n).toNat

def printText (t : RawText) : Text := '"' :: t.flatMap escapedCodePoint ++ ['"']

def printInt (n : Int) : Text := (if n < 0 then "-" else [] : Text) ++ Text.decimal n.natAbs

def printNumber : Number → Text
  | .integer value => printInt value
  | .decimal mantissa exponent => printInt mantissa ++ "e" ++ printInt exponent
  | .infinity negative => if negative then "-Infinity" else "Infinity"
  | .notANumber => "NaN"

/-- A line feed and the blanks of a level. -/
def lineStart (level : Nat) : Text := '\n' :: List.replicate (2 * level) ' '

/-- Parts in brackets, each on a line of its own one level further in. -/
def block (opening closing : Char) (level : Nat) (parts : List Text) : Text :=
  if parts.isEmpty then [opening, closing]
  else
    opening :: lineStart (level + 1) ++ Text.join (',' :: lineStart (level + 1)) parts ++
      lineStart level ++ [closing]

mutual

def printAt (level : Nat) : Json → Text
  | .null => "null"
  | .bool value => if value then "true" else "false"
  | .number value => printNumber value
  | .text value => printText value
  | .array items => block '[' ']' level (printItems (level + 1) items)
  | .object fields => block '\x7b' '\x7d' level (printFields (level + 1) fields)

def printItems (level : Nat) : List Json → List Text
  | [] => []
  | item :: rest => printAt level item :: printItems level rest

def printFields (level : Nat) : List (RawText × Json) → List Text
  | [] => []
  | (name, item) :: rest =>
    (printText name ++ ": " ++ printAt level item) :: printFields level rest

end

def print (j : Json) : Text := printAt 0 j

end DtoInterfaces.Json
