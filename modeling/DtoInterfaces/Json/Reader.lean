import DtoInterfaces.Json.Basic

namespace DtoInterfaces.Json

inductive Fault where
  | malformed
  /-- An integer of more digits than are read. -/
  | longInteger (digits : Nat)
  deriving DecidableEq, Repr

/-- The most digits an integer may have. -/
def maxIntegerDigits : Nat := 4300

def isBlank (c : Char) : Bool := c == ' ' || c == '\t' || c == '\n' || c == '\r'

def skipBlanks (t : Text) : Text := t.dropWhile isBlank

def natOfDigits (base : Nat) (digit : Char → Nat) (t : Text) : Nat :=
  t.foldl (fun n c => n * base + digit c) 0

def decimalDigit (c : Char) : Nat := c.toNat - '0'.toNat

def hexDigit? (c : Char) : Option Nat :=
  if c.isDigit then some (c.toNat - '0'.toNat)
  else if 'a' ≤ c ∧ c ≤ 'f' then some (c.toNat - 'a'.toNat + 10)
  else if 'A' ≤ c ∧ c ≤ 'F' then some (c.toNat - 'A'.toNat + 10)
  else none

/-- The digits at the front of a text, and the rest. -/
def digits (t : Text) : Text × Text := (t.takeWhile Char.isDigit, t.dropWhile Char.isDigit)

/-- A fraction: a point and at least one digit. -/
def fraction? : Text → Option (Text × Text)
  | '.' :: rest =>
    match digits rest with
    | ([], _) => none
    | found => some found
  | _ => none

/-- An exponent: the letter, perhaps a sign, and at least one digit. -/
def exponent? : Text → Option (Int × Text)
  | c :: rest =>
    if c == 'e' || c == 'E' then
      let (negative, rest) : Bool × Text :=
        match rest with
        | '-' :: rest => (true, rest)
        | '+' :: rest => (false, rest)
        | rest => (false, rest)
      match digits rest with
      | ([], _) => none
      | (found, rest) =>
        let n : Int := natOfDigits 10 decimalDigit found
        some (if negative then -n else n, rest)
    else none
  | [] => none

/-- The whole part of a number: a zero alone, or digits that begin with another. -/
def wholePart? : Text → Option (Text × Text)
  | '0' :: rest => some (['0'], rest)
  | t =>
    match digits t with
    | ([], _) => none
    | found => some found

/-- A number without its sign. -/
def magnitude (negative : Bool) (t : Text) : Except Fault (Json × Text) :=
  match wholePart? t with
  | none => .error .malformed
  | some (whole, rest) =>
    let found := fraction? rest
    let (part, rest) := found.getD ([], rest)
    let power := exponent? rest
    let (exponent, rest) := power.getD (0, rest)
    let n : Int := natOfDigits 10 decimalDigit (whole ++ part)
    let n := if negative then -n else n
    if found.isNone && power.isNone then
      if maxIntegerDigits < whole.length then .error (.longInteger whole.length)
      else .ok (.number (.integer n), rest)
    else .ok (.number (.decimal n (exponent - part.length)), rest)

/-- The text of a string up to its closing quote, escapes untouched, and the rest. -/
def stringBody? : Text → Option (Text × Text)
  | '"' :: rest => some ([], rest)
  | '\\' :: c :: rest => (stringBody? rest).map fun (body, rest) => ('\\' :: c :: body, rest)
  | c :: rest =>
    if c.toNat < 0x20 then none
    else (stringBody? rest).map fun (body, rest) => (c :: body, rest)
  | [] => none

/-- What a backslash and one more character stand for. -/
def shortEscape? (c : Char) : Option Nat :=
  [('"', 0x22), ('\\', 0x5C), ('/', 0x2F), ('b', 0x8), ('f', 0xC), ('n', 0xA), ('r', 0xD),
   ('t', 0x9)].lookup c

/-- A code point by its number. Beyond the last one it is the null character. -/
def codePoint (code : Nat) : CodePoint :=
  if h : 0xD800 ≤ code ∧ code < 0xE000 then .surrogate ⟨code - 0xD800, by omega⟩
  else .char (Char.ofNat code)

/-- The code points of a string body; an escape of four digits gives one of the two halves when
the code point is beyond them. -/
def codePoints? : Text → Option RawText
  | [] => some []
  | '\\' :: 'u' :: a :: b :: c :: d :: rest => do
    let code := (((← hexDigit? a) * 16 + (← hexDigit? b)) * 16 + (← hexDigit? c)) * 16 +
      (← hexDigit? d)
    return codePoint code :: (← codePoints? rest)
  | '\\' :: c :: rest => do return codePoint (← shortEscape? c) :: (← codePoints? rest)
  | c :: rest => do return .char c :: (← codePoints? rest)

/-- Puts the two halves of a code point together. A half by itself stays as it is. -/
def joinHalves : RawText → RawText
  | [] => []
  | .surrogate high :: .surrogate low :: rest =>
    if high.val < 0x400 ∧ 0x400 ≤ low.val then
      codePoint (0x10000 + high * 0x400 + (low - 0x400)) :: joinHalves rest
    else .surrogate high :: joinHalves (.surrogate low :: rest)
  | c :: rest => c :: joinHalves rest

/-- A string behind its opening quote. -/
def string (t : Text) : Except Fault (RawText × Text) :=
  match (do
    let (body, rest) ← stringBody? t
    return (joinHalves (← codePoints? body), rest) : Option (RawText × Text)) with
  | some found => .ok found
  | none => .error .malformed

/-- The values that are written as one word. -/
def keywords : List (Text × Json) :=
  [("null", .null), ("true", .bool true), ("false", .bool false),
   ("NaN", .number .notANumber), ("Infinity", .number (.infinity false)),
   ("-Infinity", .number (.infinity true))]

def keyword? (t : Text) : Option (Json × Text) :=
  keywords.findSome? fun (word, value) => (word.isPrefixOf? t).map fun rest => (value, rest)

mutual

/-- A value at the front of a text, and the rest. -/
def value : Nat → Text → Except Fault (Json × Text)
  | 0, _ => .error .malformed
  | _ + 1, '"' :: rest => (string rest).map fun (found, rest) => (.text found, rest)
  | fuel + 1, '[' :: rest =>
    match skipBlanks rest with
    | ']' :: rest => .ok (.array [], rest)
    | rest => (items fuel rest).map fun (found, rest) => (.array found, rest)
  | fuel + 1, '{' :: rest =>
    match skipBlanks rest with
    | '}' :: rest => .ok (.object [], rest)
    | rest => (fields fuel rest).map fun (found, rest) => (.object found, rest)
  | _ + 1, t =>
    match keyword? t, t with
    | some found, _ => .ok found
    | none, '-' :: rest => magnitude true rest
    | none, rest => magnitude false rest

/-- An item of an array, the items after it, and the closing bracket. -/
def items : Nat → Text → Except Fault (List Json × Text)
  | 0, _ => .error .malformed
  | fuel + 1, t => do
    let (item, rest) ← value fuel t
    match skipBlanks rest with
    | ']' :: rest => return ([item], rest)
    | ',' :: rest =>
      let (others, rest) ← items fuel (skipBlanks rest)
      return (item :: others, rest)
    | _ => .error .malformed

/-- A field of an object, the fields after it, and the closing brace. -/
def fields : Nat → Text → Except Fault (List (RawText × Json) × Text)
  | fuel + 1, '"' :: rest => do
    let (name, rest) ← string rest
    match skipBlanks rest with
    | ':' :: rest =>
      let (item, rest) ← value fuel (skipBlanks rest)
      match skipBlanks rest with
      | '}' :: rest => return ([(name, item)], rest)
      | ',' :: rest =>
        let (others, rest) ← fields fuel (skipBlanks rest)
        return ((name, item) :: others, rest)
      | _ => .error .malformed
    | _ => .error .malformed
  | _, _ => .error .malformed

end

/-- Reads a whole text. Every step into a value or on to the next one passes a character, so
twice the length is fuel enough. -/
def read (t : Text) : Except Fault Json := do
  let (found, rest) ← value (2 * t.length + 2) (skipBlanks t)
  if (skipBlanks rest).isEmpty then return found else .error .malformed

/-- How long an integer was, and the limit it broke. -/
def longIntegerMessage (count : Nat) : Text :=
  "Exceeds the limit (" ++ Text.decimal maxIntegerDigits ++
    " digits) for integer string conversion: value has " ++ Text.decimal count ++
    " digits; use sys.set_int_max_str_digits() to increase the limit"

end DtoInterfaces.Json
