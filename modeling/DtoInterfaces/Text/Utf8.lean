import DtoInterfaces.Text.Quoted

namespace DtoInterfaces.Utf8

def encodeChar (c : Char) : List UInt8 :=
  let n := c.toNat
  if n < 0x80 then [n.toUInt8]
  else if n < 0x800 then [(0xC0 + n / 0x40).toUInt8, (0x80 + n % 0x40).toUInt8]
  else if n < 0x10000 then
    [(0xE0 + n / 0x1000).toUInt8, (0x80 + n / 0x40 % 0x40).toUInt8, (0x80 + n % 0x40).toUInt8]
  else
    [(0xF0 + n / 0x40000).toUInt8, (0x80 + n / 0x1000 % 0x40).toUInt8,
      (0x80 + n / 0x40 % 0x40).toUInt8, (0x80 + n % 0x40).toUInt8]

def encode (t : Text) : List UInt8 := t.flatMap encodeChar

/-- The code points from `first` to `last` are surrogates without octets; `surrogate` is the first
of them. -/
structure EncodeFault where
  surrogate : Fin 0x800
  first : Nat
  last : Nat
  deriving DecidableEq, Repr

/-- The first surrogate, apart from those that `passes` lets through, and all the surrogates right
behind it. -/
def encodeFault? (passes : Fin 0x800 → Bool) (offset : Nat) : RawText → Option EncodeFault
  | [] => none
  | .char _ :: rest => encodeFault? passes (offset + 1) rest
  | .surrogate n :: rest =>
    if passes n then encodeFault? passes (offset + 1) rest
    else some ⟨n, offset, offset + (rest.takeWhile CodePoint.isSurrogate).length⟩

/-- A text in octets. There are none for a surrogate. -/
def encodeRaw (t : RawText) : Except EncodeFault (List UInt8) :=
  match encodeFault? (fun _ => false) 0 t with
  | none => .ok (encode (t.filterMap CodePoint.char?))
  | some fault => .error fault

/-- In the name of a file, an octet from 0x80 on that is part of no character is written as one of
these surrogates. -/
def isOctetEscape (n : Fin 0x800) : Bool := 0x480 ≤ n.val && n.val < 0x500

/-- Why a text is the name of no file, as far as its code points go. -/
def nameFault? (t : RawText) : Option EncodeFault := encodeFault? isOctetEscape 0 t

inductive Reason where
  | invalidStart
  | invalidContinuation
  | unexpectedEnd
  deriving DecidableEq, Repr

/-- The octets from offset `first` to offset `last` are no character; `octet` is the first of
them. -/
structure Fault where
  octet : UInt8
  first : Nat
  last : Nat
  reason : Reason
  deriving DecidableEq, Repr

/-- A character of which `owed` octets are still to come, the next one from `low` to `high`. -/
structure Partial where
  octet : UInt8
  first : Nat
  owed : Nat
  low : Nat
  high : Nat
  value : Nat

/-- What a first octet of more than one announces. -/
def Partial.open? (offset : Nat) (octet : UInt8) : Option Partial :=
  let n := octet.toNat
  if n < 0xC2 then none
  else if n < 0xE0 then some ⟨octet, offset, 1, 0x80, 0xBF, n - 0xC0⟩
  else if n < 0xF0 then
    some ⟨octet, offset, 2, if n = 0xE0 then 0xA0 else 0x80, if n = 0xED then 0x9F else 0xBF,
      n - 0xE0⟩
  else if n < 0xF5 then
    some ⟨octet, offset, 3, if n = 0xF0 then 0x90 else 0x80, if n = 0xF4 then 0x8F else 0xBF,
      n - 0xF0⟩
  else none

/-- Decodes from `offset` on, inside the character `p` if there is one. -/
def decodeFrom (offset : Nat) (p : Option Partial) : List UInt8 → Except Fault Text
  | [] =>
    match p with
    | none => .ok []
    | some p => .error ⟨p.octet, p.first, offset - 1, .unexpectedEnd⟩
  | octet :: rest =>
    match p with
    | none =>
      if octet.toNat < 0x80 then
        (decodeFrom (offset + 1) none rest).map (Char.ofNat octet.toNat :: ·)
      else
        match Partial.open? offset octet with
        | some p => decodeFrom (offset + 1) (some p) rest
        | none => .error ⟨octet, offset, offset, .invalidStart⟩
    | some p =>
      if p.low ≤ octet.toNat && octet.toNat ≤ p.high then
        let value := p.value * 0x40 + (octet.toNat - 0x80)
        if p.owed ≤ 1 then
          (decodeFrom (offset + 1) none rest).map (Char.ofNat value :: ·)
        else
          decodeFrom (offset + 1)
            (some { p with owed := p.owed - 1, low := 0x80, high := 0xBF, value := value }) rest
      else .error ⟨p.octet, p.first, offset - 1, .invalidContinuation⟩

def decode (octets : List UInt8) : Except Fault Text := decodeFrom 0 none octets

def Reason.message : Reason → Text
  | .invalidStart => "invalid start byte"
  | .invalidContinuation => "invalid continuation byte"
  | .unexpectedEnd => "unexpected end of data"

/-- A single surrogate is shown, of several only their offsets. -/
def EncodeFault.message (f : EncodeFault) : Text :=
  let place : Text :=
    if f.first = f.last then
      "character '" ++ Text.quotedSurrogate f.surrogate ++ "' in position " ++
        Text.decimal f.first
    else "characters in position " ++ Text.decimal f.first ++ "-" ++ Text.decimal f.last
  ("'utf-8' codec can't encode " : Text) ++ place ++ ": surrogates not allowed"

/-- A single octet is shown, of several only their offsets. -/
def Fault.message (f : Fault) : Text :=
  let place : Text :=
    if f.first = f.last then
      "byte 0x" ++ Text.paddedHex 2 f.octet.toNat ++ " in position " ++ Text.decimal f.first
    else "bytes in position " ++ Text.decimal f.first ++ "-" ++ Text.decimal f.last
  ("'utf-8' codec can't decode " : Text) ++ place ++ ": " ++ f.reason.message

end DtoInterfaces.Utf8
