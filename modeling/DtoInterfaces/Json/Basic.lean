import DtoInterfaces.Text.Basic

namespace DtoInterfaces

namespace Json

inductive Number where
  | integer (value : Int)
  /-- `mantissa` times ten to the power `exponent`. -/
  | decimal (mantissa exponent : Int)
  | infinity (negative : Bool)
  | notANumber
  deriving DecidableEq, Repr

/-- Whether `mantissa` times ten to the power `exponent` is at most half of the least positive
double, and so rounds to zero. Far from that bound the number of digits decides. -/
def vanishes (mantissa : Nat) (exponent : Int) : Bool :=
  let magnitude := exponent + (Text.decimal mantissa).length
  if mantissa = 0 then true
  else if magnitude < -400 then true
  else if -300 < magnitude then false
  else mantissa * Nat.pow 2 1075 ≤ Nat.pow 10 exponent.natAbs

def Number.isZero : Number → Bool
  | .integer value => value == 0
  | .decimal mantissa exponent => vanishes mantissa.natAbs exponent
  | .infinity _ | .notANumber => false

end Json

/-- The fields of an object stand as they were written; a later one overrides an earlier one of
the same name. -/
inductive Json where
  | null
  | bool (value : Bool)
  | number (value : Json.Number)
  | text (value : RawText)
  | array (items : List Json)
  | object (fields : List (RawText × Json))
  deriving Repr

namespace Json

def isNull : Json → Bool
  | .null => true
  | _ => false

def text? : Json → Option RawText
  | .text value => some value
  | _ => none

def bool? : Json → Option Bool
  | .bool value => some value
  | _ => none

def array? : Json → Option (List Json)
  | .array items => some items
  | _ => none

/-- The value of a field; a field that is null counts as absent. -/
def field? (fields : List (RawText × Json)) (name : RawText) : Option Json :=
  (fields.reverse.lookup name).filter fun value => !value.isNull

/-- Null, `false`, zero, and what is empty. -/
def isVoid : Json → Bool
  | .null => true
  | .bool value => !value
  | .number value => value.isZero
  | .text value => value.isEmpty
  | .array items => items.isEmpty
  | .object fields => fields.isEmpty

end Json

end DtoInterfaces
