import DtoInterfaces.Diagnostic.Basic
import DtoInterfaces.Interface.Options
import DtoInterfaces.Source.Extraction
import DtoInterfaces.TypeExpr.Projection

namespace DtoInterfaces

/-- A date and a time of day. The offset is in seconds east of Greenwich. -/
structure Timestamp where
  year : Nat
  month : Nat
  day : Nat
  hour : Nat
  minute : Nat
  second : Nat
  microsecond : Nat
  offset : Option Int
  deriving DecidableEq, Repr

namespace Timestamp

open Text

/-- Hours and minutes with a sign, and seconds where there are any. -/
def offsetText (seconds : Int) : Text :=
  let n := seconds.natAbs
  (if seconds < 0 then "-" else "+" : Text) ++ paddedDecimal 2 (n / 3600) ++ ":" ++
    paddedDecimal 2 (n / 60 % 60) ++
    (if n % 60 = 0 then [] else ":" ++ paddedDecimal 2 (n % 60) : Text)

/-- Microseconds are written only when there are any. -/
def toText (t : Timestamp) : Text :=
  paddedDecimal 4 t.year ++ "-" ++ paddedDecimal 2 t.month ++ "-" ++ paddedDecimal 2 t.day ++
    "T" ++ paddedDecimal 2 t.hour ++ ":" ++ paddedDecimal 2 t.minute ++ ":" ++
    paddedDecimal 2 t.second ++
    (if t.microsecond = 0 then [] else "." ++ paddedDecimal 6 t.microsecond : Text) ++
    (t.offset.map offsetText).getD []

end Timestamp

/-- The times that a clock shows, from each reading to the next. -/
abbrev Clock := Nat → Timestamp

namespace Clock

/-- A clock that shows the same time at every reading. -/
def stopped (now : Timestamp) : Clock := fun _ => now

/-- The clock when it was read `n` times. -/
def after (clock : Clock) (n : Nat) : Clock := fun k => clock (n + k)

end Clock

namespace Interface

open TypeExpr

abbrev Log := Option Collector

def report (log : Log) (d : Diagnostic) : Log := log.map (·.report d)

/-- The comment above a generated declaration. -/
def stamp (now : Timestamp) : List Text :=
  ["/**", " * Auto-generated by cs2ts", " * Generated on: " ++ now.toText,
   " * DO NOT EDIT MANUALLY", " */"]

def opening (o : EmissionOptions) (name : Text) : Text :=
  (if o.exported then "export " else [] : Text) ++ "interface " ++ name ++ " \x7b"

/-- The type of a member. An unknown type is `any`; a known one has its custom names reported. -/
def emitType (owner : Text) (log : Log) : Option Text → Text × Log
  | none => ("any", log)
  | some type =>
    (project type,
      (references type).foldl (fun log name => report log (.customType name (some owner) [])) log)

/-- The line of a property. A property without a name has none. -/
def emitProperty (o : EmissionOptions) (owner : Text) (log : Log) (p : Property) :
    Option RawText × Log :=
  match p.name with
  | none | some [] => (none, report log (.unnamedProperty (some owner) []))
  | some name =>
    let log := if p.type.isNone then report log (.untypedProperty name (some owner) []) else log
    let (type, log) := emitType owner log p.type
    (some (o.indent 1 ++ (o.naming.convert name).raw ++ ": " ++ type.raw ++ ";"), log)

def emitProperties (o : EmissionOptions) (owner : Text) (log : Log) :
    List Property → List RawText × Log
  | [] => ([], log)
  | p :: rest =>
    let (line, log) := emitProperty o owner log p
    let (lines, log) := emitProperties o owner log rest
    (line.toList ++ lines, log)

/-- What stands between the braces: a remark when the class declares no property at all. -/
def emitBody (o : EmissionOptions) (log : Log) (c : ClassDecl) : List RawText × Log :=
  if c.properties.isEmpty then ([o.indent 1 ++ "// No properties"], log)
  else emitProperties o c.name log c.properties

/-- The declaration for one class, without a line feed at the end. -/
def emit (o : EmissionOptions) (now : Timestamp) (log : Log) (c : ClassDecl) : RawText × Log :=
  let (body, log) := emitBody o log c
  let above := if o.stamped then stamp now else []
  (Text.join "\n" ((above ++ [opening o c.name]).map Text.raw ++ body ++ [Text.raw ['}']]), log)

/-- How often a clock is read for a declaration. -/
def readings (o : EmissionOptions) : Nat := if o.stamped then 1 else 0

/-- The declarations for several classes, one by one. -/
def emitEach (o : EmissionOptions) (clock : Clock) (log : Log) :
    List ClassDecl → List RawText × Log
  | [] => ([], log)
  | c :: rest =>
    let (text, log) := emit o (clock 0) log c
    let (texts, log) := emitEach o (clock.after (readings o)) log rest
    (text :: texts, log)

/-- The declarations for several classes, with a blank line between. -/
def emitAll (o : EmissionOptions) (clock : Clock) (log : Log) (cs : List ClassDecl) :
    RawText × Log :=
  let (texts, log) := emitEach o clock log cs
  (Text.join "\n\n" texts, log)

end Interface

end DtoInterfaces
