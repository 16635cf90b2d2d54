import DtoInterfaces.Diagnostic.Basic

namespace DtoInterfaces.Collector

open Text

/-- The group of a warning: its construct, or `other` when it has none. -/
def groupOf (d : Diagnostic) : Text := if d.construct.isEmpty then "other" else d.construct

/-- Puts `d` at the end of its group. A group that is new comes behind the others. -/
def addToGroup (d : Diagnostic) : List (Text × List Diagnostic) → List (Text × List Diagnostic)
  | [] => [(groupOf d, [d])]
  | (name, members) :: rest =>
    if groupOf d = name then (name, members ++ [d]) :: rest
    else (name, members) :: addToGroup d rest

/-- One more for `name`. A name that is new comes behind the others. -/
def count (name : Text) : List (Text × Nat) → List (Text × Nat)
  | [] => [(name, 1)]
  | (other, n) :: rest =>
    if name = other then (other, n + 1) :: rest else (other, n) :: count name rest

/-- Pairs in code point order of their names. -/
def inNameOrder {α : Type} (found : List (Text × α)) : List (Text × α) :=
  found.mergeSort fun a b => !decide (b.1 < a.1)

/-- The warnings by construct. -/
def groups (ds : List Diagnostic) : List (Text × List Diagnostic) :=
  inNameOrder (ds.foldl (fun found d => addToGroup d found) [])

/-- How many warnings each construct has. -/
def tally (ds : List Diagnostic) : List (Text × Nat) :=
  inNameOrder (ds.foldl (fun found d => count (groupOf d) found) [])

def summary (c : Collector) : Text :=
  if c.warnings.isEmpty then "No transpiler warnings."
  else
    "Transpiler warnings: " ++
      join ", ".toList ((tally c.warnings).map fun (name, n) => decimal n ++ " " ++ name)

/-- A group with its size, and its members when the listing is verbose. -/
def groupLines (verbose : Bool) (group : Text × List Diagnostic) : List RawText :=
  ("  " ++ group.1.raw ++ ": " ++ (decimal group.2.length).raw ++ " occurrence(s)") ::
    if verbose then group.2.map fun d => "    " ++ d.toText else []

def warningLines (c : Collector) : List RawText :=
  if c.warnings.isEmpty then []
  else
    [] :: ("Transpiler warnings (" ++ (decimal c.warnings.length).raw ++ "):") ::
      (groups c.warnings).flatMap (groupLines c.verbose)

def infoLines (c : Collector) : List RawText :=
  if c.verbose && !c.infos.isEmpty then
    [] :: ("Transpiler info (" ++ (decimal c.infos.length).raw ++ "):") ::
      c.infos.map fun d => "  " ++ d.toText
  else []

/-- The listing, as the text that is printed. An empty collector prints nothing. -/
def listing (c : Collector) : RawText := RawText.ofLines (c.warningLines ++ c.infoLines)

inductive Operation where
  | unparsedSource (file : RawText)
  | untypedProperty (name : Text) (owner : Option Text) (file : RawText)
  | unnamedProperty (owner : Option Text) (file : RawText)
  | customType (name : Text) (owner : Option Text) (file : RawText)
  | add (d : Diagnostic)
  | clear
  | print
  deriving DecidableEq, Repr

/-- The collector after an operation, and what the operation printed. -/
def perform (c : Collector) : Operation → Collector × Option RawText
  | .unparsedSource file => (c.report (.unparsedSource file), none)
  | .untypedProperty name owner file => (c.report (.untypedProperty name owner file), none)
  | .unnamedProperty owner file => (c.report (.unnamedProperty owner file), none)
  | .customType name owner file => (c.report (.customType name owner file), none)
  | .add d => (c.report d, none)
  | .clear => (c.clear, none)
  | .print => (c, some c.listing)

/-- The collector after operations that are performed one after the other. -/
def after (c : Collector) (ops : List Operation) : Collector :=
  ops.foldl (fun c op => (c.perform op).1) c

end DtoInterfaces.Collector
