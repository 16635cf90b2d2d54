import DtoInterfaces.Text.Basic

namespace DtoInterfaces

inductive Severity where
  | warning
  | info
  deriving DecidableEq, Repr

/-- The word for a severity. -/
def Severity.word : Severity → Text
  | .warning => "warning"
  | .info => "info"

def Severity.ofWord? (w : Text) : Option Severity :=
  [Severity.warning, .info].find? fun s => s.word == w

/-- One notice. `construct` names the kind of source text it is about; an empty `file` stands for
none. -/
structure Diagnostic where
  severity : Severity
  code : Text
  message : Text
  file : RawText := []
  owner : Option Text := none
  construct : Text := []
  deriving DecidableEq, Repr

namespace Diagnostic

/-- A source text without a class. -/
def unparsedSource (file : RawText) : Diagnostic where
  severity := .warning
  code := "W001"
  message := "No class declaration found; file was skipped."
  file := file
  construct := "unparsed source"

def untypedProperty (name : Text) (owner : Option Text) (file : RawText) : Diagnostic where
  severity := .warning
  code := "W002"
  message := "Property \"" ++ name ++ "\" has no declared type; using any."
  file := file
  owner := owner
  construct := "untyped property"

def unnamedProperty (owner : Option Text) (file : RawText) : Diagnostic where
  severity := .warning
  code := "W003"
  message := "Property without a name was omitted."
  file := file
  owner := owner
  construct := "unnamed property"

/-- A type written by its name alone. -/
def customType (name : Text) (owner : Option Text) (file : RawText) : Diagnostic where
  severity := .info
  code := "I001"
  message := "Custom type \"" ++ name ++ "\" emitted as a bare reference."
  file := file
  owner := owner
  construct := "custom type"

/-- The file and the class, as far as they are known, with a colon between. -/
def location (d : Diagnostic) : RawText :=
  Text.join ":" ([d.file, (d.owner.getD []).raw].filter fun part => !part.isEmpty)

def toText (d : Diagnostic) : RawText :=
  "[" ++ d.severity.word.raw ++ "] " ++
    (if d.location.isEmpty then [] else d.location ++ ": " : RawText) ++
    d.message.raw ++ " (" ++ d.code.raw ++ ")"

end Diagnostic

/-- The diagnostics of a run in the order they arose. `verbose` is how the report will be. -/
structure Collector where
  entries : List Diagnostic := []
  verbose : Bool := false
  deriving DecidableEq, Repr

namespace Collector

def report (c : Collector) (d : Diagnostic) : Collector := { c with entries := c.entries ++ [d] }

def reportAll (c : Collector) (ds : List Diagnostic) : Collector := ds.foldl report c

def clear (c : Collector) : Collector := { c with entries := [] }

def warnings (c : Collector) : List Diagnostic := c.entries.filter (·.severity == .warning)

def infos (c : Collector) : List Diagnostic := c.entries.filter (·.severity == .info)

@[simp]
theorem entries_report (c : Collector) (d : Diagnostic) :
    (c.report d).entries = c.entries ++ [d] := rfl

@[simp]
theorem verbose_report (c : Collector) (d : Diagnostic) : (c.report d).verbose = c.verbose := rfl

@[simp]
theorem reportAll_eq (c : Collector) (ds : List Diagnostic) :
    c.reportAll ds = { c with entries := c.entries ++ ds } := by
  induction ds generalizing c with
  | nil => simp [reportAll]
  | cons d ds ih =>
    have := ih (c.report d)
    simp_all [reportAll, report]

end Collector

end DtoInterfaces
