import DtoInterfaces.Text.LetterCase

namespace DtoInterfaces

/-- A naming convention for the members of an interface. It changes the first character of a name
and nothing else. -/
inductive Naming where
  | preserve
  | camelCase
  | pascalCase
  deriving DecidableEq, Repr

namespace Naming

def all : List Naming := [.preserve, .camelCase, .pascalCase]

/-- The word for a convention in a configuration. -/
def word : Naming → Text
  | .preserve => "preserve"
  | .camelCase => "camelCase"
  | .pascalCase => "PascalCase"

def ofWord? (w : RawText) : Option Naming := all.find? fun n => n.word.raw == w

def convert : Naming → Text → Text
  | .preserve, name => name
  | _, [] => []
  | .camelCase, c :: rest => Text.lowerCase c ++ rest
  | .pascalCase, c :: rest => Text.upperCase c ++ rest

theorem ofWord?_word (n : Naming) : ofWord? n.word.raw = some n := by cases n <;> decide

end Naming

structure EmissionOptions where
  indentation : RawText := "  "
  exported : Bool := true
  stamped : Bool := true
  naming : Naming := .preserve
  deriving DecidableEq, Repr

/-- The indentation of a nesting level. There is none at level zero and below. -/
def EmissionOptions.indent (o : EmissionOptions) (level : Int) : RawText :=
  (List.replicate level.toNat o.indentation).flatten

end DtoInterfaces
