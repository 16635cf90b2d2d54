import DtoInterfaces.Interface.Emission
import DtoInterfaces.Json.Basic
import DtoInterfaces.Text.Quoted

namespace DtoInterfaces

structure Config where
  patterns : List RawText
  output : RawText
  options : EmissionOptions := {}
  deriving DecidableEq, Repr

/-- Every C# file below the working directory. -/
def Config.default : Config where
  patterns := ["**/*.cs"]
  output := "generated.ts"

/-- Which check the fields of the options fail. -/
inductive OptionFault where
  | notText (field : Text)
  | notBoolean (field : Text)
  | notNaming (field : Text)
  deriving DecidableEq, Repr

/-- Why there are no options of which some are given. -/
inductive BuildFault where
  | unknownNaming (word : RawText)
  deriving DecidableEq, Repr

inductive ConfigFault where
  | notObject
  | inputMissing
  | inputNotTexts
  | inputEmpty
  | outputMissing
  | outputNotText
  | optionsNotObject
  | option (fault : OptionFault)
  | fileMissing (path : RawText)
  | fileMalformed (path : RawText)
  | fileExists (path : RawText)
  deriving DecidableEq, Repr

namespace EmissionOptions

open Json

/-- The options that are given. A naming convention is given by its word. -/
structure Given where
  indentation : Option RawText := none
  exported : Option Bool := none
  stamped : Option Bool := none
  naming : Option RawText := none
  deriving DecidableEq, Repr

/-- Options that are not given have their defaults. -/
def ofGiven (g : Given) : Except BuildFault EmissionOptions :=
  let defaults : EmissionOptions := {}
  let word := g.naming.getD defaults.naming.word.raw
  match Naming.ofWord? word with
  | none => .error (.unknownNaming word)
  | some naming => .ok {
      indentation := g.indentation.getD defaults.indentation
      exported := g.exported.getD defaults.exported
      stamped := g.stamped.getD defaults.stamped
      naming }

/-- The value of a field as `read` takes it, if the field is not absent. -/
def checkField {α : Type} (fields : List (RawText × Json)) (name : Text)
    (read : Json → Option α) (fault : Text → OptionFault) : Except OptionFault (Option α) :=
  match field? fields name.raw with
  | none => .ok none
  | some v =>
    match read v with
    | none => .error (fault name)
    | some a => .ok (some a)

/-- The word for a naming convention. -/
def namingWord? (j : Json) : Option RawText :=
  j.text?.filter fun word => (Naming.ofWord? word).isSome

/-- The options in the fields of an object, one check after the other. Fields of other names are
passed over. -/
def checkFields (fields : List (RawText × Json)) : Except OptionFault Given := do
  let indentation ← checkField fields "indentation" text? .notText
  let stamped ← checkField fields "addTimestamp" bool? .notBoolean
  let exported ← checkField fields "exportInterfaces" bool? .notBoolean
  let naming ← checkField fields "propertyNamingConvention" namingWord? .notNaming
  return { indentation, exported, stamped, naming }

def toJson (o : EmissionOptions) : Json :=
  .object [("indentation", .text o.indentation), ("addTimestamp", .bool o.stamped),
    ("exportInterfaces", .bool o.exported), ("propertyNamingConvention", .text o.naming.word.raw)]

end EmissionOptions

namespace Config

open Json

/-- A configuration with the options that are given. -/
structure Draft where
  patterns : List RawText
  output : RawText
  options : EmissionOptions.Given

/-- The glob patterns of a configuration. -/
def readPatterns (fields : List (RawText × Json)) : Except ConfigFault (List RawText) :=
  match field? fields "input" with
  | none => .error .inputMissing
  | some input =>
    match input.array?.bind (·.mapM text?) with
    | none => .error .inputNotTexts
    | some [] => .error .inputEmpty
    | some patterns => .ok patterns

/-- The output path. Any void value counts as none. -/
def readOutput (fields : List (RawText × Json)) : Except ConfigFault RawText :=
  match (field? fields "output").filter fun output => !output.isVoid with
  | none => .error .outputMissing
  | some (.text output) => .ok output
  | some _ => .error .outputNotText

/-- The fields of the options. Options that are absent have none. -/
def readOptions (fields : List (RawText × Json)) : Except ConfigFault (List (RawText × Json)) :=
  match field? fields "options" with
  | none => .ok []
  | some (.object options) => .ok options
  | some _ => .error .optionsNotObject

/-- The checks of a value, one after the other. -/
def Draft.ofJson : Json → Except ConfigFault Draft
  | .object fields => do
    let patterns ← readPatterns fields
    let output ← readOutput fields
    let options ← (EmissionOptions.checkFields (← readOptions fields)).mapError .option
    return { patterns, output, options }
  | _ => .error .notObject

def toJson (c : Config) : Json :=
  .object [("input", .array (c.patterns.map .text)), ("output", .text c.output),
    ("options", c.options.toJson)]

end Config

/-- A text that names no convention, where one is asked for. -/
def Naming.unknownMessage (word : RawText) : Text :=
  Text.quoted word ++ " is not a valid NamingConvention"

def BuildFault.message : BuildFault → Text
  | .unknownNaming word => Naming.unknownMessage word

def OptionFault.message : OptionFault → Text
  | .notText field => "\"options." ++ field ++ "\" must be a string"
  | .notBoolean field => "\"options." ++ field ++ "\" must be a boolean"
  | .notNaming field =>
    "\"options." ++ field ++ "\" must be one of: " ++ Text.join ", " (Naming.all.map Naming.word)

def ConfigFault.message : ConfigFault → RawText
  | .notObject => "Config must be a JSON object"
  | .inputMissing => "Config must have \"input\" field"
  | .inputNotTexts => "\"input\" must be an array of glob patterns"
  | .inputEmpty => "\"input\" array cannot be empty"
  | .outputMissing => "Config must have \"output\" field"
  | .outputNotText => "\"output\" must be a string"
  | .optionsNotObject => "\"options\" must be an object"
  | .option fault => fault.message.raw
  | .fileMissing path => "Config file not found: " ++ path
  | .fileMalformed path => "Invalid JSON in config file: " ++ path
  | .fileExists path => "Config file already exists: " ++ path

end DtoInterfaces
