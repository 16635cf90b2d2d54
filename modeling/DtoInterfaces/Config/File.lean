import DtoInterfaces.Config.Basic
import DtoInterfaces.Disk.Access
import DtoInterfaces.Disk.Glob
import DtoInterfaces.Json.Printer
import DtoInterfaces.Json.Reader

namespace DtoInterfaces

inductive Failure where
  | config (fault : ConfigFault)
  | options (fault : BuildFault)
  | longInteger (digits : Nat)
  | noSources
  | noClasses
  | read (fault : ReadFault)
  | write (fault : WriteFault)
  | glob (fault : GlobFault)
  deriving DecidableEq, Repr

def Failure.message : Failure → RawText
  | .config fault => fault.message
  | .options fault => fault.message.raw
  | .longInteger digits => (Json.longIntegerMessage digits).raw
  | .noSources => "No C# files found with specified input patterns."
  | .noClasses => "No parsable classes found in C# files."
  | .read fault => fault.message
  | .write fault => fault.message.raw
  | .glob fault => fault.message.raw

namespace Config

/-- The file that is meant when none is named. -/
def defaultFile : RawText := "cs2ts.config.json"

/-- The configuration that a value describes. -/
def ofJson (j : Json) : Except Failure Config := do
  let draft ← (Draft.ofJson j).mapError .config
  let options ← (EmissionOptions.ofGiven draft.options).mapError .options
  return { patterns := draft.patterns, output := draft.output, options }

/-- The configuration in a text. `path` is for the messages alone. -/
def ofText (path : RawText) (t : Text) : Except Failure Config :=
  match Json.read t with
  | .error .malformed => .error (.config (.fileMalformed path))
  | .error (.longInteger digits) => .error (.longInteger digits)
  | .ok j => ofJson j

/-- A file that is not UTF-8 counts as malformed. -/
def load (d : Disk) (path : RawText) : Except Failure Config :=
  match d.readText (Path.ofText path) with
  | .error (.notFile _) => .error (.config (.fileMissing path))
  | .error (.undecodable _) => .error (.config (.fileMalformed path))
  | .ok t => ofText path t

def loadOrDefault (d : Disk) (path : RawText) : Except Failure Config :=
  if d.pathExists (Path.ofText path) then load d path else .ok default

/-- Writes the default configuration and gives its path. -/
def init (d : Disk) (path : RawText) : Except Failure Path × Disk :=
  let p := Path.ofText path
  if d.pathExists p then (.error (.config (.fileExists path)), d)
  else
    match d.writeText p (Text.raw (Json.print default.toJson ++ ['\n'])) with
    | (.ok (), d) => (.ok p, d)
    | (.error fault, d) => (.error (.write fault), d)

end Config

end DtoInterfaces
