import DtoInterfaces.Diagnostic.Report
import DtoInterfaces.Config.File
import DtoInterfaces.Source.Extraction

namespace DtoInterfaces

/-- What stays the same through a session. Relative patterns are seen from `base`. -/
structure Setup where
  config : Config
  base : Path
  verbose : Bool

/-- What a session changes: the disk, the collector, and the clock by what it shows from now on. -/
structure Session where
  disk : Disk
  collector : Collector
  clock : Clock

/-- The result of an action, the lines it printed and the session after it. The lines go to a stream
that takes any text, surrogates included. -/
structure Outcome (α : Type) where
  result : Except Failure α
  printed : List RawText
  session : Session

structure SourceFile where
  path : Path
  content : Text
  deriving DecidableEq, Repr

def Outcome.map {α β : Type} (f : α → β) (o : Outcome α) : Outcome β :=
  { o with result := o.result.map f }

/-- The files of a list, in order, or the first fault. -/
def Disk.readAll (d : Disk) (paths : List Path) : Except ReadFault (List SourceFile) :=
  paths.mapM fun p => (d.readText p).map fun content => ⟨p, content⟩

/-- The classes of the sources that have one, a remark on each source, and the collector with the
sources that have none reported. A source is an identifier and a text. -/
def parseSources (c : Collector) :
    List (RawText × Text) → List ClassDecl × List RawText × Collector
  | [] => ([], [], c)
  | (identifier, t) :: rest =>
    match Source.classDecl? t with
    | none =>
      let (classes, remarks, c) := parseSources (c.report (.unparsedSource identifier)) rest
      (classes, ("No class found in " ++ identifier : RawText) :: remarks, c)
    | some parsed =>
      let (classes, remarks, c) := parseSources c rest
      let remark : RawText := "Parsed class structure: " ++ parsed.name.raw ++ " (" ++
        (Text.decimal parsed.properties.length).raw ++ " properties) from " ++ identifier
      (parsed :: classes, remark :: remarks, c)

namespace Session

/-- Remarks are printed in a verbose session alone. -/
def debug (s : Setup) (remarks : List RawText) : List RawText :=
  if s.verbose then remarks.map ("[debug] " ++ ·) else []

/-- The files that the configured patterns select. -/
def scan (s : Setup) (σ : Session) : Outcome (List Path) :=
  match σ.disk.scan s.base s.config.patterns with
  | .error fault => ⟨.error (.glob fault), [], σ⟩
  | .ok found =>
    let files := found.map Location.path
    ⟨.ok files, debug s (files.map fun p => "Matched " ++ p.toText), σ⟩

def parse (s : Setup) (σ : Session) (sources : List (RawText × Text)) : Outcome (List ClassDecl) :=
  let (classes, remarks, collector) := parseSources σ.collector sources
  ⟨.ok classes, debug s remarks, { σ with collector }⟩

/-- For every time stamp the clock is read once. -/
def generate (s : Setup) (σ : Session) (classes : List ClassDecl) : Outcome RawText :=
  let o := s.config.options
  let (t, log) := Interface.emitAll o σ.clock (some σ.collector) classes
  let clock := σ.clock.after (classes.length * Interface.readings o)
  ⟨.ok t, [], { σ with collector := log.getD σ.collector, clock }⟩

/-- One file, or nothing when it has no class. -/
def transpileFile (s : Setup) (σ : Session) (path : RawText) : Outcome (Option RawText) :=
  match σ.disk.readText (Path.ofText path) with
  | .error fault => ⟨.error (.read fault), [], σ⟩
  | .ok t =>
    let (classes, remarks, collector) := parseSources σ.collector [(path, t)]
    let σ := { σ with collector }
    if classes.isEmpty then ⟨.ok none, debug s remarks, σ⟩
    else
      let emitted := generate s σ classes
      { emitted.map some with printed := debug s remarks }

/-- Parses and emits files that have been read. -/
def transpileFiles (s : Setup) (σ : Session) (files : List SourceFile) : Outcome RawText :=
  let (classes, remarks, collector) :=
    parseSources σ.collector (files.map fun f => (f.path.toText, f.content))
  let σ := { σ with collector }
  if classes.isEmpty then ⟨.error .noClasses, debug s remarks, σ⟩
  else
    let count : RawText := "Parsed " ++ (Text.decimal classes.length).raw ++ " classes."
    { generate s σ classes with printed := debug s remarks ++ [count] }

/-- All files that the configured patterns select. All are read before any is parsed. -/
def transpile (s : Setup) (σ : Session) : Outcome RawText :=
  let scanned := scan s σ
  match scanned.result with
  | .error failure => ⟨.error failure, scanned.printed, σ⟩
  | .ok [] => ⟨.error .noSources, scanned.printed, σ⟩
  | .ok files =>
    let count : RawText := "Found " ++ (Text.decimal files.length).raw ++ " C# files."
    match σ.disk.readAll files with
    | .error fault => ⟨.error (.read fault), scanned.printed ++ [count], σ⟩
    | .ok sources =>
      let emitted := transpileFiles s σ sources
      { emitted with printed := scanned.printed ++ count :: emitted.printed }

/-- Where the interfaces go: the given path unless it is empty, else the configured one. -/
def outputPath (s : Setup) (output : RawText) : Path :=
  Path.ofText (if output.isEmpty then s.config.output else output)

/-- Writes a text and a line feed to a file. -/
def write (s : Setup) (σ : Session) (content output : RawText) : Outcome Path :=
  let p := outputPath s output
  match σ.disk.writeText p (content ++ "\n") with
  | (.ok (), disk) => ⟨.ok p, ["Written: " ++ p.toText], { σ with disk }⟩
  | (.error fault, disk) => ⟨.error (.write fault), [], { σ with disk }⟩

def read (σ : Session) (paths : List RawText) : Outcome (List SourceFile) :=
  ⟨(σ.disk.readAll (paths.map Path.ofText)).mapError .read, [], σ⟩

end Session

end DtoInterfaces
